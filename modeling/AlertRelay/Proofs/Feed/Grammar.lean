import AlertRelay.Feed.Message
import AlertRelay.Proofs.Engine.Observation
import AlertRelay.Proofs.Json.Numeral
import Mathlib.Data.List.Forall2

/-!
# Which documents are messages

A message is an object with one member `type` that names its kind and, for the kinds that have an
argument, one member for that; or an array of the two. What else an object holds says nothing. The
statement is an equivalence for every document, so it also tells that every other document is
refused, and that a count is never taken for another one.
-/
namespace AlertRelay.Feed

open Json (Value)

/-! ## The grammar -/

/-- The one member of that name has that value. -/
def HasOne (name : String) (v : Value) (ms : List (String × Value)) : Prop :=
  ms.filter (·.1 = name) = [(name, v)]

/-- The member that holds the argument of a kind, for those that have one. -/
def Kind.argument? : Kind → Option String
  | entries => some "entries"
  | sound => some "enabled"
  | enable | disable | test | status => none

/-- A document names a kind and gives its argument. -/
inductive Gives : Value → Kind → Option Value → Prop
  | object {ms : List (String × Value)} {k : Kind} : HasOne "type" (.text k.word) ms →
      k.argument? = none → Gives (.object ms) k none
  | objectWith {ms : List (String × Value)} {k : Kind} {name : String} {v : Value} :
      HasOne "type" (.text k.word) ms → k.argument? = some name → HasOne name v ms →
      Gives (.object ms) k (some v)
  | array {k : Kind} : k.argument? = none → Gives (.array [.text k.word]) k none
  | arrayWith {k : Kind} {name : String} {v : Value} : k.argument? = some name →
      Gives (.array [.text k.word, v]) k (some v)

/-- Nothing, or an integer of 32 bits. -/
inductive IsCount : Value → Option UInt32 → Prop
  | missing : IsCount .null none
  | number (n : UInt32) : IsCount (.number (.integer n.toNat)) (some n)

/-- A member gives the count of its key. -/
def IsEntry (m : String × Value) (c : String × Option UInt32) : Prop := m.1 = c.1 ∧ IsCount m.2 c.2

/-- The message that a document says. Of a repeated key the last count stands. -/
inductive Says : Value → Message → Prop
  | entries {v : Value} {ms : List (String × Value)} {cs : List (String × Option UInt32)}
      {batch : Batch} : Gives v .entries (some (.object ms)) → List.Forall₂ IsEntry ms cs →
      (∀ key : String, batch[key]? = Engine.lastCount? key cs) → Says v (.entries batch)
  | sound {v : Value} {on : Bool} : Gives v .sound (some (.boolean on)) → Says v (.sound on)
  | enable {v : Value} : Gives v .enable none → Says v .enable
  | disable {v : Value} : Gives v .disable none → Says v .disable
  | test {v : Value} : Gives v .test none → Says v .test
  | status {v : Value} : Gives v .status none → Says v .status

theorem hasOne_cons {name : String} {v w : Value} {key : String} {ms : List (String × Value)} :
    HasOne name v ((key, w) :: ms) ↔
      if key = name then w = v ∧ ms.filter (·.1 = name) = [] else HasOne name v ms := by
  unfold HasOne
  by_cases same : key = name <;> simp [same]

/-! ## The kind -/

namespace Kind

theorem ofWord?_eq_some_iff {w : String} {k : Kind} : ofWord? w = some k ↔ w = k.word := by
  constructor
  · intro h
    unfold ofWord? at h
    have found := List.find?_some h
    exact (beq_iff_eq.mp found).symm
  · rintro rfl
    cases k <;> decide

theorem ofPlaced_eq_ok_iff {p : Json.Placed Value} {k : Kind} :
    ofPlaced p = .ok k ↔ p.value = .text k.word := by
  unfold ofPlaced
  split
  next w same =>
    rw [same, Value.text, Value.scalar.injEq, Json.Scalar.text.injEq, ← ofWord?_eq_some_iff]
    cases ofWord? w <;> simp
  next s other same =>
    rw [same, Value.text, Value.scalar.injEq]
    constructor
    · intro h
      cases h
    · intro h
      exact absurd h (other _)
  next other same =>
    constructor
    · intro h
      cases h
    · intro h
      exact absurd h (same _)

end Kind

/-- Members without the places they stand at. -/
def membersOf (ms : List Json.Member) : List (String × Value) :=
  ms.map fun m => (m.key, m.value.value)

namespace Kind

theorem ofMembers_some {k : Kind} {r : Option Kind} (ms : List Json.Member) :
    ofMembers (some k) ms = .ok r ↔ r = some k ∧ (membersOf ms).filter (·.1 = field) = [] := by
  induction ms with
  | nil => simp [ofMembers, membersOf, eq_comm]
  | cons m rest ih =>
    rw [ofMembers]
    by_cases named : m.key = field
    · simp [named, membersOf]
    · rw [if_neg named, ih]
      simp [membersOf, named]

theorem ofMembers_none {k : Kind} (ms : List Json.Member) :
    ofMembers none ms = .ok (some k) ↔ HasOne field (.text k.word) (membersOf ms) := by
  induction ms with
  | nil => simp [ofMembers, HasOne, membersOf]
  | cons m rest ih =>
    rw [ofMembers, membersOf, List.map_cons, hasOne_cons]
    by_cases named : m.key = field
    · rw [if_pos named, if_neg (by simp), if_pos named, ← ofPlaced_eq_ok_iff]
      cases ofPlaced m.value with
      | error e => simp
      | ok first =>
        simp only [ofMembers_some, Option.some.injEq, Except.ok.injEq]
        exact and_congr_left' eq_comm
    · rw [if_neg named, if_neg named, ih]
      rfl

end Kind

/-- A document names a kind; these are the values besides it. -/
inductive Names : Value → Kind → Fields → Prop
  | object {ms : List (String × Value)} {k : Kind} : HasOne Kind.field (.text k.word) ms →
      Names (.object ms) k (.members (ms.filter (·.1 ≠ Kind.field)))
  | array {k : Kind} {rest : List Value} : Names (.array (.text k.word :: rest)) k (.items rest)

theorem Message.split_eq_ok_iff {document : Json.Placed Json.Outline} {k : Kind} {f : Fields} :
    split document = .ok (k, f) ↔ Names document.value.value k f := by
  obtain ⟨outline, start, stop⟩ := document
  cases outline with
  | scalar s =>
    simp only [split, Json.Outline.value, reduceCtorEq, false_iff]
    rintro ⟨⟩
  | array items =>
    cases items with
    | nil =>
      simp only [split, Json.Outline.value, List.map_nil, reduceCtorEq, false_iff]
      rintro ⟨⟩
    | cons v rest =>
      simp only [split, Json.Outline.value, List.map_cons]
      constructor
      · intro h
        split at h
        next kind placed =>
          cases h
          rw [Kind.ofPlaced_eq_ok_iff.mp placed]
          exact .array
        · cases h
      · intro h
        generalize word : v.value = w at h
        cases h
        rw [Kind.ofPlaced_eq_ok_iff.mpr word]
  | object members =>
    have others : (members.filter (·.key ≠ Kind.field)).map (fun m => (m.key, m.value.value)) =
        (membersOf members).filter (·.1 ≠ Kind.field) := by
      rw [membersOf, List.filter_map]
      rfl
    simp only [split, Json.Outline.value]
    rw [others]
    constructor
    · intro h
      split at h
      · cases h
      · cases h
      next kind found =>
        cases h
        exact .object ((Kind.ofMembers_none members).mp found)
    · intro h
      change Names (.object (membersOf members)) k f at h
      cases h with
      | object one => rw [(Kind.ofMembers_none members).mpr one]

/-! ## The values besides the kind -/

namespace Fields

theorem boolean_eq_ok_iff {v : Value} {b : Bool} : boolean v = .ok b ↔ v = .boolean b := by
  unfold boolean
  split
  next c => simp [Value.boolean]
  next other =>
    constructor
    · intro h
      cases h
    · intro h
      exact absurd h (other b)

theorem count_eq_ok_iff {v : Value} {c : Option UInt32} : count v = .ok c ↔ IsCount v c := by
  unfold count
  split
  next =>
    constructor
    · intro h
      cases h
      exact .missing
    · intro h
      cases h
      rfl
  next n =>
    constructor
    · intro h
      split at h
      next within =>
        cases h
        rw [Bool.and_eq_true, decide_eq_true_eq, decide_eq_true_eq] at within
        have exact : (UInt32.ofNat n.toNat).toNat = n.toNat := by
          rw [UInt32.toNat_ofNat', Nat.mod_eq_of_lt (by omega)]
        have same : (.scalar (.number (.integer n)) : Value) =
            .number (.integer (UInt32.ofNat n.toNat).toNat) := by
          rw [exact, Int.toNat_of_nonneg within.1]
          rfl
        rw [same]
        exact .number _
      · cases h
    · intro h
      generalize same : (.scalar (.number (.integer n)) : Value) = v at h
      cases h with
      | missing => cases same
      | number m =>
        cases same
        have bound := m.toNat_lt
        have within : ((0 : Int) ≤ (m.toNat : Int) && (m.toNat : Int) ≤ 0xFFFFFFFF) = true := by
          rw [Bool.and_eq_true, decide_eq_true_eq, decide_eq_true_eq]
          omega
        rw [if_pos within, Int.toNat_natCast, UInt32.ofNat_toNat]
  next empty number =>
    constructor
    · intro h
      cases h
    · intro h
      cases h with
      | missing => exact absurd rfl empty
      | number n => exact absurd rfl (number _)

/-- Every member has to give a count, those of repeated keys too. -/
theorem counts_eq_ok_iff {ms : List (String × Value)} {before after : Batch} :
    counts before ms = .ok after ↔
      ∃ cs, List.Forall₂ IsEntry ms cs ∧ after = cs.foldl (fun b c => b.insert c.1 c.2) before := by
  induction ms generalizing before with
  | nil => simp [counts, eq_comm]
  | cons m rest ih =>
    obtain ⟨key, v⟩ := m
    rw [counts]
    constructor
    · intro h
      split at h
      next c counted =>
        obtain ⟨cs, entries, same⟩ := ih.mp h
        exact ⟨(key, c) :: cs, .cons ⟨rfl, count_eq_ok_iff.mp counted⟩ entries, same⟩
      · cases h
    · rintro ⟨cs, entries, same⟩
      cases entries with
      | @cons _ c _ cs entry entries =>
        obtain ⟨named, counted⟩ := entry
        rw [count_eq_ok_iff.mpr counted]
        refine ih.mpr ⟨cs, entries, ?_⟩
        rw [same, List.foldl_cons, ← named]

/-- Of the counts put in, the last one of a key is found. -/
theorem getElem?_foldl_insert (cs : List (String × Option UInt32)) (b : Batch) (key : String) :
    (cs.foldl (fun b c => b.insert c.1 c.2) b)[key]? = (Engine.lastCount? key cs).or b[key]? := by
  induction cs generalizing b with
  | nil => rfl
  | cons c rest ih =>
    obtain ⟨k, count⟩ := c
    rw [List.foldl_cons, ih, Engine.lastCount?_cons, Std.ExtTreeMap.getElem?_insert, Option.or_assoc]
    by_cases same : k = key <;> simp [same]

/-- Every list of counts makes a batch. -/
theorem exists_batch (cs : List (String × Option UInt32)) :
    ∃ batch : Batch, ∀ key : String, batch[key]? = Engine.lastCount? key cs :=
  ⟨cs.foldl (fun b c => b.insert c.1 c.2) ∅, fun key => by simp [getElem?_foldl_insert]⟩

theorem batch_eq_ok_iff {v : Value} {b : Batch} :
    batch v = .ok b ↔ ∃ ms cs, v = .object ms ∧ List.Forall₂ IsEntry ms cs ∧
      ∀ key : String, b[key]? = Engine.lastCount? key cs := by
  unfold batch
  split
  next ms =>
    rw [counts_eq_ok_iff]
    constructor
    · rintro ⟨cs, entries, rfl⟩
      refine ⟨ms, cs, rfl, entries, fun key => ?_⟩
      simp [getElem?_foldl_insert]
    · rintro ⟨ms', cs, same, entries, found⟩
      cases same
      refine ⟨cs, entries, Std.ExtTreeMap.ext_getElem? fun key => ?_⟩
      simp [getElem?_foldl_insert, found]
  next other =>
    constructor
    · intro h
      cases h
    · rintro ⟨ms, -, same, -⟩
      exact absurd same (other ms)

theorem member_some {α : Type} {name : String} {decode : Decoder α} {x y : α}
    (ms : List (String × Value)) :
    member name decode (some x) ms = .ok y ↔ y = x ∧ ms.filter (·.1 = name) = [] := by
  induction ms with
  | nil => simp [member, eq_comm]
  | cons m rest ih =>
    obtain ⟨key, v⟩ := m
    rw [member]
    by_cases named : key = name
    · simp [named]
    · rw [if_neg named, ih]
      simp [named]

theorem member_none {α : Type} {name : String} {decode : Decoder α} {x : α}
    (ms : List (String × Value)) :
    member name decode none ms = .ok x ↔ ∃ v, HasOne name v ms ∧ decode v = .ok x := by
  induction ms with
  | nil => simp [member, HasOne]
  | cons m rest ih =>
    obtain ⟨key, v⟩ := m
    rw [member]
    simp only [hasOne_cons]
    by_cases named : key = name
    -- From the first member of that name on a second one is refused.
    · simp only [if_pos named, Option.isSome_none, Bool.false_eq_true, if_false]
      cases decoded : decode v with
      | error e =>
        simp only [reduceCtorEq, false_iff]
        rintro ⟨w, ⟨rfl, -⟩, other⟩
        rw [decoded] at other
        cases other
      | ok first =>
        rw [member_some]
        constructor
        · rintro ⟨rfl, alone⟩
          exact ⟨v, ⟨rfl, alone⟩, decoded⟩
        · rintro ⟨w, ⟨rfl, alone⟩, other⟩
          rw [decoded] at other
          exact ⟨(Except.ok.inj other).symm, alone⟩
    · simp only [if_neg named]
      exact ih

/-- The values besides the kind give one argument. -/
inductive Hold (name : String) (v : Value) : Fields → Prop
  | member {ms : List (String × Value)} : HasOne name v ms → Hold name v (.members ms)
  | item : Hold name v (.items [v])

theorem single_eq_ok_iff {α : Type} {name shape : String} {decode : Decoder α} {f : Fields} {x : α} :
    f.single name shape decode = .ok x ↔ ∃ v, f.Hold name v ∧ decode v = .ok x := by
  cases f with
  | members ms =>
    rw [single, member_none]
    constructor
    · rintro ⟨v, one, decoded⟩
      exact ⟨v, .member one, decoded⟩
    · rintro ⟨v, ⟨one⟩, decoded⟩
      exact ⟨v, one, decoded⟩
  | items vs =>
    match vs with
    | [] =>
      simp only [single, reduceCtorEq, false_iff]
      rintro ⟨v, ⟨⟩, -⟩
    | [v] =>
      have alone : (items [v]).single name shape decode = .ok x ↔ decode v = .ok x := by
        rw [single]
        cases decode v <;> simp
      rw [alone]
      constructor
      · intro decoded
        exact ⟨v, .item, decoded⟩
      · rintro ⟨w, ⟨⟩, decoded⟩
        exact decoded
    | v :: w :: more =>
      constructor
      · intro h
        rw [single] at h
        cases decoded : decode v <;> simp [decoded] at h
      · rintro ⟨u, ⟨⟩, -⟩

/-- Nothing is there that could be an argument. -/
inductive Bare : Fields → Prop
  | members (ms : List (String × Value)) : Bare (.members ms)
  | items : Bare (.items [])

theorem nothing_eq_ok_iff {α : Type} {f : Fields} {x y : α} :
    f.nothing x = .ok y ↔ y = x ∧ f.Bare := by
  match f with
  | .members ms => simp [nothing, Bare.members, eq_comm]
  | .items [] => simp [nothing, Bare.items, eq_comm]
  | .items (v :: rest) =>
    simp only [nothing, reduceCtorEq, false_iff]
    rintro ⟨-, ⟨⟩⟩

end Fields

theorem hasOne_filter_ne {name other : String} (different : name ≠ other) {v : Value}
    {ms : List (String × Value)} : HasOne name v (ms.filter (·.1 ≠ other)) ↔ HasOne name v ms := by
  unfold HasOne
  have same : (ms.filter (·.1 ≠ other)).filter (·.1 = name) = ms.filter (·.1 = name) := by
    rw [List.filter_filter]
    refine List.filter_congr fun m _ => ?_
    by_cases named : m.1 = name <;> simp [named, different]
  rw [same]

theorem gives_none_iff {v : Value} {k : Kind} (without : k.argument? = none) :
    Gives v k none ↔ ∃ f, Names v k f ∧ f.Bare := by
  constructor
  · rintro (⟨one, -⟩ | - | -)
    · exact ⟨_, .object one, .members _⟩
    · exact ⟨_, .array, .items⟩
  · rintro ⟨f, named, bare⟩
    cases named with
    | object one => exact .object one without
    | array =>
      cases bare
      exact .array without

theorem gives_some_iff {v a : Value} {k : Kind} {name : String} (takes : k.argument? = some name) :
    Gives v k (some a) ↔ ∃ f, Names v k f ∧ f.Hold name a := by
  have different : name ≠ Kind.field := by
    rintro rfl
    revert takes
    cases k <;> decide
  constructor
  · intro given
    cases given with
    | objectWith one takes' argument =>
      cases takes.symm.trans takes'
      exact ⟨_, .object one, .member ((hasOne_filter_ne different).mpr argument)⟩
    | arrayWith takes' => exact ⟨_, .array, .item⟩
  · rintro ⟨f, named, held⟩
    cases named with
    | object one =>
      obtain ⟨argument⟩ := held
      exact .objectWith one takes ((hasOne_filter_ne different).mp argument)
    | array =>
      cases held
      exact .arrayWith takes

/-! ## The message -/

theorem exists_of_map_eq_ok {ε α β : Type} {g : α → β} {r : Except ε α} {y : β}
    (h : r.map g = .ok y) : ∃ x, r = .ok x ∧ g x = y := by
  cases r with
  | error e => cases h
  | ok x => exact ⟨x, rfl, Except.ok.inj h⟩

namespace Message

theorem says_iff {v : Value} {m : Message} :
    Says v m ↔ ∃ k f, Names v k f ∧ ofFields k f = .ok m := by
  constructor
  · rintro (⟨given, entries, found⟩ | given | given | given | given | given)
    · obtain ⟨f, named, held⟩ := (gives_some_iff rfl).mp given
      have decoded := Fields.batch_eq_ok_iff.mpr ⟨_, _, rfl, entries, found⟩
      refine ⟨_, f, named, ?_⟩
      rw [ofFields, Fields.single_eq_ok_iff.mpr ⟨_, held, decoded⟩]
      rfl
    · obtain ⟨f, named, held⟩ := (gives_some_iff rfl).mp given
      refine ⟨_, f, named, ?_⟩
      rw [ofFields, Fields.single_eq_ok_iff.mpr ⟨_, held, Fields.boolean_eq_ok_iff.mpr rfl⟩]
      rfl
    all_goals
      obtain ⟨f, named, bare⟩ := (gives_none_iff rfl).mp given
      exact ⟨_, f, named, Fields.nothing_eq_ok_iff.mpr ⟨rfl, bare⟩⟩
  · rintro ⟨k, f, named, made⟩
    cases k with
    | entries =>
      obtain ⟨batch, single, rfl⟩ := exists_of_map_eq_ok made
      obtain ⟨v, held, decoded⟩ := Fields.single_eq_ok_iff.mp single
      obtain ⟨ms, cs, rfl, entries, found⟩ := Fields.batch_eq_ok_iff.mp decoded
      exact .entries ((gives_some_iff rfl).mpr ⟨f, named, held⟩) entries found
    | sound =>
      obtain ⟨on, single, rfl⟩ := exists_of_map_eq_ok made
      obtain ⟨v, held, decoded⟩ := Fields.single_eq_ok_iff.mp single
      rw [Fields.boolean_eq_ok_iff.mp decoded] at held
      exact .sound ((gives_some_iff rfl).mpr ⟨f, named, held⟩)
    | enable | disable | test | status =>
      obtain ⟨rfl, bare⟩ := Fields.nothing_eq_ok_iff.mp made
      have given := (gives_none_iff rfl).mpr ⟨f, named, bare⟩
      constructor
      exact given

theorem ofDocument_eq_ok_iff {document : Json.Placed Json.Outline} {m : Message} :
    ofDocument document = .ok m ↔ Says document.value.value m := by
  rw [says_iff]
  constructor
  · intro h
    unfold ofDocument at h
    split at h
    · cases h
    next k f parts =>
      refine ⟨k, f, split_eq_ok_iff.mp parts, ?_⟩
      split at h
      next made => rw [made, Except.ok.inj h]
      · cases h
  · rintro ⟨k, f, named, made⟩
    unfold ofDocument
    simp only [split_eq_ok_iff.mpr named, made]

/-- A text that holds a document is the message that the document says, or no message. -/
theorem ofText_eq_ok_iff {text : List Char} {v : Value} (one : Json.parse text = .ok v)
    {m : Message} : ofText text = .ok m ↔ Says v m := by
  unfold Json.parse at one
  split at one
  next document start stop reached =>
    obtain rfl := Except.ok.inj one
    rw [← ofDocument_eq_ok_iff, ofText, reached]
    simp only [ofProgress]
    cases ofDocument document <;> simp
  · cases one

theorem trim_filled {line : List Char} {v : Value} (one : Json.parse (Text.trim line) = .ok v) :
    (Text.trim line).isEmpty = false := by
  cases text : Text.trim line with
  | nil =>
    rw [text] at one
    cases one
  | cons => rfl

theorem ofLine?_eq_ok_iff {line : List Char} {v : Value} (one : Json.parse (Text.trim line) = .ok v)
    {m : Message} : ofLine? line = some (.ok m) ↔ Says v m := by
  rw [ofLine?, trim_filled one, ← ofText_eq_ok_iff one]
  simp

end Message

end AlertRelay.Feed
