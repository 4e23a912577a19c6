import AlertRelay.Proofs.Json.Depth
import AlertRelay.Proofs.Json.Numeral
import AlertRelay.Proofs.Json.Quoting
import Mathlib.Data.List.Chain

/-!
# The grammar of documents

A token is spelled by a mark, a word, a numeral or a quoted text, and the text of a document spells its
tokens with any white space around them. What is cut off a text spells the token that was found. The
other way round a spelled token is cut off where nothing that follows could belong to it; only a number
could run on, and in a document a mark stands there. So a text holds a document exactly where it spells
it and the document is not too deep.
-/
namespace AlertRelay.Json

/-- The characters that make a token by themselves. -/
def marks : List (Char × Token) :=
  [('[', .openArray), (']', .closeArray), ('\x7b', .openObject), ('\x7d', .closeObject),
    (',', .comma), (':', .colon)]

/-- The texts of one token. -/
inductive Token.Spells : Token → List Char → Prop
  | mark {c : Char} {t : Token} : (c, t) ∈ marks → Spells t [c]
  | null : Spells (.scalar .null) ['n', 'u', 'l', 'l']
  | yes : Spells (.scalar (.boolean true)) ['t', 'r', 'u', 'e']
  | no : Spells (.scalar (.boolean false)) ['f', 'a', 'l', 's', 'e']
  | number {x : Numeral} {n : Number} {word : List Char} : x.Writes word → x.value = .ok n →
      Spells (.scalar (.number n)) word
  | text {s : String} {es : List Char} : Quote.WritesAll s.toList es →
      Spells (.scalar (.text s)) ('"' :: (es ++ ['"']))

/-- The texts of tokens, with white space around them. -/
inductive Spelling : List Token → List Char → Prop
  | done {gap : List Char} : (∀ c ∈ gap, isSpace c = true) → Spelling [] gap
  | more {t : Token} {ts : List Token} {gap word rest : List Char} : (∀ c ∈ gap, isSpace c = true) →
      t.Spells word → Spelling ts rest → Spelling (t :: ts) (gap ++ (word ++ rest))

/-! ## A spelled token is found -/

theorem punctuation?_of_mem {c : Char} {t : Token} (member : (c, t) ∈ marks) :
    punctuation? c = some t ∧ isSpace c = false ∧ t.isLast = false := by
  have table : ∀ p ∈ marks,
      punctuation? p.1 = some p.2 ∧ isSpace p.1 = false ∧ p.2.isLast = false := by decide
  exact table _ member

/-- What may stand behind a token: behind a number nothing that could belong to it. -/
def Token.Ends (t : Token) (after : List Char) : Prop :=
  (∃ n, t = .scalar (.number n)) → Numeral.EndsNumeral after

theorem numeral_table {c : Char} (front : c = '-' ∨ c.isDigit = true) :
    punctuation? c = none ∧ isSpace c = false ∧ c ≠ '"' ∧ c ≠ 'n' ∧ c ≠ 't' ∧ c ≠ 'f' := by
  rcases front with rfl | digit
  · decide
  have bound : 48 ≤ c.toNat ∧ c.toNat ≤ 57 := by
    simpa [Char.isDigit, UInt32.le_iff_toNat_le] using digit
  have table : ∀ n : Fin 58, 48 ≤ n.val → punctuation? (Char.ofNat n) = none ∧
      isSpace (Char.ofNat n) = false ∧ Char.ofNat n ≠ '"' ∧ Char.ofNat n ≠ 'n' ∧
      Char.ofNat n ≠ 't' ∧ Char.ofNat n ≠ 'f' := by decide
  have entry := table ⟨c.toNat, by omega⟩ bound.1
  rwa [Char.ofNat_toNat] at entry

/-- A token is found where it is spelled, and the text does not end there. -/
theorem tokenAt_of_spells {t : Token} {c : Char} {cs after : List Char}
    (spelled : t.Spells (c :: cs)) (ends : t.Ends after) (start : Nat) :
    tokenAt start c (cs ++ after) = (t, cs.length + 1) ∧ isSpace c = false ∧ t.isLast = false := by
  generalize whole : c :: cs = word at spelled
  cases spelled with
  | mark member =>
    cases whole
    obtain ⟨found, visible, more⟩ := punctuation?_of_mem member
    exact ⟨by simp only [tokenAt, found]; rfl, visible, more⟩
  | null | yes | no =>
    cases whole
    exact ⟨rfl, rfl, rfl⟩
  | number written valued =>
    subst whole
    have read := Numeral.read_of_writes written valued (ends ⟨_, rfl⟩)
    have front := written.head
    obtain ⟨other, visible, quote, n, t, f⟩ := numeral_table front
    have numeric : (c = '-' || (Numeral.digit? c).isSome) = true := by
      rw [Numeral.digit?_eq]
      rcases front with rfl | digit
      · rfl
      · simp [digit]
    refine ⟨?_, visible, rfl⟩
    rw [List.cons_append, List.length_cons] at read
    simp only [tokenAt, other, if_neg quote, bareScalar, if_neg n, if_neg t, if_neg f, numeric,
      if_true, read]
  | @text s es contents =>
    cases whole
    refine ⟨?_, rfl, rfl⟩
    have read := Quote.scan_of_writesAll contents after
    rw [List.append_assoc]
    simp [tokenAt, punctuation?, read]

theorem lexemesFrom_skip (taken after : List Char) (start : Nat) :
    lexemesFrom start taken.length (taken ++ after) = lexemesFrom (start + width taken) 0 after := by
  induction taken generalizing start with
  | nil => rfl
  | cons c taken ih =>
    rw [List.length_cons, List.cons_append, lexemesFrom, ih, width, Nat.add_assoc]

theorem lexemesFrom_gap {gap : List Char} (blank : ∀ c ∈ gap, isSpace c = true) (after : List Char)
    (start : Nat) : lexemesFrom start 0 (gap ++ after) = lexemesFrom (start + gap.length) 0 after := by
  induction gap generalizing start with
  | nil => rfl
  | cons c gap ih =>
    obtain ⟨here, blank⟩ := List.forall_mem_cons.mp blank
    rw [List.cons_append, lexemesFrom, if_pos here, ih blank, List.length_cons]
    congr 1
    omega

theorem Token.Spells.ne_nil {t : Token} {word : List Char} (spelled : t.Spells word) :
    word ≠ [] := by
  cases spelled with
  | number written => exact written.ne_nil
  | mark | null | yes | no | text => exact List.cons_ne_nil _ _

/-- A token is cut off where it is spelled. -/
theorem lexemesFrom_of_spells {t : Token} {word after : List Char} (spelled : t.Spells word)
    (ends : t.Ends after) (start : Nat) : lexemesFrom start 0 (word ++ after) =
      ⟨t, start, start + width word⟩ :: lexemesFrom (start + width word) 0 after := by
  obtain ⟨c, cs, rfl⟩ := List.exists_cons_of_ne_nil spelled.ne_nil
  obtain ⟨found, visible, more⟩ := tokenAt_of_spells spelled ends start
  have extent : (c :: (cs ++ after)).take (cs.length + 1) = c :: cs := by
    rw [List.take_succ_cons, List.take_left]
  rw [List.cons_append, lexemesFrom]
  simp only [visible, found, more, extent, Nat.add_sub_cancel, lexemesFrom_skip, Bool.false_eq_true,
    if_false, width, Nat.add_assoc]

/-! ## What is found is spelled -/

theorem word_found {value s : Scalar} {done length : Nat} {ws cs : List Char}
    (h : word value done ws cs = .found s length) :
    s = value ∧ ∃ after, cs = ws ++ after ∧ length = done + ws.length := by
  induction ws generalizing done cs with
  | nil =>
    rw [word] at h
    cases h
    exact ⟨rfl, cs, rfl, rfl⟩
  | cons w ws ih =>
    cases cs with
    | nil => cases h
    | cons c cs =>
      rw [word] at h
      split at h
      next same =>
        obtain ⟨found, after, rfl, extent⟩ := ih h
        exact ⟨found, after, by rw [same]; rfl, by rw [extent, List.length_cons]; omega⟩
      · cases h

theorem bareScalar_found {c : Char} {rest : List Char} {s : Scalar} {length : Nat}
    (h : bareScalar c rest = some (.found s length)) :
    ∃ cs after, rest = cs ++ after ∧ length = cs.length + 1 ∧ (Token.scalar s).Spells (c :: cs) := by
  unfold bareScalar at h
  split at h
  next letter =>
    obtain ⟨rfl, after, rfl, rfl⟩ := word_found (Option.some.inj h)
    exact ⟨_, after, rfl, rfl, letter ▸ .null⟩
  split at h
  next letter =>
    obtain ⟨rfl, after, rfl, rfl⟩ := word_found (Option.some.inj h)
    exact ⟨_, after, rfl, rfl, letter ▸ .yes⟩
  split at h
  next letter =>
    obtain ⟨rfl, after, rfl, rfl⟩ := word_found (Option.some.inj h)
    exact ⟨_, after, rfl, rfl, letter ▸ .no⟩
  split at h
  · have scanned := Option.some.inj h
    split at scanned
    next found =>
      cases scanned
      obtain ⟨x, word, after, whole, written, valued, rfl⟩ := Numeral.read_found found
      obtain ⟨d, cs, rfl⟩ := List.exists_cons_of_ne_nil written.ne_nil
      obtain ⟨rfl, rfl⟩ := List.cons.inj whole
      exact ⟨cs, after, rfl, rfl, .number written valued⟩
    · cases scanned
  · cases h

/-- What is cut off spells the token that it was found to be. -/
theorem tokenAt_found {t : Token} {c : Char} {rest : List Char} {start length : Nat}
    (h : tokenAt start c rest = (t, length)) (more : t.isLast = false) :
    ∃ cs after, rest = cs ++ after ∧ length = cs.length + 1 ∧ t.Spells (c :: cs) := by
  unfold tokenAt at h
  split at h
  next token mark =>
    cases h
    have member : (c, t) ∈ marks := by
      unfold punctuation? at mark
      split at mark <;> cases mark <;> decide
    exact ⟨[], rest, rfl, rfl, .mark member⟩
  split at h
  next quote =>
    split at h
    next text length scanned =>
      cases h
      obtain ⟨front, es, after, rfl, empty, written, rfl⟩ := Quote.scan_found scanned
      obtain rfl := List.length_eq_zero_iff.mp empty
      rw [← String.toList_ofList (l := text)] at written
      refine ⟨es ++ ['"'], after, by simp, by simp, ?_⟩
      rw [quote]
      exact .text written
    · cases h
      cases more
  · split at h
    next scalar =>
      cases h
      exact bareScalar_found scalar
    · cases h
      cases more
    · cases h
      cases more

theorem tokenAt_ne_finish (start : Nat) (c : Char) (rest : List Char) :
    (tokenAt start c rest).1 ≠ .finish := by
  unfold tokenAt
  split
  next mark =>
    unfold punctuation? at mark
    split at mark <;> cases mark <;> exact Token.noConfusion
  split
  · split <;> exact Token.noConfusion
  · split <;> exact Token.noConfusion

theorem Spelling.behind_space {c : Char} {ts : List Token} {text : List Char}
    (space : isSpace c = true) (spelling : Spelling ts text) : Spelling ts (c :: text) := by
  cases spelling with
  | done blank => exact .done (List.forall_mem_cons.mpr ⟨space, blank⟩)
  | more blank spelled others => exact .more (List.forall_mem_cons.mpr ⟨space, blank⟩) spelled others

theorem Spelling.behind_gap {ts : List Token} {gap text : List Char}
    (blank : ∀ c ∈ gap, isSpace c = true) (spelling : Spelling ts text) :
    Spelling ts (gap ++ text) := by
  induction gap with
  | nil => exact spelling
  | cons c gap ih =>
    obtain ⟨here, blank⟩ := List.forall_mem_cons.mp blank
    exact (ih blank).behind_space here

/-- A text that is cut into tokens to its end spells them. -/
theorem spelling_of_lexemes {ts : List Token} {text : List Char} {start : Nat}
    (same : (lexemesFrom start 0 text).map (·.token) = ts ++ [.finish]) : Spelling ts text := by
  -- On the length of the text: what stands behind a token is shorter by the whole token.
  induction size : text.length using Nat.strongRecOn generalizing ts text start with
  | ind n ih =>
    cases text with
    | nil =>
      obtain rfl : ts = [] := List.append_left_eq_self.mp same.symm
      exact .done (List.forall_mem_nil _)
    | cons c rest =>
      rw [List.length_cons] at size
      rw [lexemesFrom] at same
      split at same
      next space => exact (ih rest.length (by omega) same rfl).behind_space space
      next =>
        have proper := tokenAt_ne_finish start c rest
        rcases cut : tokenAt start c rest with ⟨t, length⟩
        rw [cut] at same proper
        dsimp only at same
        cases ts with
        | nil => split at same <;> exact absurd (List.cons.inj same).1 proper
        | cons u ts =>
          split at same
          · exact absurd (List.cons.inj same).2.symm (by simp)
          next more =>
            obtain ⟨rfl, behind⟩ := List.cons.inj same
            obtain ⟨cs, after, rfl, rfl, spelled⟩ := tokenAt_found cut (Bool.not_eq_true _ ▸ more)
            rw [Nat.add_sub_cancel, lexemesFrom_skip] at behind
            rw [List.length_append] at size
            exact .more (List.forall_mem_nil fun c => isSpace c = true) spelled
              (ih after.length (by omega) behind rfl)

/-! ## Many tokens -/

def Token.isMark (t : Token) : Bool := marks.any (·.2 = t)

/-- Of two tokens side by side one is a mark. -/
def Apart (a b : Token) : Prop := a.isMark = true ∨ b.isMark = true

theorem ends_space {c : Char} (space : isSpace c = true) (rest : List Char) :
    Numeral.EndsNumeral (c :: rest) := by
  rintro _ ⟨⟩
  simp only [isSpace, Bool.or_eq_true, decide_eq_true_eq] at space
  rcases space with ((rfl | rfl) | rfl) | rfl <;> decide

theorem ends_mark {t : Token} {word : List Char} (mark : t.isMark = true) (spelled : t.Spells word)
    (rest : List Char) : Numeral.EndsNumeral (word ++ rest) := by
  cases spelled with
  | @mark c _ member =>
    have table : ∀ p ∈ marks, p.1.isDigit = false ∧ p.1 ≠ '.' ∧ p.1 ≠ 'e' ∧ p.1 ≠ 'E' := by decide
    rintro _ ⟨⟩
    exact table _ member
  | null | yes | no | number | text => simp [Token.isMark, marks] at mark

/-- Behind a token that is kept apart from the next one nothing belongs to it. -/
theorem ends_of_apart {t : Token} {ts : List Token} {rest : List Char} (spelling : Spelling ts rest)
    (apart : ∀ u ∈ ts.head?, Apart t u) : t.Ends rest := by
  rintro ⟨n, rfl⟩
  cases spelling with
  | done blank =>
    cases rest with
    | nil => exact fun _ impossible => by cases impossible
    | cons c gap => exact ends_space (blank c List.mem_cons_self) _
  | @more u ts gap word rest blank spelled =>
    cases gap with
    | cons c gap => exact ends_space (blank c List.mem_cons_self) _
    | nil =>
      rcases apart u rfl with number | mark
      · simp [Token.isMark, marks] at number
      · exact ends_mark mark spelled rest

/-- A text is cut into the tokens that it spells. -/
theorem lexemesFrom_of_spelling {ts : List Token} {text : List Char} (spelling : Spelling ts text)
    (apart : ts.IsChain Apart) (start : Nat) :
    (lexemesFrom start 0 text).map (·.token) = ts ++ [.finish] := by
  induction spelling generalizing start with
  | @done gap blank =>
    have cut := lexemesFrom_gap blank [] start
    rw [List.append_nil] at cut
    rw [cut]
    rfl
  | @more t ts gap word rest blank spelled others ih =>
    obtain ⟨beside, apart⟩ := List.isChain_cons.mp apart
    rw [lexemesFrom_gap blank, lexemesFrom_of_spells spelled (ends_of_apart others beside),
      List.map_cons, ih apart]
    rfl

/-! ## Documents -/

theorem apart_around {t : Token} (mark : t.isMark = true) {before after : List Token} :
    (before ++ t :: after).IsChain Apart ↔ before.IsChain Apart ∧ after.IsChain Apart := by
  rw [List.isChain_append, List.isChain_cons]
  constructor
  · rintro ⟨first, ⟨-, second⟩, -⟩
    exact ⟨first, second⟩
  · rintro ⟨first, second⟩
    have beside : ∀ u, some t = some u → u.isMark = true := by
      rintro _ ⟨⟩
      exact mark
    exact ⟨first, ⟨fun _ _ => .inl mark, second⟩, fun _ _ u same => .inr (beside u same)⟩

theorem apart_commaBetween {parts : List (List Token)} (each : ∀ part ∈ parts, part.IsChain Apart) :
    (commaBetween parts).IsChain Apart := by
  induction parts with
  | nil => exact .nil
  | cons part more ih =>
    obtain ⟨first, each⟩ := List.forall_mem_cons.mp each
    cases more with
    | nil => exact first
    | cons next rest => exact (apart_around rfl).mpr ⟨first, ih each⟩

/-- Tokens between two marks. -/
theorem apart_enclosed {t u : Token} (opens : t.isMark = true) (closes : u.isMark = true)
    {ts : List Token} (inside : ts.IsChain Apart) : (t :: ts ++ [u]).IsChain Apart :=
  List.isChain_cons.mpr ⟨fun _ _ => .inl opens, (apart_around closes).mpr ⟨inside, .nil⟩⟩

namespace Value

mutual

theorem tokens_apart (v : Value) : v.tokens.IsChain Apart := by
  match v with
  | scalar s => exact .singleton _
  | array items => exact apart_enclosed rfl rfl (apart_commaBetween (eachItem_apart items))
  | object members => exact apart_enclosed rfl rfl (apart_commaBetween (eachMember_apart members))
termination_by structural v

theorem eachItem_apart (items : List Value) : ∀ part ∈ eachItem items, part.IsChain Apart := by
  match items with
  | [] => exact List.forall_mem_nil _
  | v :: rest => exact List.forall_mem_cons.mpr ⟨tokens_apart v, eachItem_apart rest⟩
termination_by structural items

theorem eachMember_apart (members : List (String × Value)) :
    ∀ part ∈ eachMember members, part.IsChain Apart := by
  match members with
  | [] => exact List.forall_mem_nil _
  | m :: rest => exact List.forall_mem_cons.mpr ⟨memberTokens_apart m, eachMember_apart rest⟩
termination_by structural members

theorem memberTokens_apart (m : String × Value) : (memberTokens m).IsChain Apart := by
  match m with
  | (key, v) =>
    have colon : Token.colon.isMark = true := rfl
    exact .cons_cons (.inr colon) (List.isChain_cons.mpr ⟨fun _ _ => .inl colon, tokens_apart v⟩)
termination_by structural m

end

end Value

/-- A text holds a document exactly where it spells it, unless that is too deep. -/
theorem parse_eq_ok_iff {text : List Char} {v : Value} :
    parse text = .ok v ↔ Spelling v.tokens text ∧ v.depth ≤ State.deepest := by
  rw [parse_eq_ok_iff_tokens, and_congr_left_iff]
  intro _
  exact ⟨spelling_of_lexemes, fun spelling => lexemesFrom_of_spelling spelling v.tokens_apart 0⟩

end AlertRelay.Json
