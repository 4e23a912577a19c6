import AlertRelay.Origin.Site
import AlertRelay.Proofs.Text.Utf8
import Mathlib

/-!
# Characters that no host name holds

A forbidden character in front of the labels of a name is found there however the name was mapped and
brought into normal form. Two kinds of characters can be lost on the way: `%` and what escapes are made
of, and what composes with a mark. Any other forbidden character, wherever in a host name it stands,
makes that name unreadable.
-/
namespace AlertRelay.Origin

/-! ## Normal form -/

namespace Normal

/-- ASCII codes that are part of some composition: letters and the signs of comparison. -/
def composes (n : Nat) : Bool := (65 ≤ n && n ≤ 90) || (97 ≤ n && n ≤ 122) || (60 ≤ n && n ≤ 62)

/-- An ASCII code that normal form leaves where it is. -/
structure IsSolitary (n : Nat) : Prop where
  ascii : n < 0x80
  alone : composes n = false

def partsAccounted (r : Table.Row) : Bool := r.targets.all fun t => 0x80 ≤ t || composes t

def lineAccounted (line : List Char) : Bool :=
  (Text.split ' ' line).all fun w => partsAccounted (Table.row w)

theorem lineAccounted_of_chars {line : String} {cs : List Char} (chars : line.toList = cs)
    (accounted : lineAccounted cs = true) : lineAccounted line.toList = true := by
  rwa [chars]

/-- The table is gone through line by line, since the kernel reads long literals slowly. -/
theorem compositionText_accounted : ∀ line ∈ compositionText, lineAccounted line.toList = true := by
  simp only [compositionText, List.forall_mem_cons, List.not_mem_nil, false_implies, implies_true,
    and_true]
  repeat' apply And.intro
  all_goals exact lineAccounted_of_chars String.toList_ofList (by decide +kernel)

theorem compositions_accounted {r : Table.Row} (listed : r ∈ compositions) {t : Nat}
    (part : t ∈ r.targets) : 0x80 ≤ t ∨ composes t = true := by
  obtain ⟨w, word, rfl⟩ := List.mem_map.mp listed
  obtain ⟨line, among, piece⟩ := List.mem_flatMap.mp word
  have accounted := List.all_eq_true.mp (compositionText_accounted line among) w piece
  have part := List.all_eq_true.mp accounted t part
  simpa using part

theorem IsSolitary.not_mem_targets {n : Nat} (solitary : IsSolitary n) {r : Table.Row}
    (listed : r ∈ compositions) : n ∉ r.targets := by
  intro part
  have ascii := solitary.ascii
  rcases compositions_accounted listed part with beyond | composes
  · omega
  · rw [solitary.alone] at composes
    cases composes

theorem hangul_compose?_eq_none {a b : Nat} (low : a < 0x80 ∨ b < 0x80) :
    Hangul.compose? a b = none := by
  unfold Hangul.compose? Hangul.leads Hangul.vowels Hangul.base Hangul.trails
  simp only [Bool.and_eq_true, decide_eq_true_eq]
  rw [if_neg (by omega), if_neg (by omega)]

theorem compose?_eq_none {a b n : Nat} (solitary : IsSolitary n) (among : n = a ∨ n = b) :
    compose? a b = none := by
  have ascii := solitary.ascii
  rw [compose?, hangul_compose?_eq_none (by omega), Option.map_eq_none_iff, List.find?_eq_none]
  intro r listed same
  have targets : r.targets = [a, b] := by simpa using same
  apply solitary.not_mem_targets listed
  rw [targets]
  simpa using among

theorem mem_insert {n m : Nat} {ns : List Nat} : n ∈ insert m ns ↔ n = m ∨ n ∈ ns := by
  induction ns with
  | nil => simp [insert]
  | cons k ns ih =>
    rw [insert]
    split
    · simp only [List.mem_cons, ih]
      exact or_left_comm
    · rw [List.mem_cons]

theorem mem_foldl_insert {n : Nat} (ns done : List Nat) :
    n ∈ ns.foldl (fun done n => insert n done) done ↔ n ∈ ns ∨ n ∈ done := by
  induction ns generalizing done with
  | nil => simp
  | cons m ns ih => simp [ih, mem_insert, or_assoc, or_left_comm]

theorem mem_ordered {n : Nat} {ns : List Nat} : n ∈ ordered ns ↔ n ∈ ns := by
  simp [ordered, mem_foldl_insert]

/-- What is solitary is neither composed away itself nor pushed out by what is. -/
theorem mem_flush_add {n m : Nat} (solitary : IsSolitary n) {p : Pending}
    (h : n = m ∨ n ∈ p.flush) : n ∈ (p.add m).flush := by
  obtain ⟨before, base?, marks⟩ := p
  simp only [Pending.flush, List.mem_append, Option.mem_toList] at h
  rw [Pending.add]
  dsimp only
  split
  next c composed =>
    -- The base that composes is not the solitary code, and neither is what it composes with.
    have parts : ∃ b, base? = some b ∧ compose? b m = some c := by
      split at composed
      · cases composed
      · exact Option.bind_eq_some_iff.mp composed
    obtain ⟨b, rfl, found⟩ := parts
    have other (among : n = b ∨ n = m) : False := by
      rw [compose?_eq_none solitary among] at found
      cases found
    simp only [Pending.flush, List.mem_append, Option.mem_toList]
    rcases h with rfl | (mark | base) | before
    · exact (other (.inr rfl)).elim
    · exact .inl (.inl mark)
    · exact (other (.inl (Option.some.inj base).symm)).elim
    · exact .inr before
  next =>
    split
    · simp only [Pending.flush, List.nil_append, Option.toList_some, List.mem_append,
        List.mem_singleton, Option.mem_toList]
      exact h
    split
    next first =>
      rw [Option.isNone_iff_eq_none] at first
      subst first
      simp only [Pending.flush, List.mem_append, Option.mem_toList, List.mem_cons]
      rcases h with rfl | (mark | base) | before
      · exact .inr (.inl rfl)
      · exact .inl (.inl mark)
      · cases base
      · exact .inr (.inr before)
    · simp only [Pending.flush, List.mem_append, Option.mem_toList, List.mem_cons, or_assoc]
      rcases h with same | (mark | base) | before
      · exact .inl same
      · exact .inr (.inl mark)
      · exact .inr (.inr (.inl base))
      · exact .inr (.inr (.inr before))

theorem mem_flush_foldl {n : Nat} (solitary : IsSolitary n) (ns : List Nat) {p : Pending}
    (h : n ∈ ns ∨ n ∈ p.flush) : n ∈ (ns.foldl Pending.add p).flush := by
  induction ns generalizing p with
  | nil => simpa using h
  | cons m ns ih =>
    rw [List.mem_cons, or_assoc, or_left_comm] at h
    exact ih (h.imp_right (mem_flush_add solitary))

theorem mem_composed {n : Nat} (solitary : IsSolitary n) {ns : List Nat} (h : n ∈ ns) :
    n ∈ composed ns := by
  rw [composed, List.mem_reverse]
  exact mem_flush_foldl solitary ns (.inl h)

theorem decompose_ascii {n : Nat} (ascii : n < 0x80) : decompose n = [n] := by
  rw [decompose, if_pos (by unfold inert; omega)]

theorem mem_normalize {c : Char} (solitary : IsSolitary c.toNat) {cs : List Char} (h : c ∈ cs) :
    c ∈ normalize cs := by
  rw [normalize]
  split
  · exact h
  · have apart : c.toNat ∈ cs.flatMap fun c => decompose c.toNat :=
      List.mem_flatMap.mpr ⟨c, h, by simp [decompose_ascii solitary.ascii]⟩
    exact List.mem_map.mpr ⟨_, mem_composed solitary (mem_ordered.mpr apart), Char.ofNat_toNat c⟩

end Normal

/-! ## Mapping -/

theorem mapM_eq_some_iff {α β : Type} {f : α → Option β} {as : List α} {bs : List β} :
    as.mapM f = some bs ↔ List.Forall₂ (fun b a => f a = some b) bs as := by
  induction as generalizing bs with
  | nil => simp [eq_comm]
  | cons a as ih =>
    rw [List.mapM_cons]
    constructor
    · intro read
      obtain ⟨b, first, others⟩ := Option.bind_eq_some_iff.mp read
      obtain ⟨rest, more, same⟩ := Option.bind_eq_some_iff.mp others
      cases same
      exact .cons first (ih.mp more)
    · rintro (_ | ⟨first, others⟩)
      rw [first, ih.mpr others]
      rfl

/-- What holds of the characters of low codes is checked code by code. -/
theorem char_table {bound : Nat} {p : Char → Prop} (table : ∀ n < bound, p (Char.ofNat n)) {c : Char}
    (below : c.toNat < bound) : p c := by
  have entry := table c.toNat below
  rwa [Char.ofNat_toNat] at entry

theorem isUpper_iff {c : Char} : c.isUpper = true ↔ 65 ≤ c.toNat ∧ c.toNat ≤ 90 := by
  simp [Char.isUpper, UInt32.le_iff_toNat_le]

theorem toLower_of_high {c : Char} (high : ¬ c.toNat ≤ 90) : c.toLower = c :=
  Char.toLower_eq_of_not_isUpper fun upper => high (isUpper_iff.mp upper).2

/-- A forbidden character that is neither read as part of an escape nor composed with a mark. -/
structure IsBarred (c : Char) : Prop where
  forbidden : isForbidden c = true
  solitary : Normal.IsSolitary c.toNat
  unescaped : c ≠ '%'

theorem isBarred_of_low {c : Char} (low : c.toNat ≤ 0x20) : IsBarred c where
  forbidden := by simp [isForbidden, low]
  solitary := ⟨by omega, by simp [Normal.composes]; omega⟩
  unescaped := by rintro rfl; exact absurd low (by decide)

theorem isBarred_of_mem {c : Char} (h : c ∈ [':', '[', ']']) : IsBarred c := by
  simp only [List.mem_cons, List.not_mem_nil, or_false] at h
  rcases h with rfl | rfl | rfl
  all_goals exact ⟨by decide +kernel, ⟨by decide, by decide⟩, by decide⟩

namespace IsBarred
variable {c : Char} (barred : IsBarred c)
include barred

theorem ascii : isAscii c = true := by
  simpa [isAscii] using barred.solitary.ascii

theorem toLower_eq : c.toLower = c := by
  apply Char.toLower_eq_of_not_isUpper
  intro upper
  obtain ⟨above, below⟩ := isUpper_iff.mp upper
  have alone := barred.solitary.alone
  simp [Normal.composes, above, below] at alone

theorem mem_mapChars? {cs mapped : List Char} (h : c ∈ cs) (read : mapChars? cs = some mapped) :
    c ∈ mapped := by
  rw [mapChars?, Option.map_eq_some_iff] at read
  obtain ⟨pieces, each, rfl⟩ := read
  have own : mapChar? c = some [c] := by rw [mapChar?, if_pos barred.ascii, barred.toLower_eq]
  induction mapM_eq_some_iff.mp each with
  | nil => cases h
  | cons first others ih =>
    rw [List.flatten_cons, List.mem_append]
    rcases List.mem_cons.mp h with rfl | h
    · left
      rw [own] at first
      cases first
      exact List.mem_singleton_self c
    · exact .inr (ih h (mapM_eq_some_iff.mpr others))

theorem labels?_eq_none {host : List Char} (h : c ∈ host) : labels? host = none := by
  rw [labels?, Option.bind_eq_none_iff]
  intro mapped read
  have kept : c ∈ Normal.normalize mapped :=
    Normal.mem_normalize barred.solitary (barred.mem_mapChars? h read)
  have found : (Normal.normalize mapped).any (fun c => isAscii c && isForbidden c) = true :=
    List.any_eq_true.mpr ⟨c, kept, by simp [barred.ascii, barred.forbidden]⟩
  dsimp only
  rw [if_pos found]

end IsBarred

/-! ## Escapes -/

/-- Only octets of escapes are replaced. -/
theorem mem_percentDecode {o : UInt8} (unescaped : o ≠ 0x25)
    (noDigit : Json.Quote.hexDigit? (Char.ofNat o.toNat) = none) {octets : List UInt8}
    (h : o ∈ octets) : o ∈ percentDecode octets := by
  fun_induction percentDecode octets with
  | case1 b x y rest decoded escape ih =>
    have escape : b = 0x25 ∧ hexOctet? x y = some decoded := by
      split at escape
      next first => exact ⟨first, escape⟩
      · cases escape
    obtain ⟨first, escape⟩ := escape
    obtain ⟨high, digit, escape⟩ := Option.bind_eq_some_iff.mp escape
    obtain ⟨low, digit', -⟩ := Option.map_eq_some_iff.mp escape
    simp only [List.mem_cons] at h
    rcases h with rfl | rfl | rfl | h
    · exact absurd first unescaped
    · rw [noDigit] at digit
      cases digit
    · rw [noDigit] at digit'
      cases digit'
    · exact List.mem_cons_of_mem _ (ih h)
  | case2 b x y rest none ih =>
    rcases List.mem_cons.mp h with rfl | h
    · exact List.mem_cons_self
    · exact List.mem_cons_of_mem _ (ih h)
  | case3 octets short => exact h

theorem isForbidden_iff {c : Char} : isForbidden c = true ↔ (c.toNat ≤ 0x20 ∨ c.toNat = 0x7F) ∨
    c ∈ ['%', '#', '/', ':', '<', '>', '?', '@', '[', '\\', ']', '^', '|'] := by
  have signs : "%#/:<>?@[\\]^|".toList =
      ['%', '#', '/', ':', '<', '>', '?', '@', '[', '\\', ']', '^', '|'] := String.toList_ofList
  rw [isForbidden, signs, Bool.or_eq_true, Bool.or_eq_true, decide_eq_true_eq, beq_iff_eq,
    List.contains_iff_mem]

theorem hexDigit?_of_isForbidden {c : Char} (forbidden : isForbidden c = true) :
    Json.Quote.hexDigit? c = none := by
  rw [isForbidden_iff] at forbidden
  simp only [List.mem_cons, List.not_mem_nil, or_false] at forbidden
  rcases forbidden with ((low | delete) | sign)
  · simp only [Json.Quote.hexDigit?]
    rw [if_neg (by simp; omega), if_neg (by simp; omega), if_neg (by simp; omega)]
  · simp only [Json.Quote.hexDigit?]
    rw [if_neg (by simp; omega), if_neg (by simp; omega), if_neg (by simp; omega)]
  · rcases sign with rfl | rfl | rfl | rfl | rfl | rfl | rfl | rfl | rfl | rfl | rfl | rfl | rfl
    all_goals rfl

namespace Host

theorem ofName?_eq_none {c : Char} (barred : IsBarred c) {cs : List Char} (h : c ∈ cs) :
    ofName? cs = none := by
  have ascii := barred.solitary.ascii
  rw [ofName?, Option.bind_eq_none_iff]
  intro name read
  rw [Option.bind_eq_none_iff]
  intro labels cut
  have octet : UInt8.ofNat c.toNat ∈ percentDecode (Text.Utf8.encode cs) := by
    refine mem_percentDecode ?_ ?_ ((Text.Utf8.mem_encode_iff ascii).mpr h)
    · intro same
      have code := congrArg UInt8.toNat same
      rw [Text.Utf8.toNat_octet (by omega)] at code
      exact barred.unescaped (Char.toNat_inj.mp code)
    · rw [Text.Utf8.toNat_octet (by omega), Char.ofNat_toNat]
      exact hexDigit?_of_isForbidden barred.forbidden
  rw [Text.Utf8.text?_eq_some_iff.mp read, Text.Utf8.mem_encode_iff ascii] at octet
  rw [barred.labels?_eq_none octet] at cut
  cases cut

end Host

end AlertRelay.Origin
