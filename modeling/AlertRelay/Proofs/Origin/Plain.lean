import AlertRelay.Proofs.Origin.Forbidden
import AlertRelay.Proofs.Text.Split

/-!
# Names of plain characters

A host name of ASCII characters that hosts may hold, without escapes and without labels in encoded form,
is read as it stands, in small letters.
-/
namespace AlertRelay.Origin

/-- ASCII characters that hosts may hold; so none of them begins an escape. -/
def IsPlain (cs : List Char) : Prop := ∀ c ∈ cs, isAscii c = true ∧ isForbidden c = false

theorem percentDecode_of_not_mem {octets : List UInt8} (absent : 0x25 ∉ octets) :
    percentDecode octets = octets := by
  fun_induction percentDecode octets with
  | case1 b x y rest decoded escape ih =>
    rw [if_neg (List.ne_of_not_mem_cons absent).symm] at escape
    cases escape
  | case2 b x y rest none ih => rw [ih (List.not_mem_of_not_mem_cons absent)]
  | case3 octets short => rfl

theorem Label.joinersHold_of_ascii {l : Label} (ascii : ∀ c ∈ l, isAscii c = true)
    (before : List Char) : Label.joinersHold before l = true := by
  induction l generalizing before with
  | nil => rfl
  | cons c l ih =>
    have first := ascii c List.mem_cons_self
    have joiner : c ≠ joiner := by rintro rfl; cases first
    have nonJoiner : c ≠ nonJoiner := by rintro rfl; cases first
    rw [joinersHold, if_neg joiner, if_neg nonJoiner, Bool.true_and]
    exact ih (fun d among => ascii d (List.mem_cons_of_mem c among)) (c :: before)

theorem isAscii_toLower {c : Char} (ascii : isAscii c = true) : isAscii c.toLower = true :=
  char_table (p := fun c => isAscii c.toLower = true) (by decide) (of_decide_eq_true ascii)

theorem isForbidden_toLower (c : Char) : isForbidden c.toLower = isForbidden c := by
  by_cases upper : c.toNat ≤ 90
  · exact char_table (p := fun c => isForbidden c.toLower = isForbidden c) (by decide +kernel)
      (Nat.lt_succ_of_le upper)
  · rw [toLower_of_high upper]

theorem IsPlain.lowered {cs : List Char} (plain : IsPlain cs) : IsPlain (cs.map Char.toLower) := by
  intro c among
  obtain ⟨d, upper, rfl⟩ := List.mem_map.mp among
  obtain ⟨ascii, allowed⟩ := plain d upper
  exact ⟨isAscii_toLower ascii, by rw [isForbidden_toLower, allowed]⟩

theorem mapChars?_of_ascii {cs : List Char} (ascii : ∀ c ∈ cs, isAscii c = true) :
    mapChars? cs = some (cs.map Char.toLower) := by
  have each : cs.mapM mapChar? = some (cs.map fun c => [c.toLower]) := by
    rw [mapM_eq_some_iff, List.forall₂_map_left_iff, List.forall₂_same]
    intro c among
    rw [mapChar?, if_pos (ascii c among)]
  rw [mapChars?, each, Option.map_some, ← List.flatMap_def, ← List.map_eq_flatMap]

theorem normalize_of_ascii {cs : List Char} (ascii : ∀ c ∈ cs, isAscii c = true) :
    Normal.normalize cs = cs := by
  rw [Normal.normalize, if_pos]
  rw [List.all_eq_true]
  intro c among
  have low := ascii c among
  simp only [isAscii, decide_eq_true_eq] at low
  exact decide_eq_true (Nat.lt_trans low (by decide))

theorem labels?_of_plain {host : List Char} (plain : IsPlain host) (filled : host ≠ [])
    (unencoded : ∀ l ∈ Text.split '.' (host.map Char.toLower), Label.isEncoded l = false) :
    labels? host = some (Text.split '.' (host.map Char.toLower)) := by
  have ascii : ∀ c ∈ host.map Char.toLower, isAscii c = true := fun c among =>
    (plain.lowered c among).1
  have labelAscii : ∀ l ∈ Text.split '.' (host.map Char.toLower), ∀ c ∈ l, isAscii c = true :=
    fun l piece c among => ascii c (Text.mem_of_mem_split piece among)
  have allowed : (host.map Char.toLower).any (fun c => isAscii c && isForbidden c) = false := by
    rw [List.any_eq_false]
    intro c among
    simp [(plain.lowered c among).2]
  have shown : (Text.split '.' (host.map Char.toLower)).mapM Label.shown? =
      some (Text.split '.' (host.map Char.toLower)) := by
    rw [mapM_eq_some_iff, List.forall₂_same]
    intro l piece
    rw [Label.shown?, unencoded l piece, if_neg (by decide), if_pos]
    rw [List.all_eq_true.mpr (labelAscii l piece), Bool.true_or]
  rw [labels?, mapChars?_of_ascii fun c among => (plain c among).1, Option.bind_some]
  dsimp only
  rw [normalize_of_ascii ascii, allowed, if_neg (by decide), shown, Option.bind_some]
  have marks : (Text.split '.' (host.map Char.toLower)).any Label.beginsWithMark = false := by
    rw [List.any_eq_false]
    intro l piece
    cases l with
    | nil => simp [Label.beginsWithMark]
    | cons c l => simp [Label.beginsWithMark, labelAscii _ piece c List.mem_cons_self]
  have joiners : (Text.split '.' (host.map Char.toLower)).all (Label.joinersHold []) = true := by
    rw [List.all_eq_true]
    exact fun l piece => Label.joinersHold_of_ascii (labelAscii l piece) []
  have direction : (Text.split '.' (host.map Char.toLower)).any (fun l =>
      l.any fun c => !isAscii c && (Direction.of c).isDecisive) = false := by
    simp only [List.any_eq_false]
    intro l piece
    rw [Bool.not_eq_true, List.any_eq_false]
    intro c among
    simp [labelAscii l piece c among]
  rw [marks, joiners, direction, if_neg (by decide), if_neg (by simp), if_neg (by simpa using filled)]

namespace Host

/-- A name is read as what its labels are: an address if the last of them is a number. -/
def ofLabels? (ls : List Label) : Option Host :=
  if Ipv4.isMeant ls then (Ipv4.parse? ls).map ipv4 else some (domain ls)

theorem ofName?_eq_some_iff {cs : List Char} {host : Host} :
    ofName? cs = some host ↔ ∃ name ls, Text.Utf8.encode name = percentDecode (Text.Utf8.encode cs) ∧
      labels? name = some ls ∧ ofLabels? ls = some host := by
  rw [ofName?]
  simp only [Option.bind_eq_some_iff, Text.Utf8.text?_eq_some_iff, eq_comm (b := Text.Utf8.encode _)]
  constructor
  · rintro ⟨name, decoded, ls, cut, read⟩
    exact ⟨name, ls, decoded, cut, read⟩
  · rintro ⟨name, ls, decoded, cut, read⟩
    exact ⟨name, decoded, ls, cut, read⟩

theorem ofText?_of_plain {cs : List Char} (plain : IsPlain cs) (filled : cs ≠ [])
    (unencoded : ∀ l ∈ Text.split '.' (cs.map Char.toLower), Label.isEncoded l = false) :
    ofText? cs = ofLabels? (Text.split '.' (cs.map Char.toLower)) := by
  have escape : 0x25 ∉ Text.Utf8.encode cs := fun among =>
    absurd (plain '%' ((Text.Utf8.mem_encode_iff (by decide)).mp among)).2 (by decide +kernel)
  have named : ofName? cs = ofLabels? (Text.split '.' (cs.map Char.toLower)) := by
    rw [ofName?, percentDecode_of_not_mem escape, Text.Utf8.text?_eq_some_iff.mpr rfl, Option.bind_some,
      labels?_of_plain plain filled unencoded, Option.bind_some]
    rfl
  unfold ofText?
  split
  next => exact absurd rfl filled
  next rest => exact absurd (plain '[' List.mem_cons_self).2 (by decide +kernel)
  next => exact named

end Host

end AlertRelay.Origin
