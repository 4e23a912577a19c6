import AlertRelay.Proofs.Origin.Numeral

/-!
# Ways to write an address

An address of 32 bits is written as up to three octets and a number that fills the rest, each of them in
decimal, octal or hexadecimal, with zeros in front in the latter two. The reader takes every such text
for the address that is written, and no other text for any. The first octet of an address is told
whichever way it is written.
-/
namespace AlertRelay.Origin.Ipv4

/-! ## Parts -/

/-- A number as a part of an address; `0x` alone stands for zero. -/
inductive IsPart : Nat → List Char → Prop
  | decimal (n : Nat) : IsPart n (Nat.toDigits 10 n)
  | octal {n : Nat} {cs : List Char} : IsNumeral 8 n cs → IsPart n ('0' :: cs)
  | hexadecimal {n : Nat} {x : Char} {cs : List Char} : x.toLower = 'x' → IsNumeral 16 n cs →
      IsPart n ('0' :: x :: cs)
  | bare {x : Char} : x.toLower = 'x' → IsPart 0 ['0', x]

theorem eq_of_toLower_eq_x {x : Char} (sign : x.toLower = 'x') : x = 'x' ∨ x = 'X' := by
  by_cases upper : x.toNat ≤ 90
  · exact .inr (char_table (p := fun x => x.toLower = 'x' → x = 'X') (by decide)
      (Nat.lt_succ_of_le upper) sign)
  · left
    rwa [toLower_of_high upper] at sign

theorem part?_hexadecimal {x : Char} (sign : x.toLower = 'x') (cs : List Char) :
    part? ('0' :: x :: cs) = numeral? 16 cs := by
  rcases eq_of_toLower_eq_x sign with rfl | rfl
  all_goals rfl

theorem part?_octal {d : Char} (other : d.toLower ≠ 'x') (cs : List Char) :
    part? ('0' :: d :: cs) = numeral? 8 (d :: cs) := by
  unfold part?
  split
  next impossible => cases impossible
  next same =>
    cases same
    exact absurd rfl other
  next same =>
    cases same
    exact absurd rfl other
  next same =>
    cases same
    rfl
  next none => exact absurd rfl (none d cs)

theorem part?_decimal {c : Char} (other : c ≠ '0') (cs : List Char) :
    part? (c :: cs) = numeral? 10 (c :: cs) := by
  unfold part?
  split
  next impossible => cases impossible
  next same =>
    cases same
    exact absurd rfl other
  next same =>
    cases same
    exact absurd rfl other
  next same =>
    cases same
    exact absurd rfl other
  · rfl

theorem head?_toDigits {n : Nat} (positive : 0 < n) :
    ∃ c cs, Nat.toDigits 10 n = c :: cs ∧ c ≠ '0' := by
  induction n using Nat.strongRecOn with
  | ind n ih =>
    by_cases single : n < 10
    · refine ⟨_, [], Nat.toDigits_of_lt_base single, ?_⟩
      rw [ne_eq, Nat.digitChar_eq_zero]
      omega
    · obtain ⟨c, cs, front, other⟩ := ih (n / 10) (by omega) (by omega)
      refine ⟨c, cs ++ [(n % 10).digitChar], ?_, other⟩
      rw [Nat.toDigits_of_base_le (by decide) (by omega), front, List.cons_append]

theorem part?_of_isPart {n : Nat} {cs : List Char} (written : IsPart n cs) : part? cs = some n := by
  cases written with
  | decimal =>
    rcases Nat.eq_zero_or_pos n with rfl | positive
    · rfl
    · obtain ⟨c, cs, spelled, other⟩ := head?_toDigits positive
      rw [spelled, part?_decimal other, ← spelled]
      exact numeral?_toDigits (by decide) (by decide) n
  | @octal _ cs numeral =>
    have read := (numeral?_eq_some_iff (by decide) (by decide) numeral.filled).mpr numeral
    obtain ⟨d, rest, rfl⟩ := List.exists_cons_of_ne_nil numeral.filled
    rw [part?_octal, read]
    -- The sign of a hexadecimal number is no digit.
    intro sign
    rw [numeral?, List.foldlM_cons, ← hexDigit?_toLower, sign] at read
    cases read
  | @hexadecimal _ _ cs sign numeral =>
    rw [part?_hexadecimal sign]
    exact (numeral?_eq_some_iff (by decide) (by decide) numeral.filled).mpr numeral
  | bare sign =>
    rw [part?_hexadecimal sign]
    rfl

theorem isPart_of_part? {n : Nat} {cs : List Char} (read : part? cs = some n) : IsPart n cs := by
  rcases cs with _ | ⟨c, cs⟩
  · cases read
  by_cases zero : c = '0'
  · subst zero
    rcases cs with _ | ⟨d, cs⟩
    · cases read
      exact .decimal 0
    by_cases sign : d.toLower = 'x'
    · rw [part?_hexadecimal sign] at read
      by_cases empty : cs = []
      · subst empty
        cases read
        exact .bare sign
      · exact .hexadecimal sign ((numeral?_eq_some_iff (by decide) (by decide) empty).mp read)
    · rw [part?_octal sign] at read
      exact .octal ((numeral?_eq_some_iff (by decide) (by decide) (List.cons_ne_nil d cs)).mp read)
  · rw [part?_decimal zero] at read
    have digits : ∀ d ∈ c :: cs, d.isDigit = true := by
      rw [numeral?_decimal] at read
      split at read
      next all => exact List.all_eq_true.mp all
      · cases read
    obtain ⟨zeros, spelled⟩ :=
      (numeral?_eq_some_iff (by decide) (by decide) (List.cons_ne_nil c cs)).mp read
    have same : (c :: cs).map Char.toLower = c :: cs := by
      conv_rhs => rw [← List.map_id (c :: cs)]
      exact List.map_congr_left fun d among => toLower_of_isDigit (digits d among)
    rw [same] at spelled
    cases zeros with
    | zero =>
      rw [spelled]
      exact .decimal n
    | succ zeros =>
      rw [List.replicate_succ, List.cons_append] at spelled
      exact absurd (List.cons.inj spelled).1 zero

theorem part?_eq_some_iff {n : Nat} {cs : List Char} : part? cs = some n ↔ IsPart n cs :=
  ⟨isPart_of_part?, part?_of_isPart⟩

/-! ## Addresses -/

/-- The number that octets stand for, the first of them counting most. -/
def ofOctets (octets : List Nat) : Nat := octets.foldl (fun n b => n * 256 + b) 0

/-- Octets and a number that fills the rest of the address. -/
structure Fills (octets : List Nat) (last a : Nat) : Prop where
  few : octets.length ≤ 3
  octet : ∀ b ∈ octets, b < 256
  fits : last < 256 ^ (4 - octets.length)
  total : a = ofOctets octets * 256 ^ (4 - octets.length) + last

/-- An address, in up to four parts. -/
def IsAddress (a : Nat) (parts : List (List Char)) : Prop :=
  ∃ octets last, List.Forall₂ IsPart (octets ++ [last]) parts ∧ Fills octets last a

theorem combine?_concat {octets : List Nat} {last a : Nat} :
    combine? (octets ++ [last]) = some a ↔ Fills octets last a := by
  have shift : ∀ n k, n <<< (8 * k) = n * 256 ^ k := fun n k => by
    rw [Nat.shiftLeft_eq, Nat.pow_mul]
  have refused : (decide (3 < octets.length) || decide (256 ^ (4 - octets.length) ≤ last) ||
      octets.any fun b => decide (255 < b)) = false ↔
      octets.length ≤ 3 ∧ last < 256 ^ (4 - octets.length) ∧ ∀ b ∈ octets, b < 256 := by
    simp only [Bool.or_eq_false_iff, decide_eq_false_iff_not, List.any_eq_false, decide_eq_true_eq,
      Nat.not_lt, Nat.not_le, and_assoc, Nat.lt_succ_iff]
  rw [combine?, List.reverse_append]
  simp only [List.reverse_singleton, List.singleton_append, List.length_reverse, List.any_reverse,
    List.reverse_reverse, shift, Nat.one_mul]
  constructor
  · intro read
    split at read
    · cases read
    next within =>
      obtain ⟨few, fits, octet⟩ := refused.mp (eq_false_of_ne_true within)
      cases read
      exact ⟨few, octet, fits, rfl⟩
  · rintro ⟨few, octet, fits, rfl⟩
    rw [refused.mpr ⟨few, fits, octet⟩]
    rfl

theorem mapM_combine?_iff {parts : List (List Char)} {a : Nat} :
    (parts.mapM part?).bind combine? = some a ↔ IsAddress a parts := by
  simp only [Option.bind_eq_some_iff, mapM_eq_some_iff, part?_eq_some_iff]
  constructor
  · rintro ⟨ns, written, read⟩
    rcases List.eq_nil_or_concat ns with rfl | ⟨octets, last, rfl⟩
    · cases read
    · rw [List.concat_eq_append] at written read
      exact ⟨octets, last, written, combine?_concat.mp read⟩
  · rintro ⟨octets, last, written, fills⟩
    exact ⟨_, written, combine?_concat.mpr fills⟩

namespace IsAddress
variable {a : Nat} {parts : List (List Char)} (address : IsAddress a parts)
include address

theorem part {p : List Char} (among : p ∈ parts) : ∃ n, IsPart n p := by
  obtain ⟨octets, last, written, -⟩ := address
  generalize octets ++ [last] = ns at written
  induction written with
  | nil => cases among
  | cons first _ ih =>
    rcases List.mem_cons.mp among with rfl | among
    · exact ⟨_, first⟩
    · exact ih among

theorem part_filled {p : List Char} (among : p ∈ parts) : p ≠ [] := by
  rintro rfl
  obtain ⟨n, written⟩ := address.part among
  cases part?_of_isPart written

theorem last : ∃ front p, parts = front ++ [p] := by
  rcases List.eq_nil_or_concat parts with rfl | ⟨front, p, cut⟩
  · obtain ⟨octets, last, written, -⟩ := address
    simpa using written.length_eq
  · exact ⟨front, p, by rw [cut, List.concat_eq_append]⟩

end IsAddress

/-- One point may stand behind an address. -/
def IsAddressText (a : Nat) (parts : List (List Char)) : Prop :=
  IsAddress a parts ∨ ∃ front, parts = front ++ [[]] ∧ IsAddress a front

theorem parse?_eq_some_iff {parts : List (List Char)} {a : Nat} :
    parse? parts = some a ↔ IsAddressText a parts := by
  rw [parse?, mapM_combine?_iff, IsAddressText]
  by_cases ends : parts.getLast? = some []
  · obtain ⟨front, rfl⟩ := List.getLast?_eq_some_iff.mp ends
    rw [if_pos ends, List.dropLast_concat]
    constructor
    · exact fun address => .inr ⟨front, rfl, address⟩
    · rintro (address | ⟨front', same, address⟩)
      · exact absurd rfl (address.part_filled (List.mem_append_right _ (List.mem_singleton_self _)))
      · rwa [List.append_cancel_right same]
  · rw [if_neg ends]
    constructor
    · exact .inl
    · rintro (address | ⟨front, rfl, -⟩)
      · exact address
      · exact absurd List.getLast?_concat ends

/-- An address is never taken for a name. -/
theorem isMeant_of_isAddressText {a : Nat} {parts : List (List Char)}
    (address : IsAddressText a parts) : isMeant parts = true := by
  have told {parts : List (List Char)} (address : IsAddress a parts) {front : List (List Char)}
      {p : List Char} (cut : parts = front ++ [p]) :
      p ≠ [] ∧ (!p.isEmpty && (p.all Char.isDigit || (part? p).isSome)) = true := by
    have among : p ∈ parts := by simp [cut]
    obtain ⟨n, written⟩ := address.part among
    simp [part?_of_isPart written, address.part_filled among]
  rcases address with address | ⟨front, rfl, address⟩
  · obtain ⟨front, p, cut⟩ := address.last
    obtain ⟨filled, told⟩ := told address cut
    obtain ⟨c, p, rfl⟩ := List.exists_cons_of_ne_nil filled
    simpa [isMeant, last?, cut] using told
  · obtain ⟨front, p, rfl⟩ := address.last
    simpa [isMeant, last?] using (told address rfl).2

/-! ## The first octet -/

/-- The first octet is the first number, if there are several, and else part of the only one. -/
theorem Fills.first {octets : List Nat} {last a : Nat} (fills : Fills octets last a) :
    a / 2 ^ 24 = octets.headD (last / 2 ^ 24) := by
  obtain ⟨few, octet, fits, rfl⟩ := fills
  rcases octets with _ | ⟨b, _ | ⟨c, _ | ⟨d, _ | _⟩⟩⟩
  all_goals simp [ofOctets] at few octet fits ⊢
  all_goals omega

/-- Addresses of the machine itself are those from 127.0.0.0 up to 127.255.255.255. -/
theorem isLoopback_iff {a : Nat} :
    isLoopback a = true ↔ 127 * 2 ^ 24 ≤ a ∧ a < 128 * 2 ^ 24 := by
  rw [isLoopback, beq_iff_eq, Nat.shiftRight_eq_div_pow]
  omega

/-- So whichever way an address is written, its first octet tells whether it is the machine itself. -/
theorem Fills.isLoopback_iff {octets : List Nat} {last a : Nat} (fills : Fills octets last a) :
    isLoopback a = true ↔ octets.headD (last / 2 ^ 24) = 127 := by
  rw [isLoopback, beq_iff_eq, Nat.shiftRight_eq_div_pow, fills.first]

end AlertRelay.Origin.Ipv4
