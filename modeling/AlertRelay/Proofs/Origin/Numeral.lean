import AlertRelay.Proofs.Json.Quoting
import AlertRelay.Proofs.Origin.Forbidden

/-!
# Numerals of a base

A text is read as a number exactly if it is the digits of that number, in either case and with any zeros
in front. A decimal text is read as the number its digits make up.
-/
namespace AlertRelay.Origin

open Json.Quote (hexDigit? IsHex hexDigit?_of_isHex isHex_of_hexDigit?)

/-- The digits of a number, letters of either case, perhaps with zeros in front. -/
def IsNumeral (base n : Nat) (cs : List Char) : Prop :=
  ∃ zeros, cs.map Char.toLower = List.replicate zeros '0' ++ Nat.toDigits base n

theorem IsNumeral.filled {base n : Nat} {cs : List Char} (numeral : IsNumeral base n cs) : cs ≠ [] := by
  rintro rfl
  obtain ⟨zeros, spelled⟩ := numeral
  exact Nat.toDigits_ne_nil (List.append_eq_nil_iff.mp spelled.symm).2

theorem toLower_of_isHex {d : Nat} {c : Char} (small : d < 16) (hex : IsHex d c) :
    c.toLower = Nat.digitChar d := by
  have lower : ∀ d < 16, (Nat.digitChar d).toLower = Nat.digitChar d := by decide
  have upper : ∀ d < 16, (Nat.digitChar d).toUpper.toLower = Nat.digitChar d := by decide
  rcases hex with rfl | rfl
  · exact lower d small
  · exact upper d small

theorem hexDigit?_digitChar {d : Nat} (small : d < 16) : hexDigit? (Nat.digitChar d) = some d :=
  (hexDigit?_of_isHex small (.inl rfl)).1

theorem hexDigit?_toLower (c : Char) : hexDigit? c.toLower = hexDigit? c := by
  by_cases upper : c.toNat ≤ 90
  · exact char_table (p := fun c => hexDigit? c.toLower = hexDigit? c) (by decide)
      (Nat.lt_succ_of_le upper)
  · rw [toLower_of_high upper]

theorem numeral?_concat (base : Nat) (cs : List Char) (c : Char) :
    numeral? base (cs ++ [c]) = (numeral? base cs).bind fun n =>
      (hexDigit? c).bind fun d => if d < base then some (n * base + d) else none := by
  simp only [numeral?, List.foldlM_append, List.foldlM_cons, List.foldlM_nil, Option.bind_eq_bind,
    Option.pure_def, Option.bind_fun_some]

theorem numeral?_toLower (base : Nat) (cs : List Char) :
    numeral? base (cs.map Char.toLower) = numeral? base cs := by
  rw [numeral?, List.foldlM_map]
  simp only [hexDigit?_toLower, numeral?]

theorem numeral?_zeros {base : Nat} (positive : 0 < base) (zeros : Nat) (cs : List Char) :
    numeral? base (List.replicate zeros '0' ++ cs) = numeral? base cs := by
  induction zeros with
  | zero => rfl
  | succ zeros ih =>
    have zero : hexDigit? '0' = some 0 := rfl
    rw [List.replicate_succ, List.cons_append, numeral?, List.foldlM_cons, zero]
    simp only [Option.bind_some, if_pos positive, Nat.zero_mul, Nat.add_zero, Option.bind_eq_bind]
    exact ih

section
variable {base : Nat} (large : 1 < base) (small : base ≤ 16)
include large small

theorem numeral?_toDigits (n : Nat) : numeral? base (Nat.toDigits base n) = some n := by
  induction n using Nat.strongRecOn with
  | ind n ih =>
    by_cases single : n < base
    · rw [Nat.toDigits_of_lt_base single, numeral?, List.foldlM_cons, hexDigit?_digitChar (by omega)]
      simp [single]
    · have below : n / base < n := Nat.div_lt_self (by omega) large
      have digit : n % base < base := Nat.mod_lt n (by omega)
      rw [Nat.toDigits_of_base_le large (by omega), numeral?_concat, ih _ below,
        hexDigit?_digitChar (by omega)]
      simp only [Option.bind_some, if_pos digit, Option.some.injEq]
      exact Nat.div_add_mod' n base

/-- A numeral is read from its end: without its last digit it is a numeral of the quotient. -/
theorem isNumeral_of_numeral? {cs : List Char} (filled : cs ≠ []) {n : Nat}
    (read : numeral? base cs = some n) : IsNumeral base n cs := by
  induction cs using List.reverseRecOn generalizing n with
  | nil => exact absurd rfl filled
  | append_singleton cs c ih =>
    rw [numeral?_concat] at read
    obtain ⟨m, front, read⟩ := Option.bind_eq_some_iff.mp read
    obtain ⟨d, digit, read⟩ := Option.bind_eq_some_iff.mp read
    split at read
    next below =>
      cases read
      obtain ⟨hex, bound⟩ := isHex_of_hexDigit? digit
      have last := toLower_of_isHex bound hex
      by_cases empty : cs = []
      · subst empty
        cases front
        refine ⟨0, ?_⟩
        rw [Nat.zero_mul, Nat.zero_add, Nat.toDigits_of_lt_base below]
        simpa using last
      obtain ⟨zeros, spelled⟩ := ih empty front
      rw [IsNumeral, List.map_append, spelled, List.map_singleton, last]
      by_cases zero : m = 0
      · subst zero
        refine ⟨zeros + 1, ?_⟩
        rw [Nat.zero_mul, Nat.zero_add, Nat.toDigits_zero, Nat.toDigits_of_lt_base below,
          List.replicate_succ']
      · have carries : base ≤ m * base + d :=
          Nat.le_add_right_of_le (Nat.le_mul_of_pos_left base (Nat.pos_of_ne_zero zero))
        have quotient : (m * base + d) / base = m := by
          rw [Nat.add_comm, Nat.add_mul_div_right _ _ (by omega), Nat.div_eq_of_lt below, Nat.zero_add]
        have rest : (m * base + d) % base = d := by
          rw [Nat.add_comm, Nat.add_mul_mod_self_right, Nat.mod_eq_of_lt below]
        refine ⟨zeros, ?_⟩
        rw [Nat.toDigits_of_base_le large carries, quotient, rest, List.append_assoc]
    · cases read

theorem numeral?_eq_some_iff {cs : List Char} (filled : cs ≠ []) {n : Nat} :
    numeral? base cs = some n ↔ IsNumeral base n cs := by
  constructor
  · exact isNumeral_of_numeral? large small filled
  · rintro ⟨zeros, spelled⟩
    rw [← numeral?_toLower, spelled, numeral?_zeros (by omega), numeral?_toDigits large small]

end

/-! ## Decimal numerals -/

theorem hexDigit?_bind_decimal (c : Char) (n : Nat) :
    ((Json.Quote.hexDigit? c).bind fun d => if d < 10 then some (n * 10 + d) else none) =
      if c.isDigit then some (10 * n + (c.toNat - '0'.toNat)) else none := by
  have isDigit : c.isDigit = true ↔ 48 ≤ c.toNat ∧ c.toNat ≤ 57 := Char.isDigit_iff_toNat
  simp only [Json.Quote.hexDigit?, Bool.and_eq_true, decide_eq_true_eq, isDigit]
  split
  · simp only [Option.bind_some]
    rw [if_pos (by omega), Nat.mul_comm]
    rfl
  split
  · simp only [Option.bind_some]
    rw [if_neg (by omega)]
  split
  · simp only [Option.bind_some]
    rw [if_neg (by omega)]
  · rfl

theorem foldlM_decimal (digits : List Char) (start : Nat) :
    digits.foldlM (fun n c => (Json.Quote.hexDigit? c).bind fun d =>
        if d < 10 then some (n * 10 + d) else none) start =
      if digits.all Char.isDigit then some (Nat.ofDigitChars 10 digits start) else none := by
  induction digits generalizing start with
  | nil => rfl
  | cons c digits ih =>
    rw [List.foldlM_cons, hexDigit?_bind_decimal]
    cases digit : c.isDigit with
    | false => simp [digit]
    | true =>
      simp only [if_true, Option.bind_eq_bind, Option.bind_some, ih, List.all_cons, digit,
        Bool.true_and, Nat.ofDigitChars_cons]

theorem numeral?_decimal (digits : List Char) :
    numeral? 10 digits =
      if digits.all Char.isDigit then some (Nat.ofDigitChars 10 digits 0) else none :=
  foldlM_decimal digits 0

theorem toLower_of_isDigit {c : Char} (digit : c.isDigit = true) : c.toLower = c := by
  apply Char.toLower_eq_of_not_isUpper
  intro upper
  have below := (Char.isDigit_iff_toNat.mp digit).2
  exact absurd (Nat.le_trans (isUpper_iff.mp upper).1 below) (by decide)

end AlertRelay.Origin
