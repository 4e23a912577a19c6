import AlertRelay.Text.Utf8
import Mathlib.Tactic.SplitIfs

/-!
# The order of texts and the order of their octets

Texts are compared character by character. Their octets come out in the same order, because the
leading octet grows with the number of octets and, among characters of one length, the octets
are the digits of the code point from the highest down.
-/
namespace AlertRelay.Text.Utf8

theorem octet_lt_iff {m n : Nat} (hm : m < 256) (hn : n < 256) :
    UInt8.ofNat m < UInt8.ofNat n ↔ m < n := by
  rw [UInt8.lt_iff_toNat_lt, UInt8.toNat_ofNat', UInt8.toNat_ofNat', Nat.mod_eq_of_lt hm,
    Nat.mod_eq_of_lt hn]

theorem octet_eq_iff {m n : Nat} (hm : m < 256) (hn : n < 256) :
    UInt8.ofNat m = UInt8.ofNat n ↔ m = n := by
  rw [← UInt8.toNat_inj, UInt8.toNat_ofNat', UInt8.toNat_ofNat', Nat.mod_eq_of_lt hm,
    Nat.mod_eq_of_lt hn]

/-- Two characters are told apart within the octets of the shorter, so what follows them does not
matter. -/
theorem encodeChar_append_lt {c d : Char} (h : c < d) (s t : List UInt8) :
    String.utf8EncodeChar c ++ s < String.utf8EncodeChar d ++ t := by
  have less : c.val.toNat < d.val.toNat := UInt32.lt_iff_toNat_lt.mp h
  have bound : d.val.toNat < 0x110000 := by
    rcases d.valid with low | ⟨_, high⟩
    · exact Nat.lt_trans low (by decide)
    · exact high
  generalize hm : c.val.toNat = m at less
  generalize hn : d.val.toNat = n at less bound
  have m2 : m / 64 / 64 = m / 4096 := Nat.div_div_eq_div_mul m 64 64
  have m3 : m / 4096 / 64 = m / 262144 := Nat.div_div_eq_div_mul m 4096 64
  have n2 : n / 64 / 64 = n / 4096 := Nat.div_div_eq_div_mul n 64 64
  have n3 : n / 4096 / 64 = n / 262144 := Nat.div_div_eq_div_mul n 4096 64
  have mtop : m / 262144 % 8 = m / 262144 := Nat.mod_eq_of_lt (by omega)
  have ntop : n / 262144 % 8 = n / 262144 := Nat.mod_eq_of_lt (by omega)
  simp only [String.utf8EncodeChar, hm, hn, mtop, ntop]
  -- one case for each pair of lengths; the greater character is never the shorter one
  split_ifs <;>
    simp (disch := omega) only [List.cons_append, List.cons_lt_cons_iff, octet_lt_iff,
      octet_eq_iff] <;>
    omega

theorem encode_lt_of_lt {s t : List Char} (h : s < t) : encode s < encode t := by
  induction h with
  | nil =>
    rename_i d t
    cases hd : String.utf8EncodeChar d with
    | nil => exact absurd hd String.utf8EncodeChar_ne_nil
    | cons b rest =>
      simp only [encode, List.flatMap_cons, hd, List.flatMap_nil, List.cons_append]
      exact List.Lex.nil
  | rel less => exact encodeChar_append_lt less _ _
  | cons _ ih =>
    simp only [encode, List.flatMap_cons]
    exact List.append_left_lt ih

end AlertRelay.Text.Utf8
