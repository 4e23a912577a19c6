import AlertRelay.Alert
import Mathlib.Data.List.Basic

/-!
# What the wording of an alert tells

The tag of an alert is made from its key alone and tells the key. The body is made from its count
alone and tells the count, which is the number that it begins with, in the singular as in the plural.
-/
namespace AlertRelay

theorem tagOf_inj {key key' : String} : tagOf key = tagOf key' ↔ key = key' :=
  String.append_right_inj "detection-"

/-! ## The count in the body -/

theorem isDigit_of_mem_decimal {n : Nat} : ∀ c ∈ Nat.toDigits 10 n, c.isDigit = true :=
  fun _ member => Nat.isDigit_of_mem_toDigits (by decide) (by decide) member

/-- A body begins with the digits of its count and a blank. -/
theorem bodyOf_begins (count : UInt32) :
    ∃ rest, (bodyOf count).toList = Nat.toDigits 10 count.toNat ++ ' ' :: rest := by
  unfold bodyOf
  split
  next one =>
    subst one
    exact ⟨"suspicious activity warning detected".toList, by decide +kernel⟩
  next =>
    refine ⟨"suspicious activity warnings detected".toList, ?_⟩
    have words : " suspicious activity warnings detected".toList =
        ' ' :: "suspicious activity warnings detected".toList := by decide +kernel
    rw [String.toList_append, words]
    exact congrArg (· ++ _) Nat.toList_repr

theorem head?_bodyOf (count : UInt32) : ∃ c, (bodyOf count).toList.head? = some c ∧ c.isDigit = true := by
  obtain ⟨rest, body⟩ := bodyOf_begins count
  obtain ⟨c, cs, digits⟩ := List.exists_cons_of_ne_nil (Nat.toDigits_ne_nil (b := 10) (n := count.toNat))
  refine ⟨c, ?_, isDigit_of_mem_decimal c (digits ▸ List.mem_cons_self)⟩
  rw [body, digits]
  rfl

/-- The number that a text begins with. -/
def leadingNumber (text : String) : Nat := Nat.ofDigitChars 10 (text.toList.takeWhile Char.isDigit) 0

theorem leadingNumber_bodyOf (count : UInt32) : leadingNumber (bodyOf count) = count.toNat := by
  obtain ⟨rest, body⟩ := bodyOf_begins count
  have blank : (' ' :: rest).takeWhile Char.isDigit = [] := List.takeWhile_cons_of_neg (by decide)
  rw [leadingNumber, body, List.takeWhile_append_of_pos isDigit_of_mem_decimal, blank,
    List.append_nil, Nat.ofDigitChars_ten_toDigits]

theorem bodyOf_inj {count count' : UInt32} : bodyOf count = bodyOf count' ↔ count = count' := by
  constructor
  · intro same
    have numbers := congrArg leadingNumber same
    rwa [leadingNumber_bodyOf, leadingNumber_bodyOf, UInt32.toNat_inj] at numbers
  · rintro rfl
    rfl

/-- The request of an alert tells its key by the tag and its count by the body. -/
theorem Decision.request_compose_inj {key key' : String} {count count' : UInt32} :
    (compose key count).request = (compose key' count').request ↔ key = key' ∧ count = count' := by
  constructor
  · intro same
    exact ⟨tagOf_inj.mp (congrArg Request.tag same), bodyOf_inj.mp (congrArg Request.body same)⟩
  · rintro ⟨rfl, rfl⟩
    rfl

end AlertRelay
