import AlertRelay.Json.Quote
import AlertRelay.Proofs.Text.Utf8
import Mathlib.Data.List.Forall2

/-!
# Ways to write a quoted text

A character stands for itself where the grammar lets it, and can always be escaped: some by one
letter, each by its number in UTF-16, which takes a pair of escapes beyond the first plane. The
scanner reads every such text as what is written, whichever way each character was taken, and takes no
other.
-/
namespace AlertRelay.Json.Quote

/-! ## The ways to write -/

/-- A hexadecimal digit in either case. -/
def IsHex (d : Nat) (c : Char) : Prop := c = Nat.digitChar d ∨ c = (Nat.digitChar d).toUpper

instance (d : Nat) (c : Char) : Decidable (IsHex d c) := inferInstanceAs (Decidable (_ ∨ _))

/-- Sixteen bits in four hexadecimal digits. -/
def IsUnit (n : Nat) (cs : List Char) : Prop :=
  List.Forall₂ IsHex [n / 0x1000 % 16, n / 0x100 % 16, n / 0x10 % 16, n % 16] cs

instance (n : Nat) (cs : List Char) : Decidable (IsUnit n cs) :=
  inferInstanceAs (Decidable (List.Forall₂ IsHex _ cs))

/-- The letters that escape a character, and the characters. -/
def shorthands : List (Char × Char) :=
  [('"', '"'), ('\\', '\\'), ('/', '/'), ('b', '\x08'), ('f', '\x0c'), ('n', '\n'), ('r', '\r'),
    ('t', '\t')]

/-- One character in a quoted text. -/
inductive Writes : Char → List Char → Prop
  | raw {c : Char} : 0x20 ≤ c.toNat → c ≠ '"' → c ≠ '\\' → Writes c [c]
  | short {d c : Char} : (d, c) ∈ shorthands → Writes c ['\\', d]
  | unit {c : Char} {hs : List Char} : c.toNat < 0x10000 → IsUnit c.toNat hs →
      Writes c ('\\' :: 'u' :: hs)
  | pair {c : Char} {hs ts : List Char} : 0x10000 ≤ c.toNat →
      IsUnit (0xD800 + (c.toNat - 0x10000) / 0x400) hs →
      IsUnit (0xDC00 + (c.toNat - 0x10000) % 0x400) ts →
      Writes c ('\\' :: 'u' :: (hs ++ '\\' :: 'u' :: ts))

/-- A text, character by character. -/
inductive WritesAll : List Char → List Char → Prop
  | nil : WritesAll [] []
  | cons {c : Char} {cs es fs : List Char} : Writes c es → WritesAll cs fs →
      WritesAll (c :: cs) (es ++ fs)

/-! ## Code units -/

theorem hexDigit?_of_isHex {d : Nat} {c : Char} (small : d < 16) (hex : IsHex d c) :
    hexDigit? c = some d ∧ c.utf8Size = 1 := by
  have lower : ∀ d < 16, hexDigit? (Nat.digitChar d) = some d ∧ (Nat.digitChar d).utf8Size = 1 := by
    decide
  have upper : ∀ d < 16, hexDigit? (Nat.digitChar d).toUpper = some d ∧
      (Nat.digitChar d).toUpper.utf8Size = 1 := by decide
  rcases hex with rfl | rfl
  · exact lower d small
  · exact upper d small

theorem codeUnit_of_isUnit {n : Nat} {hs : List Char} (fits : n < 0x10000) (unit : IsUnit n hs)
    (rest : List Char) : codeUnit (hs ++ rest) = .found n 4 ∧ hs.length = 4 := by
  obtain _ | ⟨first, _ | ⟨second, _ | ⟨third, _ | ⟨fourth, ⟨⟩⟩⟩⟩⟩ := unit
  obtain ⟨a_digit, a_size⟩ := hexDigit?_of_isHex (Nat.mod_lt _ (by decide)) first
  obtain ⟨b_digit, b_size⟩ := hexDigit?_of_isHex (Nat.mod_lt _ (by decide)) second
  obtain ⟨c_digit, c_size⟩ := hexDigit?_of_isHex (Nat.mod_lt _ (by decide)) third
  obtain ⟨d_digit, d_size⟩ := hexDigit?_of_isHex (Nat.mod_lt _ (by decide)) fourth
  have value : ((n / 0x1000 % 16 * 16 + n / 0x100 % 16) * 16 + n / 0x10 % 16) * 16 + n % 16 = n := by
    omega
  refine ⟨?_, rfl⟩
  simp [codeUnit, width, a_digit, b_digit, c_digit, d_digit, a_size, b_size, c_size, d_size, value]

/-- No character is a surrogate. -/
theorem not_surrogate (c : Char) : isLead c.toNat = false ∧ isTrail c.toNat = false := by
  have valid : c.toNat.isValidChar := c.valid
  unfold Nat.isValidChar at valid
  simp only [isLead, isTrail, Bool.and_eq_false_iff, decide_eq_false_iff_not]
  omega

theorem toNat_lt (c : Char) : c.toNat < 0x110000 := by
  have valid : c.toNat.isValidChar := c.valid
  unfold Nat.isValidChar at valid
  omega

theorem trailUnit_of_isUnit {n : Nat} {ts : List Char} (trail : isTrail n = true) (unit : IsUnit n ts)
    (rest : List Char) : trailUnit ('\\' :: 'u' :: (ts ++ rest)) = .found n 6 := by
  have fits : n < 0x10000 := by
    obtain ⟨-, high⟩ := Bool.and_eq_true_iff.mp trail
    have := of_decide_eq_true high
    omega
  simp only [trailUnit, codeUnit_of_isUnit fits unit rest, trail, if_true]

/-! ## Characters -/

/-- An escape is read behind its backslash as the character it stands for. -/
theorem escape_of_writes {c : Char} {es : List Char} (written : Writes c ('\\' :: es))
    (rest : List Char) : escape (es ++ rest) = .found c es.length := by
  generalize whole : '\\' :: es = text at written
  cases written with
  | raw _ _ other =>
    cases whole
    exact absurd rfl other
  | @short d _ member =>
    cases whole
    have table : ∀ p ∈ shorthands, p.1 ≠ 'u' ∧ simpleEscape? p.1 = some p.2 := by decide
    obtain ⟨letter, found⟩ := table _ member
    simp only [escape, List.singleton_append, if_neg letter, found, List.length_singleton]
  | @unit _ hs small unit =>
    cases whole
    obtain ⟨read, size⟩ := codeUnit_of_isUnit small unit rest
    obtain ⟨lead, trail⟩ := not_surrogate c
    simp [escape, unicodeEscape, read, lead, trail, size, Char.ofNat_toNat]
  | @pair _ hs ts large first second =>
    cases whole
    have bound := toNat_lt c
    have lead : isLead (0xD800 + (c.toNat - 0x10000) / 0x400) = true := by
      simp only [isLead, Bool.and_eq_true, decide_eq_true_eq]
      omega
    have other : isTrail (0xD800 + (c.toNat - 0x10000) / 0x400) = false := by
      simp only [isTrail, Bool.and_eq_false_iff, decide_eq_false_iff_not]
      omega
    have trail : isTrail (0xDC00 + (c.toNat - 0x10000) % 0x400) = true := by
      simp only [isTrail, Bool.and_eq_true, decide_eq_true_eq]
      omega
    have joined : ofPair (0xD800 + (c.toNat - 0x10000) / 0x400)
        (0xDC00 + (c.toNat - 0x10000) % 0x400) = c := by
      have value : (0xD800 + (c.toNat - 0x10000) / 0x400 - 0xD800) * 0x400 +
          (0xDC00 + (c.toNat - 0x10000) % 0x400 - 0xDC00) + 0x10000 = c.toNat := by omega
      rw [ofPair, value, Char.ofNat_toNat]
    obtain ⟨read, size⟩ := codeUnit_of_isUnit (by omega) first ('\\' :: 'u' :: (ts ++ rest))
    obtain ⟨-, size'⟩ := codeUnit_of_isUnit (by omega) second rest
    have behind : (hs ++ '\\' :: 'u' :: (ts ++ rest)).drop 4 = '\\' :: 'u' :: (ts ++ rest) := by
      rw [← size, List.drop_left]
    simp only [escape, unicodeEscape, List.cons_append, List.append_assoc, if_true, read, other, lead,
      behind, trailUnit_of_isUnit trail second rest, joined, List.length_cons, List.length_append,
      size, size', Bool.false_eq_true, if_false]

variable {cs rest : List Char} {n : Nat}

theorem scan_skip (taken : List Char) (h : scan 0 rest = .found cs n) :
    scan taken.length (taken ++ rest) = .found cs (n + taken.length) := by
  induction taken with
  | nil => exact h
  | cons c taken ih =>
    rw [List.length_cons, List.cons_append, scan]
    simp only [ih]
    rfl

theorem scan_of_writes {c : Char} {es : List Char} (written : Writes c es)
    (h : scan 0 rest = .found cs n) : scan 0 (es ++ rest) = .found (c :: cs) (n + es.length) := by
  by_cases escaped : ∃ fs, es = '\\' :: fs
  · obtain ⟨fs, rfl⟩ := escaped
    rw [List.cons_append, scan]
    simp only [escape_of_writes written rest, scan_skip fs h]
    rfl
  · cases written with
    | raw printable quote backslash =>
      have shown : ¬ c.toNat < 0x20 := by omega
      rw [List.singleton_append, scan]
      simp only [if_neg quote, if_neg backslash, if_neg shown, h]
      rfl
    | short | unit | pair => exact absurd ⟨_, rfl⟩ escaped

/-- A quoted text is read as the one that was written, to its closing quote. -/
theorem scan_of_writesAll {es : List Char} (written : WritesAll cs es) (rest : List Char) :
    scan 0 (es ++ '"' :: rest) = .found cs (es.length + 1) := by
  induction written with
  | nil => rfl
  | @cons c cs es fs first _ ih =>
    rw [List.append_assoc, scan_of_writes first ih, List.length_append]
    congr 1
    omega

/-! ## What the scanner takes -/

theorem isHex_of_hexDigit? {d : Nat} {c : Char} (read : hexDigit? c = some d) :
    IsHex d c ∧ d < 16 := by
  have small : c.toNat < 103 := by
    unfold hexDigit? at read
    simp only [Bool.and_eq_true, decide_eq_true_eq] at read
    split at read
    · omega
    split at read
    · omega
    split at read
    · omega
    · cases read
  have table : ∀ n : Fin 103, (hexDigit? (Char.ofNat n)).all
      (fun d => decide (IsHex d (Char.ofNat n) ∧ d < 16)) = true := by decide
  have entry := table ⟨c.toNat, small⟩
  rw [Char.ofNat_toNat, read] at entry
  exact of_decide_eq_true entry

theorem isHex_of_mapM {cs : List Char} {ds : List Nat} (read : cs.mapM hexDigit? = some ds) :
    List.Forall₂ (fun d c => IsHex d c ∧ d < 16) ds cs := by
  induction cs generalizing ds with
  | nil =>
    cases read
    exact .nil
  | cons c cs ih =>
    rw [List.mapM_cons] at read
    obtain ⟨d, first, others⟩ := Option.bind_eq_some_iff.mp read
    obtain ⟨rest, more, same⟩ := Option.bind_eq_some_iff.mp others
    cases same
    exact .cons (isHex_of_hexDigit? first) (ih more)

theorem codeUnit_found {cs : List Char} {n k : Nat} (h : codeUnit cs = .found n k) :
    ∃ hs after, cs = hs ++ after ∧ IsUnit n hs ∧ hs.length = 4 ∧ k = 4 ∧ n < 0x10000 := by
  unfold codeUnit at h
  dsimp only at h
  split at h
  · cases h
  split at h
  next a b c d read =>
    cases h
    have digits := isHex_of_mapM read
    refine ⟨cs.take 4, cs.drop 4, (List.take_append_drop 4 cs).symm, ?_⟩
    generalize cs.take 4 = front at digits
    obtain _ | ⟨⟨first, a_small⟩, _ | ⟨⟨second, b_small⟩, _ | ⟨⟨third, c_small⟩,
      _ | ⟨⟨fourth, d_small⟩, ⟨⟩⟩⟩⟩⟩ := digits
    have value : ((a * 16 + b) * 16 + c) * 16 + d < 0x10000 := by omega
    have a_same : (((a * 16 + b) * 16 + c) * 16 + d) / 0x1000 % 16 = a := by omega
    have b_same : (((a * 16 + b) * 16 + c) * 16 + d) / 0x100 % 16 = b := by omega
    have c_same : (((a * 16 + b) * 16 + c) * 16 + d) / 0x10 % 16 = c := by omega
    have d_same : (((a * 16 + b) * 16 + c) * 16 + d) % 16 = d := by omega
    refine ⟨?_, rfl, rfl, value⟩
    rw [IsUnit, a_same, b_same, c_same, d_same]
    exact .cons first (.cons second (.cons third (.cons fourth .nil)))
  · cases h

theorem trailUnit_found {cs : List Char} {n k : Nat} (h : trailUnit cs = .found n k) :
    ∃ ts after, cs = '\\' :: 'u' :: (ts ++ after) ∧ IsUnit n ts ∧ ts.length = 4 ∧
      isTrail n = true ∧ k = 6 := by
  unfold trailUnit at h
  split at h
  · cases h
  · split at h
    · cases h
    · split at h
      next m length read =>
        split at h
        next trail =>
          cases h
          obtain ⟨ts, after, rfl, unit, size, rfl, -⟩ := codeUnit_found read
          exact ⟨ts, after, rfl, unit, size, trail, rfl⟩
        · cases h
      · cases h
    · cases h
  · cases h

/-- Numbers that are no surrogates are those of characters. -/
theorem toNat_ofNat {n : Nat} (fits : n < 0x110000) (lead : isLead n = false)
    (trail : isTrail n = false) : (Char.ofNat n).toNat = n := by
  have valid : n.isValidChar := by
    simp only [isLead, isTrail, Bool.and_eq_false_iff, decide_eq_false_iff_not] at lead trail
    unfold Nat.isValidChar
    omega
  exact Text.Utf8.toNat_ofNat_char valid

/-- A pair of surrogates is that of its character. -/
theorem ofPair_spec {n t : Nat} (lead : isLead n = true) (trail : isTrail t = true) :
    0x10000 ≤ (ofPair n t).toNat ∧ 0xD800 + ((ofPair n t).toNat - 0x10000) / 0x400 = n ∧
      0xDC00 + ((ofPair n t).toNat - 0x10000) % 0x400 = t := by
  simp only [isLead, isTrail, Bool.and_eq_true, decide_eq_true_eq] at lead trail
  have valid : ((n - 0xD800) * 0x400 + (t - 0xDC00) + 0x10000).isValidChar := by
    unfold Nat.isValidChar
    omega
  have same : (ofPair n t).toNat = (n - 0xD800) * 0x400 + (t - 0xDC00) + 0x10000 :=
    Text.Utf8.toNat_ofNat_char valid
  rw [same]
  omega

theorem unicodeEscape_found {cs : List Char} {c : Char} {k : Nat}
    (h : unicodeEscape cs = .found c k) :
    ∃ es after, cs = es ++ after ∧ Writes c ('\\' :: 'u' :: es) ∧ k = es.length := by
  unfold unicodeEscape at h
  split at h
  · cases h
  next n length read =>
    obtain ⟨hs, after, rfl, unit, size, rfl, small⟩ := codeUnit_found read
    split at h
    · cases h
    next trail =>
    split at h
    next lead =>
      rw [← size, List.drop_left] at h
      split at h
      next t more second =>
        obtain ⟨rfl, rfl⟩ := Scan.found.inj h
        obtain ⟨ts, after, rfl, unit', size', trail, rfl⟩ := trailUnit_found second
        obtain ⟨large, high, low⟩ := ofPair_spec lead trail
        refine ⟨hs ++ '\\' :: 'u' :: ts, after, by simp, .pair large ?_ ?_, ?_⟩
        · rw [high]
          exact unit
        · rw [low]
          exact unit'
        · simp [size']
      · cases h
    next lead =>
      obtain ⟨rfl, rfl⟩ := Scan.found.inj h
      have same := toNat_ofNat (Nat.lt_trans small (by decide)) (Bool.not_eq_true _ ▸ lead)
        (Bool.not_eq_true _ ▸ trail)
      refine ⟨hs, after, rfl, .unit (by rw [same]; exact small) ?_, size.symm⟩
      rw [same]
      exact unit

theorem escape_found {cs : List Char} {c : Char} {k : Nat} (h : escape cs = .found c k) :
    ∃ es after, cs = es ++ after ∧ Writes c ('\\' :: es) ∧ k = es.length := by
  unfold escape at h
  split at h
  · cases h
  next d rest =>
  split at h
  next letter =>
    subst letter
    split at h
    next length read =>
      obtain ⟨rfl, rfl⟩ := Scan.found.inj h
      obtain ⟨es, after, rfl, written, rfl⟩ := unicodeEscape_found read
      exact ⟨'u' :: es, after, rfl, written, rfl⟩
    · cases h
  next =>
    split at h
    next e short =>
      obtain ⟨rfl, rfl⟩ := Scan.found.inj h
      have member : (d, e) ∈ shorthands := by
        unfold simpleEscape? at short
        split at short <;> cases short <;> decide
      exact ⟨[d], rest, rfl, .short member, rfl⟩
    · cases h

/-- What the scanner takes is a way to write the text that it finds, and the closing quote. -/
theorem scan_found {text : List Char} {skip : Nat} (h : scan skip cs = .found text n) :
    ∃ front es after, cs = front ++ (es ++ '"' :: after) ∧ front.length = skip ∧
      WritesAll text es ∧ n = skip + es.length + 1 := by
  induction cs generalizing skip text n with
  | nil => cases h
  | cons c rest ih =>
    cases skip with
    | succ skip =>
      rw [scan] at h
      split at h
      next read =>
        obtain ⟨rfl, rfl⟩ := Scan.found.inj h
        obtain ⟨front, es, after, rfl, rfl, written, rfl⟩ := ih read
        exact ⟨c :: front, es, after, rfl, rfl, written, by omega⟩
      · cases h
    | zero =>
      rw [scan] at h
      split at h
      next quote =>
        obtain ⟨rfl, rfl⟩ := Scan.found.inj h
        exact ⟨[], [], rest, by rw [quote]; rfl, rfl, .nil, rfl⟩
      next quote =>
      split at h
      next backslash =>
        subst backslash
        split at h
        · cases h
        next d more read =>
          obtain ⟨fs, _, whole, written, rfl⟩ := escape_found read
          split at h
          next others =>
            obtain ⟨rfl, rfl⟩ := Scan.found.inj h
            obtain ⟨front, es, after, rfl, size, contents, rfl⟩ := ih others
            obtain ⟨rfl, -⟩ := List.append_inj whole size
            refine ⟨[], '\\' :: front ++ es, after, by simp, rfl, .cons written contents, ?_⟩
            simp only [List.cons_append, List.length_cons, List.length_append]
            omega
          · cases h
      next backslash =>
      split at h
      · cases h
      next printable =>
        split at h
        next others =>
          obtain ⟨rfl, rfl⟩ := Scan.found.inj h
          obtain ⟨front, es, after, rfl, size, contents, rfl⟩ := ih others
          obtain rfl := List.length_eq_zero_iff.mp size
          have raw : Writes c [c] := .raw (Nat.le_of_not_lt printable) quote backslash
          refine ⟨[], c :: es, after, rfl, rfl, .cons raw contents, ?_⟩
          rw [List.length_cons]
          omega
        · cases h

/-! ## Every text can be written -/

/-- The character can stand for itself. -/
def isPlain (c : Char) : Bool := 0x20 ≤ c.toNat && c ≠ '"' && c ≠ '\\'

theorem writesAll_raw {cs : List Char} (plain : cs.all isPlain = true) : WritesAll cs cs := by
  induction cs with
  | nil => exact .nil
  | cons c cs ih =>
    rw [List.all_cons, Bool.and_eq_true, isPlain] at plain
    obtain ⟨here, plain⟩ := plain
    simp only [Bool.and_eq_true, decide_eq_true_eq] at here
    obtain ⟨⟨printable, quote⟩, backslash⟩ := here
    exact .cons (.raw printable quote backslash) (ih plain)

theorem exists_isUnit (n : Nat) : ∃ hs, IsUnit n hs :=
  ⟨[_, _, _, _], .cons (.inl rfl) (.cons (.inl rfl) (.cons (.inl rfl) (.cons (.inl rfl) .nil)))⟩

theorem exists_writesAll (cs : List Char) : ∃ es, WritesAll cs es := by
  induction cs with
  | nil => exact ⟨[], .nil⟩
  | cons c cs ih =>
    obtain ⟨fs, more⟩ := ih
    by_cases small : c.toNat < 0x10000
    · obtain ⟨hs, unit⟩ := exists_isUnit c.toNat
      exact ⟨_, .cons (.unit small unit) more⟩
    · obtain ⟨hs, first⟩ := exists_isUnit (0xD800 + (c.toNat - 0x10000) / 0x400)
      obtain ⟨ts, second⟩ := exists_isUnit (0xDC00 + (c.toNat - 0x10000) % 0x400)
      exact ⟨_, .cons (.pair (Nat.le_of_not_lt small) first second) more⟩

end AlertRelay.Json.Quote
