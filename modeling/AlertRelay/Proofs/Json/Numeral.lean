import AlertRelay.Json.Numeral
import Mathlib.Data.List.TakeWhile

/-!
# Numerals

The text of a numeral is a sign, whole digits, a fraction and an exponent, of which only the digits
have to be there. The scanner takes such texts and no others, each as the numeral that it writes, as
long as nothing behind it could belong to it. Only plain digits give a natural number: a sign, a
fraction or an exponent makes it negative or a float, and so do more digits than fit 64 bits. Nothing is
rounded or wrapped on the way.
-/
namespace AlertRelay.Json.Numeral

/-- The digit that a character stands for, if it is one. -/
def digitOf (c : Char) : Nat := c.toNat - 48

theorem digit?_eq (c : Char) : digit? c = if c.isDigit then some (digitOf c) else none := by
  have same : (48 ≤ c.toNat && c.toNat ≤ 57) = c.isDigit := by
    rw [Bool.eq_iff_iff]
    simp [Char.isDigit, UInt32.le_iff_toNat_le]
  rw [digit?, same]
  rfl

theorem digits_eq (cs : List Char) :
    digits cs = ((cs.takeWhile Char.isDigit).map digitOf, cs.dropWhile Char.isDigit) := by
  induction cs with
  | nil => rfl
  | cons c rest ih =>
    rw [digits, digit?_eq]
    cases isDigit : c.isDigit with
    | true => simp [ih, isDigit]
    | false => simp [isDigit]

/-- The number that digits stand for, some already read. -/
def amount (start : Nat) (ds : List Nat) : Nat := ds.foldl (fun n d => n * 10 + d) start

theorem amount_map (cs : List Char) (start : Nat) :
    amount start (cs.map digitOf) = Nat.ofDigitChars 10 cs start := by
  rw [amount, List.foldl_map, Nat.ofDigitChars_eq_foldl]
  simp only [Nat.mul_comm 10]
  rfl

theorem le_amount (ds : List Nat) (start : Nat) : start ≤ amount start ds := by
  induction ds generalizing start with
  | nil => exact Nat.le_refl start
  | cons d rest ih =>
    have more := ih (start * 10 + d)
    simp only [amount, List.foldl_cons] at more ⊢
    omega

/-- Digits are absorbed to the last one exactly where their number fits. -/
theorem absorb_spec (ds : List Nat) (start : Nat) (fits : start ≤ largest) :
    if amount start ds ≤ largest then absorb start ds = (amount start ds, [])
    else (absorb start ds).2 ≠ [] := by
  induction ds generalizing start with
  | nil => simp [amount, absorb, fits]
  | cons d rest ih =>
    rw [absorb]
    by_cases next : start * 10 + d ≤ largest
    · rw [if_pos next]
      exact ih (start * 10 + d) next
    · have beyond : ¬ amount start (d :: rest) ≤ largest := by
        have more := le_amount rest (start * 10 + d)
        simp only [amount, List.foldl_cons] at more ⊢
        omega
      rw [if_neg next, if_neg beyond]
      exact List.cons_ne_nil d rest

theorem value_plain {x : Numeral} (positive : x.negative = false) (whole : x.fraction = [])
    (unscaled : x.exponent? = none) (fits : amount 0 x.whole ≤ largest) :
    x.value = .ok (.integer (amount 0 x.whole)) := by
  have absorbed := absorb_spec x.whole 0 (Nat.zero_le _)
  rw [if_pos fits] at absorbed
  simp [value, absorbed, whole, unscaled, positive, absorb]

theorem value_natural {x : Numeral} {k : Nat} (h : x.value = .ok (.integer k)) :
    x.negative = false ∧ x.fraction = [] ∧ x.exponent? = none ∧ k = amount 0 x.whole ∧
      amount 0 x.whole ≤ largest := by
  have absorbed := absorb_spec x.whole 0 (Nat.zero_le _)
  unfold value at h
  cases scale : x.exponent? with
  | some e =>
    obtain ⟨down, ds⟩ := e
    simp only [scale, float] at h
    split at h
    · split at h <;> cases h
    · split at h <;> cases h
  | none =>
    simp only [scale, float] at h
    split at h
    next plain =>
      obtain ⟨whole, all⟩ := Bool.and_eq_true_iff.mp plain
      rw [List.isEmpty_iff] at whole all
      split at absorbed
      next fits =>
        have significand : (absorb (absorb 0 x.whole).1 x.fraction).1 = amount 0 x.whole := by
          rw [absorbed, whole, absorb]
        split at h
        next positive =>
          rw [significand] at h
          have same := Int.ofNat.inj (Number.integer.inj (Except.ok.inj h))
          exact ⟨by simpa using positive, whole, rfl, same.symm, fits⟩
        next =>
          -- Below zero there is no natural number.
          split at h
          next below =>
            obtain ⟨nonzero, -⟩ := Bool.and_eq_true_iff.mp below
            have negated := Number.integer.inj (Except.ok.inj h)
            have positive := of_decide_eq_true nonzero
            omega
          next => split at h <;> cases h
      next => exact absurd all absorbed
    next => split at h <;> cases h

/-! ## The grammar of numerals -/

/-- Digits, one at least. -/
structure IsDigits (ds : List Nat) (cs : List Char) : Prop where
  filled : cs ≠ []
  plain : ∀ c ∈ cs, c.isDigit = true
  values : ds = cs.map digitOf

/-- Whole digits, a zero in front of others being left out. -/
structure IsWhole (ds : List Nat) (cs : List Char) : Prop extends IsDigits ds cs where
  lead : ∀ d rest, ds ≠ 0 :: d :: rest

inductive IsFraction : List Nat → List Char → Prop
  | none : IsFraction [] []
  | point {ds : List Nat} {cs : List Char} : IsDigits ds cs → IsFraction ds ('.' :: cs)

/-- The signs of an exponent. -/
def signs : List (Bool × List Char) := [(false, []), (false, ['+']), (true, ['-'])]

inductive IsExponent : Option (Bool × List Nat) → List Char → Prop
  | none : IsExponent none []
  | scaled {e : Char} {negative : Bool} {sign cs : List Char} {ds : List Nat} : e = 'e' ∨ e = 'E' →
      (negative, sign) ∈ signs → IsDigits ds cs →
      IsExponent (some (negative, ds)) (e :: (sign ++ cs))

/-- The text of a numeral behind its sign. -/
inductive WritesUnsigned : Numeral → List Char → Prop
  | mk {negative : Bool} {whole fraction : List Nat} {exponent? : Option (Bool × List Nat)}
      {ws fs es : List Char} : IsWhole whole ws → IsFraction fraction fs → IsExponent exponent? es →
      WritesUnsigned ⟨negative, whole, fraction, exponent?⟩ (ws ++ (fs ++ es))

/-- The text of a numeral. -/
inductive Writes : Numeral → List Char → Prop
  | positive {x : Numeral} {cs : List Char} : x.negative = false → WritesUnsigned x cs → Writes x cs
  | negative {x : Numeral} {cs : List Char} : x.negative = true → WritesUnsigned x cs →
      Writes x ('-' :: cs)

/-- Nothing that could belong to the numeral stands behind its digits. -/
def EndsNumeral (cs : List Char) : Prop :=
  ∀ c ∈ cs.head?, c.isDigit = false ∧ c ≠ '.' ∧ c ≠ 'e' ∧ c ≠ 'E'

/-! ## What the scanner takes -/

/-- What follows the digits read so far, where an exponent may still stand. -/
def ending (negative : Bool) (whole fraction : List Nat) (taken : Nat) (cs : List Char) :
    Scan Numeral :=
  match cs with
  | c :: r =>
      if c = 'e' || c = 'E' then
        match exponentPart r with
        | .found e n => .found ⟨negative, whole, fraction, some e⟩ (taken + 1 + n)
        | .fault cause n => .fault cause (taken + 1 + n)
      else .found ⟨negative, whole, fraction, none⟩ taken
  | [] => .found ⟨negative, whole, fraction, none⟩ taken

theorem tail_eq (negative : Bool) (whole : List Nat) (cs : List Char) :
    tail negative whole cs =
      match cs with
      | '.' :: r =>
          match digits r with
          | ([], []) => .fault .endInValue 1
          | ([], _) => .fault .invalidNumber 2
          | (ds, after) => ending negative whole ds (1 + ds.length) after
      | _ => ending negative whole [] 0 cs := rfl

variable {negative : Bool} {whole fraction ds : List Nat} {cs after : List Char} {x : Numeral}
  {n taken : Nat}

theorem IsDigits.length {word : List Char} (written : IsDigits ds word) :
    ds.length = word.length := by rw [written.values, List.length_map]

theorem IsDigits.ne_nil {word : List Char} (written : IsDigits ds word) : ds ≠ [] := by
  rw [written.values]
  exact List.map_eq_nil_iff.not.mpr written.filled

theorem digits_found (h : digits cs = (ds, after)) (filled : ds ≠ []) :
    ∃ word, cs = word ++ after ∧ IsDigits ds word := by
  rw [digits_eq] at h
  obtain ⟨rfl, rfl⟩ := Prod.mk.inj h
  exact ⟨_, List.takeWhile_append_dropWhile.symm, by simpa using filled,
    fun c member => List.mem_takeWhile_imp member, rfl⟩

theorem digits_of_isDigits {word : List Char} (written : IsDigits ds word)
    (ended : ∀ c ∈ after.head?, c.isDigit = false) : digits (word ++ after) = (ds, after) := by
  have foreign : after.takeWhile Char.isDigit = [] ∧ after.dropWhile Char.isDigit = after := by
    cases after with
    | nil => exact ⟨rfl, rfl⟩
    | cons c rest => simp [ended c rfl]
  rw [digits_eq, List.takeWhile_append_of_pos written.plain, List.dropWhile_append_of_pos written.plain,
    foreign.1, foreign.2, List.append_nil, written.values]

/-- Behind the sign of an exponent. -/
def exponentDigits (negative : Bool) (sign : Nat) (cs : List Char) : Scan (Bool × List Nat) :=
  match digits cs with
  | ([], []) => .fault .endInValue sign
  | ([], _) => .fault .invalidNumber (sign + 1)
  | (ds, _) => .found (negative, ds) (sign + ds.length)

theorem exponentPart_minus (rest : List Char) :
    exponentPart ('-' :: rest) = exponentDigits true 1 rest := rfl

theorem exponentPart_plus (rest : List Char) :
    exponentPart ('+' :: rest) = exponentDigits false 1 rest := rfl

theorem exponentPart_other (no_minus : cs.head? ≠ some '-') (no_plus : cs.head? ≠ some '+') :
    exponentPart cs = exponentDigits false 0 cs := by
  unfold exponentPart
  split
  next signed =>
    split at signed
    · exact absurd rfl no_minus
    · exact absurd rfl no_plus
    · cases signed
      rfl

theorem exponentDigits_found {e : Bool × List Nat} {sign : Nat}
    (h : exponentDigits negative sign cs = .found e n) :
    ∃ word after, cs = word ++ after ∧ e.1 = negative ∧ IsDigits e.2 word ∧ n = sign + word.length := by
  unfold exponentDigits at h
  split at h
  · cases h
  · cases h
  next ds after _ some_digits read =>
    cases h
    obtain ⟨word, whole, written⟩ := digits_found read some_digits
    exact ⟨word, after, whole, rfl, written, by rw [written.length]⟩

theorem exponentDigits_of_isDigits {word : List Char} (written : IsDigits ds word)
    (ended : ∀ c ∈ after.head?, c.isDigit = false) (negative : Bool) (sign : Nat) :
    exponentDigits negative sign (word ++ after) = .found (negative, ds) (sign + word.length) := by
  rw [exponentDigits, digits_of_isDigits written ended, ← written.length]
  split
  next same => exact absurd (Prod.mk.inj same).1 written.ne_nil
  next same => exact absurd (Prod.mk.inj same).1 written.ne_nil
  next same => rw [(Prod.mk.inj same).1]

theorem exponentPart_found {e : Bool × List Nat} (h : exponentPart cs = .found e n) :
    ∃ sign word after, cs = sign ++ (word ++ after) ∧ (e.1, sign) ∈ signs ∧ IsDigits e.2 word ∧
      n = sign.length + word.length := by
  by_cases minus : cs.head? = some '-'
  · obtain ⟨rest, rfl⟩ := List.head?_eq_some_iff.mp minus
    rw [exponentPart_minus] at h
    obtain ⟨word, after, rfl, down, written, extent⟩ := exponentDigits_found h
    exact ⟨['-'], word, after, rfl, by rw [down]; decide, written, extent⟩
  by_cases plus : cs.head? = some '+'
  · obtain ⟨rest, rfl⟩ := List.head?_eq_some_iff.mp plus
    rw [exponentPart_plus] at h
    obtain ⟨word, after, rfl, up, written, extent⟩ := exponentDigits_found h
    exact ⟨['+'], word, after, rfl, by rw [up]; decide, written, extent⟩
  · rw [exponentPart_other minus plus] at h
    obtain ⟨word, after, rfl, up, written, extent⟩ := exponentDigits_found h
    exact ⟨[], word, after, rfl, by rw [up]; decide, written, extent⟩

theorem exponentPart_of_isDigits {sign word : List Char} (among : (negative, sign) ∈ signs)
    (written : IsDigits ds word) (ended : ∀ c ∈ after.head?, c.isDigit = false) :
    exponentPart (sign ++ (word ++ after)) = .found (negative, ds) (sign.length + word.length) := by
  have read := exponentDigits_of_isDigits written ended
  simp only [signs, List.mem_cons, List.not_mem_nil, Prod.mk.injEq, or_false] at among
  rcases among with ⟨rfl, rfl⟩ | ⟨rfl, rfl⟩ | ⟨rfl, rfl⟩
  · obtain ⟨c, rest, rfl⟩ := List.exists_cons_of_ne_nil written.filled
    have digit := written.plain c List.mem_cons_self
    have unsigned (d : Char) (other : d.isDigit = false) : (c :: rest ++ after).head? ≠ some d := by
      rintro same
      cases Option.some.inj same
      rw [digit] at other
      cases other
    rw [List.nil_append, exponentPart_other (unsigned '-' rfl) (unsigned '+' rfl)]
    exact read false 0
  · exact read false 1
  · exact read true 1

theorem ending_found (h : ending negative whole fraction taken cs = .found x n) :
    ∃ exponent? es after, cs = es ++ after ∧ IsExponent exponent? es ∧
      x = ⟨negative, whole, fraction, exponent?⟩ ∧ n = taken + es.length := by
  unfold ending at h
  split at h
  next c r =>
    split at h
    next letter =>
      split at h
      next e m found =>
        cases h
        obtain ⟨sign, word, after, rfl, among, written, rfl⟩ := exponentPart_found found
        refine ⟨some e, c :: (sign ++ word), after, by simp, ?_, rfl, ?_⟩
        · exact .scaled (by simpa using letter) among written
        · rw [List.length_cons, List.length_append]
          omega
      · cases h
    · cases h
      exact ⟨none, [], c :: r, rfl, .none, rfl, rfl⟩
  · cases h
    exact ⟨none, [], [], rfl, .none, rfl, rfl⟩

theorem ending_of_isExponent {exponent? : Option (Bool × List Nat)} {es : List Char}
    (written : IsExponent exponent? es) (ended : EndsNumeral after) (negative : Bool)
    (whole fraction : List Nat) (taken : Nat) : ending negative whole fraction taken (es ++ after) =
      .found ⟨negative, whole, fraction, exponent?⟩ (taken + es.length) := by
  cases written with
  | none =>
    cases after with
    | nil => rfl
    | cons c rest =>
      obtain ⟨-, -, small, large⟩ := ended c rfl
      simp [ending, small, large]
  | scaled letter among digits =>
    have read := exponentPart_of_isDigits among digits fun c member => (ended c member).1
    simp only [ending, List.cons_append, List.append_assoc, read, letter, Bool.or_eq_true,
      decide_eq_true_eq, if_true, List.length_cons, List.length_append]
    congr 1
    omega

theorem tail_found (h : tail negative whole cs = .found x n) :
    ∃ fraction exponent? fs es after, cs = fs ++ (es ++ after) ∧ IsFraction fraction fs ∧
      IsExponent exponent? es ∧ x = ⟨negative, whole, fraction, exponent?⟩ ∧
      n = fs.length + es.length := by
  rw [tail_eq] at h
  split at h
  next r =>
    split at h
    · cases h
    · cases h
    next ds after _ some_digits read =>
      obtain ⟨word, rfl, digits⟩ := digits_found read some_digits
      obtain ⟨exponent?, es, rest, rfl, written, rfl, rfl⟩ := ending_found h
      refine ⟨ds, exponent?, '.' :: word, es, rest, rfl, .point digits, written, rfl, ?_⟩
      rw [digits.length, List.length_cons]
      omega
  next =>
    obtain ⟨exponent?, es, rest, rfl, written, rfl, rfl⟩ := ending_found h
    exact ⟨[], exponent?, [], es, rest, rfl, .none, written, rfl, rfl⟩

/-- An exponent and what ends a numeral have no digit in front and no point. -/
theorem ends_of_isExponent {exponent? : Option (Bool × List Nat)} {es : List Char}
    (written : IsExponent exponent? es) (ended : EndsNumeral after) :
    ∀ c ∈ (es ++ after).head?, c.isDigit = false ∧ c ≠ '.' := by
  cases written with
  | none => exact fun c member => ⟨(ended c member).1, (ended c member).2.1⟩
  | scaled letter =>
    rintro _ ⟨⟩
    rcases letter with rfl | rfl <;> decide

theorem tail_of_isExponent {exponent? : Option (Bool × List Nat)} {fs es : List Char}
    (some_fraction : IsFraction fraction fs) (written : IsExponent exponent? es)
    (ended : EndsNumeral after) :
    tail negative whole (fs ++ (es ++ after)) =
      .found ⟨negative, whole, fraction, exponent?⟩ (fs.length + es.length) := by
  have beyond := ends_of_isExponent written ended
  have read := ending_of_isExponent written ended negative whole
  rw [tail_eq]
  cases some_fraction with
  | none =>
    split
    next r same =>
      have point := (beyond '.' (by rw [← List.nil_append (es ++ after), same]; rfl)).2
      exact absurd rfl point
    next => exact read [] 0
  | @point ds word digits =>
    have digits_read := digits_of_isDigits digits fun c member => (beyond c member).1
    simp only [List.cons_append, digits_read]
    split
    next same => exact absurd (Prod.mk.inj same).1 digits.ne_nil
    next same => exact absurd (Prod.mk.inj same).1 digits.ne_nil
    next same =>
      obtain ⟨rfl, rfl⟩ := Prod.mk.inj same
      rw [read, digits.length, List.length_cons, Nat.add_comm 1]

theorem unsigned_found (h : unsigned negative cs = .found x n) :
    ∃ word after, cs = word ++ after ∧ x.negative = negative ∧ WritesUnsigned x word ∧
      n = word.length := by
  unfold unsigned at h
  split at h
  · cases h
  · cases h
  · cases h
  next ds after _ some_digits lead read =>
    obtain ⟨ws, rfl, digits⟩ := digits_found read some_digits
    split at h
    next y m found =>
      cases h
      obtain ⟨fraction, exponent?, fs, es, rest, rfl, some_fraction, written, rfl, rfl⟩ :=
        tail_found found
      refine ⟨ws ++ (fs ++ es), rest, by simp, rfl, .mk ⟨digits, lead⟩ some_fraction written, ?_⟩
      rw [digits.length, List.length_append, List.length_append]
    · cases h

theorem unsigned_of_writes {word : List Char} (written : WritesUnsigned x word)
    (ended : EndsNumeral after) :
    unsigned x.negative (word ++ after) = .found x word.length := by
  obtain ⟨digits, some_fraction, exponent⟩ := written
  rename_i negative whole fraction exponent? ws fs es
  have beyond : ∀ c ∈ (fs ++ (es ++ after)).head?, c.isDigit = false := by
    cases some_fraction with
    | none => exact fun c member => (ends_of_isExponent exponent ended c member).1
    | point =>
      rintro _ ⟨⟩
      rfl
  have read := digits_of_isDigits digits.toIsDigits beyond
  rw [List.append_assoc, List.append_assoc, unsigned, read]
  split
  next same => exact absurd (Prod.mk.inj same).1 digits.ne_nil
  next same => exact absurd (Prod.mk.inj same).1 digits.ne_nil
  next same => exact absurd (Prod.mk.inj same).1 (digits.lead _ _)
  next same =>
    obtain ⟨rfl, rfl⟩ := Prod.mk.inj same
    rw [tail_of_isExponent some_fraction exponent ended, digits.length, List.length_append,
      List.length_append]

theorem scan_minus (rest : List Char) :
    scan ('-' :: rest) =
      match unsigned true rest with
      | .found x n => .found x (n + 1)
      | .fault cause n => .fault cause (n + 1) := rfl

theorem scan_other (other : cs.head? ≠ some '-') : scan cs = unsigned false cs := by
  unfold scan
  split
  next => exact absurd rfl other
  next => rfl

/-- What the scanner takes is the text of the numeral that it finds. -/
theorem scan_found (h : scan cs = .found x n) :
    ∃ word after, cs = word ++ after ∧ x.Writes word ∧ n = word.length := by
  by_cases signed : cs.head? = some '-'
  · obtain ⟨rest, rfl⟩ := List.head?_eq_some_iff.mp signed
    rw [scan_minus] at h
    split at h
    next y m found =>
      cases h
      obtain ⟨word, after, rfl, negative, written, rfl⟩ := unsigned_found found
      exact ⟨'-' :: word, after, rfl, .negative negative written, rfl⟩
    · cases h
  · rw [scan_other signed] at h
    obtain ⟨word, after, rfl, positive, written, rfl⟩ := unsigned_found h
    exact ⟨word, after, rfl, .positive positive written, rfl⟩

/-- The text of a numeral begins with a digit behind its sign. -/
theorem WritesUnsigned.head {word : List Char} (written : WritesUnsigned x word) :
    ∃ c rest, word = c :: rest ∧ c.isDigit = true := by
  obtain ⟨digits, -, -⟩ := written
  obtain ⟨c, rest, rfl⟩ := List.exists_cons_of_ne_nil digits.filled
  exact ⟨c, _, rfl, digits.plain c List.mem_cons_self⟩

theorem Writes.head {c : Char} {word : List Char} (written : x.Writes (c :: word)) :
    c = '-' ∨ c.isDigit = true := by
  cases written with
  | negative => exact .inl rfl
  | positive _ unsigned_text =>
    obtain ⟨d, rest, same, digit⟩ := unsigned_text.head
    rw [(List.cons.inj same).1]
    exact .inr digit

theorem Writes.ne_nil {word : List Char} (written : x.Writes word) : word ≠ [] := by
  cases written with
  | negative => exact List.cons_ne_nil _ _
  | positive _ unsigned_text =>
    obtain ⟨d, rest, rfl, -⟩ := unsigned_text.head
    exact List.cons_ne_nil d rest

/-- The text of a numeral is taken, unless it could go on. -/
theorem scan_of_writes {word : List Char} (written : x.Writes word) (ended : EndsNumeral after) :
    scan (word ++ after) = .found x word.length := by
  cases written with
  | positive positive unsigned_text =>
    have read := unsigned_of_writes unsigned_text ended
    obtain ⟨c, rest, rfl, digit⟩ := unsigned_text.head
    have signless : (c :: rest ++ after).head? ≠ some '-' := by
      rintro minus
      cases Option.some.inj minus
      cases digit
    rw [scan_other signless, ← positive, read]
  | negative negative unsigned_text =>
    have read := unsigned_of_writes unsigned_text ended
    rw [negative] at read
    rw [List.cons_append, scan_minus, read, List.length_cons]

/-- A number in front of a text is one that a numeral there stands for. -/
theorem read_found {number : Number} (h : read cs = .found number n) :
    ∃ (x : Numeral) (word after : List Char), cs = word ++ after ∧ x.Writes word ∧
      x.value = .ok number ∧ n = word.length := by
  unfold read at h
  split at h
  · cases h
  next x m scanned =>
    obtain ⟨word, after, whole, written, extent⟩ := scan_found scanned
    split at h
    next valued =>
      cases h
      exact ⟨x, word, after, whole, written, valued, extent⟩
    · cases h
    · cases h

theorem read_of_writes {word : List Char} {number : Number} (written : x.Writes word)
    (valued : x.value = .ok number) (ended : EndsNumeral after) :
    read (word ++ after) = .found number word.length := by
  rw [read, scan_of_writes written ended]
  simp only [valued]

/-! ## Natural numbers -/

/-- Without sign, fraction and exponent there are digits alone. -/
theorem Writes.isDigits {word : List Char} (written : x.Writes word) (positive : x.negative = false)
    (whole : x.fraction = []) (unscaled : x.exponent? = none) : IsDigits x.whole word := by
  cases written with
  | negative negative =>
    rw [negative] at positive
    cases positive
  | positive _ unsigned_text =>
    obtain ⟨digits, some_fraction, exponent⟩ := unsigned_text
    cases some_fraction with
    | point more => exact absurd whole more.ne_nil
    | none =>
      cases exponent with
      | scaled => cases unscaled
      | none =>
        rw [List.append_nil, List.append_nil]
        exact digits.toIsDigits

/-- Where there are digits alone there is no sign, fraction or exponent. -/
theorem Writes.of_digits {word : List Char} (written : x.Writes word)
    (digits : ∀ c ∈ word, c.isDigit = true) :
    x.negative = false ∧ x.fraction = [] ∧ x.exponent? = none := by
  cases written with
  | negative =>
    have minus := digits '-' List.mem_cons_self
    cases minus
  | positive positive unsigned_text =>
    obtain ⟨-, some_fraction, exponent⟩ := unsigned_text
    refine ⟨positive, ?_, ?_⟩
    · cases some_fraction with
      | none => rfl
      | point =>
        have point := digits '.' (by simp)
        cases point
    · cases exponent with
      | none => rfl
      | @scaled e =>
        have letter := digits e (by simp)
        rename e = 'e' ∨ e = 'E' => either
        rcases either with rfl | rfl <;> cases letter

/-- A number is natural exactly where it is written in digits alone, and is what these stand for. -/
theorem Writes.natural_iff {word : List Char} {number : Number} (written : x.Writes word)
    (valued : x.value = .ok number) (k : Nat) :
    number = .integer k ↔ (∀ c ∈ word, c.isDigit = true) ∧
      k = Nat.ofDigitChars 10 word 0 ∧ k ≤ largest := by
  rw [← amount_map]
  constructor
  · rintro rfl
    obtain ⟨positive, whole, unscaled, same, fits⟩ := value_natural valued
    have digits := written.isDigits positive whole unscaled
    exact ⟨digits.plain, by rw [same, digits.values], same ▸ fits⟩
  · rintro ⟨digits, rfl, fits⟩
    obtain ⟨positive, whole, unscaled⟩ := written.of_digits digits
    have values := (written.isDigits positive whole unscaled).values
    rw [value_plain positive whole unscaled (values ▸ fits), values] at valued
    exact (Except.ok.inj valued).symm

/-- The first digit of a number other than zero is not zero. -/
theorem head?_toDigits {n : Nat} (positive : 0 < n) :
    ((Nat.toDigits 10 n).map digitOf).head? ≠ some 0 := by
  induction n using Nat.strongRecOn with
  | ind n ih =>
    by_cases small : n < 10
    · rw [Nat.toDigits_of_lt_base small, List.map_singleton, List.head?_singleton, digitOf,
        Nat.toNat_digitChar_sub_48_of_lt_ten small]
      intro zero
      have nothing := Option.some.inj zero
      omega
    · have first := ih (n / 10) (by omega) (by omega)
      have filled : Nat.toDigits 10 (n / 10) ≠ [] := Nat.toDigits_ne_nil
      obtain ⟨d, ds, leading⟩ := List.exists_cons_of_ne_nil filled
      rw [Nat.toDigits_of_base_le (by decide) (by omega), leading]
      rw [leading] at first
      exact first

theorem isWhole_toDigits (n : Nat) :
    IsWhole ((Nat.toDigits 10 n).map digitOf) (Nat.toDigits 10 n) := by
  refine ⟨⟨Nat.toDigits_ne_nil, ?_, rfl⟩, ?_⟩
  · exact fun c member => Nat.isDigit_of_mem_toDigits (by decide) (by decide) member
  · intro d ds same
    rcases Nat.eq_zero_or_pos n with rfl | positive
    · rw [Nat.toDigits_zero] at same
      cases same
    · exact head?_toDigits positive (by rw [same]; rfl)

/-- The numeral of a natural number. -/
def natural (n : Nat) : Numeral := ⟨false, (Nat.toDigits 10 n).map digitOf, [], none⟩

theorem writes_natural (n : Nat) : (natural n).Writes (Nat.toDigits 10 n) := by
  have written : WritesUnsigned (natural n) _ := .mk (isWhole_toDigits n) .none .none
  rw [List.append_nil, List.append_nil] at written
  exact .positive rfl written

theorem value_of_natural {n : Nat} (fits : n ≤ largest) : (natural n).value = .ok (.integer n) := by
  have same : amount 0 (natural n).whole = n := by
    rw [natural, amount_map]
    exact Nat.ofDigitChars_ten_toDigits
  rw [value_plain rfl rfl rfl (same.symm ▸ fits), same]

end AlertRelay.Json.Numeral
