import AlertRelay.Text.Utf8

/-!
# Reading octets back

The octets that read as a text are exactly those the text is written with. A character is told from
its leading octet together with bounds on the second one, which rule out the shorter forms, the
surrogates and what lies beyond the last code point; each of these bounds is used below, in one
direction or the other.
-/
namespace AlertRelay.Text.Utf8

theorem toNat_octet {n : Nat} (h : n < 256) : (UInt8.ofNat n).toNat = n := by
  rw [UInt8.toNat_ofNat', Nat.mod_eq_of_lt h]

theorem following?_eq (b : UInt8) :
    following? b =
      if b.toNat < 0x80 then some 0
      else if 0xC2 ≤ b.toNat ∧ b.toNat ≤ 0xDF then some 1
      else if 0xE0 ≤ b.toNat ∧ b.toNat ≤ 0xEF then some 2
      else if 0xF0 ≤ b.toNat ∧ b.toNat ≤ 0xF4 then some 3
      else none := by
  simp [following?, UInt8.lt_iff_toNat_lt, UInt8.le_iff_toNat_le]

theorem isContinuation_iff (b : UInt8) :
    isContinuation b = true ↔ 0x80 ≤ b.toNat ∧ b.toNat ≤ 0xBF := by
  simp [isContinuation, UInt8.le_iff_toNat_le]

theorem isSecond_iff (lead b : UInt8) :
    isSecond lead b = true ↔ 0x80 ≤ b.toNat ∧ b.toNat ≤ 0xBF ∧
      (lead.toNat = 0xE0 → 0xA0 ≤ b.toNat) ∧ (lead.toNat = 0xED → b.toNat ≤ 0x9F) ∧
      (lead.toNat = 0xF0 → 0x90 ≤ b.toNat) ∧ (lead.toNat = 0xF4 → b.toNat ≤ 0x8F) := by
  have e0 : lead = 0xE0 ↔ lead.toNat = 0xE0 := by rw [← UInt8.toNat_inj]; rfl
  have ed : lead = 0xED ↔ lead.toNat = 0xED := by rw [← UInt8.toNat_inj]; rfl
  have f0 : lead = 0xF0 ↔ lead.toNat = 0xF0 := by rw [← UInt8.toNat_inj]; rfl
  have f4 : lead = 0xF4 ↔ lead.toNat = 0xF4 := by rw [← UInt8.toNat_inj]; rfl
  simp only [isSecond, beq_iff_eq, e0, ed, f0, f4]
  split
  · simp [UInt8.le_iff_toNat_le]; omega
  split
  · simp [UInt8.le_iff_toNat_le]; omega
  split
  · simp [UInt8.le_iff_toNat_le]; omega
  split
  · simp [UInt8.le_iff_toNat_le]; omega
  · simp [UInt8.le_iff_toNat_le]; omega

theorem toNat_ofNat_char {n : Nat} (valid : n.isValidChar) : (Char.ofNat n).val.toNat = n := by
  rw [Char.ofNat, dif_pos valid]
  rfl

theorem ofNat_code (c : Char) {n : Nat} (h : n = c.val.toNat) : Char.ofNat n = c := by
  rw [h]
  exact Char.ofNat_toNat c

theorem code_bounds (c : Char) :
    c.val.toNat < 0x110000 ∧ ¬ (0xD800 ≤ c.val.toNat ∧ c.val.toNat ≤ 0xDFFF) := by
  rcases c.valid with low | ⟨above, high⟩
  · exact ⟨Nat.lt_trans low (by decide), by omega⟩
  · exact ⟨high, by omega⟩

/-! ## Characters by the number of their octets -/

section
variable {a b c d : UInt8} (s : List UInt8)

theorem head_one (lead : following? a = some 0) : head a s = .character (Char.ofNat a.toNat) 0 := by
  simp [head, lead]

theorem head_two (lead : following? a = some 1) (second : isSecond a b = true) :
    head a (b :: s) = .character (Char.ofNat (a.toNat % 32 * 64 + bits b)) 1 := by
  simp [head, lead, second]

theorem head_three (lead : following? a = some 2) (second : isSecond a b = true)
    (third : isContinuation c = true) :
    head a (b :: c :: s) =
      .character (Char.ofNat (a.toNat % 16 * 4096 + bits b * 64 + bits c)) 2 := by
  simp [head, lead, second, third]

theorem head_four (lead : following? a = some 3) (second : isSecond a b = true)
    (third : isContinuation c = true) (fourth : isContinuation d = true) :
    head a (b :: c :: d :: s) =
      .character (Char.ofNat (a.toNat % 8 * 262144 + bits b * 4096 + bits c * 64 + bits d)) 3 := by
  simp [head, lead, second, third, fourth]

end

/-- What a character is written with is told from whatever follows it. -/
theorem head_encodeChar (char : Char) (s : List UInt8) :
    ∃ a tail, String.utf8EncodeChar char = a :: tail ∧
      head a (tail ++ s) = .character char tail.length := by
  obtain ⟨below, surrogate⟩ := code_bounds char
  generalize code : char.val.toNat = n at below surrogate
  simp only [String.utf8EncodeChar, code]
  by_cases one : n ≤ 0x7F
  · refine ⟨_, _, if_pos one, ?_⟩
    have a : (UInt8.ofNat n).toNat = n := toNat_octet (by omega)
    have lead : following? (UInt8.ofNat n) = some 0 := by rw [following?_eq, a, if_pos (by omega)]
    rw [head_one _ lead, a, ofNat_code char code.symm]
    rfl
  rw [if_neg one]
  by_cases two : n ≤ 0x7FF
  · refine ⟨_, _, if_pos two, ?_⟩
    have a : (UInt8.ofNat (n / 64 % 32 + 192)).toNat = n / 64 % 32 + 192 := toNat_octet (by omega)
    have b : (UInt8.ofNat (n % 64 + 128)).toNat = n % 64 + 128 := toNat_octet (by omega)
    have lead : following? (UInt8.ofNat (n / 64 % 32 + 192)) = some 1 := by
      rw [following?_eq, a, if_neg (by omega), if_pos (by omega)]
    have second := (isSecond_iff (UInt8.ofNat (n / 64 % 32 + 192)) (UInt8.ofNat (n % 64 + 128))).mpr
      (by rw [a, b]; omega)
    rw [List.cons_append, head_two _ lead second, bits, a, b, ofNat_code char (by omega)]
    rfl
  rw [if_neg two]
  by_cases three : n ≤ 0xFFFF
  · refine ⟨_, _, if_pos three, ?_⟩
    have a : (UInt8.ofNat (n / 4096 % 16 + 224)).toNat = n / 4096 % 16 + 224 :=
      toNat_octet (by omega)
    have b : (UInt8.ofNat (n / 64 % 64 + 128)).toNat = n / 64 % 64 + 128 := toNat_octet (by omega)
    have c : (UInt8.ofNat (n % 64 + 128)).toNat = n % 64 + 128 := toNat_octet (by omega)
    have lead : following? (UInt8.ofNat (n / 4096 % 16 + 224)) = some 2 := by
      rw [following?_eq, a, if_neg (by omega), if_neg (by omega), if_pos (by omega)]
    have second := (isSecond_iff (UInt8.ofNat (n / 4096 % 16 + 224))
      (UInt8.ofNat (n / 64 % 64 + 128))).mpr (by rw [a, b]; omega)
    have third := (isContinuation_iff (UInt8.ofNat (n % 64 + 128))).mpr (by rw [c]; omega)
    rw [List.cons_append, List.cons_append, head_three _ lead second third, bits, bits, a, b, c,
      ofNat_code char (by omega)]
    rfl
  · refine ⟨_, _, if_neg three, ?_⟩
    have a : (UInt8.ofNat (n / 262144 % 8 + 240)).toNat = n / 262144 % 8 + 240 :=
      toNat_octet (by omega)
    have b : (UInt8.ofNat (n / 4096 % 64 + 128)).toNat = n / 4096 % 64 + 128 :=
      toNat_octet (by omega)
    have c : (UInt8.ofNat (n / 64 % 64 + 128)).toNat = n / 64 % 64 + 128 := toNat_octet (by omega)
    have d : (UInt8.ofNat (n % 64 + 128)).toNat = n % 64 + 128 := toNat_octet (by omega)
    have lead : following? (UInt8.ofNat (n / 262144 % 8 + 240)) = some 3 := by
      rw [following?_eq, a, if_neg (by omega), if_neg (by omega), if_neg (by omega),
        if_pos (by omega)]
    have second := (isSecond_iff (UInt8.ofNat (n / 262144 % 8 + 240))
      (UInt8.ofNat (n / 4096 % 64 + 128))).mpr (by rw [a, b]; omega)
    have third := (isContinuation_iff (UInt8.ofNat (n / 64 % 64 + 128))).mpr (by rw [c]; omega)
    have fourth := (isContinuation_iff (UInt8.ofNat (n % 64 + 128))).mpr (by rw [d]; omega)
    rw [List.cons_append, List.cons_append, List.cons_append, head_four _ lead second third fourth,
      bits, bits, bits, a, b, c, d, ofNat_code char (by omega)]
    rfl

theorem octet_of_toNat {n : Nat} {a : UInt8} (h : n = a.toNat) : UInt8.ofNat n = a := by
  rw [h]
  exact UInt8.ofNat_toNat

/-- A leading octet says by its range how many follow. -/
theorem following?_eq_some {a : UInt8} {k : Nat} (h : following? a = some k) :
    (k = 0 ∧ a.toNat < 0x80) ∨ (k = 1 ∧ 0xC2 ≤ a.toNat ∧ a.toNat ≤ 0xDF) ∨
      (k = 2 ∧ 0xE0 ≤ a.toNat ∧ a.toNat ≤ 0xEF) ∨ (k = 3 ∧ 0xF0 ≤ a.toNat ∧ a.toNat ≤ 0xF4) := by
  rw [following?_eq] at h
  split at h
  · cases h; omega
  split at h
  · cases h; omega
  split at h
  · cases h; omega
  split at h
  · cases h; omega
  · cases h

/-- Octets that begin with a character begin with what that character is written with. -/
theorem encodeChar_of_head {a : UInt8} {s : List UInt8} {char : Char} {more : Nat}
    (h : head a s = .character char more) :
    ∃ tail rest, s = tail ++ rest ∧ tail.length = more ∧
      String.utf8EncodeChar char = a :: tail := by
  cases lead : following? a with
  | none => simp [head, lead] at h
  | some k =>
    rcases following?_eq_some lead with ⟨rfl, low⟩ | ⟨rfl, low, high⟩ | ⟨rfl, low, high⟩ | ⟨rfl, low, high⟩
    · rw [head_one s lead] at h
      cases h
      have code := toNat_ofNat_char (n := a.toNat) (Or.inl (by omega))
      refine ⟨[], s, rfl, rfl, ?_⟩
      simp only [String.utf8EncodeChar, code]
      rw [if_pos (by omega), octet_of_toNat rfl]
    · cases s with
      | nil => simp [head, lead] at h
      | cons b s =>
        cases second : isSecond a b with
        | false => simp [head, lead, second] at h
        | true =>
          rw [head_two s lead second] at h
          cases h
          have range := (isSecond_iff a b).mp second
          have code := toNat_ofNat_char (n := a.toNat % 32 * 64 + bits b)
            (Or.inl (by unfold bits; omega))
          refine ⟨[b], s, rfl, rfl, ?_⟩
          simp only [String.utf8EncodeChar, code]
          unfold bits
          rw [if_neg (by omega), if_pos (by omega), octet_of_toNat (a := a) (by omega),
            octet_of_toNat (a := b) (by omega)]
    · cases s with
      | nil => simp [head, lead] at h
      | cons b s =>
        cases second : isSecond a b with
        | false => simp [head, lead, second] at h
        | true =>
          cases s with
          | nil => simp [head, lead, second] at h
          | cons c s =>
            cases third : isContinuation c with
            | false => simp [head, lead, second, third] at h
            | true =>
              rw [head_three s lead second third] at h
              cases h
              have range := (isSecond_iff a b).mp second
              have range' := (isContinuation_iff c).mp third
              have code := toNat_ofNat_char (n := a.toNat % 16 * 4096 + bits b * 64 + bits c)
                (by unfold bits Nat.isValidChar; omega)
              refine ⟨[b, c], s, rfl, rfl, ?_⟩
              simp only [String.utf8EncodeChar, code]
              unfold bits
              rw [if_neg (by omega), if_neg (by omega), if_pos (by omega),
                octet_of_toNat (a := a) (by omega), octet_of_toNat (a := b) (by omega),
                octet_of_toNat (a := c) (by omega)]
    · cases s with
      | nil => simp [head, lead] at h
      | cons b s =>
        cases second : isSecond a b with
        | false => simp [head, lead, second] at h
        | true =>
          match s with
          | [] => simp [head, lead, second] at h
          | [c] =>
            cases third : isContinuation c <;> simp [head, lead, second, third] at h
          | c :: d :: s =>
            cases third : isContinuation c with
            | false => simp [head, lead, second, third] at h
            | true =>
              cases fourth : isContinuation d with
              | false => simp [head, lead, second, third, fourth] at h
              | true =>
                rw [head_four s lead second third fourth] at h
                cases h
                have range := (isSecond_iff a b).mp second
                have range' := (isContinuation_iff c).mp third
                have range'' := (isContinuation_iff d).mp fourth
                have code := toNat_ofNat_char
                  (n := a.toNat % 8 * 262144 + bits b * 4096 + bits c * 64 + bits d)
                  (by unfold bits Nat.isValidChar; omega)
                refine ⟨[b, c, d], s, rfl, rfl, ?_⟩
                simp only [String.utf8EncodeChar, code]
                unfold bits
                rw [if_neg (by omega), if_neg (by omega), if_neg (by omega),
                  octet_of_toNat (a := a) (by omega), octet_of_toNat (a := b) (by omega),
                  octet_of_toNat (a := c) (by omega), octet_of_toNat (a := d) (by omega)]

/-- An octet below the continuing ones ends a character only by being all of it. -/
theorem encodeChar_of_getLast {c : Char} {b : UInt8} (low : b.toNat < 0x80)
    (last : (String.utf8EncodeChar c).getLast? = some b) : String.utf8EncodeChar c = [b] := by
  have high (n : Nat) : UInt8.ofNat (n % 64 + 128) ≠ b := by
    intro same
    rw [← same, toNat_octet (by omega)] at low
    omega
  simp only [String.utf8EncodeChar] at last ⊢
  by_cases one : c.val.toNat ≤ 0x7F
  · rw [if_pos one] at last ⊢
    exact congrArg ([·]) (Option.some.inj last)
  rw [if_neg one] at last
  by_cases two : c.val.toNat ≤ 0x7FF
  · rw [if_pos two] at last
    exact absurd (Option.some.inj last) (high _)
  rw [if_neg two] at last
  by_cases three : c.val.toNat ≤ 0xFFFF
  · rw [if_pos three] at last
    exact absurd (Option.some.inj last) (high _)
  · rw [if_neg three] at last
    exact absurd (Option.some.inj last) (high _)

/-! ## Whole texts -/

theorem decodeFrom_skip (index : Nat) (tail rest : List UInt8) :
    decodeFrom index tail.length (tail ++ rest) = decodeFrom (index + tail.length) 0 rest := by
  induction tail generalizing index with
  | nil => rfl
  | cons b tail ih =>
    rw [List.length_cons, List.cons_append, decodeFrom, ih, Nat.add_assoc, Nat.add_comm 1]

/-- A character is read first, then the rest as if it stood alone. -/
theorem decodeFrom_encodeChar (index : Nat) (char : Char) (rest : List UInt8) :
    ∃ next, decodeFrom index 0 (String.utf8EncodeChar char ++ rest) =
      (decodeFrom next 0 rest).map (char :: ·) := by
  obtain ⟨a, tail, written, told⟩ := head_encodeChar char rest
  refine ⟨index + 1 + tail.length, ?_⟩
  rw [written, List.cons_append, decodeFrom]
  simp only [told]
  rw [decodeFrom_skip]
  cases decodeFrom (index + 1 + tail.length) 0 rest <;> rfl

theorem decodeFrom_encode (index : Nat) (cs : List Char) :
    decodeFrom index 0 (encode cs) = .ok cs := by
  induction cs generalizing index with
  | nil => rfl
  | cons c cs ih =>
    obtain ⟨next, read⟩ := decodeFrom_encodeChar index c (encode cs)
    rw [encode, List.flatMap_cons, ← encode, read, ih]
    rfl

theorem decodeFrom_cons_ok {index : Nat} {b : UInt8} {octets : List UInt8} {cs : List Char}
    (h : decodeFrom index 0 (b :: octets) = .ok cs) :
    ∃ c next rest after, cs = c :: after ∧ b :: octets = String.utf8EncodeChar c ++ rest ∧
      decodeFrom next 0 rest = .ok after := by
  rw [decodeFrom] at h
  cases told : head b octets with
  | invalid span => simp [told] at h
  | incomplete => simp [told] at h
  | character c more =>
    obtain ⟨tail, rest, rfl, rfl, written⟩ := encodeChar_of_head told
    simp only [told, decodeFrom_skip] at h
    cases read : decodeFrom (index + 1 + tail.length) 0 rest with
    | error fault => simp [read] at h
    | ok after =>
      simp only [read, Except.ok.injEq] at h
      exact ⟨c, _, rest, after, h.symm, by rw [written, List.cons_append], read⟩

theorem encode_of_decodeFrom {index : Nat} {octets : List UInt8} {cs : List Char}
    (h : decodeFrom index 0 octets = .ok cs) : octets = encode cs := by
  induction cs generalizing index octets with
  | nil =>
    cases octets with
    | nil => rfl
    | cons b octets =>
      obtain ⟨c, next, rest, after, impossible, -⟩ := decodeFrom_cons_ok h
      cases impossible
  | cons c cs ih =>
    cases octets with
    | nil => cases h
    | cons b octets =>
      obtain ⟨c, next, rest, after, same, written, read⟩ := decodeFrom_cons_ok h
      cases same
      rw [written, ih read, encode, encode, List.flatMap_cons]

/-- Octets read as a text exactly when they are what the text is written with. -/
theorem decode_eq_ok_iff (octets : List UInt8) (cs : List Char) :
    decode octets = .ok cs ↔ octets = encode cs := by
  constructor
  · exact encode_of_decodeFrom
  · rintro rfl
    exact decodeFrom_encode 0 cs

theorem text?_eq_some_iff {octets : List UInt8} {cs : List Char} :
    text? octets = some cs ↔ octets = encode cs := by
  rw [← decode_eq_ok_iff, text?]
  split
  next decoded => simp [decoded]
  next refused => simp [refused]

/-! ## ASCII characters among the octets -/

/-- An octet below the continuing ones is all of the character it is an octet of. -/
theorem eq_of_mem_encodeChar {c d : Char} (low : c.toNat < 0x80)
    (h : UInt8.ofNat c.toNat ∈ String.utf8EncodeChar d) : c = d := by
  have high (n : Nat) (above : 0x80 ≤ n) (octet : n < 256) : UInt8.ofNat c.toNat ≠ UInt8.ofNat n := by
    intro same
    have codes := congrArg UInt8.toNat same
    rw [toNat_octet (by omega), toNat_octet octet] at codes
    omega
  simp only [String.utf8EncodeChar] at h
  by_cases one : d.val.toNat ≤ 0x7F
  · rw [if_pos one, List.mem_singleton] at h
    have codes := congrArg UInt8.toNat h
    rw [toNat_octet (by omega), toNat_octet (by omega)] at codes
    exact Char.toNat_inj.mp codes
  · exfalso
    rw [if_neg one] at h
    split at h
    · simp only [List.mem_cons, List.not_mem_nil, or_false] at h
      rcases h with h | h
      all_goals exact high _ (by omega) (by omega) h
    split at h
    · simp only [List.mem_cons, List.not_mem_nil, or_false] at h
      rcases h with h | h | h
      all_goals exact high _ (by omega) (by omega) h
    · simp only [List.mem_cons, List.not_mem_nil, or_false] at h
      rcases h with h | h | h | h
      all_goals exact high _ (by omega) (by omega) h

theorem encodeChar_ascii {c : Char} (low : c.toNat < 0x80) :
    String.utf8EncodeChar c = [UInt8.ofNat c.toNat] := by
  have one : c.val.toNat ≤ 0x7F := Nat.le_of_lt_succ low
  simp only [String.utf8EncodeChar, if_pos one]
  rfl

/-- An ASCII character is found among the octets of a text exactly if it is found in the text. -/
theorem mem_encode_iff {c : Char} (low : c.toNat < 0x80) {cs : List Char} :
    UInt8.ofNat c.toNat ∈ encode cs ↔ c ∈ cs := by
  rw [encode, List.mem_flatMap]
  constructor
  · rintro ⟨d, among, octet⟩
    rwa [eq_of_mem_encodeChar low octet]
  · intro h
    refine ⟨c, h, ?_⟩
    rw [encodeChar_ascii low]
    exact List.mem_singleton_self _

end AlertRelay.Text.Utf8
