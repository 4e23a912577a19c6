import AlertRelay.Proofs.Json.Spelling

/-!
# Texts of a document

A text of some tokens writes each of them in one of its ways, with any white space between. These are
the plain ones among the texts that spell the tokens, so every text of a document that is not nested too
deep is read as it. Numbers that are read stand in the text, and one that is written in digits alone is
the natural number that these stand for.
-/
namespace AlertRelay.Json

/-! ## The ways to write -/

/-- One token; of the numbers only those without sign, fraction and exponent. -/
inductive Token.Writes : Token → List Char → Prop
  | mark {c : Char} {t : Token} : (c, t) ∈ marks → Writes t [c]
  | null : Writes (.scalar .null) ['n', 'u', 'l', 'l']
  | yes : Writes (.scalar (.boolean true)) ['t', 'r', 'u', 'e']
  | no : Writes (.scalar (.boolean false)) ['f', 'a', 'l', 's', 'e']
  | natural {n : Nat} : n ≤ Numeral.largest →
      Writes (.scalar (.number (.integer n))) (Nat.toDigits 10 n)
  | text {s : String} {es : List Char} : Quote.WritesAll s.toList es →
      Writes (.scalar (.text s)) ('"' :: (es ++ ['"']))

/-- A text of tokens, white space between them. -/
inductive TextOf : List Token → List Char → Prop
  | one {t : Token} {word : List Char} : t.Writes word → TextOf [t] word
  | more {t : Token} {ts : List Token} {word gap rest : List Char} : t.Writes word →
      (∀ c ∈ gap, isSpace c = true) → TextOf ts rest → TextOf (t :: ts) (word ++ (gap ++ rest))

theorem Token.Writes.spells {t : Token} {word : List Char} (written : t.Writes word) :
    t.Spells word := by
  cases written with
  | mark member => exact .mark member
  | null => exact .null
  | yes => exact .yes
  | no => exact .no
  | natural fits => exact .number (Numeral.writes_natural _) (Numeral.value_of_natural fits)
  | text contents => exact .text contents

theorem TextOf.spelling {ts : List Token} {text : List Char} (written : TextOf ts text) :
    Spelling ts text := by
  have nothing : ∀ c ∈ [], isSpace c = true := List.forall_mem_nil _
  induction written with
  | @one t word first =>
    have alone : Spelling [t] ([] ++ (word ++ [])) := .more nothing first.spells (.done nothing)
    rwa [List.nil_append, List.append_nil] at alone
  | @more t ts word gap rest first blank _ ih =>
    have behind : Spelling (t :: ts) ([] ++ (word ++ (gap ++ rest))) :=
      .more nothing first.spells (ih.behind_gap blank)
    exact behind

/-- Every text of a document is read as it, unless its containers are nested too deep. -/
theorem parse_of_textOf {v : Value} {text : List Char} (written : TextOf v.tokens text)
    (shallow : v.depth ≤ State.deepest) : parse text = .ok v :=
  parse_eq_ok_iff.mpr ⟨written.spelling, shallow⟩

/-! ## Where a lexeme stands -/

/-- A lexeme stands in a text where it says and is written there with that word. -/
def Lexeme.Covers (l : Lexeme) (start : Nat) (text word : List Char) : Prop :=
  ∃ before after, text = before ++ (word ++ after) ∧ l.start = start + width before ∧
    l.stop = l.start + width word

theorem Lexeme.Covers.cons {l : Lexeme} {start : Nat} {c : Char} {rest word : List Char}
    (covers : l.Covers (start + c.utf8Size) rest word) : l.Covers start (c :: rest) word := by
  obtain ⟨before, after, whole, place, extent⟩ := covers
  exact ⟨c :: before, after, by rw [whole]; rfl, by rw [place, width, Nat.add_assoc], extent⟩

theorem isSpace_utf8Size {c : Char} (space : isSpace c = true) : c.utf8Size = 1 := by
  simp only [isSpace, Bool.or_eq_true, decide_eq_true_eq] at space
  rcases space with ((rfl | rfl) | rfl) | rfl <;> rfl

/-- A lexeme is spelled where it stands, unless the text ends there. -/
theorem spells_of_lexemes {text : List Char} {start skip : Nat} {l : Lexeme}
    (member : l ∈ lexemesFrom start skip text) (more : l.token.isLast = false) :
    ∃ word, l.Covers start text word ∧ l.token.Spells word := by
  induction text generalizing start skip with
  | nil =>
    rw [lexemesFrom, List.mem_singleton] at member
    rw [member] at more
    cases more
  | cons c rest ih =>
    cases skip with
    | succ skip =>
      rw [lexemesFrom] at member
      obtain ⟨word, covers, spelled⟩ := ih member
      exact ⟨word, covers.cons, spelled⟩
    | zero =>
      rw [lexemesFrom] at member
      split at member
      next space =>
        rw [← isSpace_utf8Size space] at member
        obtain ⟨word, covers, spelled⟩ := ih member
        exact ⟨word, covers.cons, spelled⟩
      next =>
        rcases cut : tokenAt start c rest with ⟨token, length⟩
        rw [cut] at member
        have first : l = ⟨token, start, start + width ((c :: rest).take length)⟩ ∨
            l ∈ lexemesFrom (start + c.utf8Size) (length - 1) rest := by
          dsimp only at member
          split at member
          · exact .inl (List.mem_singleton.mp member)
          · exact List.mem_cons.mp member
        rcases first with rfl | further
        · obtain ⟨cs, after, rfl, rfl, spelled⟩ := tokenAt_found cut more
          refine ⟨c :: cs, ⟨[], after, rfl, rfl, ?_⟩, spelled⟩
          rw [List.take_succ_cons, List.take_left]
        · obtain ⟨word, covers, spelled⟩ := ih further
          exact ⟨word, covers.cons, spelled⟩

/-- A number of a text is a natural one exactly where it is written in digits alone, and is then what
they stand for. -/
theorem number_of_lexemes {text : List Char} {start skip : Nat} {l : Lexeme} {n : Number}
    (member : l ∈ lexemesFrom start skip text) (number : l.token = .scalar (.number n)) :
    ∃ word, l.Covers start text word ∧ ∀ k : Nat, n = .integer k ↔
      (∀ c ∈ word, c.isDigit = true) ∧ k = Nat.ofDigitChars 10 word 0 ∧ k ≤ Numeral.largest := by
  obtain ⟨word, covers, spelled⟩ := spells_of_lexemes member (number ▸ rfl)
  rw [number] at spelled
  cases spelled with
  | mark impossible => simp [marks] at impossible
  | number written valued => exact ⟨word, covers, written.natural_iff valued⟩

/-! ## The ends of a text -/

theorem TextOf.head {t : Token} {ts : List Token} {text : List Char}
    (written : TextOf (t :: ts) text) : ∃ word rest, t.Writes word ∧ text = word ++ rest := by
  cases written with
  | one word => exact ⟨_, [], word, (List.append_nil _).symm⟩
  | more word => exact ⟨_, _, word, rfl⟩

theorem Token.Writes.of_isMark {t : Token} {word : List Char} (written : t.Writes word)
    (mark : t.isMark = true) : ∃ c, (c, t) ∈ marks ∧ word = [c] := by
  cases written with
  | mark member => exact ⟨_, member, rfl⟩
  | null | yes | no | natural | text => simp [Token.isMark, marks] at mark

theorem TextOf.last {t : Token} {ts : List Token} {text : List Char}
    (written : TextOf (ts ++ [t]) text) :
    ∃ front word, t.Writes word ∧ text = front ++ word := by
  induction ts generalizing text with
  | nil =>
    cases written with
    | one word => exact ⟨[], _, word, rfl⟩
    | more _ _ impossible => cases impossible
  | cons u us ih =>
    generalize whole : u :: us ++ [t] = tokens at written
    cases written with
    | one => exact absurd (List.cons.inj whole).2 (by simp)
    | @more _ _ word gap _ _ _ others =>
      obtain ⟨-, rfl⟩ := List.cons.inj whole
      obtain ⟨front, word', last, rfl⟩ := ih others
      exact ⟨word ++ (gap ++ front), word', last, by simp only [List.append_assoc]⟩

/-- The text of an object begins and ends with its braces. -/
theorem TextOf.braces {members : List (String × Value)} {text : List Char}
    (written : TextOf (Value.object members).tokens text) :
    text.head? = some '\x7b' ∧ text.getLast? = some '\x7d' := by
  obtain ⟨_, rest, opens, whole⟩ := written.head
  obtain ⟨front, _, closes, whole'⟩ := written.last
  obtain ⟨c, first, rfl⟩ := opens.of_isMark rfl
  obtain ⟨d, last, rfl⟩ := closes.of_isMark rfl
  constructor
  · rw [whole]
    simpa [marks] using first
  · rw [whole', List.getLast?_concat]
    simpa [marks] using last

/-! ## Documents that can be written -/

theorem mem_commaBetween {t : Token} {parts : List (List Token)} (member : t ∈ commaBetween parts) :
    t = .comma ∨ ∃ part ∈ parts, t ∈ part := by
  induction parts with
  | nil => cases member
  | cons part more ih =>
    cases more with
    | nil => exact .inr ⟨part, List.mem_cons_self, member⟩
    | cons next rest =>
      rcases List.mem_append.mp member with first | others
      · exact .inr ⟨part, List.mem_cons_self, first⟩
      rcases List.mem_cons.mp others with comma | later
      · exact .inl comma
      obtain comma | ⟨part', member', inside⟩ := ih later
      · exact .inl comma
      · exact .inr ⟨part', List.mem_cons_of_mem _ member', inside⟩

/-- There is a way to write each of the tokens. -/
def Value.IsWritable (v : Value) : Prop := ∀ t ∈ v.tokens, ∃ word, t.Writes word

theorem isWritable_scalar {s : Scalar} {word : List Char} (written : (Token.scalar s).Writes word) :
    (Value.scalar s).IsWritable := by
  intro t member
  rw [Value.tokens, List.mem_singleton] at member
  exact ⟨word, member ▸ written⟩

theorem exists_writes_mark {t : Token} (mark : t.isMark = true) : ∃ word, t.Writes word := by
  obtain ⟨⟨c, _⟩, member, same⟩ := List.any_eq_true.mp mark
  obtain rfl := of_decide_eq_true same
  exact ⟨[c], .mark member⟩

theorem exists_writes_text (s : String) : ∃ word, (Token.scalar (.text s)).Writes word := by
  obtain ⟨es, written⟩ := Quote.exists_writesAll s.toList
  exact ⟨_, .text written⟩

theorem isWritable_object {members : List (String × Value)}
    (each : ∀ m ∈ members, m.2.IsWritable) : (Value.object members).IsWritable := by
  intro t member
  rw [Value.tokens_object, List.cons_append, List.mem_cons, List.mem_append,
    List.mem_singleton] at member
  rcases member with rfl | inside | rfl
  · exact exists_writes_mark rfl
  · obtain rfl | ⟨part, of_member, inside⟩ := mem_commaBetween inside
    · exact exists_writes_mark rfl
    obtain ⟨⟨key, v⟩, here, rfl⟩ := List.mem_map.mp of_member
    rw [Value.memberTokens, List.mem_cons, List.mem_cons] at inside
    rcases inside with rfl | rfl | inside
    · exact exists_writes_text key
    · exact exists_writes_mark rfl
    · exact each _ here t inside
  · exact exists_writes_mark rfl

theorem exists_textOf {ts : List Token} (filled : ts ≠ []) (each : ∀ t ∈ ts, ∃ word, t.Writes word) :
    ∃ text, TextOf ts text := by
  induction ts with
  | nil => exact absurd rfl filled
  | cons t ts ih =>
    obtain ⟨⟨word, written⟩, each⟩ := List.forall_mem_cons.mp each
    by_cases last : ts = []
    · exact ⟨word, last ▸ .one written⟩
    · obtain ⟨rest, others⟩ := ih last each
      exact ⟨_, .more written (List.forall_mem_nil fun c => isSpace c = true) others⟩

end AlertRelay.Json
