import AlertRelay.Proofs.Feed.Grammar
import AlertRelay.Proofs.Json.Lexing

/-!
# Which lines are messages

A line whose text holds a document is the message that the document says, and of no other message.
What it has besides its kind and argument can be anything. The document is made of the tokens of the
line, so what the grammar says of its counts is said of how they are written there.
-/
namespace AlertRelay.Feed

open Json (Value)

/-! ## What is not heeded -/

/-- The members of an object that a message of a kind is made of. -/
def Kind.heeds (k : Kind) (m : String × Value) : Bool := m.1 = field || k.argument? = some m.1

def Message.kind : Message → Kind
  | entries _ => .entries
  | sound _ => .sound
  | enable => .enable
  | disable => .disable
  | test => .test
  | status => .status

theorem hasOne_heeded {k : Kind} {name : String}
    (heeded : name = Kind.field ∨ k.argument? = some name) {ms : List (String × Value)} {v : Value} :
    HasOne name v ms ↔ HasOne name v (ms.filter k.heeds) := by
  unfold HasOne
  have same : (ms.filter k.heeds).filter (·.1 = name) = ms.filter (·.1 = name) := by
    rw [List.filter_filter]
    refine List.filter_congr fun m _ => ?_
    by_cases named : m.1 = name
    · subst named
      simp [Kind.heeds, heeded]
    · simp [named]
  rw [same]

theorem gives_of_heeded {k : Kind} {ms ms' : List (String × Value)}
    (same : ms.filter k.heeds = ms'.filter k.heeds) {a? : Option Value}
    (given : Gives (.object ms) k a?) : Gives (.object ms') k a? := by
  have carried {name : String} {v : Value} (heeded : name = Kind.field ∨ k.argument? = some name)
      (one : HasOne name v ms) : HasOne name v ms' := by
    rw [hasOne_heeded heeded, ← same]
    exact (hasOne_heeded heeded).mp one
  cases given with
  | object one without => exact .object (carried (.inl rfl) one) without
  | objectWith one takes argument =>
    exact .objectWith (carried (.inl rfl) one) takes (carried (.inr takes) argument)

/-- What a document says is a matter of its kind and argument. -/
theorem Says.of_gives {v w : Value} {m : Message} (said : Says v m)
    (gives : ∀ a?, Gives v m.kind a? → Gives w m.kind a?) : Says w m := by
  cases said with
  | entries given counts found => exact .entries (gives _ given) counts found
  | sound given => exact .sound (gives _ given)
  | enable given => exact .enable (gives _ given)
  | disable given => exact .disable (gives _ given)
  | test given => exact .test (gives _ given)
  | status given => exact .status (gives _ given)

theorem says_iff_of_heeded {m : Message} {ms ms' : List (String × Value)}
    (same : ms.filter m.kind.heeds = ms'.filter m.kind.heeds) :
    Says (.object ms) m ↔ Says (.object ms') m :=
  ⟨fun said => said.of_gives fun _ => gives_of_heeded same,
    fun said => said.of_gives fun _ => gives_of_heeded same.symm⟩

/-! ## Counts as they are written -/

theorem isCount_number_iff {n : Json.Number} {k : UInt32} :
    IsCount (.number n) (some k) ↔ n = .integer k.toNat := by
  constructor
  · generalize same : Value.number n = v
    rintro (_ | _)
    cases same
    rfl
  · rintro rfl
    exact .number k

/-- A number of a text is a count exactly where it is written in digits alone, and is the one that
they stand for. -/
theorem count_of_lexemes {text : List Char} {l : Json.Lexeme} {n : Json.Number}
    (member : l ∈ Json.lexemes text) (number : l.token = .scalar (.number n)) :
    ∃ word, l.Covers 0 text word ∧ ∀ k : UInt32, IsCount (.number n) (some k) ↔
      (∀ c ∈ word, c.isDigit = true) ∧ k.toNat = Nat.ofDigitChars 10 word 0 := by
  obtain ⟨word, covers, natural⟩ := Json.number_of_lexemes member number
  refine ⟨word, covers, fun k => ?_⟩
  have small : k.toNat ≤ Json.Numeral.largest := by
    have bound := k.toNat_lt
    unfold Json.Numeral.largest
    omega
  rw [isCount_number_iff, natural]
  exact and_congr_right fun _ => and_iff_left small

/-! ## Lines -/

/-- A line whose text is one document is a message exactly if the document says one, and is that
message. Members besides the kind and its argument have no influence. The numbers of the document are
those written in the line, in its order, and one of them is a count exactly if it is written in digits
alone and they stand for 32 bits; it is never another count than that. -/
theorem line_message_iff {line : List Char} {v : Value}
    (one : Json.parse (Text.trim line) = .ok v) :
    (∃ result, Message.ofLine? line = some result) ∧
    (∀ m, Message.ofLine? line = some (.ok m) ↔ Says v m) ∧
    (∀ ms ms' other m, v = .object ms → Json.parse (Text.trim other) = .ok (.object ms') →
      ms.filter m.kind.heeds = ms'.filter m.kind.heeds →
      (Message.ofLine? line = some (.ok m) ↔ Message.ofLine? other = some (.ok m))) ∧
    (Json.lexemes (Text.trim line)).map (·.token) = v.tokens ++ [.finish] ∧
    (∀ l ∈ Json.lexemes (Text.trim line), ∀ n, l.token = .scalar (.number n) →
      ∃ word, l.Covers 0 (Text.trim line) word ∧ ∀ k : UInt32, IsCount (.number n) (some k) ↔
        (∀ c ∈ word, c.isDigit = true) ∧ k.toNat = Nat.ofDigitChars 10 word 0) := by
  refine ⟨?_, fun m => Message.ofLine?_eq_ok_iff one, ?_, Json.parse_tokens one,
    fun l member n number => count_of_lexemes member number⟩
  · have filled := Message.trim_filled one
    exact ⟨Message.ofText (Text.trim line), by rw [Message.ofLine?, filled]; rfl⟩
  · rintro ms ms' other m rfl one' same
    rw [Message.ofLine?_eq_ok_iff one, Message.ofLine?_eq_ok_iff one', says_iff_of_heeded same]

/-- A line of counts with a repeated key, its kind last and behind a member that no message has. -/
def repeatingLine : List Char :=
  " \x7b\"x\":[0],\"entries\":\x7b\"a\":1,\"b\":null,\"a\":0\x7d,\"type\":\"entries\"\x7d\r".toList

def repeatingMembers : List (String × Value) :=
  [("a", .number (.integer 1)), ("b", .null), ("a", .number (.integer 0))]

def repeatingDocument : Value :=
  .object [("x", .array [.number (.integer 0)]), ("entries", .object repeatingMembers),
    ("type", .text "entries")]

def repeatingCounts : List (String × Option UInt32) := [("a", some 1), ("b", none), ("a", some 0)]

theorem parse_repeatingLine : Json.parse (Text.trim repeatingLine) = .ok repeatingDocument := rfl

theorem repeatingDocument_gives :
    Gives repeatingDocument .entries (some (.object repeatingMembers)) :=
  .objectWith (k := .entries) rfl rfl rfl

theorem repeatingMembers_counts : List.Forall₂ IsEntry repeatingMembers repeatingCounts :=
  .cons ⟨rfl, .number 1⟩ (.cons ⟨rfl, .missing⟩ (.cons ⟨rfl, .number 0⟩ .nil))

/-- Of the repeated key the last count stands, and the member before is not heeded. -/
theorem repeatingLine_message : Json.parse (Text.trim repeatingLine) = .ok repeatingDocument ∧
    ∃ batch : Batch, Message.ofLine? repeatingLine = some (.ok (.entries batch)) ∧
      batch["a"]? = some (some 0) ∧ batch["b"]? = some none ∧ batch["x"]? = none := by
  obtain ⟨-, message, -⟩ := line_message_iff parse_repeatingLine
  obtain ⟨batch, found⟩ := Fields.exists_batch repeatingCounts
  refine ⟨parse_repeatingLine, batch, (message _).mpr ?_, found "a", found "b", found "x"⟩
  exact .entries repeatingDocument_gives repeatingMembers_counts found

end AlertRelay.Feed
