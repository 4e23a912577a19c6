import AlertRelay.Proofs.Feed.Acceptance
import AlertRelay.Proofs.Feed.Line

/-!
# Every message survives its text

An object of a message has its members, and those of its counts, in any order. However it is written
as a line, the message is got back: the text is cut into the tokens of the object, these are read as
it, and it says the message. White space around a line never matters.
-/
namespace AlertRelay.Feed

open Json (Value TextOf)

/-! ## White space around a line -/

/-- Nothing but white space. -/
def IsPadding (cs : List Char) : Prop := ∀ c ∈ cs, Text.isBlank c = true

theorem trim_append_padding {after : List Char} (blank : IsPadding after) (line : List Char) :
    Text.trim (line ++ after) = Text.trim line := by
  induction after using List.reverseRecOn with
  | nil => rw [List.append_nil]
  | append_singleton after c ih =>
    obtain ⟨first, last⟩ := List.forall_mem_append.mp blank
    rw [← List.append_assoc, trim_append_blank _ (last c (List.mem_singleton.mpr rfl)), ih first]

theorem trim_padding_append {before : List Char} (blank : IsPadding before) (line : List Char) :
    Text.trim (before ++ line) = Text.trim line := by
  rw [Text.trim, List.dropWhile_append_of_pos blank, Text.trim]

theorem trim_padded {before after : List Char} (blank : IsPadding before) (blank' : IsPadding after)
    (line : List Char) : Text.trim (before ++ line ++ after) = Text.trim line := by
  rw [trim_append_padding blank', trim_padding_append blank]

theorem dropWhile_visible {c : Char} {text : List Char} (first : text.head? = some c)
    (visible : Text.isBlank c = false) : text.dropWhile Text.isBlank = text := by
  obtain ⟨rest, rfl⟩ := List.head?_eq_some_iff.mp first
  exact List.dropWhile_cons_of_neg (by simp [visible])

/-- A text that begins and ends visibly is trimmed already. -/
theorem trim_visible {c d : Char} {text : List Char} (first : text.head? = some c)
    (last : text.getLast? = some d) (visible : Text.isBlank c = false)
    (visible' : Text.isBlank d = false) : Text.trim text = text := by
  have backwards : text.reverse.head? = some d := by rw [List.head?_reverse, last]
  rw [Text.trim, dropWhile_visible first visible, Text.dropEndWhile,
    dropWhile_visible backwards visible', List.reverse_reverse]

/-! ## Objects of a message -/

/-- A count as a value. -/
def valueOf : Option UInt32 → Value
  | none => .null
  | some n => .number (.integer n.toNat)

/-- The objects of a message. -/
inductive ObjectOf : Message → List (String × Value) → Prop
  | entries {batch : Batch} {counts : List (String × Option UInt32)} {ms : List (String × Value)} :
      counts.Perm batch.toList →
      ms.Perm [("type", .text "entries"),
        ("entries", .object (counts.map fun c => (c.1, valueOf c.2)))] →
      ObjectOf (.entries batch) ms
  | sound {on : Bool} {ms : List (String × Value)} :
      ms.Perm [("type", .text "sound"), ("enabled", .boolean on)] → ObjectOf (.sound on) ms
  | enable : ObjectOf .enable [("type", .text "enable")]
  | disable : ObjectOf .disable [("type", .text "disable")]
  | test : ObjectOf .test [("type", .text "test")]
  | status : ObjectOf .status [("type", .text "status")]

theorem HasOne.of_perm {name : String} {v : Value} {ms ms' : List (String × Value)}
    (same : ms.Perm ms') (one : HasOne name v ms') : HasOne name v ms := by
  have filtered := same.filter (·.1 = name)
  rw [one] at filtered
  exact List.perm_singleton.mp filtered

theorem isCount_valueOf (count : Option UInt32) : IsCount (valueOf count) count := by
  cases count with
  | none => exact .missing
  | some n => exact .number n

/-- An object of a message says it. -/
theorem ObjectOf.said {m : Message} {ms : List (String × Value)} (object : ObjectOf m ms) :
    Says (.object ms) m := by
  cases object with
  | entries listed same =>
    refine .entries (.objectWith (k := .entries) (.of_perm same rfl) rfl (.of_perm same rfl)) ?_
      fun key => (Engine.lastCount?_of_perm listed key).symm
    exact List.forall₂_map_left_iff.mpr (List.forall₂_same.mpr fun c _ => ⟨rfl, isCount_valueOf c.2⟩)
  | sound same =>
    exact .sound (.objectWith (k := .sound) (.of_perm same rfl) rfl (.of_perm same rfl))
  | enable => exact .enable (.object rfl rfl)
  | disable => exact .disable (.object rfl rfl)
  | test => exact .test (.object rfl rfl)
  | status => exact .status (.object rfl rfl)

/-- A value that a text can hold at the second level of a document. -/
def IsModest (v : Value) : Prop := v.depth ≤ 1 ∧ v.IsWritable

theorem isModest_text (s : String) : IsModest (.text s) := by
  obtain ⟨_, written⟩ := Json.exists_writes_text s
  exact ⟨Nat.zero_le 1, Json.isWritable_scalar written⟩

theorem isModest_boolean (on : Bool) : IsModest (.boolean on) := by
  cases on with
  | true => exact ⟨Nat.zero_le 1, Json.isWritable_scalar .yes⟩
  | false => exact ⟨Nat.zero_le 1, Json.isWritable_scalar .no⟩

theorem valueOf_modest (count : Option UInt32) :
    (valueOf count).depth = 0 ∧ (valueOf count).IsWritable := by
  cases count with
  | none => exact ⟨rfl, Json.isWritable_scalar .null⟩
  | some n =>
    have fits : n.toNat ≤ Json.Numeral.largest := by
      have bound := n.toNat_lt
      unfold Json.Numeral.largest
      omega
    exact ⟨rfl, Json.isWritable_scalar (.natural fits)⟩

theorem isModest_counts (counts : List (String × Option UInt32)) :
    IsModest (.object (counts.map fun c => (c.1, valueOf c.2))) := by
  constructor
  · refine Value.depth_object_le (List.forall_mem_map.mpr fun c _ => ?_)
    exact Nat.le_of_eq (valueOf_modest c.2).1
  · exact Json.isWritable_object (List.forall_mem_map.mpr fun c _ => (valueOf_modest c.2).2)

theorem ObjectOf.modest {m : Message} {ms : List (String × Value)} (object : ObjectOf m ms) :
    ∀ member ∈ ms, IsModest member.2 := by
  have pair {name name' : String} {v v' : Value} (first : IsModest v) (second : IsModest v')
      (same : ms.Perm [(name, v), (name', v')]) : ∀ member ∈ ms, IsModest member.2 := by
    intro member inside
    rcases List.mem_cons.mp (same.mem_iff.mp inside) with rfl | last
    · exact first
    · rw [List.mem_singleton.mp last]
      exact second
  have word (k : Kind) : ∀ member ∈ [("type", Value.text k.word)], IsModest member.2 := by
    intro member inside
    rw [List.mem_singleton.mp inside]
    exact isModest_text k.word
  cases object with
  | entries _ same => exact pair (isModest_text _) (isModest_counts _) same
  | sound same => exact pair (isModest_text _) (isModest_boolean _) same
  | enable => exact word .enable
  | disable => exact word .disable
  | test => exact word .test
  | status => exact word .status

theorem exists_objectOf (m : Message) : ∃ ms, ObjectOf m ms := by
  cases m with
  | entries batch => exact ⟨_, .entries (.refl _) (.refl _)⟩
  | sound on => exact ⟨_, .sound (.refl _)⟩
  | enable => exact ⟨_, .enable⟩
  | disable => exact ⟨_, .disable⟩
  | test => exact ⟨_, .test⟩
  | status => exact ⟨_, .status⟩

/-! ## Lines -/

/-- Every text of an object of a message holds that object. -/
theorem parse_of_objectOf {m : Message} {ms : List (String × Value)} {text : List Char}
    (object : ObjectOf m ms) (written : TextOf (Value.object ms).tokens text) :
    Json.parse text = .ok (.object ms) := by
  have shallow := Value.depth_object_le fun member inside => (object.modest member inside).1
  exact Json.parse_of_textOf written (Nat.le_trans shallow (by decide))

/-- Every message can be written, and however it is written as an object, with white space around it,
the line is that message. White space around a line has no influence on what the line comes to, nor
on the place of what is wrong with it. -/
theorem message_of_its_text (m : Message) :
    (∃ ms text, ObjectOf m ms ∧ TextOf (Value.object ms).tokens text) ∧
    (∀ ms text before after, ObjectOf m ms → TextOf (Value.object ms).tokens text →
      IsPadding before → IsPadding after →
      Message.ofLine? (before ++ text ++ after) = some (.ok m)) ∧
    (∀ line before after, IsPadding before → IsPadding after →
      Message.ofLine? (before ++ line ++ after) = Message.ofLine? line) := by
  refine ⟨?_, ?_, ?_⟩
  · obtain ⟨ms, object⟩ := exists_objectOf m
    have writable := Json.isWritable_object fun member inside => (object.modest member inside).2
    have filled : (Value.object ms).tokens ≠ [] := by
      rw [Value.tokens_object]
      exact List.cons_ne_nil _ _
    obtain ⟨text, written⟩ := Json.exists_textOf filled writable
    exact ⟨ms, text, object, written⟩
  · intro ms text before after object written blank blank'
    obtain ⟨opens, closes⟩ := written.braces
    have trimmed : Text.trim (before ++ text ++ after) = text := by
      rw [trim_padded blank blank', trim_visible opens closes (by decide) (by decide)]
    rw [Message.ofLine?_eq_ok_iff (trimmed.symm ▸ parse_of_objectOf object written)]
    exact object.said
  · intro line before after blank blank'
    rw [Message.ofLine?, Message.ofLine?, trim_padded blank blank']

/-- A count for a key beyond the first plane. -/
def astralBatch : Batch := (∅ : Batch).insert "😀" (some 7)

def astralMembers : List (String × Value) :=
  [("entries", .object [("😀", .number (.integer 7))]), ("type", .text "entries")]

/-- The key is written as a pair of escapes, a letter of the kind as one. -/
def astralText : List Char :=
  "\x7b\"entries\": \x7b\"\\uD83D\\uDe00\":7\x7d,\t\"type\":\"\\u0065ntries\"\x7d".toList

theorem astralBatch_object : ObjectOf (.entries astralBatch) astralMembers := by
  have listed : List.Perm [("😀", some 7)] astralBatch.toList := .refl _
  exact .entries listed (.swap _ _ _)

theorem astralText_written : TextOf (Value.object astralMembers).tokens astralText := by
  have quoted (s : String) {es : List Char} (contents : Json.Quote.WritesAll s.toList es) :
      (Json.Token.scalar (.text s)).Writes ('"' :: (es ++ ['"'])) := .text contents
  have lead : Json.Quote.IsUnit (0xD800 + ('😀'.toNat - 0x10000) / 0x400) ['D', '8', '3', 'D'] := by
    decide
  have trail : Json.Quote.IsUnit (0xDC00 + ('😀'.toNat - 0x10000) % 0x400) ['D', 'e', '0', '0'] := by
    decide
  have pair : Json.Quote.Writes '😀' "\\uD83D\\uDe00".toList := .pair (by decide) lead trail
  have letter : Json.Quote.IsUnit 'e'.toNat ['0', '0', '6', '5'] := by decide
  have escaped : Json.Quote.Writes 'e' "\\u0065".toList := .unit (by decide) letter
  have key := quoted "😀" (.cons pair .nil)
  have kind := quoted "entries" (.cons escaped (Json.Quote.writesAll_raw (by decide)))
  have entries := quoted "entries" (Json.Quote.writesAll_raw (by decide))
  have type := quoted "type" (Json.Quote.writesAll_raw (by decide))
  have count : (Json.Token.scalar (.number (.integer 7))).Writes ['7'] := .natural (by decide)
  have opens : Json.Token.openObject.Writes ['\x7b'] := .mark (by decide)
  have closes : Json.Token.closeObject.Writes ['\x7d'] := .mark (by decide)
  have colon : Json.Token.colon.Writes [':'] := .mark (by decide)
  have comma : Json.Token.comma.Writes [','] := .mark (by decide)
  have nothing : ∀ c ∈ [], Json.isSpace c = true := List.forall_mem_nil _
  have space : ∀ c ∈ [' '], Json.isSpace c = true := List.forall_mem_singleton.mpr (by decide)
  have tab : ∀ c ∈ ['\t'], Json.isSpace c = true := List.forall_mem_singleton.mpr (by decide)
  have inner := TextOf.more opens nothing (.more key nothing (.more colon nothing (.more count nothing
    (.more closes nothing (.more comma tab (.more type nothing (.more colon nothing (.more kind nothing
      (.one closes)))))))))
  have written := TextOf.more opens nothing (.more entries nothing (.more colon space inner))
  exact written

/-- Read between an ideographic space and a carriage return. -/
theorem astralText_message :
    Message.ofLine? ('\u3000' :: (astralText ++ ['\r'])) = some (.ok (.entries astralBatch)) ∧
      Message.ofLine? ['\u3000', 'x', '\r'] = Message.ofLine? ['x'] := by
  obtain ⟨-, survives, padded⟩ := message_of_its_text (.entries astralBatch)
  have before : IsPadding ['\u3000'] := List.forall_mem_singleton.mpr (by decide)
  have after : IsPadding ['\r'] := List.forall_mem_singleton.mpr (by decide)
  have survived := survives _ _ _ _ astralBatch_object astralText_written before after
  exact ⟨survived, padded ['x'] _ _ before after⟩

end AlertRelay.Feed
