import AlertRelay.Feed.Drive
import AlertRelay.Proofs.Text.Utf8

/-!
# Lines of a feed

A feed is cut at its line feeds. A feed that is empty or ends in one can be continued without
touching its lines; any other feed ends within a line. What a line comes to depends on its text
without the white space around it, so a carriage return before the line feed goes for nothing.
-/
namespace AlertRelay.Feed

/-- Nothing of a line has been begun. -/
def EndsLine (feed : List UInt8) : Prop := feed = [] ∨ feed.getLast? = some 0x0A

theorem EndsLine.of_cons {b : UInt8} {rest : List UInt8} (h : EndsLine (b :: rest)) :
    EndsLine rest ∧ (rest = [] → b = 0x0A) := by
  rcases h with impossible | last
  · cases impossible
  · cases rest with
    | nil =>
      refine ⟨Or.inl rfl, fun _ => ?_⟩
      simpa using last
    | cons c rest =>
      refine ⟨Or.inr ?_, fun impossible => by cases impossible⟩
      rwa [List.getLast?_cons_cons] at last

theorem lines_line_feed (rest : List UInt8) : lines (0x0A :: rest) = [] :: lines rest := by
  rw [lines, if_pos rfl]

theorem lines_ne_nil (b : UInt8) (rest : List UInt8) : lines (b :: rest) ≠ [] := by
  rw [lines]
  split
  · exact List.cons_ne_nil _ _
  · split <;> exact List.cons_ne_nil _ _

theorem lines_other {b : UInt8} (other : b ≠ 0x0A) {rest l : List UInt8} {ls : List (List UInt8)}
    (cut : lines rest = l :: ls) : lines (b :: rest) = (b :: l) :: ls := by
  rw [lines, if_neg other, cut]

/-- Whole lines stay as they are whatever follows. -/
theorem lines_append {x : List UInt8} (ends : EndsLine x) (y : List UInt8) :
    lines (x ++ y) = lines x ++ lines y := by
  induction x with
  | nil => rfl
  | cons b rest ih =>
    obtain ⟨ends, last⟩ := ends.of_cons
    by_cases feed : b = 0x0A
    · rw [feed, List.cons_append, lines_line_feed, lines_line_feed, ih ends, List.cons_append]
    · cases rest with
      | nil => exact absurd (last rfl) feed
      | cons c rest =>
        obtain ⟨l, ls, cut⟩ := List.exists_cons_of_ne_nil (lines_ne_nil c rest)
        have longer := ih ends
        rw [cut] at longer
        rw [List.cons_append, lines_other feed longer, lines_other feed cut]
        rfl

/-- What stands before the first line feed is the first line. -/
theorem lines_of_line {l : List UInt8} (whole : 0x0A ∉ l) (rest : List UInt8) :
    lines (l ++ 0x0A :: rest) = l :: lines rest := by
  induction l with
  | nil => exact lines_line_feed rest
  | cons b l ih =>
    have other : b ≠ 0x0A := fun same => whole (by simp [same])
    have tail : 0x0A ∉ l := fun member => whole (List.mem_cons_of_mem b member)
    rw [List.cons_append, lines, if_neg other, ih tail]

/-- What is left at the end is a line too, unless it is empty. -/
theorem lines_of_rest {l : List UInt8} (whole : 0x0A ∉ l) :
    lines l = if l = [] then [] else [l] := by
  induction l with
  | nil => rfl
  | cons b l ih =>
    have other : b ≠ 0x0A := fun same => whole (by simp [same])
    have tail : 0x0A ∉ l := fun member => whole (List.mem_cons_of_mem b member)
    rw [lines, if_neg other, ih tail, if_neg (List.cons_ne_nil b l)]
    by_cases empty : l = []
    · rw [if_pos empty, empty]
    · rw [if_neg empty]

/-- A feed is made of whole lines and what is left after them. -/
theorem exists_endsLine_append (feed : List UInt8) :
    ∃ x l, feed = x ++ l ∧ EndsLine x ∧ 0x0A ∉ l := by
  induction feed with
  | nil => exact ⟨[], [], rfl, Or.inl rfl, List.not_mem_nil⟩
  | cons b rest ih =>
    obtain ⟨x, l, rfl, ends, whole⟩ := ih
    by_cases begun : x = [] ∧ b ≠ 0x0A
    · obtain ⟨rfl, other⟩ := begun
      refine ⟨[], b :: l, rfl, Or.inl rfl, ?_⟩
      rw [List.mem_cons]
      rintro (same | member)
      · exact other same.symm
      · exact whole member
    · refine ⟨b :: x, l, rfl, Or.inr ?_, whole⟩
      cases x with
      | nil =>
        have feed : b = 0x0A := Classical.not_not.mp fun other => begun ⟨rfl, other⟩
        rw [feed]
        rfl
      | cons c x =>
        rcases ends with impossible | last
        · cases impossible
        · rwa [List.getLast?_cons_cons]

/-- A feed that goes on behind a line feed keeps the lines it had, an empty one perhaps added. -/
theorem lines_append_line_feed (feed rest : List UInt8) :
    lines (feed ++ 0x0A :: rest) = lines feed ++ lines rest ∨
      lines (feed ++ 0x0A :: rest) = lines feed ++ [] :: lines rest := by
  obtain ⟨x, l, rfl, ends, whole⟩ := exists_endsLine_append feed
  rw [List.append_assoc, lines_append ends, lines_append ends, lines_of_line whole,
    lines_of_rest whole]
  by_cases empty : l = []
  · rw [if_pos empty, empty, List.append_nil]
    exact Or.inr rfl
  · rw [if_neg empty, List.append_assoc]
    exact Or.inl rfl

/-! ## What a line comes to -/

namespace Line

/-- The octets were UTF-8. -/
def isText : Line → Bool
  | undecodable _ => false
  | _ => true

def isMessage : Line → Bool
  | message _ => true
  | _ => false

theorem ofOctets_encode (text : List Char) :
    ofOctets (Text.Utf8.encode text) =
      match Message.ofLine? text with
      | none => .blank
      | some (.ok m) => .message m
      | some (.error report) => .malformed report := by
  have read := (Text.Utf8.decode_eq_ok_iff (Text.Utf8.encode text) text).mpr rfl
  cases parsed : Message.ofLine? text with
  | none => simp only [ofOctets, read, parsed]
  | some result => cases result <;> simp only [ofOctets, read, parsed]

theorem isText_iff (octets : List UInt8) :
    (ofOctets octets).isText = true ↔ ∃ text, octets = Text.Utf8.encode text := by
  constructor
  · intro h
    unfold ofOctets at h
    cases read : Text.Utf8.decode octets with
    | error fault => simp [read, isText] at h
    | ok text => exact ⟨text, (Text.Utf8.decode_eq_ok_iff octets text).mp read⟩
  · rintro ⟨text, rfl⟩
    rw [ofOctets_encode]
    split <;> rfl

theorem isMessage_iff (text : List Char) :
    (ofOctets (Text.Utf8.encode text)).isMessage = true ↔
      ∃ m, Message.ofLine? text = some (.ok m) := by
  rw [ofOctets_encode]
  split <;> simp_all [isMessage]

/-- Octets that cannot be read hold no text. -/
theorem ofOctets_of_not_text {octets : List UInt8}
    (h : ¬ ∃ text, octets = Text.Utf8.encode text) :
    ∃ fault, ofOctets octets = .undecodable fault := by
  rw [← isText_iff] at h
  cases line : ofOctets octets with
  | undecodable fault => exact ⟨fault, rfl⟩
  | blank | message _ | malformed _ => simp [line, isText] at h

end Line

/-! ## A carriage return at the end -/

theorem trim_append_blank (cs : List Char) {c : Char} (blank : Text.isBlank c = true) :
    Text.trim (cs ++ [c]) = Text.trim cs := by
  unfold Text.trim
  rw [List.dropWhile_append]
  by_cases all : (cs.dropWhile Text.isBlank).isEmpty = true
  · rw [if_pos all, List.isEmpty_iff.mp all, List.dropWhile_cons_of_pos blank]
    rfl
  · rw [if_neg all, Text.dropEndWhile, Text.dropEndWhile, List.reverse_append,
      List.reverse_singleton, List.singleton_append, List.dropWhile_cons_of_pos blank]

theorem ofLine?_append_blank (line : List Char) {c : Char} (blank : Text.isBlank c = true) :
    Message.ofLine? (line ++ [c]) = Message.ofLine? line := by
  rw [Message.ofLine?, Message.ofLine?, trim_append_blank line blank]

theorem encode_append_return (text : List Char) :
    Text.Utf8.encode (text ++ ['\r']) = Text.Utf8.encode text ++ [0x0D] := by
  rw [Text.Utf8.encode, List.flatMap_append]
  rfl

/-- Only a carriage return is written with its octet at the end. -/
theorem text_of_append_return {octets : List UInt8} {text : List Char}
    (h : octets ++ [0x0D] = Text.Utf8.encode text) :
    ∃ before, octets = Text.Utf8.encode before := by
  rcases List.eq_nil_or_concat text with rfl | ⟨before, c, rfl⟩
  · exact absurd h (List.append_ne_nil_of_right_ne_nil octets (List.cons_ne_nil _ _))
  · rw [Text.Utf8.encode, List.concat_eq_append, List.flatMap_append, ← Text.Utf8.encode,
      List.flatMap_singleton] at h
    have last : (String.utf8EncodeChar c).getLast? = some 0x0D := by
      have ends := congrArg List.getLast? h
      rw [List.getLast?_concat, List.getLast?_append,
        List.getLast?_eq_some_getLast String.utf8EncodeChar_ne_nil, Option.some_or] at ends
      rw [List.getLast?_eq_some_getLast String.utf8EncodeChar_ne_nil]
      exact ends.symm
    rw [Text.Utf8.encodeChar_of_getLast (by decide) last] at h
    exact ⟨before, List.append_cancel_right h⟩

namespace Line

/-- A carriage return at its end changes nothing about a line of text, and leaves other octets
unreadable. -/
theorem ofOctets_append_return (octets : List UInt8) :
    ofOctets (octets ++ [0x0D]) = ofOctets octets ∨
      ∃ fault fault', ofOctets octets = .undecodable fault ∧
        ofOctets (octets ++ [0x0D]) = .undecodable fault' := by
  by_cases text : ∃ text, octets = Text.Utf8.encode text
  · obtain ⟨text, rfl⟩ := text
    left
    rw [← encode_append_return, ofOctets_encode, ofOctets_encode, ofLine?_append_blank text (by decide)]
  · right
    have longer : ¬ ∃ text, octets ++ [0x0D] = Text.Utf8.encode text :=
      fun ⟨_, written⟩ => text (text_of_append_return written)
    obtain ⟨fault, unread⟩ := ofOctets_of_not_text text
    obtain ⟨fault', unread'⟩ := ofOctets_of_not_text longer
    exact ⟨fault, fault', unread, unread'⟩

end Line

end AlertRelay.Feed
