import AlertRelay.Proofs.Feed.Line
import AlertRelay.Proofs.Session.Alike
import AlertRelay.Proofs.Session.Permission
import Mathlib.Data.List.Forall2

/-!
# The course of a feed

A feed is handled line by line, so it can be cut behind any line and handled in two parts. A line of
text that holds no message is only told about. A line that is no text ends the feed: what stands
before it counts, what follows is not looked at.
-/
namespace AlertRelay

namespace Feed

/-- The same as far as a session is concerned: the fault of a line that is no text is only told. -/
def Line.Same (a b : Line) : Prop := a = b ∨ a.isText = false ∧ b.isText = false

/-- Every line is UTF-8. -/
def Texts (feed : List UInt8) : Prop := ∀ l ∈ lines feed, ∃ text, l = Text.Utf8.encode text

/-- Every line is UTF-8, and blank or malformed. -/
def Inert (feed : List UInt8) : Prop :=
  ∀ l ∈ lines feed, ∃ text, l = Text.Utf8.encode text ∧ ∀ m, Message.ofLine? text ≠ some (.ok m)

theorem texts_iff (feed : List UInt8) :
    Texts feed ↔ ∀ l ∈ lines feed, (Line.ofOctets l).isText = true := by
  simp only [Texts, Line.isText_iff]

theorem inert_iff (feed : List UInt8) :
    Inert feed ↔ ∀ l ∈ lines feed,
      (Line.ofOctets l).isText = true ∧ (Line.ofOctets l).isMessage = false := by
  constructor
  · intro h l member
    obtain ⟨text, rfl, none_held⟩ := h l member
    refine ⟨(Line.isText_iff _).mpr ⟨text, rfl⟩, ?_⟩
    rw [← Bool.not_eq_true, Line.isMessage_iff]
    rintro ⟨m, held⟩
    exact none_held m held
  · intro h l member
    obtain ⟨readable, bare⟩ := h l member
    obtain ⟨text, rfl⟩ := (Line.isText_iff l).mp readable
    refine ⟨text, rfl, fun m held => ?_⟩
    rw [← Bool.not_eq_true, Line.isMessage_iff] at bare
    exact bare ⟨m, held⟩

theorem Inert.texts {feed : List UInt8} (h : Inert feed) : Texts feed :=
  (texts_iff feed).mpr fun l member => ((inert_iff feed).mp h l member).1

end Feed

namespace Session

open Feed (Line Message)

/-- The session without what was told. -/
def untold (s : Session) : Session :=
  { s with desk.world.journal := s.desk.world.journal.filter Event.isCall }

theorem Alike.untold {s t : Session} (h : s.Alike true t) : s.untold = t.untold := by
  have calls (w : World) : (w.compared true).journal = w.journal.filter Event.isCall := by
    have same : Event.compared? true = Option.guard Event.isCall := by
      funext e
      cases e <;> rfl
    rw [World.compared, same, List.filterMap_eq_filter]
  have journal := congrArg World.journal h.desk.world
  rw [calls, calls] at journal
  have outside : s.desk.world.outside = t.desk.world.outside := h.desk.world.outside
  have disk : s.desk.world.disk = t.desk.world.disk := h.desk.world.disk
  have settings : s.settings = t.settings := h.settings
  simp only [Session.untold, outside, disk, journal, h.desk.attempted, h.desk.channel?, h.scope,
    h.initial, h.permission, settings, h.engine]

theorem Alike.refl (sound : Bool) (s : Session) : s.Alike sound s :=
  ⟨⟨rfl, rfl, rfl⟩, rfl, rfl, rfl, rfl, rfl⟩

theorem driveLines_append (ls ms : List (List UInt8)) (s : Session)
    (text : ∀ l ∈ ls, (Line.ofOctets l).isText = true) :
    s.driveLines (ls ++ ms) =
      (((s.driveLines ls).1.driveLines ms).1,
        (s.driveLines ls).2 + ((s.driveLines ls).1.driveLines ms).2) := by
  induction ls generalizing s with
  | nil => simp [driveLines]
  | cons l ls ih =>
    obtain ⟨first, others⟩ := List.forall_mem_cons.mp text
    rw [List.cons_append, driveLines, driveLines, hear]
    cases line : Line.ofOctets l with
    | undecodable fault => simp [line, Line.isText] at first
    | blank => exact ih s others
    | malformed report => exact ih _ others
    | message m =>
      simp only [ih (s.handle m) others]
      rw [Nat.add_right_comm]

/-- Lines without a message come to nothing but notices. -/
theorem Alike.driveLines_inert {s t : Session} (h : s.Alike true t) {ls : List (List UInt8)}
    (inert : ∀ l ∈ ls, (Line.ofOctets l).isText = true ∧ (Line.ofOctets l).isMessage = false) :
    Alike true (s.driveLines ls).1 t ∧ (s.driveLines ls).2 = 0 := by
  induction ls generalizing s with
  | nil => exact ⟨h, rfl⟩
  | cons l ls ih =>
    obtain ⟨⟨text, bare⟩, others⟩ := List.forall_mem_cons.mp inert
    rw [Session.driveLines, hear]
    cases line : Line.ofOctets l with
    | undecodable fault => simp [line, Line.isText] at text
    | message m => simp [line, Line.isMessage] at bare
    | blank => exact ih h others
    | malformed report => exact ih (h.noteAll [.lineSkipped report] []) others

/-- Lines that are the same are handled alike. -/
theorem Alike.driveLines {s t : Session} (h : s.Alike true t) {ls ms : List (List UInt8)}
    (same : List.Forall₂ (fun l m => (Line.ofOctets l).Same (Line.ofOctets m)) ls ms) :
    Alike true (s.driveLines ls).1 (t.driveLines ms).1 ∧
      (s.driveLines ls).2 = (t.driveLines ms).2 := by
  induction same generalizing s t with
  | nil => exact ⟨h, rfl⟩
  | @cons l m ls ms first _ ih =>
    rw [Session.driveLines, Session.driveLines, hear, hear]
    rcases first with same | ⟨left, right⟩
    · rw [same]
      cases Line.ofOctets m with
      | undecodable fault => exact ⟨h.note _ _, rfl⟩
      | blank => exact ih h
      | malformed report => exact ih (h.note _ _)
      | message m =>
        obtain ⟨alike, counted⟩ := ih (h.handle m)
        exact ⟨alike, congrArg (· + 1) counted⟩
    · cases line : Line.ofOctets l <;> simp [line, Line.isText] at left
      cases line' : Line.ofOctets m <;> simp [line', Line.isText] at right
      exact ⟨h.note _ _, rfl⟩

/-- A line that is no text ends the feed. -/
theorem driveLines_ended (ls ms : List (List UInt8)) (s : Session)
    (ended : ∃ l ∈ ls, (Line.ofOctets l).isText = false) :
    s.driveLines (ls ++ ms) = s.driveLines ls := by
  induction ls generalizing s with
  | nil => simp at ended
  | cons l ls ih =>
    have later (text : (Line.ofOctets l).isText = true) : ∃ l ∈ ls, (Line.ofOctets l).isText = false := by
      simpa [text] using ended
    rw [List.cons_append, driveLines, driveLines, hear]
    cases line : Line.ofOctets l with
    | undecodable fault => rfl
    | blank => exact ih s (later (by rw [line]; rfl))
    | malformed report => exact ih _ (later (by rw [line]; rfl))
    | message m => simp only [ih (s.handle m) (later (by rw [line]; rfl))]

/-- The messages before the end, or before the first line that is no text, are counted. -/
theorem driveLines_count (ls : List (List UInt8)) (s : Session) :
    (s.driveLines ls).2 = ((ls.map Line.ofOctets).takeWhile Line.isText).countP Line.isMessage := by
  induction ls generalizing s with
  | nil => rfl
  | cons l ls ih =>
    rw [driveLines, hear, List.map_cons]
    cases line : Line.ofOctets l with
    | undecodable fault => rfl
    | blank => exact ih s
    | malformed report => exact ih _
    | message m =>
      have text : (Line.message m).isText = true := rfl
      rw [List.takeWhile_cons_of_pos text, List.countP_cons_of_pos rfl, ← ih (s.handle m)]

/-! ## Feeds -/

theorem drive_append {x : List UInt8} (ends : Feed.EndsLine x) (text : Feed.Texts x) (y : List UInt8)
    (s : Session) :
    s.drive (x ++ y) =
      (((s.drive x).1.drive y).1, (s.drive x).2 + ((s.drive x).1.drive y).2) := by
  rw [drive, Feed.lines_append ends, driveLines_append _ _ s ((Feed.texts_iff x).mp text)]
  rfl

theorem drive_inert {x z : List UInt8} (ends : Feed.EndsLine x) (ends' : Feed.EndsLine z)
    (text : Feed.Texts x) (inert : Feed.Inert z) (y : List UInt8) (s : Session) :
    (s.drive (x ++ z ++ y)).1.untold = (s.drive (x ++ y)).1.untold ∧
      (s.drive (x ++ z ++ y)).2 = (s.drive (x ++ y)).2 := by
  let after := (s.drive x).1
  have passed : Alike true (after.drive z).1 after ∧ (after.drive z).2 = 0 :=
    Alike.driveLines_inert (.refl true after) ((Feed.inert_iff z).mp inert)
  have rest : Alike true ((after.drive z).1.drive y).1 (after.drive y).1 ∧
      ((after.drive z).1.drive y).2 = (after.drive y).2 :=
    passed.1.driveLines (List.forall₂_same.mpr fun _ _ => Or.inl rfl)
  rw [List.append_assoc, drive_append ends text, drive_append ends text,
    drive_append ends' inert.texts]
  refine ⟨rest.1.untold, ?_⟩
  simp only [after] at passed rest
  rw [passed.2, rest.2, Nat.zero_add]

theorem drive_ended {b : List UInt8}
    (ended : ∃ l ∈ Feed.lines b, ¬ ∃ text, l = Text.Utf8.encode text) (t : List UInt8) (s : Session) :
    s.drive (b ++ 0x0A :: t) = s.drive b := by
  obtain ⟨l, member, unreadable⟩ := ended
  have ended : ∃ l ∈ Feed.lines b, (Line.ofOctets l).isText = false :=
    ⟨l, member, by rwa [← Bool.not_eq_true, Line.isText_iff]⟩
  rcases Feed.lines_append_line_feed b t with cut | cut
  · rw [drive, cut, driveLines_ended _ _ s ended, drive]
  · rw [drive, cut, driveLines_ended _ _ s ended, drive]

/-- The last line may do without its line feed. -/
theorem drive_line_feed (b : List UInt8) (s : Session) : s.drive (b ++ [0x0A]) = s.drive b := by
  have nothing (s : Session) : s.driveLines [[]] = (s, 0) := rfl
  rcases Feed.lines_append_line_feed b [] with cut | cut
  · rw [drive, cut, Feed.lines, List.append_nil, drive]
  · rw [drive, cut, Feed.lines, drive]
    by_cases ended : ∃ l ∈ Feed.lines b, (Line.ofOctets l).isText = false
    · exact driveLines_ended _ _ s ended
    · have text : ∀ l ∈ Feed.lines b, (Line.ofOctets l).isText = true := by
        intro l member
        rw [← Bool.not_eq_false]
        exact fun unreadable => ended ⟨l, member, unreadable⟩
      rw [driveLines_append _ _ s text, nothing]
      rfl

/-- A line feed may have a carriage return before it. -/
theorem drive_return {x l : List UInt8} (ends : Feed.EndsLine x) (whole : 0x0A ∉ l) (y : List UInt8)
    (s : Session) :
    (s.drive (x ++ l ++ [0x0D, 0x0A] ++ y)).1.untold = (s.drive (x ++ l ++ [0x0A] ++ y)).1.untold ∧
      (s.drive (x ++ l ++ [0x0D, 0x0A] ++ y)).2 = (s.drive (x ++ l ++ [0x0A] ++ y)).2 := by
  have cut {l : List UInt8} (whole : 0x0A ∉ l) :
      Feed.lines (x ++ (l ++ 0x0A :: y)) = Feed.lines x ++ l :: Feed.lines y := by
    rw [Feed.lines_append ends, Feed.lines_of_line whole]
  have short : x ++ l ++ [0x0A] ++ y = x ++ (l ++ 0x0A :: y) := by simp
  have long : x ++ l ++ [0x0D, 0x0A] ++ y = x ++ ((l ++ [0x0D]) ++ 0x0A :: y) := by simp
  have ended : (Line.ofOctets (l ++ [0x0D])).Same (Line.ofOctets l) := by
    rcases Line.ofOctets_append_return l with same | ⟨fault, fault', unread, unread'⟩
    · exact Or.inl same
    · exact Or.inr ⟨by rw [unread']; rfl, by rw [unread]; rfl⟩
  have same (ls : List (List UInt8)) :
      List.Forall₂ (fun l m => (Line.ofOctets l).Same (Line.ofOctets m)) ls ls :=
    List.forall₂_same.mpr fun _ _ => Or.inl rfl
  obtain ⟨alike, counted⟩ := (Alike.refl true s).driveLines
    (List.rel_append (same (Feed.lines x)) (.cons ended (same (Feed.lines y))))
  rw [short, long, drive, drive, cut whole, cut (by simpa using whole)]
  exact ⟨alike.untold, counted⟩

/-- In every state: lines without a message are inert, and a feed can be cut behind any line of text.
What counts are the messages before the end or before the first line that is no text, and what
follows such a line changes nothing. The line feed at the end may be left out, and a carriage return
may stand before any. -/
theorem feed_course (s : Session) :
    (∀ x z y : List UInt8, Feed.EndsLine x → Feed.EndsLine z → Feed.Texts x → Feed.Inert z →
      (s.drive (x ++ z ++ y)).1.untold = (s.drive (x ++ y)).1.untold ∧
      (s.drive (x ++ z ++ y)).2 = (s.drive (x ++ y)).2 ∧
      s.drive (x ++ y) =
        (((s.drive x).1.drive y).1, (s.drive x).2 + ((s.drive x).1.drive y).2)) ∧
    (∀ feed : List UInt8, (s.drive feed).2 =
      (((Feed.lines feed).map Line.ofOctets).takeWhile Line.isText).countP Line.isMessage) ∧
    (∀ b t : List UInt8, (∃ l ∈ Feed.lines b, ¬ ∃ text, l = Text.Utf8.encode text) →
      s.drive (b ++ 0x0A :: t) = s.drive b) ∧
    (∀ b : List UInt8, s.drive (b ++ [0x0A]) = s.drive b) ∧
    (∀ x l y : List UInt8, Feed.EndsLine x → 0x0A ∉ l →
      (s.drive (x ++ l ++ [0x0D, 0x0A] ++ y)).1.untold =
        (s.drive (x ++ l ++ [0x0A] ++ y)).1.untold ∧
      (s.drive (x ++ l ++ [0x0D, 0x0A] ++ y)).2 = (s.drive (x ++ l ++ [0x0A] ++ y)).2) := by
  refine ⟨?_, fun feed => driveLines_count _ s, ?_, fun b => drive_line_feed b s, ?_⟩
  · intro x z y ends ends' text inert
    obtain ⟨same, counted⟩ := drive_inert ends ends' text inert y s
    exact ⟨same, counted, drive_append ends text y s⟩
  · exact fun b t ended => drive_ended ended t s
  · exact fun x l y ends whole => drive_return ends whole y s

/-- A line that turns alerts off. -/
def disabling : List UInt8 := Text.Utf8.encode "\x7b\"type\":\"disable\"\x7d\n".toList

/-- A blank line and a malformed one. -/
def chatter : List UInt8 := [0x20, 0x0A, 0x6F, 0x66, 0x66, 0x0A]

/-- Two messages around chatter; what follows octets that are no text is not read, and the same line
ends with a carriage return or without. -/
theorem course_of_chatter :
    (undecidedSession.drive (disabling ++ chatter ++ disabling)).1.untold =
        (undecidedSession.drive (disabling ++ disabling)).1.untold ∧
      (undecidedSession.drive (disabling ++ chatter ++ disabling)).2 = 2 ∧
      undecidedSession.drive (disabling ++ [0xFF] ++ 0x0A :: disabling) =
        undecidedSession.drive (disabling ++ [0xFF]) ∧
      (undecidedSession.drive (disabling ++ [0x6F] ++ [0x0D, 0x0A] ++ disabling)).2 =
        (undecidedSession.drive (disabling ++ [0x6F] ++ [0x0A] ++ disabling)).2 := by
  obtain ⟨cut, -, ended, -, returned⟩ := feed_course undecidedSession
  have ends : Feed.EndsLine disabling := Or.inr (by decide +kernel)
  have texts : Feed.Texts disabling := (Feed.texts_iff _).mpr (by decide +kernel)
  have inert : Feed.Inert chatter := (Feed.inert_iff _).mpr (by decide +kernel)
  obtain ⟨same, counted, -⟩ := cut disabling chatter disabling ends (Or.inr (by decide)) texts inert
  have two : (undecidedSession.drive (disabling ++ disabling)).2 = 2 := by decide +kernel
  refine ⟨same, counted.trans two, ended _ disabling ?_, (returned _ _ _ ends (by decide)).2⟩
  refine ⟨[0xFF], ?_, ?_⟩
  · decide +kernel
  · rw [← Line.isText_iff]
    decide +kernel

end Session
end AlertRelay
