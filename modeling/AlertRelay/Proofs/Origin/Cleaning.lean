import AlertRelay.Proofs.Origin.Spelling

/-!
# What is left out before a site is read

Control characters and blanks at both ends of a text and line breaks anywhere in it go for nothing. So a
text that spells a site still spells it, with the same scheme and host, whatever of these stands in the
user information or behind the authority.
-/
namespace AlertRelay

namespace Text
variable {drop : Char → Bool}

theorem dropEndWhile_append {front : List Char}
    (last : ∀ c, front.getLast? = some c → drop c = false) (back : List Char) :
    dropEndWhile drop (front ++ back) = front ++ dropEndWhile drop back := by
  have kept : front.reverse.dropWhile drop = front.reverse := by
    cases backwards : front.reverse with
    | nil => rfl
    | cons c rest =>
      have first := last c (by rw [← List.head?_reverse, backwards]; rfl)
      exact List.dropWhile_cons_of_neg (by simp [first])
  rw [dropEndWhile, List.reverse_append, List.dropWhile_append, dropEndWhile]
  split
  next all =>
    rw [kept, List.reverse_reverse, List.isEmpty_iff.mp all, List.reverse_nil, List.append_nil]
  · rw [List.reverse_append, List.reverse_reverse]

theorem dropEndWhile_of_last {cs : List Char}
    (last : ∀ c, cs.getLast? = some c → drop c = false) : dropEndWhile drop cs = cs := by
  simpa [dropEndWhile] using dropEndWhile_append last []

/-- What is dropped stands at the end. -/
theorem exists_dropped (drop : Char → Bool) (cs : List Char) :
    ∃ dropped, cs = dropEndWhile drop cs ++ dropped ∧ ∀ c ∈ dropped, drop c = true := by
  have whole := List.takeWhile_append_dropWhile (p := drop) (l := cs.reverse)
  refine ⟨(cs.reverse.takeWhile drop).reverse, ?_, fun c among => ?_⟩
  · rw [dropEndWhile, ← List.reverse_append, whole, List.reverse_reverse]
  · exact List.mem_takeWhile_imp (List.mem_reverse.mp among)

theorem getLast?_dropEndWhile (cs : List Char) :
    ∀ c, (dropEndWhile drop cs).getLast? = some c → drop c = false := by
  intro c last
  rw [dropEndWhile, List.getLast?_reverse] at last
  exact Origin.head?_dropWhile _ c last

end Text

namespace Origin.Site

/-- A control character or a blank. -/
def isEdge (c : Char) : Bool := c.toNat ≤ 0x20

/-- No tab and no line break. -/
def isKept (c : Char) : Bool := !(c = '\t' || c = '\n' || c = '\r')

theorem clean_eq (cs : List Char) :
    clean cs = (Text.dropEndWhile isEdge (cs.dropWhile isEdge)).filter isKept := rfl

theorem isKept_of_visible {c : Char} (visible : isEdge c = false) : isKept c = true := by
  simp only [isKept, Bool.not_eq_true', Bool.or_eq_false_iff, decide_eq_false_iff_not]
  refine ⟨⟨?_, ?_⟩, ?_⟩
  all_goals rintro rfl; cases visible

theorem filter_isKept {cs : List Char} (visible : ∀ c ∈ cs, isEdge c = false) :
    cs.filter isKept = cs :=
  List.filter_eq_self.mpr fun c among => isKept_of_visible (visible c among)

/-- A text that begins visibly is left out of only behind its last visible character. -/
theorem clean_append {front : List Char} (first : ∀ c, front.head? = some c → isEdge c = false)
    (last : ∀ c, front.getLast? = some c → isEdge c = false) (filled : front ≠ []) (back : List Char) :
    clean (front ++ back) = front.filter isKept ++ (Text.dropEndWhile isEdge back).filter isKept := by
  have begins : (front ++ back).dropWhile isEdge = front ++ back := by
    obtain ⟨c, rest, rfl⟩ := List.exists_cons_of_ne_nil filled
    exact List.dropWhile_cons_of_neg (by simp [first c rfl])
  rw [clean_eq, begins, Text.dropEndWhile_append last, List.filter_append]

theorem isEdge_of_isAlpha {c : Char} (letter : c.isAlpha = true) : isEdge c = false := by
  simp only [Char.isAlpha, Char.isUpper, Char.isLower, Bool.or_eq_true, Bool.and_eq_true,
    decide_eq_true_eq, ge_iff_le, UInt32.le_iff_toNat_le] at letter
  have code : c.toNat = c.val.toNat := rfl
  simp only [isEdge, decide_eq_false_iff_not, code]
  rcases letter with ⟨above, -⟩ | ⟨above, -⟩
  all_goals exact fun below => absurd (Nat.le_trans above below) (by decide)

theorem isEdge_of_isDigit {c : Char} (digit : c.isDigit = true) : isEdge c = false := by
  have above := (Char.isDigit_iff_toNat.mp digit).1
  rw [isEdge, decide_eq_false_iff_not]
  exact fun below => absurd (Nat.le_trans above below) (by decide)

theorem isEdge_of_endsAuthority {c : Char} (ends : endsAuthority c = true) : isEdge c = false := by
  simp only [endsAuthority, isSlash, Bool.or_eq_true, decide_eq_true_eq] at ends
  rcases ends with ((rfl | rfl) | rfl) | rfl
  all_goals decide

theorem isEdge_of_isSlash {c : Char} (slash : isSlash c = true) : isEdge c = false :=
  isEdge_of_endsAuthority (by simp [endsAuthority, slash])

namespace Spelling
variable (s : Spelling)

theorem port_visible : ∀ c ∈ s.port, isEdge c = false := by
  intro c among
  rcases s.port_number with empty | ⟨digits, port, number⟩
  · rw [empty] at among
    cases among
  · rw [port] at among
    rcases List.mem_cons.mp among with rfl | among
    · decide
    · exact isEdge_of_isDigit (number.1 c among)

theorem name_visible : ∀ c ∈ s.name, isEdge c = false := fun c among =>
  isEdge_of_isAlpha (Scheme.isAlpha_of_spelled s.name_spelled c among)

theorem slashes_visible : ∀ c ∈ s.slashes, isEdge c = false := fun c among =>
  isEdge_of_isSlash (s.slashes_only c among)

/-- The parts up to the port. -/
def front : List Char := s.name ++ ':' :: (s.slashes ++ (s.user ++ (s.host ++ s.port)))

theorem text_eq : s.text = s.front ++ s.tail := by
  simp only [text, front, List.append_assoc, List.cons_append]

theorem front_filled : s.front ≠ [] := by simp [front]

theorem front_begins : ∀ c, s.front.head? = some c → isEdge c = false := by
  intro c first
  obtain ⟨letter, letters, name⟩ := List.exists_cons_of_ne_nil s.name_filled
  rw [front, name, List.cons_append, List.head?_cons, Option.some.injEq] at first
  exact s.name_visible c (by simp [name, first])

variable (visible : ∀ c ∈ s.host, isEdge c = false)
include visible

theorem site_visible : ∀ c ∈ s.host ++ s.port, isEdge c = false := by
  intro c among
  rcases List.mem_append.mp among with host | port
  · exact visible c host
  · exact s.port_visible c port

theorem front_ends : ∀ c, s.front.getLast? = some c → isEdge c = false := by
  intro c last
  have filled : s.host ++ s.port ≠ [] := by simp [s.host_filled]
  have cut : s.front = (s.name ++ ':' :: (s.slashes ++ s.user)) ++ (s.host ++ s.port) := by
    simp only [front, List.append_assoc, List.cons_append]
  rw [cut, List.getLast?_append_of_ne_nil _ filled] at last
  exact s.site_visible visible c (List.mem_of_getLast? last)

omit visible in
theorem user_cleaned : s.user.filter isKept = [] ∨ (s.user.filter isKept).getLast? = some '@' := by
  rcases s.user_ends with empty | ends
  · rw [empty]
    exact .inl rfl
  · obtain ⟨before, user⟩ := List.getLast?_eq_some_iff.mp ends
    right
    rw [user, List.filter_append]
    exact List.getLast?_concat

omit visible in
theorem tail_cleaned : ∀ c, ((Text.dropEndWhile isEdge s.tail).filter isKept).head? = some c →
    endsAuthority c = true := by
  intro c first
  cases tail : s.tail with
  | nil =>
    rw [tail] at first
    cases first
  | cons d rest =>
    have behind := s.tail_behind d (by rw [tail]; rfl)
    have stays := isEdge_of_endsAuthority behind
    have ends : ∀ c, [d].getLast? = some c → isEdge c = false := by simpa using stays
    have cut : Text.dropEndWhile isEdge (d :: rest) = d :: Text.dropEndWhile isEdge rest :=
      Text.dropEndWhile_append ends rest
    rw [tail, cut, List.filter_cons_of_pos (isKept_of_visible stays)] at first
    cases first
    exact behind

omit visible in
/-- What is left of the parts. -/
def cleaned : Spelling :=
  { s with
    user := s.user.filter isKept
    tail := (Text.dropEndWhile isEdge s.tail).filter isKept
    user_inside := fun c among => s.user_inside c (List.mem_filter.mp among).1
    user_ends := s.user_cleaned
    tail_behind := s.tail_cleaned }

theorem clean_text : clean s.text = s.cleaned.text := by
  have colon : isKept ':' = true := by decide
  rw [text_eq, clean_append s.front_begins (s.front_ends visible) s.front_filled, text_eq]
  congr 1
  simp only [front, cleaned, List.filter_append, List.filter_cons, colon, if_true,
    filter_isKept s.name_visible, filter_isKept s.slashes_visible, filter_isKept visible,
    filter_isKept s.port_visible]

/-- A site is read from a text that spells it before anything is left out. -/
theorem parse?_text : parse? s.text = (Host.ofText? s.host).map (Site.mk s.scheme) :=
  parse?_of_spelling s.cleaned (s.clean_text visible)

end Spelling

end Origin.Site
end AlertRelay
