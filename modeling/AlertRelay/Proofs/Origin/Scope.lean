import AlertRelay.Config
import AlertRelay.Proofs.Origin.Cleaning

/-!
# The scope and the origin

The background channel is installed under the configured origin with one slash at its end. Both are
read as the same site, whatever white space and slashes stood around the origin, with one exception. A
control character that is no white space stays at the end of the origin. There it goes for nothing, but
in the scope the slash stands behind it; so if nothing ends the authority before, it has become part of
host or port, and the scope is no site at all.
-/
namespace AlertRelay

namespace Origin.Site

/-! ## What stands behind the authority -/

/-- User information, host and port. -/
def authority (rest : List Char) : List Char :=
  (rest.dropWhile isSlash).takeWhile (!endsAuthority ·)

/-- Read as a site what is left of a text. -/
def ofCleaned? (cs : List Char) : Option Site :=
  (splitScheme cs).bind fun (name, rest) =>
    (Scheme.ofName? name).bind fun scheme => (host? (authority rest)).map (Site.mk scheme)

theorem parse?_eq (cs : List Char) : parse? cs = ofCleaned? (clean cs) := rfl

/-- Nothing stands behind host and port. -/
def EndsInAuthority (cs : List Char) : Prop :=
  ∃ name rest, splitScheme cs = some (name, rest) ∧
    ∀ c ∈ rest.dropWhile isSlash, endsAuthority c = false

/-- Whether a scheme is read does not depend on what stands behind its colon. -/
theorem splitScheme_cut {name : List Char} (absent : ':' ∉ name) (rest : List Char) :
    splitScheme (name ++ ':' :: rest) = (splitScheme (name ++ [':'])).map fun _ => (name, rest) := by
  have inside : ∀ c ∈ name, decide (c ≠ ':') = true := fun c among => by
    simpa using ne_of_mem_of_not_mem among absent
  have stop : ∀ rest : List Char, ∀ c, (':' :: rest).head? = some c → decide (c ≠ ':') = false := by
    simp
  rw [splitScheme, splitScheme, takeWhile_front inside (stop rest), dropWhile_front inside (stop rest),
    takeWhile_front inside (stop []), dropWhile_front inside (stop [])]
  cases name with
  | nil => rfl
  | cons first more =>
    dsimp only
    split <;> rfl

theorem splitScheme_append_back {back : List Char} (absent : ':' ∉ back) (cs : List Char) :
    splitScheme (cs ++ back) = (splitScheme cs).map fun (name, rest) => (name, rest ++ back) := by
  by_cases colon : ':' ∈ cs
  · obtain ⟨name, rest, rfl, first⟩ := List.eq_append_cons_of_mem colon
    rw [List.append_assoc, List.cons_append, splitScheme_cut first, splitScheme_cut first rest,
      Option.map_map]
    rfl
  · have none : ':' ∉ cs ++ back := by simp [colon, absent]
    rw [splitScheme_eq_none colon, splitScheme_eq_none none]
    rfl

theorem authority_append_of_ended {rest : List Char}
    (ended : ∃ c ∈ rest.dropWhile isSlash, endsAuthority c = true) (back : List Char) :
    authority (rest ++ back) = authority rest := by
  obtain ⟨c, among, ends⟩ := ended
  rw [authority, authority, List.dropWhile_append, if_neg, List.takeWhile_append, if_neg]
  · intro whole
    have inside := List.mem_takeWhile_imp
      ((List.takeWhile_sublist _).eq_of_length whole ▸ among : c ∈ List.takeWhile _ _)
    simp [ends] at inside
  · intro empty
    rw [List.isEmpty_iff.mp empty] at among
    cases among

theorem authority_append_slashes {back : List Char} (slashes : ∀ c ∈ back, isSlash c = true)
    (rest : List Char) : authority (rest ++ back) = authority rest := by
  have stop : ∀ c, back.head? = some c → (!endsAuthority c) = false := fun c first => by
    simp [endsAuthority, slashes c (List.mem_of_mem_head? first)]
  by_cases ended : ∃ c ∈ rest.dropWhile isSlash, endsAuthority c = true
  · exact authority_append_of_ended ended back
  have inside : ∀ c ∈ rest.dropWhile isSlash, (!endsAuthority c) = true := by
    simpa using ended
  rw [authority, authority, List.dropWhile_append, List.takeWhile_eq_self_iff.mpr inside]
  split
  next all =>
    rw [List.dropWhile_eq_nil_iff.mpr slashes, List.isEmpty_iff.mp all]
    rfl
  · exact takeWhile_front inside stop

theorem ofText?_of_edge {name : List Char} {c : Char} (last : name.getLast? = some c)
    (edge : isEdge c = true) : Host.ofText? name = none := by
  unfold Host.ofText?
  split
  · rfl
  next rest =>
    rw [if_neg]
    intro closing
    rw [List.getLast?_cons, closing] at last
    cases last
    cases edge
  · exact Host.ofName?_eq_none (isBarred_of_low (by simpa [isEdge] using edge))
      (List.mem_of_getLast? last)

/-- An authority that ends in a control character or a blank has no host. -/
theorem host?_of_edge {authority : List Char} {c : Char} (last : authority.getLast? = some c)
    (edge : isEdge c = true) : host? authority = none := by
  rw [Option.eq_none_iff_forall_ne_some]
  intro host read
  obtain ⟨user, name, port, rfl, -, -, -, number, told⟩ := host?_eq_some read
  have filled : name ≠ [] := by
    rintro rfl
    cases told
  rcases number with rfl | ⟨digits, rfl, number⟩
  · rw [List.append_nil, List.getLast?_append_of_ne_nil _ filled] at last
    rw [ofText?_of_edge last edge] at told
    cases told
  · rw [← List.append_assoc, List.getLast?_append_of_ne_nil _ (List.cons_ne_nil _ _)] at last
    rcases List.mem_cons.mp (List.mem_of_getLast? last) with rfl | among
    · cases edge
    · rw [isEdge_of_isDigit (number.1 c among)] at edge
      cases edge

/-- What is no slash and ends no authority is taken into one that nothing has ended. -/
theorem authority_append_edge {rest back : List Char}
    (unended : ∀ c ∈ rest.dropWhile isSlash, endsAuthority c = false)
    (edges : ∀ c ∈ back, isEdge c = true) :
    authority (rest ++ back) = rest.dropWhile isSlash ++ back := by
  have inside : ∀ c ∈ back, endsAuthority c = false := by
    intro c among
    by_contra ends
    have visible := isEdge_of_endsAuthority (eq_true_of_ne_false ends)
    rw [edges c among] at visible
    cases visible
  have begins : back.dropWhile isSlash = back := by
    cases back with
    | nil => rfl
    | cons c back =>
      have first := inside c List.mem_cons_self
      simp only [endsAuthority, Bool.or_eq_false_iff] at first
      exact List.dropWhile_cons_of_neg (by simp [first.1.1])
  have slashes : (rest ++ back).dropWhile isSlash = rest.dropWhile isSlash ++ back := by
    rw [List.dropWhile_append]
    split
    next all => rw [begins, List.isEmpty_iff.mp all, List.nil_append]
    · rfl
  rw [authority, slashes, List.takeWhile_eq_self_iff]
  intro c among
  rcases List.mem_append.mp among with before | behind
  · simp [unended c before]
  · simp [inside c behind]

/-- Characters at the edge that are kept behind the authority leave no site. -/
theorem ofCleaned?_append_edge {back : List Char} {c : Char} (last : back.getLast? = some c)
    (edges : ∀ c ∈ back, isEdge c = true) (cs : List Char) :
    (EndsInAuthority cs → ofCleaned? (cs ++ back) = none) ∧
      (¬ EndsInAuthority cs → ofCleaned? (cs ++ back) = ofCleaned? cs) := by
  have absent : ':' ∉ back := fun among => by cases edges ':' among
  rw [ofCleaned?, ofCleaned?, splitScheme_append_back absent]
  cases cut : splitScheme cs with
  | none => exact ⟨fun _ => rfl, fun _ => rfl⟩
  | some parts =>
    obtain ⟨name, rest⟩ := parts
    simp only [Option.map_some, Option.bind_some]
    constructor
    · rintro ⟨name', rest', cut', inside⟩
      rw [cut] at cut'
      cases cut'
      have ends : (rest.dropWhile isSlash ++ back).getLast? = some c := by
        rw [List.getLast?_append, last, Option.some_or]
      rw [authority_append_edge inside edges, host?_of_edge ends (edges c (List.mem_of_getLast? last))]
      cases Scheme.ofName? name <;> rfl
    · intro ended
      have ended : ∃ c ∈ rest.dropWhile isSlash, endsAuthority c = true := by
        by_contra inside
        exact ended ⟨name, rest, cut, by simpa using inside⟩
      rw [authority_append_of_ended ended]

theorem ofCleaned?_append_slashes {back : List Char} (slashes : ∀ c ∈ back, isSlash c = true)
    (cs : List Char) : ofCleaned? (cs ++ back) = ofCleaned? cs := by
  have absent : ':' ∉ back := fun among => by cases slashes ':' among
  rw [ofCleaned?, ofCleaned?, splitScheme_append_back absent]
  cases splitScheme cs with
  | none => rfl
  | some parts => simp only [Option.map_some, Option.bind_some, authority_append_slashes slashes]

/-! ## Slashes at the end -/

/-- What is left where only the end of the text is not left out of. -/
def opened (cs : List Char) : List Char := (cs.dropWhile isEdge).filter isKept

theorem clean_append_slashes {slashes : List Char} (only : ∀ c ∈ slashes, isSlash c = true)
    (filled : slashes ≠ []) (cs : List Char) : clean (cs ++ slashes) = opened cs ++ slashes := by
  have visible : ∀ c ∈ slashes, isEdge c = false := fun c among => isEdge_of_isSlash (only c among)
  have begins : (cs ++ slashes).dropWhile isEdge = cs.dropWhile isEdge ++ slashes := by
    have first : slashes.dropWhile isEdge = slashes := by
      obtain ⟨c, rest, rfl⟩ := List.exists_cons_of_ne_nil filled
      exact List.dropWhile_cons_of_neg (by simp [visible c List.mem_cons_self])
    rw [List.dropWhile_append]
    split
    next all => rw [first, List.isEmpty_iff.mp all, List.nil_append]
    · rfl
  have ends : ∀ c, (cs.dropWhile isEdge ++ slashes).getLast? = some c → isEdge c = false := by
    intro c last
    rw [List.getLast?_append_of_ne_nil _ filled] at last
    exact visible c (List.mem_of_getLast? last)
  rw [clean_eq, begins, Text.dropEndWhile_of_last ends, List.filter_append, filter_isKept visible,
    opened]

theorem getLast?_dropWhile {cs : List Char} (filled : cs.dropWhile isEdge ≠ []) :
    (cs.dropWhile isEdge).getLast? = cs.getLast? := by
  have whole := List.takeWhile_append_dropWhile (p := isEdge) (l := cs)
  have last := congrArg List.getLast? whole
  rwa [List.getLast?_append_of_ne_nil _ filled] at last

theorem clean_of_visible_end {cs : List Char}
    (visible : ∀ c, cs.getLast? = some c → isEdge c = false) : clean cs = opened cs := by
  rw [clean_eq, opened]
  by_cases empty : cs.dropWhile isEdge = []
  · rw [empty]
    rfl
  · rw [Text.dropEndWhile_of_last]
    rwa [getLast?_dropWhile empty]

/-- What is left out at the end is all of the edge, up to the last character. -/
theorem opened_of_edge {cs : List Char} {c : Char} (last : cs.getLast? = some c)
    (edge : isEdge c = true) (kept : isKept c = true) :
    clean cs = [] ∧ opened cs = [] ∨
      ∃ back, opened cs = clean cs ++ back ∧ back.getLast? = some c ∧ ∀ d ∈ back, isEdge d = true := by
  rw [clean_eq, opened]
  by_cases empty : cs.dropWhile isEdge = []
  · rw [empty]
    exact .inl ⟨rfl, rfl⟩
  right
  have last : (cs.dropWhile isEdge).getLast? = some c := by rw [getLast?_dropWhile empty, last]
  obtain ⟨dropped, whole, edges⟩ := Text.exists_dropped isEdge (cs.dropWhile isEdge)
  have filled : dropped ≠ [] := by
    rintro rfl
    rw [List.append_nil] at whole
    rw [whole] at last
    rw [Text.getLast?_dropEndWhile _ c last] at edge
    cases edge
  have ends : dropped.getLast? = some c := by
    rwa [whole, List.getLast?_append_of_ne_nil _ filled] at last
  refine ⟨dropped.filter isKept, ?_, ?_, fun d among => edges d (List.mem_filter.mp among).1⟩
  · rw [← List.filter_append, ← whole]
  · obtain ⟨before, rfl⟩ := List.getLast?_eq_some_iff.mp ends
    rw [List.filter_append, List.filter_cons_of_pos kept]
    exact List.getLast?_concat

/-! ## A slash in place of those at the end -/

/-- The text ends in a character that is left out there, and what is left ends in the authority. -/
def EndsInStray (cs : List Char) : Prop :=
  (∃ c, cs.getLast? = some c ∧ isEdge c = true) ∧ EndsInAuthority (clean cs)

def slashed (cs : List Char) : List Char := Text.dropEndWhile (· == '/') cs ++ ['/']

theorem parse?_slashed_eq (cs : List Char) :
    parse? (slashed cs) = ofCleaned? (opened (Text.dropEndWhile (· == '/') cs)) := by
  have only : ∀ c ∈ ['/'], isSlash c = true := forall_mem_of_all rfl
  rw [parse?_eq, slashed, clean_append_slashes only (List.cons_ne_nil _ _),
    ofCleaned?_append_slashes only]

/-- A text and the slashed one are read as the same site, unless a character is caught between host and
slash. -/
theorem parse?_slashed {cs : List Char} (trimmed : ∀ c, cs.getLast? = some c → isKept c = true) :
    (EndsInStray cs → parse? (slashed cs) = none) ∧
      (¬ EndsInStray cs → parse? (slashed cs) = parse? cs) := by
  rw [parse?_slashed_eq, parse?_eq cs]
  obtain ⟨slashes, whole, only⟩ := Text.exists_dropped (· == '/') cs
  have only : ∀ c ∈ slashes, isSlash c = true := fun c among => by
    simp [isSlash, beq_iff_eq.mp (only c among)]
  by_cases filled : slashes = []
  · have same : Text.dropEndWhile (· == '/') cs = cs := by
      rw [filled, List.append_nil] at whole
      exact whole.symm
    rw [same]
    by_cases visible : ∀ c, cs.getLast? = some c → isEdge c = false
    · rw [clean_of_visible_end visible]
      refine ⟨?_, fun _ => rfl⟩
      rintro ⟨⟨c, last, edge⟩, -⟩
      rw [visible c last] at edge
      cases edge
    · obtain ⟨c, last, edge⟩ : ∃ c, cs.getLast? = some c ∧ isEdge c = true := by simpa using visible
      rcases opened_of_edge last edge (trimmed c last) with ⟨empty, nothing⟩ | ⟨back, cut, ends, edges⟩
      · rw [empty, nothing]
        refine ⟨?_, fun _ => rfl⟩
        rintro ⟨-, name, rest, cut, -⟩
        rw [empty] at cut
        cases cut
      · obtain ⟨caught, apart⟩ := ofCleaned?_append_edge ends edges (clean cs)
        rw [cut]
        exact ⟨fun stray => caught stray.2, fun none => apart fun inside => none ⟨⟨c, last, edge⟩, inside⟩⟩
  · have left := clean_append_slashes only filled (Text.dropEndWhile (· == '/') cs)
    rw [← whole] at left
    rw [left, ofCleaned?_append_slashes only]
    refine ⟨?_, fun _ => rfl⟩
    rintro ⟨⟨c, last, edge⟩, -⟩
    rw [whole, List.getLast?_append_of_ne_nil _ filled] at last
    rw [isEdge_of_isSlash (only c (List.mem_of_getLast? last))] at edge
    cases edge

end Origin.Site

namespace Config
open Origin (isSecure Site)

theorem origin_trimmed (lookup : String → Option String) :
    ∀ c, (ofLookup lookup).origin.toList.getLast? = some c → Site.isKept c = true := by
  have origin : (ofLookup lookup).origin =
      ((present? (lookup originVariable)).map Text.trimmed).getD defaultOrigin := rfl
  intro c last
  have visible : Text.isBlank c = false := by
    cases value : present? (lookup originVariable) with
    | none =>
      have ends : defaultOrigin.toList.getLast? = some 't' := by decide +kernel
      rw [origin, value, Option.map_none, Option.getD_none, ends] at last
      cases last
      decide
    | some text =>
      rw [origin, value, Option.map_some, Option.getD_some, Text.trimmed, String.toList_ofList] at last
      exact Text.getLast?_dropEndWhile _ c last
  simp only [Site.isKept, Bool.not_eq_true', Bool.or_eq_false_iff, decide_eq_false_iff_not]
  refine ⟨⟨?_, ?_⟩, ?_⟩
  all_goals rintro rfl; cases visible

/-- The scope is read as the same site as the origin or as none. -/
theorem parse?_scope {c : Config}
    (trimmed : ∀ d, c.origin.toList.getLast? = some d → Site.isKept d = true) :
    (¬ Site.EndsInStray c.origin.toList →
      Site.parse? c.scope.toList = Site.parse? c.origin.toList) ∧
    (Site.EndsInStray c.origin.toList → Site.parse? c.scope.toList = none) := by
  obtain ⟨stray, same⟩ := Site.parse?_slashed trimmed
  rw [scope, String.toList_ofList]
  exact ⟨same, stray⟩

/-- Whatever is configured, the scope is read as the same site as the origin, unless the origin ends in a
control character with host or port in front of it; then the scope is read as none. So a scope that is
secure belongs to an origin that is, and the two disagree exactly for secure origins that end so. -/
theorem scope_follows_origin (lookup : String → Option String) :
    (¬ Site.EndsInStray (ofLookup lookup).origin.toList →
      Site.parse? (ofLookup lookup).scope.toList = Site.parse? (ofLookup lookup).origin.toList) ∧
    (Site.EndsInStray (ofLookup lookup).origin.toList →
      Site.parse? (ofLookup lookup).scope.toList = none) ∧
    (isSecure (ofLookup lookup).scope = true → isSecure (ofLookup lookup).origin = true) ∧
    (isSecure (ofLookup lookup).scope = isSecure (ofLookup lookup).origin ↔
      ¬ (isSecure (ofLookup lookup).origin = true ∧
        Site.EndsInStray (ofLookup lookup).origin.toList)) := by
  obtain ⟨same, none⟩ := parse?_scope (origin_trimmed lookup)
  refine ⟨same, none, ?_⟩
  by_cases stray : Site.EndsInStray (ofLookup lookup).origin.toList
  · have insecure : isSecure (ofLookup lookup).scope = false := by
      rw [isSecure, none stray, Option.any_none]
    simp [stray, insecure]
  · have agree : isSecure (ofLookup lookup).scope = isSecure (ofLookup lookup).origin := by
      rw [isSecure, same stray, isSecure]
    simp [stray, agree]

/-- An environment in which nothing but the origin is configured. -/
def configured (origin name : String) : Option String :=
  if name = originVariable then some origin else none

/-- The scope of a plain origin is secure with it, and that of one with a control character behind it is no
site. -/
theorem scopes_of_configured_origins :
    Site.parse? (ofLookup (configured "\tHTTP://user@LocalHost:8080/?/ \n")).scope.toList =
        some ⟨.http, .domain [Origin.localName]⟩ ∧
      Site.parse? (ofLookup (configured "http://localhost\x01")).scope.toList = none := by
  constructor
  · obtain ⟨same, -⟩ := scope_follows_origin (configured "\tHTTP://user@LocalHost:8080/?/ \n")
    rw [same]
    · decide +kernel
    rintro ⟨⟨c, last, edge⟩, -⟩
    have slash : (ofLookup (configured "\tHTTP://user@LocalHost:8080/?/ \n")).origin.toList.getLast? =
        some '/' := by decide +kernel
    rw [slash] at last
    cases last
    cases edge
  · obtain ⟨-, none, -⟩ := scope_follows_origin (configured "http://localhost\x01")
    refine none ⟨⟨'\x01', by decide +kernel, by decide⟩, "http".toList, "//localhost".toList, ?_,
      Origin.forall_mem_of_all ?_⟩
    all_goals decide +kernel

/-- An origin with a control character behind it is secure and its scope is not, so the two do not agree for
every environment. -/
theorem stray_character_in_scope :
    ((ofLookup (configured "http://localhost\x01")).scope = "http://localhost\x01/" ∧
      isSecure (ofLookup (configured "http://localhost\x01")).origin = true ∧
      isSecure (ofLookup (configured "http://localhost\x01")).scope = false) ∧
    ¬ ∀ lookup, isSecure (ofLookup lookup).scope = isSecure (ofLookup lookup).origin := by
  have apart : (ofLookup (configured "http://localhost\x01")).scope = "http://localhost\x01/" ∧
      isSecure (ofLookup (configured "http://localhost\x01")).origin = true ∧
      isSecure (ofLookup (configured "http://localhost\x01")).scope = false := by decide +kernel
  refine ⟨apart, fun agree => ?_⟩
  obtain ⟨-, origin, scope⟩ := apart
  rw [agree, origin] at scope
  cases scope

end Config
end AlertRelay
