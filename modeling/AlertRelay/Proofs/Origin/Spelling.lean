import AlertRelay.Proofs.Origin.Numeral

/-!
# How a site is spelled

A text that is read as a site consists of seven parts: the name of the scheme, slashes of either kind,
user information up to the last `@`, the host, a port, and whatever follows behind the next slash,
question mark or number sign. Only scheme and host tell the site. A text made of such parts is read as
they say, and a text that is read at all is made of such parts.
-/
namespace AlertRelay.Origin

/-- What holds of each member of a fixed list is computed. -/
theorem forall_mem_of_all {α : Type} {p : α → Prop} [DecidablePred p] {as : List α}
    (all : as.all (fun a => decide (p a)) = true) : ∀ a ∈ as, p a :=
  fun a among => of_decide_eq_true (List.all_eq_true.mp all a among)

/-! ## Cutting a text where a class of characters ends -/

section
variable {p : Char → Bool} {front back : List Char}

theorem takeWhile_front (inside : ∀ c ∈ front, p c = true)
    (stop : ∀ c, back.head? = some c → p c = false) : (front ++ back).takeWhile p = front := by
  rw [List.takeWhile_append_of_pos inside]
  cases back with
  | nil => simp
  | cons c rest => simp [stop c rfl]

theorem dropWhile_front (inside : ∀ c ∈ front, p c = true)
    (stop : ∀ c, back.head? = some c → p c = false) : (front ++ back).dropWhile p = back := by
  rw [List.dropWhile_append_of_pos inside]
  cases back with
  | nil => rfl
  | cons c rest => simp [stop c rfl]

theorem head?_dropWhile (cs : List Char) : ∀ c, (cs.dropWhile p).head? = some c → p c = false := by
  intro c first
  have stop := List.head?_dropWhile_not p cs
  rwa [first] at stop

end

/-! ## Schemes -/

namespace Scheme

theorem ofName?_eq_some_iff {cs : List Char} {s : Scheme} :
    ofName? cs = some s ↔ cs.map Char.toLower = s.name := by
  constructor
  · intro found
    have same := List.find?_some found
    exact (beq_iff_eq.mp same).symm
  · intro spelled
    rw [ofName?, spelled]
    cases s <;> rfl

theorem isAlpha_of_spelled {s : Scheme} {cs : List Char} (spelled : cs.map Char.toLower = s.name) :
    ∀ c ∈ cs, c.isAlpha = true := by
  intro c among
  have letters : ∀ d ∈ s.name, d.isAlpha = true := forall_mem_of_all (by cases s <;> rfl)
  rw [← Char.isAlpha_toLower_eq_isAlpha]
  apply letters
  rw [← spelled]
  exact List.mem_map_of_mem among

end Scheme

namespace Site

theorem splitScheme_append {name : List Char} (letters : ∀ c ∈ name, c.isAlpha = true)
    (filled : name ≠ []) (rest : List Char) :
    splitScheme (name ++ ':' :: rest) = some (name, rest) := by
  have inside : ∀ c ∈ name, decide (c ≠ ':') = true := by
    intro c among
    have letter := letters c among
    simp only [decide_eq_true_eq]
    rintro rfl
    cases letter
  have stop : ∀ c, (':' :: rest).head? = some c → decide (c ≠ ':') = false := by simp
  rw [splitScheme, takeWhile_front inside stop, dropWhile_front inside stop]
  obtain ⟨first, more, rfl⟩ := List.exists_cons_of_ne_nil filled
  have plain : more.all (fun c => c.isAlphanum || c = '+' || c = '-' || c = '.') = true := by
    rw [List.all_eq_true]
    intro c among
    simp [Char.isAlphanum, letters c (List.mem_cons_of_mem _ among)]
  simp only [letters first List.mem_cons_self, plain, Bool.and_self, if_true]

theorem splitScheme_eq_some {cs name rest : List Char} (h : splitScheme cs = some (name, rest)) :
    cs = name ++ ':' :: rest := by
  have whole := List.takeWhile_append_dropWhile (p := fun c => decide (c ≠ ':')) (l := cs)
  have stop := head?_dropWhile (p := fun c => decide (c ≠ ':')) cs
  rw [splitScheme] at h
  split at h
  next first more colon rest' front back =>
    split at h
    · cases h
      rw [back] at stop whole
      have isColon : colon = ':' := by simpa using stop colon rfl
      rw [isColon] at whole
      exact whole.symm
    · cases h
  · cases h

theorem splitScheme_eq_none {cs : List Char} (absent : ':' ∉ cs) : splitScheme cs = none := by
  have rest : cs.dropWhile (fun c => decide (c ≠ ':')) = [] := by
    rw [List.dropWhile_eq_nil_iff]
    intro c among
    simpa using ne_of_mem_of_not_mem among absent
  rw [splitScheme, rest]
  split
  next impossible => cases impossible
  · rfl

/-! ## User information -/

theorem behindUser_append {user : List Char} (ends : user = [] ∨ user.getLast? = some '@')
    {rest : List Char} (last : '@' ∉ rest) : behindUser (user ++ rest) = rest := by
  have inside : ∀ c ∈ rest.reverse, decide (c ≠ '@') = true := by
    intro c among
    simpa using ne_of_mem_of_not_mem (List.mem_reverse.mp among) last
  have stop : ∀ c, user.reverse.head? = some c → decide (c ≠ '@') = false := by
    intro c first
    rw [List.head?_reverse] at first
    rcases ends with rfl | ends
    · cases first
    · rw [ends] at first
      cases first
      rfl
  rw [behindUser, List.reverse_append, takeWhile_front inside stop, List.reverse_reverse]

theorem exists_user (cs : List Char) :
    ∃ user, cs = user ++ behindUser cs ∧ (user = [] ∨ user.getLast? = some '@') ∧
      '@' ∉ behindUser cs := by
  have whole := List.takeWhile_append_dropWhile (p := fun c => decide (c ≠ '@')) (l := cs.reverse)
  have stop := head?_dropWhile (p := fun c => decide (c ≠ '@')) cs.reverse
  refine ⟨(cs.reverse.dropWhile (fun c => decide (c ≠ '@'))).reverse, ?_, ?_, ?_⟩
  · rw [behindUser, ← List.reverse_append, whole, List.reverse_reverse]
  · rw [List.getLast?_reverse]
    cases rest : cs.reverse.dropWhile (fun c => decide (c ≠ '@')) with
    | nil => exact .inl rfl
    | cons c cs =>
      right
      rw [rest] at stop
      simpa using stop c rfl
  · intro among
    rw [behindUser, List.mem_reverse] at among
    simpa using List.mem_takeWhile_imp among

end Site

/-! ## Ports -/

namespace Site

/-- Whether a bracket is open behind the text, given whether one is open before it. -/
def leavesOpen (inside : Bool) (cs : List Char) : Bool :=
  cs.foldl (fun inside c => if c = '[' then true else if c = ']' then false else inside) inside

/-- Every colon stands in brackets. -/
def ColonsBracketed (inside : Bool) (cs : List Char) : Prop :=
  ∀ before after, cs = before ++ ':' :: after → leavesOpen inside before = true

/-- Decimal digits, perhaps none, of a number of 16 bits. -/
def IsPortNumber (digits : List Char) : Prop :=
  (∀ c ∈ digits, c.isDigit = true) ∧ Nat.ofDigitChars 10 digits 0 ≤ 0xFFFF

theorem colonsBracketed_cons {inside : Bool} {c : Char} {cs : List Char} :
    ColonsBracketed inside (c :: cs) ↔
      (c = ':' → inside = true) ∧ ColonsBracketed (leavesOpen inside [c]) cs := by
  constructor
  · intro bracketed
    refine ⟨?_, fun before after cut => ?_⟩
    · rintro rfl
      exact bracketed [] cs rfl
    · exact bracketed (c :: before) after (congrArg (c :: ·) cut)
  · rintro ⟨first, rest⟩ before after cut
    cases before with
    | nil =>
      cases cut
      exact first rfl
    | cons d before =>
      cases cut
      exact rest before after rfl

theorem isPort_iff {colon : Char} {digits : List Char} :
    isPort (colon :: digits) = true ↔ IsPortNumber digits := by
  rw [isPort, numeral?_decimal, IsPortNumber, ← List.all_eq_true]
  cases digits.all Char.isDigit <;> simp

theorem splitPort_cons (inside : Bool) (c : Char) (cs : List Char) :
    splitPort inside (c :: cs) =
      if c = ':' ∧ inside = false then ([], c :: cs)
      else (c :: (splitPort (leavesOpen inside [c]) cs).1, (splitPort (leavesOpen inside [c]) cs).2) := by
  cases inside <;> simp [splitPort, leavesOpen]

theorem splitPort_bracketed {inside : Bool} {cs : List Char} (bracketed : ColonsBracketed inside cs) :
    splitPort inside cs = (cs, []) := by
  induction cs generalizing inside with
  | nil => rfl
  | cons c cs ih =>
    obtain ⟨first, rest⟩ := colonsBracketed_cons.mp bracketed
    rw [splitPort_cons, if_neg, ih rest]
    rintro ⟨colon, outside⟩
    rw [first colon] at outside
    cases outside

theorem splitPort_append {inside : Bool} {host : List Char} (bracketed : ColonsBracketed inside host)
    (closed : leavesOpen inside host = false) (digits : List Char) :
    splitPort inside (host ++ ':' :: digits) = (host, ':' :: digits) := by
  induction host generalizing inside with
  | nil =>
    rw [List.nil_append, splitPort_cons, if_pos ⟨rfl, closed⟩]
  | cons c host ih =>
    obtain ⟨first, rest⟩ := colonsBracketed_cons.mp bracketed
    rw [List.cons_append, splitPort_cons, if_neg, ih rest closed]
    rintro ⟨colon, outside⟩
    rw [first colon] at outside
    cases outside

theorem splitPort_eq {inside : Bool} {cs host port : List Char}
    (h : splitPort inside cs = (host, port)) :
    cs = host ++ port ∧ ColonsBracketed inside host ∧ (port = [] ∨ ∃ digits, port = ':' :: digits) := by
  induction cs generalizing inside host with
  | nil =>
    cases h
    refine ⟨rfl, fun before after impossible => ?_, .inl rfl⟩
    simp at impossible
  | cons c cs ih =>
    rw [splitPort_cons] at h
    split at h
    next colon =>
      cases h
      refine ⟨rfl, fun before after impossible => ?_, .inr ⟨cs, by rw [colon.1]⟩⟩
      simp at impossible
    next passed =>
      cases h
      obtain ⟨whole, bracketed, port⟩ := ih rfl
      refine ⟨by rw [List.cons_append, ← whole], colonsBracketed_cons.mpr ⟨fun colon => ?_, bracketed⟩,
        port⟩
      exact eq_true_of_ne_false fun outside => passed ⟨colon, outside⟩

/-! ## Host and port -/

theorem leavesOpen_append {back : List Char} (plain : ∀ c ∈ back, c ≠ '[' ∧ c ≠ ']') (inside : Bool)
    (front : List Char) : leavesOpen inside (front ++ back) = leavesOpen inside front := by
  have unchanged : ∀ inside, leavesOpen inside back = inside := by
    induction back with
    | nil => exact fun _ => rfl
    | cons c back ih =>
      intro inside
      obtain ⟨opening, closing⟩ := plain c List.mem_cons_self
      rw [leavesOpen, List.foldl_cons, if_neg opening, if_neg closing]
      exact ih (fun d among => plain d (List.mem_cons_of_mem c among)) inside
  rw [leavesOpen, List.foldl_append]
  exact unchanged _

theorem opening_of_leavesOpen {cs : List Char} (unclosed : leavesOpen false cs = true) : '[' ∈ cs := by
  by_contra absent
  have closed : leavesOpen false cs = false := by
    clear unclosed
    induction cs with
    | nil => rfl
    | cons c cs ih =>
      obtain ⟨other, absent⟩ := List.ne_and_not_mem_of_not_mem_cons absent
      rw [leavesOpen, List.foldl_cons, if_neg other.symm, ite_self]
      exact ih absent
  rw [closed] at unclosed
  cases unclosed

/-- With a bracket left open there is neither an address in brackets nor a name. -/
theorem ofText?_of_leavesOpen {cs : List Char} (unclosed : leavesOpen false cs = true) :
    Host.ofText? cs = none := by
  have opening := opening_of_leavesOpen unclosed
  unfold Host.ofText?
  split
  · rfl
  next rest =>
    rw [if_neg]
    intro closing
    obtain ⟨inner, rfl⟩ := List.getLast?_eq_some_iff.mp closing
    rw [← List.cons_append, leavesOpen, List.foldl_append] at unclosed
    cases unclosed
  · exact Host.ofName?_eq_none (isBarred_of_mem (by simp)) opening

theorem colonsBracketed_append {inside : Bool} {front back : List Char}
    (before : ColonsBracketed inside front)
    (behind : ColonsBracketed (leavesOpen inside front) back) :
    ColonsBracketed inside (front ++ back) := by
  induction front generalizing inside with
  | nil => exact behind
  | cons c front ih =>
    obtain ⟨first, rest⟩ := colonsBracketed_cons.mp before
    exact colonsBracketed_cons.mpr ⟨first, ih rest behind⟩

theorem colonsBracketed_of_not_mem {inside : Bool} {cs : List Char} (absent : ':' ∉ cs) :
    ColonsBracketed inside cs := by
  rintro before after rfl
  simp at absent

theorem IsPortNumber.ne_of_mem {digits : List Char} (number : IsPortNumber digits) {c d : Char}
    (among : c ∈ digits) (other : d.isDigit = false) : c ≠ d := by
  rintro rfl
  rw [number.1 c among] at other
  cases other

/-- Host and port are told apart, and only the host is told. -/
theorem host?_append {user host port : List Char} (ends : user = [] ∨ user.getLast? = some '@')
    (last : '@' ∉ host) (bracketed : ColonsBracketed false host)
    (number : port = [] ∨ ∃ digits, port = ':' :: digits ∧ IsPortNumber digits) :
    host? (user ++ (host ++ port)) = Host.ofText? host := by
  rcases number with rfl | ⟨digits, rfl, number⟩
  · rw [List.append_nil, host?, behindUser_append ends last, splitPort_bracketed bracketed]
    rfl
  have noDigit : ∀ {d : Char}, d.isDigit = false → d ∉ digits := fun other among =>
    number.ne_of_mem among other rfl
  have none : '@' ∉ host ++ ':' :: digits := by
    simp only [List.mem_append, List.mem_cons, not_or]
    exact ⟨last, by decide, noDigit rfl⟩
  rw [host?, behindUser_append ends none]
  cases unclosed : leavesOpen false host with
  | false =>
    rw [splitPort_append bracketed unclosed]
    dsimp only
    rw [if_pos (isPort_iff.mpr number)]
  | true =>
    -- The port seems to stand in the bracket that is left open, and no host is read either way.
    have behind : ColonsBracketed true (':' :: digits) :=
      colonsBracketed_cons.mpr ⟨fun _ => rfl, colonsBracketed_of_not_mem (noDigit rfl)⟩
    have plain : ∀ c ∈ ':' :: digits, c ≠ '[' ∧ c ≠ ']' := by
      intro c among
      rcases List.mem_cons.mp among with rfl | among
      · decide
      · exact ⟨number.ne_of_mem among rfl, number.ne_of_mem among rfl⟩
    rw [splitPort_bracketed (colonsBracketed_append bracketed (unclosed.symm ▸ behind)),
      ofText?_of_leavesOpen unclosed]
    dsimp only
    rw [if_pos (show isPort [] = true from rfl)]
    exact ofText?_of_leavesOpen ((leavesOpen_append plain false host).trans unclosed)

theorem host?_eq_some {authority : List Char} {host : Host} (read : host? authority = some host) :
    ∃ user name port, authority = user ++ (name ++ port) ∧
      (user = [] ∨ user.getLast? = some '@') ∧ '@' ∉ name ∧ ColonsBracketed false name ∧
      (port = [] ∨ ∃ digits, port = ':' :: digits ∧ IsPortNumber digits) ∧
      Host.ofText? name = some host := by
  obtain ⟨user, whole, ends, last⟩ := exists_user authority
  cases cut : splitPort false (behindUser authority) with
  | mk name port =>
    obtain ⟨both, bracketed, number⟩ := splitPort_eq cut
    rw [host?, cut] at read
    dsimp only at read
    split at read
    next isPort =>
      rw [both] at whole last
      refine ⟨user, name, port, whole, ends, fun among => last (List.mem_append_left _ among),
        bracketed, ?_, read⟩
      rcases number with rfl | ⟨digits, rfl⟩
      · exact .inl rfl
      · exact .inr ⟨digits, rfl, isPort_iff.mp isPort⟩
    · cases read

/-! ## Whole texts -/

/-- The parts of a text that is read as a site, in the order in which they stand there. -/
structure Spelling where
  scheme : Scheme
  name : List Char
  slashes : List Char
  user : List Char
  host : List Char
  port : List Char
  tail : List Char
  name_spelled : name.map Char.toLower = scheme.name
  slashes_only : ∀ c ∈ slashes, isSlash c = true
  user_inside : ∀ c ∈ user, endsAuthority c = false
  user_ends : user = [] ∨ user.getLast? = some '@'
  host_filled : host ≠ []
  host_inside : ∀ c ∈ host, endsAuthority c = false
  host_last : '@' ∉ host
  host_bracketed : ColonsBracketed false host
  port_number : port = [] ∨ ∃ digits, port = ':' :: digits ∧ IsPortNumber digits
  tail_behind : ∀ c, tail.head? = some c → endsAuthority c = true

namespace Spelling

def text (s : Spelling) : List Char :=
  s.name ++ ':' :: (s.slashes ++ (s.user ++ (s.host ++ s.port) ++ s.tail))

variable (s : Spelling)

theorem name_filled : s.name ≠ [] := by
  intro empty
  have spelled := s.name_spelled
  rw [empty] at spelled
  cases scheme : s.scheme <;> simp [scheme, Scheme.name] at spelled

theorem port_inside : ∀ c ∈ s.port, endsAuthority c = false := by
  intro c among
  rcases s.port_number with empty | ⟨digits, port, number⟩
  · rw [empty] at among
    cases among
  · rw [port] at among
    rcases List.mem_cons.mp among with rfl | among
    · decide
    · simp [endsAuthority, isSlash, number.ne_of_mem among]

theorem authority_inside : ∀ c ∈ s.user ++ (s.host ++ s.port), endsAuthority c = false := by
  simp only [List.mem_append]
  rintro c (user | host | port)
  · exact s.user_inside c user
  · exact s.host_inside c host
  · exact s.port_inside c port

theorem authority_begins :
    ∀ c, (s.user ++ (s.host ++ s.port) ++ s.tail).head? = some c → isSlash c = false := by
  intro c first
  have filled : s.user ++ (s.host ++ s.port) ≠ [] := by simp [s.host_filled]
  obtain ⟨d, rest, begins⟩ := List.exists_cons_of_ne_nil filled
  rw [begins] at first
  rw [List.cons_append, List.head?_cons, Option.some.injEq] at first
  have inside := s.authority_inside c (by simp [begins, first])
  simp only [endsAuthority, Bool.or_eq_false_iff] at inside
  exact inside.1.1

end Spelling

/-- A text that consists of the parts of a site is read as its scheme and its host. -/
theorem parse?_of_spelling (s : Spelling) {cs : List Char} (parts : clean cs = s.text) :
    parse? cs = (Host.ofText? s.host).map (Site.mk s.scheme) := by
  have letters := Scheme.isAlpha_of_spelled s.name_spelled
  have inside : ∀ c ∈ s.user ++ (s.host ++ s.port), (!endsAuthority c) = true := fun c among => by
    rw [s.authority_inside c among]
    rfl
  have stop : ∀ c, s.tail.head? = some c → (!endsAuthority c) = false := fun c first => by
    rw [s.tail_behind c first]
    rfl
  rw [parse?, parts, Spelling.text, splitScheme_append letters s.name_filled]
  simp only [Option.bind_some, Scheme.ofName?_eq_some_iff.mpr s.name_spelled,
    dropWhile_front s.slashes_only s.authority_begins, takeWhile_front inside stop,
    host?_append s.user_ends s.host_last s.host_bracketed s.port_number]

/-- A text that is read at all consists of such parts. -/
theorem exists_spelling {cs : List Char} {site : Site} (read : parse? cs = some site) :
    ∃ s : Spelling, clean cs = s.text ∧ s.scheme = site.scheme ∧
      Host.ofText? s.host = some site.host := by
  obtain ⟨⟨name, rest⟩, colon, read⟩ := Option.bind_eq_some_iff.mp read
  obtain ⟨scheme, known, read⟩ := Option.bind_eq_some_iff.mp read
  obtain ⟨host, found, rfl⟩ := Option.map_eq_some_iff.mp read
  obtain ⟨user, hostName, port, authority, ends, last, bracketed, number, told⟩ := host?_eq_some found
  have spelled := Scheme.ofName?_eq_some_iff.mp known
  have inside : ∀ c ∈ user ++ (hostName ++ port), endsAuthority c = false := by
    intro c among
    rw [← authority] at among
    simpa using List.mem_takeWhile_imp among
  refine ⟨⟨scheme, name, rest.takeWhile isSlash, user, hostName, port,
    (rest.dropWhile isSlash).dropWhile (!endsAuthority ·), spelled,
    fun c among => List.mem_takeWhile_imp among,
    fun c among => inside c (List.mem_append_left _ among), ends, ?_,
    fun c among => inside c (List.mem_append_right _ (List.mem_append_left _ among)), last, bracketed,
    number, ?_⟩, ?_, rfl, told⟩
  · rintro rfl
    cases told
  · intro c first
    simpa using head?_dropWhile _ c first
  · rw [splitScheme_eq_some colon, Spelling.text, ← authority, List.takeWhile_append_dropWhile,
      List.takeWhile_append_dropWhile]

theorem parse?_eq_some_iff {cs : List Char} {site : Site} :
    parse? cs = some site ↔ ∃ s : Spelling, clean cs = s.text ∧ s.scheme = site.scheme ∧
      Host.ofText? s.host = some site.host := by
  constructor
  · exact exists_spelling
  · rintro ⟨s, parts, scheme, host⟩
    rw [parse?_of_spelling s parts, host, scheme]
    rfl

end Site
end AlertRelay.Origin
