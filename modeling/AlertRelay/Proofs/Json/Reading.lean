import AlertRelay.Json.Reader
import Mathlib.Data.List.Basic

/-!
# What the reader has read

The tokens of a document are a function of its value. The reader keeps all that it has consumed:
its state stands for the tokens so far, one step adds one token, and so a text that holds a document
is made of the tokens of that document. Where the containers are not nested too deep the converse
holds too, by induction over the value.
-/
namespace AlertRelay.Json

/-- Parts with a comma between them. -/
def commaBetween : List (List Token) → List Token
  | [] => []
  | [part] => part
  | part :: more => part ++ .comma :: commaBetween more

/-- Parts with a comma behind each of them. -/
def commaAfter (parts : List (List Token)) : List Token := parts.flatMap (· ++ [.comma])

theorem commaAfter_append (parts more : List (List Token)) :
    commaAfter (parts ++ more) = commaAfter parts ++ commaAfter more := List.flatMap_append

theorem commaBetween_cons (part : List Token) {more : List (List Token)} (filled : more ≠ []) :
    commaBetween (part :: more) = part ++ .comma :: commaBetween more := by
  obtain ⟨next, rest, rfl⟩ := List.exists_cons_of_ne_nil filled
  rfl

theorem commaBetween_concat (parts : List (List Token)) (last : List Token) :
    commaBetween (parts ++ [last]) = commaAfter parts ++ last := by
  induction parts with
  | nil => rfl
  | cons part more ih =>
    rw [List.cons_append, commaBetween_cons part (by simp), ih]
    simp [commaAfter]

theorem commaAfter_eq {parts : List (List Token)} (filled : parts ≠ []) :
    commaAfter parts = commaBetween parts ++ [.comma] := by
  obtain ⟨before, last, rfl⟩ := (List.eq_nil_or_concat parts).resolve_left filled
  rw [List.concat_eq_append, commaBetween_concat, commaAfter_append, List.append_assoc]
  simp [commaAfter]

namespace Value

mutual

/-- The tokens of a document in the order of the text. -/
def tokens : Value → List Token
  | scalar s => [.scalar s]
  | array items => .openArray :: commaBetween (eachItem items) ++ [.closeArray]
  | object members => .openObject :: commaBetween (eachMember members) ++ [.closeObject]

def eachItem : List Value → List (List Token)
  | [] => []
  | v :: rest => tokens v :: eachItem rest

def eachMember : List (String × Value) → List (List Token)
  | [] => []
  | m :: rest => memberTokens m :: eachMember rest

def memberTokens : String × Value → List Token
  | (key, v) => .scalar (.text key) :: .colon :: tokens v

end

mutual

/-- How deep the containers of a document are nested. -/
def depth : Value → Nat
  | scalar _ => 0
  | array items => itemsDepth items + 1
  | object members => membersDepth members + 1

def itemsDepth : List Value → Nat
  | [] => 0
  | v :: rest => max (depth v) (itemsDepth rest)

def membersDepth : List (String × Value) → Nat
  | [] => 0
  | m :: rest => max (memberDepth m) (membersDepth rest)

def memberDepth : String × Value → Nat
  | (_, v) => depth v

end

theorem eachItem_eq (items : List Value) : eachItem items = items.map tokens := by
  induction items with
  | nil => rfl
  | cons v rest ih => rw [eachItem, ih, List.map_cons]

theorem eachMember_eq (members : List (String × Value)) :
    eachMember members = members.map memberTokens := by
  induction members with
  | nil => rfl
  | cons m rest ih => rw [eachMember, ih, List.map_cons]

theorem tokens_array (items : List Value) :
    (array items).tokens = .openArray :: commaBetween (items.map tokens) ++ [.closeArray] := by
  rw [tokens, eachItem_eq]

theorem tokens_object (members : List (String × Value)) :
    (object members).tokens =
      .openObject :: commaBetween (members.map memberTokens) ++ [.closeObject] := by
  rw [tokens, eachMember_eq]

theorem depth_object_le {members : List (String × Value)} {n : Nat}
    (each : ∀ m ∈ members, m.2.depth ≤ n) : (object members).depth ≤ n + 1 := by
  rw [depth]
  refine Nat.succ_le_succ ?_
  induction members with
  | nil => exact Nat.zero_le n
  | cons m rest ih =>
    obtain ⟨key, v⟩ := m
    obtain ⟨first, each⟩ := List.forall_mem_cons.mp each
    exact Nat.max_le.mpr ⟨first, ih each⟩

end Value

/-! ## The tokens behind a state -/

def itemParts (items : List (Placed Value)) : List (List Token) :=
  items.reverse.map (·.value.tokens)

def memberParts (members : List Member) : List (List Token) :=
  members.reverse.map fun m => Value.memberTokens (m.key, m.value.value)

theorem array_tokens (items : List (Placed Value)) :
    (Outline.array items.reverse).value.tokens =
      .openArray :: commaBetween (itemParts items) ++ [.closeArray] := by
  rw [Outline.value, Value.tokens_array, List.map_map]
  rfl

theorem object_tokens (members : List Member) :
    (Outline.object members.reverse).value.tokens =
      .openObject :: commaBetween (memberParts members) ++ [.closeObject] := by
  rw [Outline.value, Value.tokens_object, List.map_map]
  rfl

/-- The tokens of an open container. -/
def Frame.tokens : Frame → List Token
  | array _ items => .openArray :: commaAfter (itemParts items)
  | object _ members key _ =>
      .openObject :: commaAfter (memberParts members) ++ [.scalar (.text key), .colon]

def framesTokens : List Frame → List Token
  | [] => []
  | f :: up => framesTokens up ++ f.tokens

namespace State

/-- The tokens that a state was reached by. -/
def tokens : State → List Token
  | value frames => framesTokens frames
  | itemEnd _ items frames => framesTokens frames ++ .openArray :: commaBetween (itemParts items)
  | memberKey _ members frames =>
      framesTokens frames ++ .openObject :: commaAfter (memberParts members)
  | keyEnd _ members key frames =>
      framesTokens frames ++ (.openObject :: commaAfter (memberParts members) ++ [.scalar (.text key)])
  | memberEnd _ members frames =>
      framesTokens frames ++ .openObject :: commaBetween (memberParts members)
  | done document => document.value.value.tokens

/-- Where the end of a part is awaited there is a part. -/
def Filled : State → Prop
  | itemEnd _ items _ => items ≠ []
  | memberEnd _ members _ => members ≠ []
  | value _ | memberKey .. | keyEnd .. | done _ => True

theorem put_tokens (frames : List Frame) (v : Placed Outline) :
    (put frames v).tokens = framesTokens frames ++ v.value.value.tokens := by
  cases frames with
  | nil => rfl
  | cons f up =>
    cases f with
    | array start items =>
      simp only [put, tokens, framesTokens, Frame.tokens, itemParts, List.reverse_cons, List.map_append,
        List.map_cons, List.map_nil, commaBetween_concat, List.append_assoc, List.cons_append]
    | object start members key follow =>
      simp only [put, tokens, framesTokens, Frame.tokens, memberParts, List.reverse_cons,
        List.map_append, List.map_cons, List.map_nil, commaBetween_concat, Value.memberTokens,
        List.append_assoc, List.cons_append, List.nil_append]

theorem put_filled (frames : List Frame) (v : Placed Outline) : (put frames v).Filled := by
  cases frames with
  | nil => trivial
  | cons f up => cases f <;> exact List.cons_ne_nil _ _

/-- A step adds the token that it takes. -/
theorem step_tokens {s next : State} {l : Lexeme} (filled : s.Filled) (h : s.step l = some next) :
    next.tokens = s.tokens ++ [l.token] ∧ next.Filled := by
  cases s with
  | value frames =>
    simp only [step] at h
    split at h
    next x same =>
      cases h
      exact ⟨by rw [put_tokens, same]; rfl, put_filled _ _⟩
    next same =>
      split at h
      · cases h
        exact ⟨by rw [same]; rfl, trivial⟩
      · cases h
    next same =>
      split at h
      · cases h
        exact ⟨by rw [same]; rfl, trivial⟩
      · cases h
    next same =>
      split at h
      next start up =>
        cases h
        refine ⟨?_, put_filled _ _⟩
        rw [put_tokens, same]
        exact (List.append_assoc (framesTokens up) [.openArray] [.closeArray]).symm
      · cases h
    next => cases h
  | itemEnd start items frames =>
    have some_parts : itemParts items ≠ [] := by
      have some_items : items ≠ [] := filled
      simpa [itemParts] using some_items
    simp only [step] at h
    split at h
    next same =>
      cases h
      refine ⟨?_, trivial⟩
      simp only [tokens, framesTokens, Frame.tokens, same, commaAfter_eq some_parts,
        List.append_assoc, List.cons_append]
    next same =>
      cases h
      refine ⟨?_, put_filled _ _⟩
      rw [put_tokens, array_tokens, same, tokens, List.append_assoc]
    next => cases h
  | memberKey start members frames =>
    simp only [step] at h
    split at h
    next key same =>
      cases h
      refine ⟨?_, trivial⟩
      simp only [tokens, same, List.append_assoc, List.cons_append]
    next same =>
      split at h
      next empty =>
        cases h
        refine ⟨?_, put_filled _ _⟩
        rw [List.isEmpty_iff.mp empty, put_tokens, same]
        exact (List.append_assoc (framesTokens frames) [.openObject] [.closeObject]).symm
      · cases h
    next => cases h
  | keyEnd start members key frames =>
    simp only [step] at h
    split at h
    next same =>
      cases h
      refine ⟨?_, trivial⟩
      simp only [tokens, framesTokens, Frame.tokens, same, List.append_assoc, List.cons_append,
        List.nil_append]
    next => cases h
  | memberEnd start members frames =>
    have some_parts : memberParts members ≠ [] := by
      have some_members : members ≠ [] := filled
      simpa [memberParts] using some_members
    simp only [step] at h
    split at h
    next same =>
      cases h
      refine ⟨?_, trivial⟩
      simp only [tokens, same, commaAfter_eq some_parts, List.append_assoc, List.cons_append]
    next same =>
      cases h
      refine ⟨?_, put_filled _ _⟩
      rw [put_tokens, object_tokens, same, tokens, List.append_assoc]
    next => cases h
  | done document => cases h

/-- A lexeme that nothing can follow is never taken. -/
theorem step_of_isLast (s : State) {l : Lexeme} (last : l.token.isLast = true) :
    s.step l = none := by
  obtain ⟨token, start, stop⟩ := l
  cases token <;> cases last <;> cases s <;> rfl

end State

/-- The last lexeme and no other is one that nothing can follow. -/
inductive Ended : List Lexeme → Prop
  | last {l : Lexeme} : l.token.isLast = true → Ended [l]
  | more {l : Lexeme} {ls : List Lexeme} : l.token.isLast = false → Ended ls → Ended (l :: ls)

theorem lexemesFrom_ended (text : List Char) (start skip : Nat) :
    Ended (lexemesFrom start skip text) := by
  induction text generalizing start skip with
  | nil => exact .last rfl
  | cons c rest ih =>
    cases skip with
    | succ skip => exact ih _ _
    | zero =>
      rw [lexemesFrom]
      split
      · exact ih _ _
      · dsimp only
        split
        next last => exact .last last
        next more => exact .more (Bool.not_eq_true _ ▸ more) (ih _ _)

namespace State

theorem run_cons {s next : State} {l : Lexeme} (h : s.step l = some next) (rest : List Lexeme) :
    s.run (l :: rest) = next.run rest := by rw [run, h]

theorem run_stop {s : State} {l : Lexeme} (h : s.step l = none) (rest : List Lexeme) :
    s.run (l :: rest) = (s, l) := by rw [run, h]

/-- A text read to its end has been taken whole. -/
theorem run_tokens {s : State} {ls : List Lexeme} (ended : Ended ls) (filled : s.Filled)
    (finish : (s.run ls).2.token = .finish) :
    (s.run ls).1.tokens ++ [.finish] = s.tokens ++ ls.map (·.token) := by
  induction ended generalizing s with
  | last last =>
    rw [run_stop (step_of_isLast s last)] at finish ⊢
    rw [List.map_singleton, ← finish]
  | @more l ls other _ ih =>
    cases stepped : s.step l with
    | none =>
      rw [run_stop stepped] at finish
      rw [finish] at other
      cases other
    | some next =>
      obtain ⟨longer, filled⟩ := step_tokens filled stepped
      rw [run_cons stepped] at finish ⊢
      rw [ih filled finish, longer, List.append_assoc]
      rfl

end State

/-- A text that holds a document is made of its tokens. -/
theorem parse_tokens {text : List Char} {v : Value} (one : parse text = .ok v) :
    (lexemes text).map (·.token) = v.tokens ++ [.finish] := by
  unfold parse at one
  split at one
  next document start stop reached =>
    cases one
    have whole := State.run_tokens (s := .start) (lexemesFrom_ended text 0 0) trivial
      (by rw [← lexemes, ← progress, reached])
    rw [← lexemes, ← progress, reached] at whole
    exact whole.symm
  · cases one

/-! ## Every document is read -/

namespace State

/-- From a state the reader takes lexemes with those tokens and gets to a state of that kind. -/
def Reads (s : State) (ts : List Token) (goal : State → Prop) : Prop :=
  ∀ ls : List Lexeme, ls.map (·.token) = ts →
    ∃ next, goal next ∧ ∀ after, s.run (ls ++ after) = next.run after

variable {s : State} {t : Token} {ts us : List Token} {goal aim : State → Prop}

theorem reads_nil (here : goal s) : Reads s [] goal := by
  intro ls same
  obtain rfl := List.map_eq_nil_iff.mp same
  exact ⟨s, here, fun _ => rfl⟩

theorem reads_cons
    (h : ∀ l : Lexeme, l.token = t → ∃ next, s.step l = some next ∧ Reads next ts goal) :
    Reads s (t :: ts) goal := by
  intro ls same
  obtain ⟨l, rest, rfl, token, tokens⟩ := List.map_eq_cons_iff.mp same
  obtain ⟨next, stepped, reads⟩ := h l token
  obtain ⟨final, there, ran⟩ := reads rest tokens
  refine ⟨final, there, fun after => ?_⟩
  rw [List.cons_append, run_cons stepped, ran]

theorem reads_append (first : Reads s ts goal) (second : ∀ next, goal next → Reads next us aim) :
    Reads s (ts ++ us) aim := by
  intro ls same
  obtain ⟨front, back, rfl, here, there⟩ := List.map_eq_append_iff.mp same
  obtain ⟨next, reached, ran⟩ := first front here
  obtain ⟨final, arrived, ran'⟩ := second next reached back there
  refine ⟨final, arrived, fun after => ?_⟩
  rw [List.append_assoc, ran, ran']

/-- A document of that value has been read. -/
def Puts (frames : List Frame) (v : Value) (s : State) : Prop :=
  ∃ o : Placed Outline, o.value.value = v ∧ s = put frames o

/-- A member has been read behind others. -/
def PutsMember (start : Nat) (before : List Member) (frames : List Frame) (m : String × Value)
    (s : State) : Prop :=
  ∃ member : Member, (member.key, member.value.value) = m ∧
    s = memberEnd start (member :: before) frames

-- By recursion on the value, a theorem for each kind of its parts. The innermost frame keeps what was
-- read before, newest first, so a part is read behind whatever stands there.
mutual

/-- Lexemes with the tokens of a document are read as it. -/
theorem reads_value (v : Value) (frames : List Frame) (fits : frames.length + v.depth ≤ deepest) :
    Reads (value frames) v.tokens (Puts frames v) := by
  match v with
  | .scalar x =>
    refine reads_cons fun l token => ⟨put frames ⟨.scalar x, l.start, l.stop⟩, ?_, ?_⟩
    · simp only [step, token]
    · exact reads_nil ⟨_, rfl, rfl⟩
  | .array items =>
    rw [Value.depth] at fits
    rw [Value.tokens_array]
    refine reads_cons fun l token => ⟨value (.array l.start [] :: frames), ?_, ?_⟩
    · simp only [step, token]
      exact if_pos (by omega)
    · by_cases empty : items = []
      · subst empty
        refine reads_cons fun l' token' => ⟨put frames ⟨.array [], l.start, l'.stop⟩, ?_, ?_⟩
        · simp only [step, token']
        · exact reads_nil ⟨_, rfl, rfl⟩
      · exact reads_items items l.start [] frames empty (by omega)
  | .object members =>
    rw [Value.depth] at fits
    rw [Value.tokens_object]
    refine reads_cons fun l token => ⟨memberKey l.start [] frames, ?_, ?_⟩
    · simp only [step, token]
      exact if_pos (by omega)
    · by_cases empty : members = []
      · subst empty
        refine reads_cons fun l' token' => ⟨put frames ⟨.object [], l.start, l'.stop⟩, ?_, ?_⟩
        · simp only [step, token', List.isEmpty_nil, if_true]
        · exact reads_nil ⟨_, rfl, rfl⟩
      · exact reads_members members l.start [] frames empty (by omega)
termination_by structural v

theorem reads_items (items : List Value) (start : Nat) (before : List (Placed Value))
    (frames : List Frame) (some_items : items ≠ [])
    (fits : frames.length + 1 + Value.itemsDepth items ≤ deepest) :
    Reads (value (.array start before :: frames))
      (commaBetween (items.map Value.tokens) ++ [.closeArray])
      (Puts frames (.array (before.reverse.map (·.value) ++ items))) := by
  match items with
  | [] => exact absurd rfl some_items
  | v :: rest =>
    rw [Value.itemsDepth] at fits
    have first := reads_value v (.array start before :: frames) (by rw [List.length_cons]; omega)
    by_cases last : rest = []
    · subst last
      refine reads_append first ?_
      rintro next ⟨o, rfl, rfl⟩
      refine reads_cons fun l token =>
        ⟨put frames ⟨.array (⟨o.value.value, o.start, o.stop⟩ :: before).reverse, start, l.stop⟩, ?_, ?_⟩
      · simp only [put, step, token]
      · exact reads_nil ⟨_, by simp [Outline.value], rfl⟩
    · rw [List.map_cons, commaBetween_cons _ (by simpa using last), List.append_assoc]
      refine reads_append first ?_
      rintro next ⟨o, rfl, rfl⟩
      refine reads_cons fun l token =>
        ⟨value (.array start (⟨o.value.value, o.start, o.stop⟩ :: before) :: frames), ?_, ?_⟩
      · simp only [put, step, token]
      · have more := reads_items rest start (⟨o.value.value, o.start, o.stop⟩ :: before) frames last
          (by omega)
        rw [List.reverse_cons, List.map_append, List.append_assoc] at more
        exact more
termination_by structural items

theorem reads_members (members : List (String × Value)) (start : Nat) (before : List Member)
    (frames : List Frame) (some_members : members ≠ [])
    (fits : frames.length + 1 + Value.membersDepth members ≤ deepest) :
    Reads (memberKey start before frames)
      (commaBetween (members.map Value.memberTokens) ++ [.closeObject])
      (Puts frames (.object ((before.reverse.map fun m => (m.key, m.value.value)) ++ members))) := by
  match members with
  | [] => exact absurd rfl some_members
  | m :: rest =>
    rw [Value.membersDepth] at fits
    have first := reads_member m start before frames (by omega)
    by_cases last : rest = []
    · subst last
      refine reads_append first ?_
      rintro next ⟨member, rfl, rfl⟩
      refine reads_cons fun l token =>
        ⟨put frames ⟨.object (member :: before).reverse, start, l.stop⟩, ?_, ?_⟩
      · simp only [step, token]
      · exact reads_nil ⟨_, by simp [Outline.value], rfl⟩
    · rw [List.map_cons, commaBetween_cons _ (by simpa using last), List.append_assoc]
      refine reads_append first ?_
      rintro next ⟨member, rfl, rfl⟩
      refine reads_cons fun l token => ⟨memberKey start (member :: before) frames, ?_, ?_⟩
      · simp only [step, token]
      · have more := reads_members rest start (member :: before) frames last (by omega)
        rw [List.reverse_cons, List.map_append, List.append_assoc] at more
        exact more
termination_by structural members

theorem reads_member (m : String × Value) (start : Nat) (before : List Member) (frames : List Frame)
    (fits : frames.length + 1 + Value.memberDepth m ≤ deepest) :
    Reads (memberKey start before frames) (Value.memberTokens m)
      (PutsMember start before frames m) := by
  match m with
  | (key, v) =>
    rw [Value.memberDepth] at fits
    rw [Value.memberTokens]
    refine reads_cons fun l token => ⟨keyEnd start before key frames, ?_, ?_⟩
    · simp only [step, token]
    refine reads_cons fun l' token' => ⟨value (.object start before key l'.start :: frames), ?_, ?_⟩
    · simp only [step, token']
    have read := reads_value v (.object start before key l'.start :: frames)
      (by rw [List.length_cons]; omega)
    rw [← List.append_nil v.tokens]
    refine reads_append read ?_
    rintro next ⟨o, rfl, rfl⟩
    exact reads_nil ⟨_, rfl, rfl⟩
termination_by structural m

end

end State

/-- A text is read as the document whose tokens it is made of. -/
theorem parse_of_tokens {text : List Char} {v : Value} (shallow : v.depth ≤ State.deepest)
    (same : (lexemes text).map (·.token) = v.tokens ++ [.finish]) : parse text = .ok v := by
  obtain ⟨front, back, split, tokens, finish⟩ := List.map_eq_append_iff.mp same
  obtain ⟨⟨token, start, stop⟩, rest, rfl, last, none⟩ := List.map_eq_cons_iff.mp finish
  obtain ⟨_, ⟨o, rfl, rfl⟩, ran⟩ := State.reads_value v [] (by simpa using shallow) front tokens
  have reached : progress text = (.done o, ⟨token, start, stop⟩) := by
    rw [progress, split, State.start, ran]
    rfl
  cases last
  rw [parse, reached]

end AlertRelay.Json
