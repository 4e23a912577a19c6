import AlertRelay.Json.Lexeme

/-!
# Reading a document

The reader is a machine over lexemes. Its state is what is wanted next together with the open
containers; a lexeme that is not wanted stops it. What is wrong is then a function of the state
and that lexeme (`State.complaint`), and so is everything else one may ask about a document that
was read only in part.
-/
namespace AlertRelay.Json

/-- A value together with the octets it takes up. -/
structure Placed (α : Type) where
  value : α
  start : Nat
  stop : Nat

/-- `follow` is where the lexeme behind the key starts. -/
structure Member where
  key : String
  follow : Nat
  value : Placed Value

/-- A container that waits for the value of an item or of a member. Newest parts first. -/
inductive Frame where
  | array (start : Nat) (items : List (Placed Value))
  | object (start : Nat) (members : List Member) (key : String) (follow : Nat)

/-- The outermost layer of a document with the places of its parts. -/
inductive Outline where
  | scalar (s : Scalar)
  | array (items : List (Placed Value))
  | object (members : List Member)

def Outline.value : Outline → Value
  | scalar s => .scalar s
  | array items => .array (items.map (·.value))
  | object members => .object (members.map fun m => (m.key, m.value.value))

inductive State where
  /-- A value, for the innermost frame or as the document. -/
  | value (frames : List Frame)
  | itemEnd (start : Nat) (items : List (Placed Value)) (frames : List Frame)
  | memberKey (start : Nat) (members : List Member) (frames : List Frame)
  | keyEnd (start : Nat) (members : List Member) (key : String) (frames : List Frame)
  | memberEnd (start : Nat) (members : List Member) (frames : List Frame)
  | done (document : Placed Outline)

namespace State

/-- How many containers may be open at once. -/
def deepest : Nat := 127

def start : State := value []

/-- A value has been read. -/
def put (frames : List Frame) (v : Placed Outline) : State :=
  match frames with
  | [] => done v
  | .array start items :: up => itemEnd start (⟨v.value.value, v.start, v.stop⟩ :: items) up
  | .object start members key follow :: up =>
      memberEnd start (⟨key, follow, ⟨v.value.value, v.start, v.stop⟩⟩ :: members) up

def step (s : State) (l : Lexeme) : Option State :=
  match s with
  | value frames =>
      match l.token with
      | .scalar x => some (put frames ⟨.scalar x, l.start, l.stop⟩)
      | .openArray =>
          if frames.length < deepest then some (value (.array l.start [] :: frames)) else none
      | .openObject =>
          if frames.length < deepest then some (memberKey l.start [] frames) else none
      | .closeArray =>
          match frames with
          | .array start [] :: up => some (put up ⟨.array [], start, l.stop⟩)
          | _ => none
      | _ => none
  | itemEnd start items frames =>
      match l.token with
      | .comma => some (value (.array start items :: frames))
      | .closeArray => some (put frames ⟨.array items.reverse, start, l.stop⟩)
      | _ => none
  | memberKey start members frames =>
      match l.token with
      | .scalar (.text k) => some (keyEnd start members k frames)
      | .closeObject =>
          if members.isEmpty then some (put frames ⟨.object [], start, l.stop⟩) else none
      | _ => none
  | keyEnd start members k frames =>
      match l.token with
      | .colon => some (value (.object start members k l.start :: frames))
      | _ => none
  | memberEnd start members frames =>
      match l.token with
      | .comma => some (memberKey start members frames)
      | .closeObject => some (put frames ⟨.object members.reverse, start, l.stop⟩)
      | _ => none
  | done _ => none

/-- Until a lexeme is not wanted: the state reached and that lexeme. -/
def run (s : State) : List Lexeme → State × Lexeme
  | [] => (s, ⟨.finish, 0, 0⟩)
  | l :: rest =>
      match s.step l with
      | some next => next.run rest
      | none => (s, l)

/-- What is wrong with a lexeme that is not wanted. Most faults are seen by looking at the
octet after the place reached, at the end of the text there is none. -/
def complaint (s : State) (l : Lexeme) : Fault :=
  match s with
  | value frames =>
      match l.token with
      | .broken _ fault => fault
      | .finish =>
          match frames with
          | .array _ [] :: _ => ⟨.endInArray, l.start⟩
          | _ => ⟨.endInValue, l.start⟩
      | .closeArray =>
          match frames with
          | .array _ (_ :: _) :: _ => ⟨.trailingComma, l.start + 1⟩
          | _ => ⟨.expectedValue, l.start + 1⟩
      | .openArray | .openObject => ⟨.tooDeep, l.start + 1⟩
      | _ => ⟨.expectedValue, l.start + 1⟩
  | itemEnd .. =>
      if l.token = .finish then ⟨.endInArray, l.start⟩ else ⟨.expectedArrayEnd, l.start + 1⟩
  | memberKey _ members _ =>
      match l.token with
      | .broken true fault => fault
      | .finish => ⟨if members.isEmpty then .endInObject else .endInValue, l.start⟩
      | .closeObject => ⟨.trailingComma, l.start + 1⟩
      | _ => ⟨.keyNotText, l.start + 1⟩
  | keyEnd .. =>
      if l.token = .finish then ⟨.endInObject, l.start⟩ else ⟨.expectedColon, l.start + 1⟩
  | memberEnd .. =>
      if l.token = .finish then ⟨.endInObject, l.start⟩ else ⟨.expectedObjectEnd, l.start + 1⟩
  | done _ => ⟨.trailingCharacters, l.start + 1⟩

end State

/-- Where the reading of a text ends. -/
def progress (text : List Char) : State × Lexeme := State.start.run (lexemes text)

/-- The document that a text holds and nothing else. -/
def parse (text : List Char) : Except Fault Value :=
  match progress text with
  | (.done document, ⟨.finish, _, _⟩) => .ok document.value.value
  | (s, l) => .error (s.complaint l)

end AlertRelay.Json
