import AlertRelay.Json.Reader
import AlertRelay.Permission

/-!
# A permission as JSON text

Either the word for the state, or an object with that word as its only key and `null` as its
value.
-/
namespace AlertRelay.Permission

open Json (Token Lexeme)

/-- The written form. -/
def text (p : Permission) : String := "\"" ++ p.word ++ "\""

/-- The state that a word names, faulted behind the word. -/
def named (w : String) (stop : Nat) : Except Json.Error Permission :=
  match ofWord? w with
  | some p => .ok p
  | none => .error (.mismatch (.unknownVariant w (all.map word)) (some stop))

/-- A lexeme that starts a value of the wrong kind, or no value. -/
def refuse (wanted : String) (l : Lexeme) : Json.Error :=
  match l.token with
  | .scalar s => .mismatch (.invalidType s.describe wanted) (some l.stop)
  | .openArray => .mismatch (.invalidType "sequence" wanted) (some l.start)
  | .openObject => .mismatch (.invalidType "map" wanted) (some l.start)
  | .broken _ fault => .grammar fault
  | .finish => .grammar ⟨.endInValue, l.start⟩
  | _ => .grammar ⟨.expectedValue, l.start + 1⟩

/-- Behind a whole permission only the end of the text may follow. -/
def close (p : Permission) : List Lexeme → Except Json.Error Permission
  | l :: _ => if l.token = .finish then .ok p else .error (.grammar ⟨.trailingCharacters, l.start + 1⟩)
  | [] => .ok p

def closeObject (p : Permission) : List Lexeme → Except Json.Error Permission
  | l :: rest =>
      if l.token = .closeObject then close p rest
      else if l.token = .finish then .error (.grammar ⟨.endInObject, l.start⟩)
      else .error (.grammar ⟨.expectedValue, l.start⟩)
  | [] => .ok p

def null (p : Permission) : List Lexeme → Except Json.Error Permission
  | l :: rest =>
      if l.token = .scalar .null then closeObject p rest else .error (refuse "unit" l)
  | [] => .ok p

def colon (p : Permission) : List Lexeme → Except Json.Error Permission
  | l :: rest =>
      if l.token = .colon then null p rest
      else if l.token = .finish then .error (.grammar ⟨.endInObject, l.start⟩)
      else .error (.grammar ⟨.expectedColon, l.start + 1⟩)
  | [] => .ok p

def ofLexemes : List Lexeme → Except Json.Error Permission
  | [] => .error (.grammar ⟨.endInValue, 0⟩)
  | l :: rest =>
      match l.token with
      | .scalar (.text w) =>
          match named w l.stop with
          | .ok p => close p rest
          | .error e => .error e
      | .openObject =>
          match rest with
          | [] => .error (.grammar ⟨.endInValue, l.stop⟩)
          | k :: rest =>
              match k.token with
              | .scalar (.text w) =>
                  match named w k.stop with
                  | .ok p => colon p rest
                  | .error e => .error e
              | _ => .error (refuse "variant identifier" k)
      | .broken true fault => .error (.grammar fault)
      | .finish => .error (.grammar ⟨.endInValue, l.start⟩)
      | _ => .error (.grammar ⟨.expectedValue, l.start + 1⟩)

def ofText (text : List Char) : Except Json.Report Permission :=
  match ofLexemes (Json.lexemes text) with
  | .ok p => .ok p
  | .error e => .error (e.report text)

end AlertRelay.Permission
