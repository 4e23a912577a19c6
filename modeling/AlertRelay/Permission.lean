/-!
# Permission to show alerts

Four states. Only `undecided` can still change: a prompt that is dismissed comes back as
`undecided` and may be repeated, every other answer is final for the session.
-/
namespace AlertRelay

inductive Permission where
  | undecided | granted | denied | unsupported
  deriving DecidableEq, Repr

namespace Permission

def isGranted (p : Permission) : Bool := p == .granted

/-- A new request may still change this state. -/
def canPrompt (p : Permission) : Bool := p == .undecided

/-- The word for the state in stored and exchanged text. -/
def word : Permission → String
  | undecided => "default"
  | granted => "granted"
  | denied => "denied"
  | unsupported => "unsupported"

/-- The name of the state in messages to the operator. -/
def label : Permission → String
  | undecided => "Default"
  | granted => "Granted"
  | denied => "Denied"
  | unsupported => "Unsupported"

def all : List Permission := [undecided, granted, denied, unsupported]

def ofWord? (w : String) : Option Permission := all.find? (·.word == w)

end Permission
end AlertRelay
