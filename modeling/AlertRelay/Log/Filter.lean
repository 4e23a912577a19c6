import AlertRelay.Notice
import AlertRelay.Text.Blank
import AlertRelay.Text.Split

/-!
# Which messages are written

A filter is a list of directives, `source=level` with either part left out, and behind a slash a
text that a message must hold. The directive with the longest name that the source begins with
decides.
-/
namespace AlertRelay.Log

/-- Up to which level messages pass. -/
inductive Threshold where
  | off | error | warn | info | debug | trace
  deriving DecidableEq, Repr

namespace Threshold

def word : Threshold → List Char
  | off => ['o', 'f', 'f']
  | error => ['e', 'r', 'r', 'o', 'r']
  | warn => ['w', 'a', 'r', 'n']
  | info => ['i', 'n', 'f', 'o']
  | debug => ['d', 'e', 'b', 'u', 'g']
  | trace => ['t', 'r', 'a', 'c', 'e']

def all : List Threshold := [off, error, warn, info, debug, trace]

/-- Read without regard to the case of letters. -/
def ofWord? (cs : List Char) : Option Threshold := all.find? (·.word == cs.map Char.toLower)

def passes (t : Threshold) (l : Level) : Bool :=
  match l with
  | .warn => [warn, info, debug, trace].contains t
  | .info => [info, debug, trace].contains t
  | .debug => [debug, trace].contains t

end Threshold

/-- Without a name it speaks of every source. -/
structure Directive where
  name? : Option (List Char)
  threshold : Threshold
  deriving DecidableEq, Repr

structure Filter where
  /-- Ordered by the length of the name. -/
  directives : List Directive
  holding? : Option (List Char)
  deriving DecidableEq, Repr

namespace Directive

/-- A directive, or the part of it that cannot be read. -/
def ofText (cs : List Char) : Except (List Char) Directive :=
  match Text.split '=' cs with
  | [name] =>
      match Threshold.ofWord? name with
      | some t => .ok ⟨none, t⟩
      | none => .ok ⟨some name, .trace⟩
  | [name, level] =>
      let level := Text.trim level
      if level.isEmpty then .ok ⟨some name, .trace⟩
      else match Threshold.ofWord? level with
        | some t => .ok ⟨some name, t⟩
        | none => .error level
  | _ => .error cs

/-- A later directive of the same name takes the place of an earlier one. -/
def insert (d : Directive) : List Directive → List Directive
  | [] => [d]
  | e :: rest => if e.name? = d.name? then d :: rest else e :: insert d rest

end Directive

def Directive.nameOctets (d : Directive) : Nat :=
  (d.name?.map fun n => (String.ofList n).utf8ByteSize).getD 0

/-- Whether it speaks of a source. -/
def Directive.covers (d : Directive) (source : String) : Bool :=
  d.name?.all fun n => n.isPrefixOf source.toList

namespace Filter

/-- Directives in the order given, and what could not be read. -/
def directivesOf (cs : List Char) : List Directive × List (List Char) :=
  ((Text.split ',' cs).map Text.trim).foldl (fun (ds, faults) part =>
    if part.isEmpty then (ds, faults)
    else match Directive.ofText part with
      | .ok d => (d.insert ds, faults)
      | .error fault => (ds, faults ++ [fault])) ([], [])

def ordered (ds : List Directive) : List Directive :=
  if ds.isEmpty then [⟨none, .error⟩]
  else ds.mergeSort fun a b => a.nameOctets ≤ b.nameOctets

def warning (part : List Char) (reason : String) : String :=
  "warning: invalid logging spec '" ++ String.ofList part ++ "', ignoring it" ++ reason

/-- The filter that a text describes, and warnings about parts of it that are left out. -/
def ofText (cs : List Char) : Filter × List String :=
  match Text.split '/' cs with
  | mods :: more =>
      if 1 < more.length then
        (⟨ordered [], none⟩, [warning cs " (too many '/'s)"])
      else
        let (ds, faults) := directivesOf mods
        (⟨ordered ds, more.head?⟩, faults.map (warning · ""))
  | [] => (⟨ordered [], none⟩, [])

/-- The filter where none is asked for. -/
def usual : Filter := ⟨[⟨none, .info⟩], none⟩

def ofVariable (value? : Option String) : Filter × List String :=
  match value? with
  | some v => ofText v.toList
  | none => (usual, [])

def holds (part : List Char) : List Char → Bool
  | [] => part.isEmpty
  | c :: rest => part.isPrefixOf (c :: rest) || holds part rest

def passes (f : Filter) (n : Notice) : Bool :=
  ((f.directives.reverse.find? (·.covers n.source)).any
      fun d => d.threshold.passes n.level)
    && f.holding?.all fun part => holds part n.text.toList

end Filter
end AlertRelay.Log
