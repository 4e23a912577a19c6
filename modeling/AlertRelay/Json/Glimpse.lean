import AlertRelay.Json.Reader

/-!
# A document read in part

What can be told of the outermost container when the reading stops before its end. A value
inside it that is itself an open container counts as an empty one at its start.
-/
namespace AlertRelay.Json

inductive Glimpse where
  | nothing
  | array (items : List (Placed Value))
  /-- `pending?` is a key whose value has not been read, with the place behind the key. -/
  | object (members : List Member) (pending? : Option (String × Nat))

def Frame.stub : Frame → Placed Value
  | array start _ => ⟨.array [], start, start⟩
  | object start .. => ⟨.object [], start, start⟩

namespace Glimpse

/-- The outermost of some frames; `inner?` is what stands in the innermost one. -/
def ofFrames (inner? : Option (Placed Value)) : List Frame → Glimpse
  | [] => nothing
  | [.array _ items] => array (items.reverse ++ inner?.toList)
  | [.object _ members key follow] =>
      match inner? with
      | some v => object (members.reverse ++ [⟨key, follow, v⟩]) none
      | none => object members.reverse (some (key, follow))
  | f :: up => ofFrames (some f.stub) up

/-- The place where an error about a key is reported: before the next lexeme, but behind it if
it closes the object. -/
def behindKey (l : Lexeme) : Nat := if l.token = .closeObject then l.stop else l.start

def ofState (s : State) (l : Lexeme) : Glimpse :=
  match s with
  | .value frames => ofFrames none frames
  | .itemEnd start items up => ofFrames none (.array start items :: up)
  | .memberKey start members up | .memberEnd start members up =>
      if up.isEmpty then object members.reverse none
      else ofFrames (some ⟨.object [], start, start⟩) up
  | .keyEnd start members key up =>
      if up.isEmpty then object members.reverse (some (key, behindKey l))
      else ofFrames (some ⟨.object [], start, start⟩) up
  | .done _ => nothing

end Glimpse
end AlertRelay.Json
