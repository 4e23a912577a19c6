import AlertRelay.Config
import AlertRelay.Feed.Drive
import AlertRelay.Log.Filter
import AlertRelay.Log.Line

/-!
# The program

A session is set up, driven by the feed on standard input until that ends, and dropped. The
background worker has its turn while the program waits for input. A feed that is there as a whole
leaves it two turns: before the first line it begins, and after the last it starts a client.
-/
namespace AlertRelay

/-- A session with its channel tried for; an obstacle is told at once. -/
def Session.setUp (w : World) (scope : String) : Session :=
  let (s, _) := (Session.start w scope).registerChannel
  match s.obstacle? with
  | some o => s.note (.obstacleAtStart o)
  | none => s

namespace Program

def logVariable : String := "RUST_LOG"

def world (c : Config) (outside : Surroundings) (slot : Slot) : World :=
  ⟨outside, .inDirectory c.directory slot, []⟩

/-- Ready for the first line. -/
def start (c : Config) (w : World) : Session :=
  let s := (Session.setUp w c.scope).note (.reading c.origin c.directory)
  { s with desk := s.desk.begin }

/-- While a line is waited for, the worker shows what is queued. -/
def idle (s : Session) : Session := { s with desk := s.desk.settle }

/-- After the last line. Nobody waits for a client that the worker starts then. -/
def finish (s : Session) (handled : Nat) : Session :=
  { s with desk := s.desk.advance }.note (.feedClosed handled)

def run (c : Config) (w : World) (feed : List UInt8) : World :=
  let (s, handled) := (start c w).drive feed
  (finish s handled).desk.world

/-- Everything told to the operator, oldest first. -/
def notices (w : World) : List Notice := w.journal.reverse.filterMap Event.notice?

/-- What is written to the log. -/
def logLines (f : Log.Filter) (time : String) (ns : List Notice) : List String :=
  (ns.filter f.passes).flatMap (Log.lines time)

end Program
end AlertRelay
