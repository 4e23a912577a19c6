import AlertRelay.Desktop
import AlertRelay.Program
import AlertRelay.Search
import Std.Time

/-!
# Command line

Reads the environment, the settings file and the feed, and carries out what the program decides:
messages go to standard error, settings to their file. Each notification is written to standard
output as one line, its arguments separated by tabs, for the process that starts the client.
-/
namespace AlertRelay.Main

def fileExists (path : String) : IO Bool := do
  try
    let handle ← IO.FS.Handle.mk path .read
    let _ ← handle.read 1
    return true
  catch _ => return false

/-- The first of some candidates that can be read as a file. -/
def firstFile : List String → IO (Option String)
  | [] => return none
  | path :: rest => do
      if ← fileExists path then return some path else firstFile rest

def readSlot (path : String) : IO Slot := do
  try
    return .file (← IO.FS.readBinFile path).toList
  catch
    | .noFileOrDirectory .. => return .absent
    | .inappropriateType .. => return .blocked
    | _ => return .folder

def environment : IO (String → Option String) := do
  let names :=
    [Config.directoryVariable, Config.originVariable, "HOME", "USERPROFILE", Program.logVariable]
  let values ← names.mapM fun name => do return (name, ← IO.getEnv name)
  return fun name => (values.find? (·.1 == name)).bind (·.2)

/-- The time of day, to the second, in UTC. -/
def timeStamp : IO String := do
  let t := Std.Time.DateTime.ofTimestamp (← Std.Time.Timestamp.now) Std.Time.TimeZone.ZoneRules.UTC
  return t.format "uuuu-MM-dd'T'HH:mm:ss'Z'"

def argumentLine (r : Request) : String := "\t".intercalate (Desktop.clientName :: r.arguments)

/-- Carry out what has been entered in the journal since it had so many entries. -/
def carryOut (f : Log.Filter) (config : Config) (n : Nat) (w : World) : IO Unit := do
  for e in (w.journal.take (w.journal.length - n)).reverse do
    match e with
    | .noted notice =>
        for line in Program.logLines f (← timeStamp) [notice] do IO.eprintln line
    | .notified r none | .launched r none => IO.println (argumentLine r)
    | .saved s none =>
        IO.FS.createDirAll config.directory
        IO.FS.writeFile w.disk.path s.text
    | _ => pure ()

/-- Hear lines until the feed ends. -/
partial def listen (f : Log.Filter) (config : Config) (input : IO.FS.Stream) (s : Session)
    (handled : Nat) : IO (Session × Nat) := do
  let text ← input.getLine
  if text.isEmpty then return (s, handled)
  let octets := (Feed.lines text.toUTF8.toList).headD []
  let n := s.desk.world.journal.length
  let (s, heard) := s.hear octets
  let s := Program.idle s
  carryOut f config n s.desk.world
  match heard with
  | .ended => return (s, handled)
  | .passed => listen f config input s handled
  | .handled => listen f config input s (handled + 1)

def run : IO Unit := do
  let lookup ← environment
  let (f, warnings) := Log.Filter.ofVariable (lookup Program.logVariable)
  for w in warnings do IO.eprintln w
  let config := Config.ofLookup lookup
  let path := (← IO.getEnv "PATH").getD ""
  let found? ← firstFile (Search.candidates path Desktop.clientName)
  let client? : Option Desktop.Client := found?.map fun p => ⟨p, true, fun _ => .ok (.code 0)⟩
  let outside : Surroundings :=
    ⟨Desktop.platform config.origin client? fun _ => ⟨true, some "no device"⟩, Desktop.host client?,
      fun _ => none⟩
  let slot ← readSlot (Disk.inDirectory config.directory .absent).path
  let s := Program.start config (Program.world config outside slot)
  carryOut f config 0 s.desk.world
  let (s, handled) ← listen f config (← IO.getStdin) s 0
  let n := s.desk.world.journal.length
  carryOut f config n (Program.finish s handled).desk.world

end AlertRelay.Main

def main : IO Unit := AlertRelay.Main.run
