import AlertRelay.Feed.Message
import AlertRelay.Session

/-!
# A session driven by a feed

The feed is read line by line. Each message is handled before the next line is looked at; a line
that holds no message is told to the operator and skipped, and one that is not UTF-8 ends the
feed.
-/
namespace AlertRelay

namespace Feed

/-- The lines of some octets, without the line feeds that end them. What follows the last one is
a line too, unless it is empty. -/
def lines : List UInt8 → List (List UInt8)
  | [] => []
  | b :: rest =>
      if b = 0x0A then [] :: lines rest
      else match lines rest with
        | [] => [[b]]
        | l :: ls => (b :: l) :: ls

/-- What a line comes to. -/
inductive Line where
  | blank
  | message (m : Message)
  | malformed (report : Json.Report)
  | undecodable (fault : Text.Utf8.Fault)

/-- What a line says; the line feed behind it is not decoded with it. -/
def Line.ofOctets (octets : List UInt8) : Line :=
  match Text.Utf8.decode octets with
  | .error fault => .undecodable fault
  | .ok text =>
      match Message.ofLine? text with
      | none => .blank
      | some (.ok m) => .message m
      | some (.error report) => .malformed report

end Feed

namespace Session

open Feed (Message Line)

def handle (s : Session) : Message → Session
  | .entries batch =>
      let (s, tick) := s.processBatch batch
      if tick.decisions.isEmpty then s
      else s.note (.ticked batch.size tick.decisions.length tick.delivered)
  | .enable =>
      match s.setEnabled true with
      | (s, true) => s.note .alertsEnabled
      | (s, false) => s.note (.alertsNotEnabled s.obstacle?)
  | .disable =>
      match s.setEnabled false with
      | (s, true) => s.note .alertsDisabled
      | (s, false) => s
  | .sound on =>
      match s.setSound on with
      | (s, true) => s.note (.soundSet on)
      | (s, false) => s
  | .test =>
      let (s, outcome) := s.test
      s.note (.tested outcome)
  | .status =>
      let s := s.note (.status s.capabilities s.desk.isRegistered s.settings)
      match s.obstacle? with
      | some o => s.note (.obstacle o)
      | none => s

/-- What became of a line. -/
inductive Heard where
  | passed | handled
  /-- The feed is at its end. -/
  | ended
  deriving DecidableEq, Repr

def hear (s : Session) (octets : List UInt8) : Session × Heard :=
  match Line.ofOctets octets with
  | .undecodable fault => (s.note (.feedUnreadable fault), .ended)
  | .blank => (s, .passed)
  | .malformed report => (s.note (.lineSkipped report), .passed)
  | .message m => (s.handle m, .handled)

/-- Handle lines until the feed ends, counting the messages. -/
def driveLines (s : Session) : List (List UInt8) → Session × Nat
  | [] => (s, 0)
  | octets :: rest =>
      match s.hear octets with
      | (s, .ended) => (s, 0)
      | (s, .passed) => s.driveLines rest
      | (s, .handled) =>
          let (s, n) := s.driveLines rest
          (s, n + 1)

def drive (s : Session) (feed : List UInt8) : Session × Nat := s.driveLines (Feed.lines feed)

end Session
end AlertRelay
