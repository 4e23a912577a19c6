import AlertRelay.Alert
import AlertRelay.Json.Glimpse
import AlertRelay.Text.Blank

/-!
# Messages of the feed

A message is one line of JSON: an object whose member `type` names the kind, or an array whose
first item does. The kind is checked while the text is being read, so it is the first thing
wrong if the text breaks off later; the fields are checked once all has been read, and what
stands behind the document comes last.
-/
namespace AlertRelay.Feed

inductive Message where
  | entries (batch : Batch)
  | enable
  | disable
  | sound (enabled : Bool)
  | test
  | status

inductive Kind where
  | entries | enable | disable | sound | test | status
  deriving DecidableEq, Repr

namespace Kind

def word : Kind → String
  | entries => "entries"
  | enable => "enable"
  | disable => "disable"
  | sound => "sound"
  | test => "test"
  | status => "status"

def all : List Kind := [entries, enable, disable, sound, test, status]

def ofWord? (w : String) : Option Kind := all.find? (·.word == w)

/-- The kind that a value names. A word or number is faulted behind it, a container before. -/
def ofPlaced (v : Json.Placed Json.Value) : Except Json.Error Kind :=
  match v.value with
  | .scalar (.text w) =>
      match ofWord? w with
      | some kind => .ok kind
      | none => .error (.mismatch (.unknownVariant w (all.map word)) (some v.stop))
  | .scalar s => .error (.mismatch (.invalidType s.describe "variant identifier") (some v.stop))
  | other =>
      .error (.mismatch (.invalidType other.describe "variant identifier") (some v.start))

def field : String := "type"

/-- The kind that some members name, `seen?` being named before them. -/
def ofMembers (seen? : Option Kind) : List Json.Member → Except Json.Error (Option Kind)
  | [] => .ok seen?
  | m :: rest =>
      if m.key = field then
        if seen?.isSome then .error (.mismatch (.duplicateField field) (some m.follow))
        else match ofPlaced m.value with
          | .ok kind => ofMembers (some kind) rest
          | .error e => .error e
      else ofMembers seen? rest

/-- What is wrong with the kind in a document that was read only in part. -/
def fault? : Json.Glimpse → Option Json.Error
  | .nothing => none
  | .array [] => none
  | .array (v :: _) =>
      match ofPlaced v with
      | .ok _ => none
      | .error e => some e
  | .object members pending? =>
      match ofMembers none members, pending? with
      | .error e, _ => some e
      | .ok (some _), some (key, follow) =>
          if key = field then some (.mismatch (.duplicateField field) (some follow)) else none
      | .ok _, _ => none

end Kind

/-- The values besides the kind. -/
inductive Fields where
  | members (ms : List (String × Json.Value))
  | items (vs : List Json.Value)

namespace Fields

abbrev Decoder (α : Type) := Json.Value → Except Json.Mismatch α

def boolean : Decoder Bool
  | .scalar (.boolean b) => .ok b
  | v => .error (.invalidType v.describe "a boolean")

/-- No count, or an integer of 32 bits. -/
def count : Decoder (Option UInt32)
  | .scalar .null => .ok none
  | .scalar (.number (.integer n)) =>
      if 0 ≤ n && n ≤ 0xFFFFFFFF then .ok (some (UInt32.ofNat n.toNat))
      else .error (.invalidValue (Json.Number.integer n).describe "u32")
  | v => .error (.invalidType v.describe "u32")

/-- Every value is decoded; of a repeated key the last one stays. -/
def counts (batch : Batch) : List (String × Json.Value) → Except Json.Mismatch Batch
  | [] => .ok batch
  | (key, v) :: rest =>
      match count v with
      | .ok c => counts (batch.insert key c) rest
      | .error e => .error e

def batch : Decoder Batch
  | .object ms => counts ∅ ms
  | v => .error (.invalidType v.describe "a map")

/-- The one member of that name, others being passed over. -/
def member {α : Type} (name : String) (decode : Decoder α) (found? : Option α) :
    List (String × Json.Value) → Except Json.Mismatch α
  | [] =>
      match found? with
      | some x => .ok x
      | none => .error (.missingField name)
  | (key, v) :: rest =>
      if key = name then
        if found?.isSome then .error (.duplicateField name)
        else match decode v with
          | .ok x => member name decode (some x) rest
          | .error e => .error e
      else member name decode found? rest

/-- A kind without fields. -/
def nothing {α : Type} (x : α) : Fields → Except Json.Mismatch α
  | members _ | items [] => .ok x
  | items vs => .error (.invalidLength vs.length "0 elements in sequence")

/-- A kind with one field; `shape` names it where an array has nothing to give. -/
def single {α : Type} (name shape : String) (decode : Decoder α) :
    Fields → Except Json.Mismatch α
  | members ms => member name decode none ms
  | items [] =>
      .error (.invalidLength 0 ("struct variant FeedMessage::" ++ shape ++ " with 1 element"))
  | items (v :: rest) =>
      match decode v with
      | .error e => .error e
      | .ok x =>
          if rest.isEmpty then .ok x
          else .error (.invalidLength (rest.length + 1) "1 element in sequence")

end Fields

namespace Message

def ofFields (kind : Kind) (fields : Fields) : Except Json.Mismatch Message :=
  match kind with
  | .entries => (fields.single "entries" "Entries" Fields.batch).map entries
  | .sound => (fields.single "enabled" "Sound" Fields.boolean).map sound
  | .enable => fields.nothing enable
  | .disable => fields.nothing disable
  | .test => fields.nothing test
  | .status => fields.nothing status

/-- Kind and fields of a document read to its end. -/
def split (document : Json.Placed Json.Outline) : Except Json.Error (Kind × Fields) :=
  match document.value with
  | .scalar s =>
      .error (.mismatch (.invalidType s.describe "internally tagged enum FeedMessage")
        (some document.stop))
  | .array [] => .error (.mismatch (.missingField Kind.field) (some document.stop))
  | .array (v :: rest) =>
      match Kind.ofPlaced v with
      | .ok kind => .ok (kind, .items (rest.map (·.value)))
      | .error e => .error e
  | .object members =>
      match Kind.ofMembers none members with
      | .error e => .error e
      | .ok none => .error (.mismatch (.missingField Kind.field) (some document.stop))
      | .ok (some kind) =>
          .ok (kind, .members ((members.filter (·.key ≠ Kind.field)).map fun m =>
            (m.key, m.value.value)))

def ofDocument (document : Json.Placed Json.Outline) : Except Json.Error Message :=
  match split document with
  | .error e => .error e
  | .ok (kind, fields) =>
      match ofFields kind fields with
      | .ok m => .ok m
      | .error e => .error (.mismatch e none)

/-- The message that the reading of a text comes to. -/
def ofProgress (s : Json.State) (l : Json.Lexeme) : Except Json.Error Message :=
  match s with
  | .done document =>
      match ofDocument document with
      | .error e => .error e
      | .ok m => if l.token = .finish then .ok m else .error (.grammar (s.complaint l))
  | _ =>
      match Kind.fault? (Json.Glimpse.ofState s l) with
      | some e => .error e
      | none => .error (.grammar (s.complaint l))

def ofText (text : List Char) : Except Json.Report Message :=
  let (s, l) := Json.progress text
  match ofProgress s l with
  | .ok m => .ok m
  | .error e => .error (e.report text)

/-- One line, white space around it left out; a blank line holds no message. -/
def ofLine? (line : List Char) : Option (Except Json.Report Message) :=
  let text := Text.trim line
  if text.isEmpty then none else some (ofText text)

end Message
end AlertRelay.Feed
