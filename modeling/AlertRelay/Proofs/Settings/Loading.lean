import AlertRelay.Proofs.Json.Spelling
import AlertRelay.Proofs.Session.Start
import AlertRelay.Proofs.Settings.Record
import AlertRelay.Scripted

/-!
# What is loaded

Loading always comes to settings. A field departs from its default exactly where the settings file is
the text of one object whose last member of the field's name is the other truth value; whatever else
the object holds, and whatever else the file may be, has no part in it. What was saved without a fault
is loaded again, whatever was there before.
-/
namespace AlertRelay

/-- The settings file is in UTF-8 and the text of one document. -/
def Slot.Holds (slot : Slot) (v : Json.Value) : Prop :=
  ∃ text, slot = .file (Text.Utf8.encode text) ∧ Json.Spelling v.tokens text ∧
    v.depth ≤ Json.State.deepest

/-- The value of the last member of a name. -/
def lastMember? (name : String) (members : List (String × Json.Value)) : Option Json.Value :=
  (members.filter (·.1 = name)).getLast?.map Prod.snd

/-! ## Fields of a document -/

theorem member?_object (name : String) (members : List (String × Json.Value)) :
    (Json.Value.object members).member? name = lastMember? name members := by
  rw [lastMember?, List.getLast?_eq_head?_reverse, ← List.filter_reverse, List.head?_filter]
  rfl

theorem boolean?_eq_some_iff {v : Json.Value} {b : Bool} : v.boolean? = some b ↔ v = .boolean b := by
  cases v with
  | scalar s => cases s <;> simp [Json.Value.boolean?, Json.Value.boolean]
  | array | object => simp [Json.Value.boolean?, Json.Value.boolean]

namespace Settings

theorem field_object (members : List (String × Json.Value)) (name : String) (otherwise : Bool) :
    field (.object members) name otherwise =
      ((lastMember? name members).bind Json.Value.boolean?).getD otherwise := by
  rw [field, member?_object]

/-- A field departs from its default for the last member of its name alone. -/
theorem field_departs_iff {record : Json.Value} {name : String} {otherwise : Bool} :
    field record name otherwise = !otherwise ↔
      ∃ members, record = .object members ∧ lastMember? name members = some (.boolean !otherwise) := by
  have read : ∀ found : Option Bool, found.getD otherwise = !otherwise ↔ found = some !otherwise := by
    intro found
    cases found <;> cases otherwise <;> simp
  cases record with
  | scalar | array =>
    simp only [reduceCtorEq, false_and, exists_false, iff_false]
    exact (Bool.eq_not_self otherwise).mp
  | object members =>
    simp [field_object, read, Option.bind_eq_some_iff, boolean?_eq_some_iff]

end Settings

/-! ## What is found at the place of the settings -/

namespace Slot

/-- A record is loaded exactly where the file holds a document. -/
theorem load_eq_record_iff {slot : Slot} {s : Settings} :
    slot.load = .record s ↔ ∃ v, slot.Holds v ∧ s = .ofValue v := by
  constructor
  · intro loaded
    unfold load at loaded
    split at loaded
    next octets =>
      split at loaded
      · cases loaded
      next text decoded =>
        split at loaded
        next v one =>
          cases loaded
          obtain ⟨spelling, shallow⟩ := Json.parse_eq_ok_iff.mp one
          exact ⟨v, ⟨text, by rw [Text.Utf8.text?_eq_some_iff.mp decoded], spelling, shallow⟩, rfl⟩
        · cases loaded
    all_goals cases loaded
  · rintro ⟨v, ⟨text, rfl, spelling, shallow⟩, rfl⟩
    have decoded : Text.Utf8.text? (Text.Utf8.encode text) = some text :=
      Text.Utf8.text?_eq_some_iff.mpr rfl
    have one := Json.parse_eq_ok_iff.mpr ⟨spelling, shallow⟩
    simp only [load, decoded, one]

theorem load_of_holds {slot : Slot} {v : Json.Value} (holds : slot.Holds v) :
    slot.load.settings = .ofValue v := by
  rw [load_eq_record_iff.mpr ⟨v, holds, rfl⟩]
  rfl

variable {read : Settings → Bool} {name : String}
  (reads : ∀ v, read (.ofValue v) = Settings.field v name (read .default))
include reads

/-- A loaded field departs from its default for one kind of content alone. -/
theorem load_departs_iff (slot : Slot) :
    read slot.load.settings = !read .default ↔
      ∃ members, slot.Holds (.object members) ∧
        lastMember? name members = some (.boolean !read .default) := by
  constructor
  · intro departs
    cases loaded : slot.load with
    | record s =>
      obtain ⟨v, holds, rfl⟩ := load_eq_record_iff.mp loaded
      rw [loaded, Loaded.settings, reads] at departs
      obtain ⟨members, rfl, last⟩ := Settings.field_departs_iff.mp departs
      exact ⟨members, holds, last⟩
    | unreadable | nothing =>
      rw [loaded] at departs
      exact ((Bool.eq_not_self _).mp departs).elim
  · rintro ⟨members, holds, last⟩
    rw [load_of_holds holds, reads]
    exact Settings.field_departs_iff.mpr ⟨members, rfl, last⟩

/-- Members of other names have no part in a field. -/
theorem load_of_members {slot slot' : Slot} {members members' : List (String × Json.Value)}
    (holds : slot.Holds (.object members)) (holds' : slot'.Holds (.object members'))
    (same : members.filter (·.1 = name) = members'.filter (·.1 = name)) :
    read slot.load.settings = read slot'.load.settings := by
  rw [load_of_holds holds, load_of_holds holds', reads, reads, Settings.field_object,
    Settings.field_object, lastMember?, lastMember?, same]

end Slot

namespace World

theorem load_save {w : World} {s : Settings} (done : (w.save s).2 = none) :
    (w.save s).1.load.2 = s := by
  have saved : w.saveOutcome s = ((w.saveOutcome s).1, none) := Prod.ext rfl done
  rw [save_eq, load_eq, stored, disk_enterAll]
  exact congrArg Loaded.settings (Disk.load_save saved)

/-- Loading comes to settings whatever is found. Alerts are loaded as enabled exactly where the file
holds one object whose last member `enabled` is `true`, the sound as off exactly where it holds one
whose last member `sound_enabled` is `false`. Among files that hold objects a field is decided by the
members of its own name, whatever the others are. What was saved without a fault is loaded. -/
theorem loads_field_by_field :
    (∀ w : World,
      (w.load.2.enabled = true ↔ ∃ members, w.disk.slot.Holds (.object members) ∧
        lastMember? "enabled" members = some (.boolean true)) ∧
      (w.load.2.soundEnabled = false ↔ ∃ members, w.disk.slot.Holds (.object members) ∧
        lastMember? "sound_enabled" members = some (.boolean false))) ∧
    (∀ (w w' : World) (members members' : List (String × Json.Value)),
      w.disk.slot.Holds (.object members) → w'.disk.slot.Holds (.object members') →
      (members.filter (·.1 = "enabled") = members'.filter (·.1 = "enabled") →
        w.load.2.enabled = w'.load.2.enabled) ∧
      (members.filter (·.1 = "sound_enabled") = members'.filter (·.1 = "sound_enabled") →
        w.load.2.soundEnabled = w'.load.2.soundEnabled)) ∧
    ∀ (w : World) (s : Settings), (w.save s).2 = none → (w.save s).1.load.2 = s := by
  have alerts (v : Json.Value) : (Settings.ofValue v).enabled =
      Settings.field v "enabled" Settings.default.enabled := rfl
  have sound (v : Json.Value) : (Settings.ofValue v).soundEnabled =
      Settings.field v "sound_enabled" Settings.default.soundEnabled := rfl
  refine ⟨fun w => ?_, fun w w' members members' holds holds' => ?_, fun w s => load_save⟩
  · rw [load_eq]
    exact ⟨w.disk.slot.load_departs_iff alerts, w.disk.slot.load_departs_iff sound⟩
  · rw [load_eq, load_eq]
    exact ⟨Slot.load_of_members alerts holds holds', Slot.load_of_members sound holds holds'⟩

/-- A repeated member, once with an escape in its name, and an inner one of the same name. -/
def mixedText : List Char :=
  "\x7b\"enabled\":0,\"x\":\x7b\"enabled\":0\x7d,\"\\u0065nabled\":true,\"sound_enabled\":false\x7d".toList

def mixedMembers : List (String × Json.Value) :=
  [("enabled", .number (.integer 0)), ("x", .object [("enabled", .number (.integer 0))]),
    ("enabled", .boolean true), ("sound_enabled", .boolean false)]

def mixedWorld : World where
  outside := ⟨Scripted.platform ⟨⟨true, true, .granted⟩, none, false, false, false⟩,
    Scripted.host false, fun _ => none⟩
  disk := ⟨settingsFile, .file (Text.Utf8.encode mixedText)⟩
  journal := []

/-- The last members decide, and a save replaces them all. -/
theorem mixedWorld_loads :
    mixedWorld.load.2 = ⟨true, false⟩ ∧ (mixedWorld.save ⟨false, true⟩).1.load.2 = ⟨false, true⟩ := by
  obtain ⟨fields, -, kept⟩ := loads_field_by_field
  have holds : mixedWorld.disk.slot.Holds (.object mixedMembers) :=
    ⟨mixedText, rfl, Json.parse_eq_ok_iff.mp rfl⟩
  have enabled := (fields mixedWorld).1.mpr ⟨_, holds, rfl⟩
  have sound := (fields mixedWorld).2.mpr ⟨_, holds, rfl⟩
  exact ⟨congrArg₂ Settings.mk enabled sound, kept mixedWorld _ (by decide +kernel)⟩

end World
end AlertRelay
