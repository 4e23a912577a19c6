import AlertRelay.Store

/-!
# Stored records

A record that was stored as a whole reads back as it was. The beginning of one, which is what a
save leaves that is broken off, never reads as a wish for alerts that the record did not hold.
-/
namespace AlertRelay

/-- The octets of a record. -/
def Settings.record (s : Settings) : List UInt8 := Text.Utf8.encode s.text.toList

theorem load_record (s : Settings) : (Slot.file s.record).load = .record s := by
  obtain ⟨enabled, sound⟩ := s
  revert enabled sound
  decide +kernel

theorem length_record (s : Settings) : s.record.length ≤ 51 := by
  obtain ⟨enabled, sound⟩ := s
  revert enabled sound
  decide +kernel

/-- No beginning of a record of disabled alerts reads as enabled ones. -/
theorem load_record_take (s : Settings) (n : Nat)
    (enabled : (Slot.file (s.record.take n)).load.settings.enabled = true) : s.enabled = true := by
  obtain ⟨wish, sound⟩ := s
  cases wish with
  | true => rfl
  | false =>
    have torn : ∀ n < 52, ∀ sound,
        (Slot.file ((Settings.mk false sound).record.take n)).load.settings.enabled = false := by
      decide +kernel
    have bound := length_record ⟨false, sound⟩
    by_cases inside : n < 52
    · rw [torn n inside sound] at enabled
      cases enabled
    · rw [List.take_of_length_le (by omega), load_record] at enabled
      exact enabled

/-- However a save ends, what is found afterwards wishes for alerts only if the new record does or
what was found before did. -/
theorem Disk.save_enabled (d : Disk) (s : Settings) (fault? : Option SaveFault)
    (enabled : (d.save s fault?).1.slot.load.settings.enabled = true) :
    s.enabled = true ∨ d.slot.load.settings.enabled = true := by
  unfold save at enabled
  split at enabled
  · exact Or.inr enabled
  · exact Or.inr enabled
  · exact Or.inl (load_record_take s _ enabled)
  · have read := load_record s
    rw [Settings.record] at read
    simp only [read] at enabled
    exact Or.inl enabled

/-- After a save that met no fault the new record is found. -/
theorem Disk.load_save {d after : Disk} {s : Settings} {fault? : Option SaveFault}
    (done : d.save s fault? = (after, none)) : after.slot.load = .record s := by
  unfold save at done
  split at done
  · cases done
  · cases done
  · cases done
  · cases done
    exact load_record s

end AlertRelay
