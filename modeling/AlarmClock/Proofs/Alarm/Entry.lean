import AlarmClock.Alarm.Entry
import AlarmClock.Proofs.Time.Minutes
import AlarmClock.Proofs.Uuid

/-! Alarms written as JSON and read from it. An alarm whose address is read from its text is
read back as it was but for its timeout, of which the whole minutes remain; and every alarm
that is read has a timeout of whole minutes. -/

namespace AlarmClock

open Text

/-- An address that is read from its text. -/
def Url.Rereads (u : Url) : Prop := Url.read (String.ofList (trim u.text.toList)) = .ok u

theorem toOption_eq_some_iff {ε α : Type} {x : Except ε α} {a : α} : x.toOption = some a ↔ x = .ok a := by
  cases x with
  | error e => exact ⟨nofun, nofun⟩
  | ok b => exact ⟨by rintro ⟨⟩; rfl, by rintro ⟨⟩; rfl⟩

instance (u : Url) : Decidable u.Rereads := decidable_of_iff _ toOption_eq_some_iff

theorem Period.read?_word (p : Period) : read? p.word = some p := by
  cases p <;> decide +kernel

theorem Json.int64?_of_lt {n : Int} (h : n < 2 ^ 63) : (Json.int n).int64? = .ok (some n) := if_pos h

namespace Alarm

/-! ### Entries that are written -/

/-- The fields of an alarm as they are written make an entry with all of them. -/
theorem putAll_written {timeout volume : Int} (htimeout : timeout < 2 ^ 63) (hvolume : volume < 2 ^ 63) (enabled : Bool)
    (id period time url : String) :
    Entry.putAll {} [("alarmTimeout", .int timeout), ("enabled", .bool enabled), ("id", .str id),
      ("period", .str period), ("time", .str time), ("url", .str url), ("volume", .int volume)] =
      .ok ⟨some id, some period, some time, some url, enabled, some volume, some timeout⟩ := by
  simp only [Entry.putAll, Entry.put, Json.int64?_of_lt htimeout, Json.int64?_of_lt hvolume, Json.string, Json.boolean,
    Except.map]

theorem fullEntry_toJson (a : Alarm) : FullEntry.ofJson a.toJson =
    .ok ⟨a.id.text, a.period.word, String.ofList a.time.chars, a.media.text, a.enabled, some a.volume.level,
      some a.timeout.wholeMinutes⟩ := by
  have hlevel := a.volume.level_le
  have hvolume : (a.volume.level : Int) < 2 ^ 63 := by omega
  rw [toJson, FullEntry.ofJson, putAll_written a.timeout.wholeMinutes_bounds.2 hvolume]
  rfl

/-- What is written of an alarm is read as the alarm with the timeout that its whole minutes give. -/
theorem ofJson_toJson_eq {a : Alarm} (d : Span) (hmedia : a.media.Rereads) :
    ofJson d a.toJson = (timeoutOf d (some a.timeout.wholeMinutes)).map fun s => { a with timeout := s } := by
  have hid : Uuid.read? (trim a.id.text.toList) = some a.id := by
    rw [Uuid.text, String.toList_ofList, trim_eq_self fun c hc => Uuid.not_isBlank_of_mem_chars hc, Uuid.read?_chars]
  rw [ofJson, fullEntry_toJson]
  simp only [ofEntry, hid]
  rw [hmedia]
  simp only [DayMinute.read_chars, Period.read?_word, Option.map_some, Volume.clamp_level, Option.getD_some]
  cases timeoutOf d (some a.timeout.wholeMinutes) <;> rfl

theorem timeoutOf_wholeMinutes (d : Span) {s : Span} (h : Span.minutes 1 (by decide) ≤ s) :
    timeoutOf d (some s.wholeMinutes) = .ok s.cutToMinutes := by
  have hpos := Span.wholeMinutes_pos_iff.2 h
  rw [timeoutOf, if_neg (by omega), Span.ofMinutes?_wholeMinutes]

theorem timeoutOf_wholeMinutes_of_lt (d : Span) {s : Span} (h : ¬Span.minutes 1 (by decide) ≤ s) :
    timeoutOf d (some s.wholeMinutes) = .error (.badTimeout s.wholeMinutes) := by
  have hpos := mt Span.wholeMinutes_pos_iff.1 h
  rw [timeoutOf, if_pos (by omega)]

/-- An alarm is read back from what is written of it. -/
theorem ofJson_toJson {a : Alarm} (d : Span) (htimeout : a.timeout.IsMinutes) (hmedia : a.media.Rereads) :
    ofJson d a.toJson = .ok a := by
  have hminute := Span.wholeMinutes_pos_iff.1 htimeout.wholeMinutes_pos
  rw [ofJson_toJson_eq d hmedia, timeoutOf_wholeMinutes d hminute, (Span.cutToMinutes_eq_self_iff hminute).2 htimeout]
  rfl

/-- Writing an alarm and reading it keeps all of it but its timeout, which loses the part of a
minute; and nothing is read if no minute is left. It takes whole minutes to get the same alarm. -/
theorem rereads_up_to_minutes (a : Alarm) (d : Span) (hmedia : a.media.Rereads) :
    (Span.minutes 1 (by decide) ≤ a.timeout → ofJson d a.toJson = .ok { a with timeout := a.timeout.cutToMinutes }) ∧
      (a.timeout < Span.minutes 1 (by decide) → ofJson d a.toJson = .error (.badTimeout a.timeout.wholeMinutes)) ∧
      (ofJson d a.toJson = .ok a ↔ a.timeout.IsMinutes) := by
  have hlong (h : Span.minutes 1 (by decide) ≤ a.timeout) :
      ofJson d a.toJson = .ok { a with timeout := a.timeout.cutToMinutes } := by
    rw [ofJson_toJson_eq d hmedia, timeoutOf_wholeMinutes d h]
    rfl
  have hshort (h : ¬Span.minutes 1 (by decide) ≤ a.timeout) :
      ofJson d a.toJson = .error (.badTimeout a.timeout.wholeMinutes) := by
    rw [ofJson_toJson_eq d hmedia, timeoutOf_wholeMinutes_of_lt d h]
    rfl
  refine ⟨hlong, fun h => hshort (Int.not_le.2 h), fun h => ?_, fun h => ofJson_toJson d h hmedia⟩
  by_cases hle : Span.minutes 1 (by decide) ≤ a.timeout
  · have hsame := Except.ok.inj ((hlong hle).symm.trans h)
    exact (Span.cutToMinutes_eq_self_iff hle).1 (congrArg Alarm.timeout hsame)
  · cases (hshort hle).symm.trans h

/-- An alarm of ninety seconds, made in a leap second, turned up too far and turned off: half a minute is lost. -/
theorem rereads_up_to_minutes_of_ninety_seconds :
    let id : Uuid := ⟨List.replicate 32 7, List.length_replicate⟩
    let media : Url := ⟨['f', 'i', 'l', 'e'], some ⟨[], [], .name [], none⟩, .segments [['b', 'e', 'l', 'l']], none, none⟩
    let time : TimeOfDay := ⟨31559, 1500000000, by decide, by decide, by decide⟩
    let made := create id media time .once (Span.ofSeconds 90 (by decide))
    let a := (made.applyAll [.volume 250, .enabled false]).1
    a.media.Rereads ∧ a.volume = 100 ∧
      ofJson Span.zero a.toJson = .ok { a with timeout := Span.minutes 1 (by decide) } := by
  intro id media time made a
  have hmedia : a.media.Rereads := by decide +kernel
  have hread := (rereads_up_to_minutes a Span.zero hmedia).1 (by decide +kernel)
  exact ⟨hmedia, by decide +kernel, hread⟩

/-! ### Timeouts of entries that are read -/

theorem isMinutes_of_timeoutOf {d s : Span} {n : Option Int} (hd : d.IsMinutes) (h : timeoutOf d n = .ok s) :
    s.IsMinutes := by
  unfold timeoutOf at h
  split at h
  · cases h
    exact hd
  · split at h
    · cases h
    · split at h
      · cases h
      · cases h
        rename_i hn _ _ hs
        exact Span.isMinutes_of_ofMinutes? (by omega) hs

/-- The timeout of an alarm that was read is the one of its entry. -/
theorem timeoutOf_of_ofEntry {d : Span} {e : FullEntry} {a : Alarm} (h : ofEntry d e = .ok a) :
    timeoutOf d e.timeout = .ok a.timeout := by
  unfold ofEntry at h
  split at h
  · cases h
  split at h
  · cases h
  split at h
  · cases h
  split at h
  · cases h
  split at h
  · cases h
  cases h
  assumption

theorem isMinutes_of_ofJson {d : Span} {v : Json} {a : Alarm} (hd : d.IsMinutes) (h : ofJson d v = .ok a) :
    a.timeout.IsMinutes := by
  unfold ofJson at h
  split at h
  · cases h
  · exact isMinutes_of_timeoutOf hd (timeoutOf_of_ofEntry h)

end Alarm

end AlarmClock
