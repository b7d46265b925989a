import AlarmClock.Proofs.Device.Run
import AlarmClock.Proofs.Store.Change

/-! Changes are made completely or not at all. A store either is left as it was and has sent
nothing, or has the new document in memory and in its file and has announced it; what
a device cannot have its store do leaves all of the device as it was. -/

namespace AlarmClock.Device

variable {π : Type}

/-- What a device is asked for and has to have its store do. -/
inductive Request where
  | newAlarm (id : Uuid) (media : Url) (time : TimeOfDay) (period : Period)
  | deleteAlarm (id : Uuid)
  | reschedule (id : Uuid) (time : TimeOfDay) (period : Period)
  | setEnabled (id : Uuid) (enabled : Bool)
  | setSleepTimeout (timeout : Span)

def serve (d : Device π) (now : DateTime) : Request → Act (Attempt Unit (Device π))
  | .newAlarm id media time period => d.newAlarm id media time period
  | .deleteAlarm id => d.deleteAlarm id
  | .reschedule id time period => d.reschedule id time period
  | .setEnabled id enabled => d.setEnabled id enabled
  | .setSleepTimeout timeout => d.setSleepTimeout now timeout

theorem state_withStore_of_error {d : Device π} {c : Change} {e : StoreError}
    (h : (c.perform d.store).value.result = .error e) : (d.withStore (c.perform d.store)).value.state = d := by
  obtain ⟨hstore, hevents⟩ := Store.unchanged_of_error h
  change { d with store := d.store.after c, queue := d.queue ++ (c.perform d.store).events } = d
  rw [hstore, hevents, List.append_nil]

theorem state_setSleepTimeout_of_error {d : Device π} {now : DateTime} {timeout : Span} {e : StoreError}
    (h : (d.setSleepTimeout now timeout).value.result = .error e) :
    (d.setSleepTimeout now timeout).value.state = d := by
  rcases d.setSleepTimeout_cases now timeout with ⟨e', -, hvalue⟩ | ⟨s, -, hvalue⟩
  · rw [hvalue]
  · rw [hvalue] at h
    cases h

/-- What a device is asked for in vain leaves it as it was. -/
theorem state_serve_of_error {d : Device π} {now : DateTime} {r : Request} {e : StoreError}
    (h : (d.serve now r).value.result = .error e) : (d.serve now r).value.state = d := by
  cases r with
  | newAlarm id media time period =>
    exact state_withStore_of_error (c := .add (Alarm.create id media time period d.store.document.alarmTimeout)) h
  | deleteAlarm id => exact state_withStore_of_error (c := .delete id) h
  | reschedule id time period => exact state_withStore_of_error (c := .update id _) h
  | setEnabled id enabled => exact state_withStore_of_error (c := .update id _) h
  | setSleepTimeout timeout => exact state_setSleepTimeout_of_error h

/-- Of every store, file and edit: a change is refused, declined or committed and never two of these; and of every
device: what ends in an error leaves store, queue, dispatcher, monitor and sleep timer as they were. -/
theorem all_or_nothing :
    (∀ (s : Store) (c : Change),
      s.Refused c ∧ ¬ s.Declined c ∧ ¬ s.Committed c ∨ ¬ s.Refused c ∧ s.Declined c ∧ ¬ s.Committed c ∨
        ¬ s.Refused c ∧ ¬ s.Declined c ∧ s.Committed c) ∧
      ∀ (d : Device π) (now : DateTime) (r : Request) (e : StoreError),
        (d.serve now r).value.result = .error e → (d.serve now r).value.state = d := by
  refine ⟨fun s c => ?_, fun d now r e h => state_serve_of_error h⟩
  rcases s.refused_or_declined_or_committed c with h | h | h
  · exact .inl ⟨h, h.not_declined, h.not_committed⟩
  · exact .inr (.inl ⟨fun hr => hr.not_declined h, h, h.not_committed⟩)
  · exact .inr (.inr ⟨fun hr => hr.not_committed h, fun hd => hd.not_committed h, h⟩)

/-- A device that counts down playback, with a folder where its file should be, takes in neither an alarm, though its
copy of the document has it by then, nor another timeout. -/
theorem nothing_of_failed_write :
    let s : Store :=
      { document := { alarms := [everyDay 1 525] }, file := some ⟨"clock.json", .unreadable .directory⟩
        announces := true }
    let d := (boot s ({} : RecordingPlayer) bedside [.player (.changed .playing)] (wednesday 480)).run
      [(wednesday 481, .turn)]
    let entry := d.serve (wednesday 482)
      (.newAlarm (everyDay 2 600).id (everyDay 2 600).media (DayMinute.start ⟨600, by decide⟩) .daily)
    let extension := d.serve (wednesday 482) (.setSleepTimeout (Span.minutes 90 (by decide)))
    (d.sleepTimer.activity = .playing ∧ d.sleepTimer.countdown.isActive = true) ∧
      (entry.notices = [.adding (everyDay 2 600).id] ∧ entry.value.result = .error (.notWritten "clock.json") ∧
        entry.value.state = d) ∧
      extension.value.result = .error (.notWritten "clock.json") ∧ extension.value.state = d := by
  intro s d entry extension
  have hplaying : d.sleepTimer.activity = .playing ∧ d.sleepTimer.countdown.isActive = true := by decide +kernel
  have hstore : d.store = s := store_turn _ _
  have hcopy : entry.notices = [.adding (everyDay 2 600).id] := by
    simp only [entry, serve, newAlarm, withStore, hstore]
    rfl
  have hentry : entry.value.result = .error (.notWritten "clock.json") := by decide +kernel
  have hextension : extension.value.result = .error (.notWritten "clock.json") := by decide +kernel
  have hsame := (all_or_nothing (π := RecordingPlayer)).2 d (wednesday 482)
  exact ⟨hplaying, ⟨hcopy, hentry, hsame _ _ hentry⟩, hextension, hsame _ _ hextension⟩

end AlarmClock.Device
