import AlarmClock.Dispatcher
import AlarmClock.Proofs.Countdown
import AlarmClock.Proofs.Schedule.Upcoming
import AlarmClock.Proofs.Time.NextSecond

/-! What a dispatcher chooses. After every choice it shows and waits for the alarm that is
upcoming at the reference of that choice, at exactly its instant; looking at the clock
either does nothing or chooses anew from one second later on. -/

namespace AlarmClock

namespace Countdown

/-- A deadline that does not lie back is kept as it is. -/
theorem deadline_armUntil {now i : DateTime} (h : now ≤ i) : (armUntil now i).deadline = some i := by
  rw [armUntil, DateTime.latest]
  split
  · rename_i hle
    rw [DateTime.le_antisymm hle h]
  · rfl

end Countdown

namespace Dispatcher

/-- A dispatcher shows and waits for what is upcoming at a reference. -/
def Follows (d : Dispatcher) (alarms : List Alarm) (reference : DateTime) : Prop :=
  match upcoming? alarms reference with
  | some (a, i) =>
    d.upcoming = some a.id ∧ d.countdown.deadline = some i ∧ d.info = upcomingText d.face (some i)
  | none => d.upcoming = none ∧ d.countdown.deadline = none ∧ d.info = noUpcomingText

/-! ### Choosing -/

@[simp] theorem value_publish (d : Dispatcher) (info : String) : (d.publish info).value = { d with info := info } := by
  unfold publish
  split
  · rename_i h
    rw [h]
    rfl
  · rfl

theorem mem_events_publish {d : Dispatcher} {info : String} {e : Event} (h : e ∈ (d.publish info).events) :
    e = .upcomingChanged info := by
  unfold publish at h
  split at h
  · cases h
  · simpa using h

/-- A choice sends nothing but the new text. -/
theorem mem_events_choose {d : Dispatcher} {alarms : List Alarm} {reference now : DateTime} {e : Event}
    (h : e ∈ (d.choose alarms reference now).events) : ∃ info, e = .upcomingChanged info := by
  unfold choose at h
  split at h <;> split at h
  all_goals exact ⟨_, mem_events_publish h⟩

theorem commands_choose (d : Dispatcher) (alarms : List Alarm) (reference now : DateTime) :
    (d.choose alarms reference now).commands = [] := by
  unfold choose publish
  split <;> split <;> split <;> rfl

theorem value_choose_of_some {d : Dispatcher} {alarms : List Alarm} {reference now i : DateTime} {a : Alarm}
    (h : upcoming? alarms reference = some (a, i)) :
    (d.choose alarms reference now).value =
      { d with
        upcoming := some a.id, countdown := Countdown.armUntil now i, info := upcomingText d.face (some i) } := by
  unfold choose
  rw [h]
  dsimp only
  split <;> simp

theorem value_choose_of_none {d : Dispatcher} {alarms : List Alarm} {reference now : DateTime}
    (h : upcoming? alarms reference = none) :
    (d.choose alarms reference now).value =
      { d with upcoming := none, countdown := d.countdown.cancel, info := noUpcomingText } := by
  unfold choose
  rw [h]
  dsimp only
  split <;> simp [upcomingText]

theorem face_choose (d : Dispatcher) (alarms : List Alarm) (reference now : DateTime) :
    (d.choose alarms reference now).value.face = d.face := by
  cases h : upcoming? alarms reference with
  | none => rw [value_choose_of_none h]
  | some x => rw [value_choose_of_some h]

/-- A choice from now or a later reference on is followed. -/
theorem follows_choose (d : Dispatcher) (alarms : List Alarm) {reference now : DateTime} (h : now ≤ reference) :
    (d.choose alarms reference now).value.Follows alarms reference := by
  unfold Follows
  cases hu : upcoming? alarms reference with
  | none =>
    rw [value_choose_of_none hu]
    exact ⟨rfl, rfl, rfl⟩
  | some x =>
    obtain ⟨a, i⟩ := x
    have hi : now ≤ i := Int.le_trans h (goesOff_of_upcoming? hu).1
    rw [value_choose_of_some hu]
    exact ⟨rfl, Countdown.deadline_armUntil hi, rfl⟩

theorem follows_check (d : Dispatcher) (alarms : List Alarm) (now : DateTime) :
    (d.check alarms now).value.Follows alarms now := d.follows_choose alarms (Int.le_refl _)

/-- A dispatcher that follows a reference is due when the instant upcoming there has come. -/
theorem Follows.exists_upcoming_of_isDue {d : Dispatcher} {alarms : List Alarm} {reference now : DateTime}
    (h : d.Follows alarms reference) (hdue : d.countdown.isDue now = true) :
    ∃ a i, upcoming? alarms reference = some (a, i) ∧ d.upcoming = some a.id ∧ i ≤ now := by
  obtain ⟨i, hi, hnow⟩ := Countdown.isDue_iff.1 hdue
  unfold Follows at h
  cases hu : upcoming? alarms reference with
  | none =>
    rw [hu] at h
    rw [h.2.1] at hi
    cases hi
  | some x =>
    obtain ⟨a, j⟩ := x
    rw [hu] at h
    rw [h.2.1] at hi
    cases hi
    exact ⟨a, i, rfl, h.1, hnow⟩

/-- As long as it is not due, no alarm goes off between the reference and now. -/
theorem Follows.lt_of_not_isDue {d : Dispatcher} {alarms : List Alarm} {reference now x : DateTime}
    (h : d.Follows alarms reference) (hdue : d.countdown.isDue now = false) (hx : GoesOff alarms x)
    (hr : reference ≤ x) : now < x := by
  unfold Follows at h
  cases hu : upcoming? alarms reference with
  | none => exact absurd hr (not_goesOff_of_upcoming?_eq_none hu hx)
  | some y =>
    obtain ⟨a, i⟩ := y
    rw [hu] at h
    have hix : i ≤ x := (goesOff_of_upcoming? hu).2.2 x hx hr
    have hni : ¬ i ≤ now := fun hle => by
      rw [Countdown.isDue_iff.2 ⟨i, h.2.1, hle⟩] at hdue
      cases hdue
    exact Int.lt_of_lt_of_le (Int.not_le.1 hni) hix

/-! ### Looking at the clock -/

theorem poll_of_not_isDue {d : Dispatcher} {now : DateTime} (alarms : List Alarm)
    (h : d.countdown.isDue now = false) : d.poll alarms now = pure (d, .notDue) := by
  simp [poll, h]

theorem commands_fire (d : Dispatcher) (alarms : List Alarm) (now : DateTime) : (d.fire alarms now).commands = [] := by
  unfold fire
  split
  · rfl
  · split
    · rfl
    · split <;> rfl

/-- A countdown that is due is taken away, and the chosen alarm is sent. -/
theorem poll_of_isDue {d : Dispatcher} {now : DateTime} (alarms : List Alarm) (h : d.countdown.isDue now = true) :
    d.poll alarms now = (do
      let d := { d with countdown := d.countdown.cancel }
      d.fire alarms now
      match now.add? Span.second with
      | none => pure (d, .calendarEnd)
      | some reference =>
        let d ← d.choose alarms reference now
        pure (d, .fired)) := by
  unfold poll
  exact if_pos h

theorem firing_eq_notDue_iff {d : Dispatcher} {alarms : List Alarm} {now : DateTime} :
    (d.poll alarms now).value.2 = .notDue ↔ d.countdown.isDue now = false := by
  cases h : d.countdown.isDue now with
  | false => simp [poll_of_not_isDue alarms h]
  | true =>
    rw [poll_of_isDue alarms h]
    cases now.add? Span.second <;> simp

/-- At the end of the calendar there is no second to choose from. -/
theorem firing_eq_calendarEnd_iff {d : Dispatcher} {alarms : List Alarm} {now : DateTime} :
    (d.poll alarms now).value.2 = .calendarEnd ↔
      d.countdown.isDue now = true ∧ now.add? Span.second = none := by
  cases h : d.countdown.isDue now with
  | false => simp [poll_of_not_isDue alarms h]
  | true =>
    rw [poll_of_isDue alarms h]
    cases now.add? Span.second <;> simp

/-- Before the last second of the calendar a dispatcher always has one. -/
theorem firing_ne_calendarEnd {now : DateTime} (h : now < DateTime.lastSecond) (d : Dispatcher) (alarms : List Alarm) :
    (d.poll alarms now).value.2 ≠ .calendarEnd := by
  obtain ⟨next, hnext⟩ := DateTime.exists_add?_second h
  rw [Ne, firing_eq_calendarEnd_iff, hnext]
  simp

theorem commands_poll (d : Dispatcher) (alarms : List Alarm) (now : DateTime) : (d.poll alarms now).commands = [] := by
  cases h : d.countdown.isDue now with
  | false => rw [poll_of_not_isDue alarms h]; rfl
  | true =>
    rw [poll_of_isDue alarms h, Act.commands_bind, commands_fire, List.nil_append]
    cases now.add? Span.second with
    | none => rfl
    | some reference => simp [commands_choose]

theorem face_poll (d : Dispatcher) (alarms : List Alarm) (now : DateTime) :
    (d.poll alarms now).value.1.face = d.face := by
  cases h : d.countdown.isDue now with
  | false => rw [poll_of_not_isDue alarms h]; rfl
  | true =>
    rw [poll_of_isDue alarms h]
    cases now.add? Span.second with
    | none => rfl
    | some reference => exact face_choose _ alarms reference now

/-- After it has fired a dispatcher follows what is upcoming from one second later on. -/
theorem follows_poll {d : Dispatcher} {now reference : DateTime} (alarms : List Alarm)
    (h : d.countdown.isDue now = true) (hr : now.add? Span.second = some reference) :
    (d.poll alarms now).value.1.Follows alarms reference := by
  rw [poll_of_isDue alarms h, hr]
  exact follows_choose _ alarms (Int.le_of_lt (DateTime.lt_of_add?_second hr))

/-- What is sent on firing is what the alarms hold under the chosen identifier, if that is enabled. -/
theorem mem_events_fire_iff {d : Dispatcher} {alarms : List Alarm} {now : DateTime} {e : Event} :
    e ∈ (d.fire alarms now).events ↔
      ∃ id a, d.upcoming = some id ∧ alarms.find? (·.id = id) = some a ∧ a.enabled = true ∧ e = .alarmTriggered a := by
  unfold fire
  cases d.upcoming with
  | none => simp
  | some id =>
    dsimp only
    cases hfind : alarms.find? (·.id = id) with
    | none => simp [hfind]
    | some b =>
      by_cases hb : b.enabled = true <;> simp [hb, hfind]

/-- What is sent by a dispatcher that is due is the chosen alarm, if it is there and enabled, and a new text. -/
theorem exists_events_poll_eq {d : Dispatcher} {now : DateTime} (alarms : List Alarm)
    (h : d.countdown.isDue now = true) :
    ∃ rest, (d.poll alarms now).events = (d.fire alarms now).events ++ rest ∧
      ∀ e ∈ rest, ∃ info, e = .upcomingChanged info := by
  rw [poll_of_isDue alarms h, Act.events_bind]
  refine ⟨_, rfl, fun e he => ?_⟩
  cases hr : now.add? Span.second with
  | none =>
    rw [hr] at he
    cases he
  | some reference =>
    rw [hr, Act.events_bind, Act.events_pure, List.append_nil] at he
    exact mem_events_choose he

theorem events_fire_eq_of_mem {d : Dispatcher} {alarms : List Alarm} {now : DateTime} {e : Event}
    (h : e ∈ (d.fire alarms now).events) : (d.fire alarms now).events = [e] := by
  unfold fire at h ⊢
  split at h
  · cases h
  · split at h
    · cases h
    · split at h
      · rw [if_pos ‹_›]
        simp at h
        simp [h]
      · cases h

/-- A look at the clock sends nothing but an alarm and a new text. -/
theorem mem_events_poll {d : Dispatcher} {alarms : List Alarm} {now : DateTime} {e : Event}
    (h : e ∈ (d.poll alarms now).events) : (∃ a, e = .alarmTriggered a) ∨ ∃ info, e = .upcomingChanged info := by
  cases hdue : d.countdown.isDue now with
  | false =>
    rw [poll_of_not_isDue alarms hdue] at h
    cases h
  | true =>
    obtain ⟨rest, heq, hrest⟩ := exists_events_poll_eq alarms hdue
    rw [heq, List.mem_append] at h
    rcases h with h | h
    · obtain ⟨-, a, -, -, -, rfl⟩ := mem_events_fire_iff.1 h
      exact .inl ⟨a, rfl⟩
    · exact .inr (hrest e h)

/-- A dispatcher that is due sends what the alarms hold under its identifier, if that is enabled. -/
theorem alarmTriggered_mem_events_poll_iff {d : Dispatcher} {alarms : List Alarm} {now : DateTime} {a : Alarm} :
    .alarmTriggered a ∈ (d.poll alarms now).events ↔
      d.countdown.isDue now = true ∧ ∃ id, d.upcoming = some id ∧ alarms.find? (·.id = id) = some a ∧
        a.enabled = true := by
  cases h : d.countdown.isDue now with
  | false => simp [poll_of_not_isDue alarms h]
  | true =>
    obtain ⟨rest, heq, hrest⟩ := exists_events_poll_eq alarms h
    have hnot : .alarmTriggered a ∉ rest := by
      intro hm
      obtain ⟨info, hinfo⟩ := hrest _ hm
      cases hinfo
    rw [heq, List.mem_append, or_iff_left hnot, mem_events_fire_iff]
    simp

/-- An alarm that is sent is the first event of its look at the clock, and only a new text can follow. -/
theorem events_poll_eq_cons {d : Dispatcher} {alarms : List Alarm} {now : DateTime} {a : Alarm}
    (h : .alarmTriggered a ∈ (d.poll alarms now).events) :
    ∃ rest, (d.poll alarms now).events = .alarmTriggered a :: rest ∧
      ∀ e ∈ rest, ∃ info, e = .upcomingChanged info := by
  obtain ⟨hdue, hsent⟩ := alarmTriggered_mem_events_poll_iff.1 h
  obtain ⟨rest, heq, hrest⟩ := exists_events_poll_eq alarms hdue
  have hfire : .alarmTriggered a ∈ (d.fire alarms now).events := by
    obtain ⟨id, hid, hfind, hen⟩ := hsent
    exact mem_events_fire_iff.2 ⟨id, a, hid, hfind, hen, rfl⟩
  rw [events_fire_eq_of_mem hfire] at heq
  exact ⟨rest, heq, hrest⟩

end Dispatcher

end AlarmClock
