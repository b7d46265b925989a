import AlarmClock.Proofs.Device.Coherence
import AlarmClock.Proofs.Store.OrderedMap

/-! The instant for which an alarm is sent. A turn looks at the countdown before it routes
changed alarms, so the instant that elapses is one of the alarm as the dispatcher saw it
last. Main statement: it is an instant of the alarm as it is sent exactly if that has kept
its time since then and is still allowed on that day. -/

namespace AlarmClock

/-! ### Alarms, dispatchers and operations -/

theorem DayMinute.start_injective {m n : DayMinute} (h : m.start = n.start) : m = n := by
  rw [← ofTime_start m, h, ofTime_start]

/-- An enabled alarm goes off when another one does exactly if it has the same time and the day is allowed. -/
theorem Alarm.GoesOffAt.iff_of_enabled {a b : Alarm} {i : DateTime} (hb : b.GoesOffAt i) (ha : a.enabled = true) :
    a.GoesOffAt i ↔ a.time = b.time ∧ a.period.allows i.date.weekday = true := by
  constructor
  · exact fun h => ⟨DayMinute.start_injective (h.time_eq.symm.trans hb.time_eq), h.allowed⟩
  · rintro ⟨htime, hday⟩
    exact ⟨ha, htime ▸ hb.time_eq, hday⟩

/-- An operation that edits alarms, if it does, by setting parts of them. -/
def Operation.BySetters {π : Type} : Operation π → Prop
  | update _ edit => Alarm.BySetters edit
  | _ => True

namespace Dispatcher

/-- The instant that a dispatcher waits for, if any, is one at which the chosen alarm goes off. -/
def Awaits (d : Dispatcher) (alarms : List Alarm) : Prop :=
  ∀ i, d.countdown.deadline = some i → ∃ b ∈ alarms, d.upcoming = some b.id ∧ b.GoesOffAt i

theorem Follows.awaits {d : Dispatcher} {alarms : List Alarm} {reference : DateTime} (h : d.Follows alarms reference) :
    d.Awaits alarms := by
  intro i hi
  unfold Follows at h
  cases hu : upcoming? alarms reference with
  | none =>
    rw [hu] at h
    rw [h.2.1] at hi
    cases hi
  | some x =>
    obtain ⟨b, j⟩ := x
    rw [hu] at h
    rw [h.2.1] at hi
    cases hi
    have hfind := (goesOff_of_upcoming? hu).2.1
    exact ⟨b, List.mem_of_find?_eq_some hfind, h.1, by simpa using List.find?_some hfind⟩

/-- A dispatcher that is due chooses from the alarms as they are, or waits for nothing at the end of the calendar. -/
theorem awaits_poll {d : Dispatcher} {now : DateTime} (alarms : List Alarm) (h : d.countdown.isDue now = true) :
    (d.poll alarms now).value.1.Awaits alarms := by
  cases hr : now.add? Span.second with
  | none =>
    rw [poll_of_isDue alarms h, hr]
    exact fun i hi => nomatch hi
  | some reference => exact (follows_poll alarms h hr).awaits

end Dispatcher

namespace Device

variable {π : Type} [Player π]

/-! ### Alarms as they were seen -/

/-- The alarms that the dispatcher has seen last, after an operation: a turn shows it those of the store if the
countdown is due or changed alarms wait. -/
def seenAfter (d : Device π) (now : DateTime) (seen : List Alarm) : Operation π → List Alarm
  | .turn => if d.dispatcher.countdown.isDue now = true ∨ .alarmsChanged ∈ d.queue then d.store.alarms else seen
  | _ => seen

/-- The alarms that the dispatcher has seen last, after a run. -/
def runSeen (d : Device π) (seen : List Alarm) : List (DateTime × Operation π) → List Alarm
  | [] => seen
  | (now, op) :: ops => (d.step now op).runSeen (d.seenAfter now seen op) ops

/-- The dispatcher waits for one of the alarms that it saw last, which are those of the store unless changed alarms
wait. -/
structure Minds (d : Device π) (seen : List Alarm) : Prop where
  announces : d.store.announces = true
  awaits : d.dispatcher.Awaits seen
  seen_eq : .alarmsChanged ∈ d.queue ∨ seen = d.store.alarms

omit [Player π] in
theorem minds_boot {store : Store} (h : store.announces = true) (player : π) (settings : Settings)
    (waiting : List Event) (now : DateTime) : (boot store player settings waiting now).Minds store.alarms :=
  ⟨h, (Dispatcher.follows_check _ _ now).awaits, .inr rfl⟩

omit [Player π] in
theorem Between.minds {d e : Device π} {now : DateTime} {armed : List Span} {seen : List Alarm}
    (h : d.Between e now armed) (hd : d.Minds seen) : e.Minds seen := by
  refine ⟨h.announces_eq.trans hd.announces, h.dispatcher_eq ▸ hd.awaits, ?_⟩
  rcases hd.seen_eq with hq | hs
  · exact .inl (h.queue_prefix.subset hq)
  · rcases h.alarms_eq hd.announces with ha | ha
    · exact .inr (hs.trans ha.symm)
    · exact .inl ha

theorem minds_turn {d : Device π} {seen : List Alarm} (hd : d.Minds seen) (now : DateTime) :
    (d.turn now).value.1.Minds (d.seenAfter now seen .turn) := by
  by_cases hend : (d.dispatcher.poll d.store.alarms now).value.2 = .calendarEnd
  · have hdue : d.dispatcher.countdown.isDue now = true := (Dispatcher.firing_eq_calendarEnd_iff.1 hend).1
    rw [turn_of_calendarEnd hend, seenAfter, if_pos (.inl hdue)]
    exact ⟨hd.announces, Dispatcher.awaits_poll _ hdue, .inr rfl⟩
  · refine ⟨by rw [store_turn]; exact hd.announces, ?_, .inr ?_⟩
    · rw [value_turn hend, seenAfter]
      -- changed alarms are routed after the look at the timers, so they make the last choice
      by_cases hq : .alarmsChanged ∈ d.queue
      · rw [if_pos (.inr hq)]
        exact (follows_drain_of_mem ((d.alarmsChanged_mem_queue_polled_iff now).2 hq)).awaits
      · rw [dispatcher_drain_of_notMem (mt (d.alarmsChanged_mem_queue_polled_iff now).1 hq), dispatcher_polled]
        split
        · rename_i h
          exact Dispatcher.awaits_poll _ (h.resolve_right hq)
        · rename_i h
          rw [Dispatcher.poll_of_not_isDue _ (Bool.eq_false_iff.2 (not_or.1 h).1)]
          exact hd.awaits
    · rw [store_turn, seenAfter]
      split
      · rfl
      · rename_i h
        exact hd.seen_eq.resolve_left (not_or.1 h).2

theorem minds_step {d : Device π} {seen : List Alarm} (hd : d.Minds seen) (now : DateTime) (op : Operation π) :
    (d.step now op).Minds (d.seenAfter now seen op) := by
  by_cases hop : op = .turn
  · subst hop
    exact minds_turn hd now
  · have hseen : d.seenAfter now seen op = seen := by
      unfold seenAfter
      split
      · exact absurd rfl hop
      · rfl
    rw [hseen]
    exact (between_step hop d now).minds hd

theorem minds_run {d : Device π} {seen : List Alarm} (hd : d.Minds seen) (ops : List (DateTime × Operation π)) :
    (d.run ops).Minds (d.runSeen seen ops) := by
  induction ops generalizing d seen with
  | nil => exact hd
  | cons x ops ih => exact ih (minds_step hd x.1 x.2)

/-! ### Distinct identifiers -/

omit [Player π] in
theorem nodup_withStore {d : Device π} {c : Change} (hd : (d.store.alarms.map Alarm.id).Nodup) (hc : c.BySetters) :
    ((d.withStore (c.perform d.store)).value.state.store.alarms.map Alarm.id).Nodup := by
  have hset : ∀ h ∈ [Happening.change c], h.BySetters := List.forall_mem_singleton.2 hc
  exact Store.nodup_run hd hset

theorem nodup_step {d : Device π} (hd : (d.store.alarms.map Alarm.id).Nodup) (now : DateTime) {op : Operation π}
    (hop : op.BySetters) : ((d.step now op).store.alarms.map Alarm.id).Nodup := by
  cases op with
  | add a => exact nodup_withStore (c := .add a) hd trivial
  | delete id => exact nodup_withStore (c := .delete id) hd trivial
  | update id edit => exact nodup_withStore (c := .update id edit) hd hop
  | newAlarm id media time period => exact nodup_withStore (c := .add _) hd trivial
  | deleteAlarm id => exact nodup_withStore (c := .delete id) hd trivial
  | reschedule id time period => exact nodup_withStore (c := .update id _) hd (Alarm.bySetters_editAll _)
  | setEnabled id enabled => exact nodup_withStore (c := .update id _) hd (Alarm.bySetters_editAll _)
  | storeTimeout timeout => exact nodup_withStore (c := .sleepTimeout timeout) hd trivial
  | setSleepTimeout timeout =>
    have halarms := d.store.alarms_setSleepTimeout timeout
    rw [step]
    rcases d.setSleepTimeout_cases now timeout with ⟨e, -, hvalue⟩ | ⟨s, hs, hvalue⟩
    · rw [hvalue]
      exact hd
    · rw [hs] at halarms
      rw [hvalue]
      exact halarms ▸ hd
  | turn =>
    rw [step, store_turn]
    exact hd
  | resetSleep | stopAlarm | playerEvent e | playerBecomes p | fileBecomes c => exact hd

theorem nodup_run {d : Device π} (hd : (d.store.alarms.map Alarm.id).Nodup) {ops : List (DateTime × Operation π)}
    (hset : ∀ x ∈ ops, x.2.BySetters) : ((d.run ops).store.alarms.map Alarm.id).Nodup := by
  induction ops generalizing d with
  | nil => exact hd
  | cons x ops ih =>
    obtain ⟨hx, hset⟩ := List.forall_mem_cons.1 hset
    exact ih (nodup_step hd x.1 hx) hset

/-! ### Alarms that are sent -/

/-- Only the dispatcher's look at the clock sends alarms. -/
theorem alarmTriggered_mem_events_turn_iff {d : Device π} {now : DateTime} {a : Alarm} :
    .alarmTriggered a ∈ (d.turn now).events ↔ .alarmTriggered a ∈ (d.dispatcher.poll d.store.alarms now).events := by
  by_cases hend : (d.dispatcher.poll d.store.alarms now).value.2 = .calendarEnd
  · rw [events_turn_of_calendarEnd hend]
  · have hothers : .alarmTriggered a ∉ (d.monitor.poll now).events ++ (d.sleepTimer.poll now).events :=
      fun h => (ne_of_mem_events_pollOthers h).2 a rfl
    have hdrain : .alarmTriggered a ∉ ((d.polled now).drain now).events := by
      intro h
      refine (drain_safe (I := fun _ => True) (Q := (· ≠ .event (.alarmTriggered a))) ?_ trivial).2 _
        (Act.mem_events.1 h) rfl
      rintro x e rest - -
      refine ⟨trivial, ?_⟩
      rintro f hf rfl
      exact (ne_of_mem_events_route (Act.mem_events.2 hf)).2.2 a rfl
    rw [events_turn hend, List.mem_append, List.mem_append, or_iff_left hdrain, or_iff_left hothers]

/-- An alarm that a turn sends after any run is sent as the store holds it, and the instant that has elapsed is one of
the alarm as the dispatcher saw it last. It is one of the alarm that is sent exactly if that still has the time and
is allowed on the day; it always is if no changed alarms waited for the turn. -/
theorem goesOffAt_of_alarmTriggered_iff {store : Store} (hstore : store.announces = true) (player : π)
    (settings : Settings) (waiting : List Event) (begin : DateTime) (ops : List (DateTime × Operation π))
    {now : DateTime} {a : Alarm} :
    let first := boot store player settings waiting begin
    let d := first.run ops
    .alarmTriggered a ∈ (d.turn now).events →
      ∃ i b, d.dispatcher.countdown.deadline = some i ∧ i ≤ now ∧ d.store.get a.id = .ok a ∧
        b ∈ first.runSeen store.alarms ops ∧ b.id = a.id ∧ b.GoesOffAt i ∧
        (a.GoesOffAt i ↔ a.time = b.time ∧ a.period.allows i.date.weekday = true) ∧
        ((store.alarms.map Alarm.id).Nodup → (∀ x ∈ ops, x.2.BySetters) → .alarmsChanged ∉ d.queue → a = b) := by
  intro first d h
  have hd : d.Minds (first.runSeen store.alarms ops) := minds_run (minds_boot hstore player settings waiting begin) ops
  rw [alarmTriggered_mem_events_turn_iff, Dispatcher.alarmTriggered_mem_events_poll_iff] at h
  obtain ⟨hdue, id, hid, hfind, henabled⟩ := h
  obtain ⟨i, hi, hnow⟩ := Countdown.isDue_iff.1 hdue
  obtain ⟨b, hb, hchosen, hgoes⟩ := hd.awaits i hi
  have ha : a.id = id := by simpa using List.find?_some hfind
  have hba : b.id = a.id := by
    rw [hid] at hchosen
    rw [ha, Option.some.inj hchosen]
  refine ⟨i, b, hi, hnow, ?_, hb, hba, hgoes, hgoes.iff_of_enabled henabled, fun hids hset hq => ?_⟩
  · rw [ha]
    exact Store.get_eq_ok_iff_find?.2 hfind
  · have hnodup : (d.store.alarms.map Alarm.id).Nodup := nodup_run (d := first) hids hset
    rw [hd.seen_eq.resolve_left hq] at hb
    exact List.inj_on_of_nodup_map hnodup (List.mem_of_find?_eq_some hfind) hb hba.symm

/-- An alarm of 08:45 that is put off to 10:30, before a turn, is sent at 10:30 for its own time. -/
theorem goesOffAt_of_put_off :
    let ops := [(wednesday 524, .reschedule (everyDay 1 525).id (DayMinute.start ⟨630, by decide⟩) .daily),
      (wednesday 525, .turn)]
    let d := (morning [everyDay 1 525] (wednesday 524)).run ops
    .alarmTriggered (everyDay 1 630) ∈ (d.turn (wednesday 630)).events ∧
      ∃ i, d.dispatcher.countdown.deadline = some i ∧ (everyDay 1 630).GoesOffAt i := by
  intro ops d
  let store := (Store.inMemory { (default : Document) with alarms := [everyDay 1 525] }).announcing
  have hstore : store.announces = true := rfl
  have hids : (store.alarms.map Alarm.id).Nodup := by decide
  have hset : ∀ x ∈ ops, x.2.BySetters := by simp [ops, Operation.BySetters]
  have hq : .alarmsChanged ∉ d.queue := by decide +kernel
  have hsent : .alarmTriggered (everyDay 1 630) ∈ (d.turn (wednesday 630)).events := by decide +kernel
  obtain ⟨i, b, hi, -, -, -, -, hb, -, hsame⟩ :=
    goesOffAt_of_alarmTriggered_iff hstore ({} : RecordingPlayer) bedside [] (wednesday 524) ops hsent
  refine ⟨hsent, i, hi, ?_⟩
  rw [hsame hids hset hq]
  exact hb

/-- Without the turn it is sent at 08:45, which is its time no more. -/
theorem sent_though_put_off :
    let d := morning [everyDay 1 525] (wednesday 524)
    let x := d.reschedule (everyDay 1 525).id (DayMinute.start ⟨630, by decide⟩) .daily
    ∃ e, x.value = ⟨.ok (), e⟩ ∧ e.dispatcher.countdown.deadline = some (wednesday 525) ∧
      .alarmTriggered (everyDay 1 630) ∈ (e.turn (wednesday 525)).events ∧
      ¬ (everyDay 1 630).GoesOffAt (wednesday 525) := by
  intro d x
  refine ⟨x.value.state, rfl, ?_, ?_, ?_⟩ <;> decide +kernel

end Device

end AlarmClock
