import AlarmClock.Proofs.Device.Run

/-! What becomes of an alarm in the turn that sends it. It always arms the sleep timer with
its own timeout. But all timers are looked at before any event is routed: if the sleep
timer was due as well, its elapse waits behind the alarm and silences it. Otherwise a
steady player plays on. -/

namespace AlarmClock.Device

variable {π : Type} [Player π]

/-! ### After the alarm was routed -/

/-- Without further alarms a drain leaves the countdown of an alarm alone. -/
theorem sleepTimer_drain_of_alarm {d : Device π} (hd : d.sleepTimer.activity = .alarm)
    (h : ∀ a, .alarmTriggered a ∉ d.queue) (now : DateTime) : (d.drain now).value.1.sleepTimer = d.sleepTimer := by
  refine drain_keeps_of_kind (I := fun x => x.sleepTimer = d.sleepTimer) (K := fun e => ∀ a, e ≠ .alarmTriggered a)
    (fun _ _ _ _ hnew => (ne_of_mem_events_route hnew).2.2) (fun x e rest he hx => ?_) ?_ rfl
  · rw [sleepTimer_handle, sleepTimer_route_of_alarm (by rw [← hd, ← hx]) he]
    exact hx
  · rintro e he a rfl
    exact h a he

/-- A monitor that is not at rest, and nothing in the queue that brings it there. -/
structure Undisturbed (d : Device π) : Prop where
  state_ne : d.monitor.state ≠ .idle
  ne_of_mem : ∀ e ∈ d.queue, e ≠ .sleepElapsed ∧ e ≠ .player (.changed .stopped)

section

variable [SteadyPlayer π]

theorem undisturbed_handle {d : Device π} (hd : d.Undisturbed) {e : Event} (he : e ≠ .sleepElapsed)
    (hstopped : e ≠ .player (.changed .stopped)) (now : DateTime) : (d.handle now e).value.Undisturbed := by
  refine ⟨monitor_route_ne_idle hd.state_ne he hstopped now, fun e' he' => ?_⟩
  rw [queue_handle, List.mem_append] at he'
  rcases he' with hq | hnew
  · exact hd.ne_of_mem e' hq
  · exact ⟨(ne_of_mem_events_route hnew).2.1, ne_stopped_of_mem_events_route he hnew⟩

/-- An undisturbed device stays so in a drain, and its player is not stopped. -/
theorem undisturbed_drain {d : Device π} (hd : d.Undisturbed) (now : DateTime) :
    (d.drain now).value.1.Undisturbed ∧ ∀ f ∈ (d.drain now).effects, f ≠ .command .stop := by
  refine drain_safe (fun x e rest hq hx => ?_) hd
  obtain ⟨he, hstopped⟩ := hx.ne_of_mem e (by rw [hq]; exact List.mem_cons_self)
  have hrest : Undisturbed { x with queue := rest } :=
    ⟨hx.state_ne, fun e' he' => hx.ne_of_mem e' (by rw [hq]; exact List.mem_cons_of_mem _ he')⟩
  refine ⟨undisturbed_handle hrest he hstopped now, ?_⟩
  rintro f hf rfl
  exact command_stop_notMem_effects_route he _ now hf

end

/-! ### An alarm at the front of the queue -/

theorem sleepTimer_drain_of_queue_eq_cons {d : Device π} {a : Alarm} {rest : List Event}
    (hq : d.queue = .alarmTriggered a :: rest) (hrest : ∀ b, .alarmTriggered b ∉ rest) (now : DateTime) :
    (d.drain now).value.1.sleepTimer = (SleepTimer.alarmTriggered now a).value := by
  have hno := alarmTriggered_notMem_queue_handle (d := { d with queue := rest }) hrest now (.alarmTriggered a)
  rw [drain_of_queue_eq_cons hq]
  exact sleepTimer_drain_of_alarm rfl hno now

/-- The elapse of the sleep timer behind an alarm silences it. -/
theorem silent_drain_of_queue_eq_cons {d : Device π} {a : Alarm} {rest : List Event}
    (hq : d.queue = .alarmTriggered a :: rest) (hrest : ∀ b, .alarmTriggered b ∉ rest)
    (helapsed : .sleepElapsed ∈ rest) (now : DateTime) :
    (d.drain now).value.1.monitor.state = .idle ∧ .command .stop ∈ (d.drain now).effects := by
  have hno := alarmTriggered_notMem_queue_handle (d := { d with queue := rest }) hrest now (.alarmTriggered a)
  rw [drain_of_queue_eq_cons hq]
  obtain ⟨hidle, hstop⟩ := silent_drain (by rw [queue_handle]; exact List.mem_append_left _ helapsed) hno now
  exact ⟨hidle, List.mem_append_right _ hstop⟩

/-- Nothing else does, as long as the player is steady and has not stopped before. -/
theorem left_alone_drain_of_queue_eq_cons [SteadyPlayer π] {d : Device π} {a : Alarm} {rest : List Event}
    (hq : d.queue = .alarmTriggered a :: rest)
    (hrest : ∀ e ∈ rest, e ≠ .sleepElapsed ∧ e ≠ .player (.changed .stopped)) (now : DateTime) :
    (d.drain now).value.1.monitor.state ≠ .idle ∧ .command .stop ∉ (d.drain now).effects := by
  have hhandled : (handle { d with queue := rest } now (.alarmTriggered a)).value.Undisturbed := by
    refine ⟨Monitor.state_alarmTriggered_ne_idle _ _ _, fun e he => ?_⟩
    rw [queue_handle, List.mem_append] at he
    rcases he with he | he
    · exact hrest e he
    · exact ⟨(ne_of_mem_events_route he).2.1, ne_stopped_of_mem_events_route (by simp) he⟩
  obtain ⟨hleft, hnostop⟩ := undisturbed_drain hhandled now
  rw [drain_of_queue_eq_cons hq]
  refine ⟨hleft.state_ne, fun hstop => ?_⟩
  rcases List.mem_append.1 hstop with hstop | hstop
  · exact command_stop_notMem_effects_route (by simp) _ now hstop
  · exact hnostop _ hstop rfl

/-! ### The turn that sends an alarm -/

omit [Player π] in
/-- An alarm that is sent to an empty queue is routed first. Behind it stand news, and the elapse of the sleep timer
if that is due. -/
theorem queue_polled_eq_cons {d : Device π} {now : DateTime} {a : Alarm} (hq : d.queue = [])
    (h : .alarmTriggered a ∈ (d.pollDispatcher now).events) :
    ∃ rest, (d.polled now).queue = .alarmTriggered a :: rest ∧
      (.sleepElapsed ∈ rest ↔ d.sleepTimer.countdown.isDue now = true) ∧
      ∀ e ∈ rest, e ≠ .player (.changed .stopped) ∧ ∀ b, e ≠ .alarmTriggered b := by
  rw [events_pollDispatcher] at h
  obtain ⟨news, hnews, hinfo⟩ := Dispatcher.events_poll_eq_cons h
  refine ⟨news ++ ((d.monitor.poll now).events ++ (d.sleepTimer.poll now).events), ?_, ⟨fun he => ?_, fun hdue => ?_⟩,
    fun e he => ?_⟩
  · rw [queue_polled, hq, hnews]
    rfl
  · rcases List.mem_append.1 he with he | he
    · obtain ⟨info, hi⟩ := hinfo _ he
      cases hi
    · rcases mem_events_pollOthers he with ⟨-, hdue⟩ | ⟨s, hs⟩ | ⟨n, hn⟩
      · exact hdue
      · cases hs
      · cases hn
  · exact List.mem_append_right _ (List.mem_append_right _ (SleepTimer.sleepElapsed_mem_events_poll hdue))
  · rcases List.mem_append.1 he with he | he
    · obtain ⟨info, rfl⟩ := hinfo _ he
      exact ⟨by simp, by simp⟩
    · rcases mem_events_pollOthers he with ⟨rfl, -⟩ | ⟨s, rfl⟩ | ⟨n, rfl⟩
      · exact ⟨by simp, by simp⟩
      · exact ⟨by simp, by simp⟩
      · exact ⟨by simp, by simp⟩

/-- In the turn that sends an alarm the sleep timer is armed with the timeout of the alarm. The monitor stays with the
alarm, and the player is not stopped, exactly if the sleep timer was not due in the same turn. -/
theorem fresh_alarm_left_alone_iff [SteadyPlayer π] {d : Device π} {now deadline : DateTime} {a : Alarm}
    (hq : d.queue = []) (h : .alarmTriggered a ∈ (d.pollDispatcher now).events)
    (hdeadline : now.add? a.timeout.orZero = some deadline) (hturn : (d.turn now).value.2.isSome = true) :
    (d.turn now).value.1.sleepTimer.activity = .alarm ∧
      (d.turn now).value.1.sleepTimer.countdown = ⟨a.timeout.orZero, some deadline⟩ ∧
      ((d.turn now).value.1.monitor.state ≠ .idle ↔ d.sleepTimer.countdown.isDue now = false) ∧
      (.stop ∉ (d.turn now).commands ↔ d.sleepTimer.countdown.isDue now = false) := by
  have hend : (d.dispatcher.poll d.store.alarms now).value.2 ≠ .calendarEnd := by
    intro hend
    rw [turn_of_calendarEnd hend] at hturn
    cases hturn
  obtain ⟨rest, hpolled, helapsed, hrest⟩ := queue_polled_eq_cons hq h
  have hno : ∀ b, .alarmTriggered b ∉ rest := fun b hb => (hrest _ hb).2 b rfl
  have hsleep := sleepTimer_drain_of_queue_eq_cons hpolled hno now
  have harm : Countdown.arm now a.timeout = ⟨a.timeout.orZero, some deadline⟩ := by rw [Countdown.arm, hdeadline]
  rw [value_turn hend, commands_turn hend, Act.mem_commands]
  -- the queue of the drain has the elapse behind the alarm exactly if the sleep timer was due
  cases hdue : d.sleepTimer.countdown.isDue now with
  | true =>
    obtain ⟨hidle, hstop⟩ := silent_drain_of_queue_eq_cons hpolled hno (helapsed.2 hdue) now
    refine ⟨by rw [hsleep]; rfl, by rw [hsleep]; exact harm, ?_, ?_⟩
    · simp [hidle]
    · simp [hstop]
  | false =>
    have hcalm : ∀ e ∈ rest, e ≠ .sleepElapsed ∧ e ≠ .player (.changed .stopped) := by
      refine fun e he => ⟨?_, (hrest e he).1⟩
      rintro rfl
      rw [helapsed.1 he] at hdue
      cases hdue
    obtain ⟨hne, hnostop⟩ := left_alone_drain_of_queue_eq_cons hpolled hcalm now
    refine ⟨by rw [hsleep]; rfl, by rw [hsleep]; exact harm, ?_, ?_⟩
    · simp [hne]
    · simp [hnostop]

/-- The alarm of 08:45 is left alone at 08:45. -/
theorem fresh_alarm_left_alone_at_first :
    let d := (morning [everyDay 1 525, everyDay 2 585] (wednesday 524)).run [(wednesday 524, .turn)]
    (d.turn (wednesday 525)).value.1.monitor.state ≠ .idle ∧ .stop ∉ (d.turn (wednesday 525)).commands := by
  intro d
  have hdue : d.sleepTimer.countdown.isDue (wednesday 525) = false := by decide +kernel
  have hq : d.queue = [] := by decide +kernel
  have hsent : .alarmTriggered (everyDay 1 525) ∈ (d.pollDispatcher (wednesday 525)).events := by decide +kernel
  have hdeadline : (wednesday 525).add? (everyDay 1 525).timeout.orZero = some (wednesday 585) := by decide
  have hturn : (d.turn (wednesday 525)).value.2.isSome = true := by decide +kernel
  obtain ⟨-, -, hstate, hstop⟩ := fresh_alarm_left_alone_iff hq hsent hdeadline hturn
  exact ⟨hstate.2 hdue, hstop.2 hdue⟩

/-- The hour of the alarm of 08:45 ends when the one of 09:45 goes off, which is silenced in the same turn. -/
theorem fresh_alarm_silenced :
    let d := (morning [everyDay 1 525, everyDay 2 585] (wednesday 524)).run
      [(wednesday 524, .turn), (wednesday 525, .turn)]
    d.queue = [] ∧ .alarmTriggered (everyDay 2 585) ∈ (d.pollDispatcher (wednesday 585)).events ∧
      (wednesday 585).add? (everyDay 2 585).timeout.orZero = some (wednesday 645) ∧
      (d.turn (wednesday 585)).value.2.isSome = true ∧
      (d.turn (wednesday 585)).value.1.monitor.state = .idle ∧ .stop ∈ (d.turn (wednesday 585)).commands := by
  decide +kernel

end AlarmClock.Device
