import AlarmClock.Proofs.Device.Run

/-! The safety net of a supervised alarm. Whenever a monitor is not at rest between two
operations, the sleep timer counts down to silence. Within a turn the countdown can be
over already, but then its elapse is still waiting in the queue. -/

namespace AlarmClock.Device

variable {π : Type} [Player π]

/-- A monitor that is not at rest is covered by an active sleep timer. -/
def Covered (d : Device π) : Prop := d.monitor.state ≠ .idle → d.sleepTimer.countdown.isActive = true

omit [Player π] in
theorem covered_of_idle {d : Device π} (h : d.monitor.state = .idle) : d.Covered := fun hne => absurd h hne

/-! ### Within a turn -/

/-- While events are routed a device is covered, or the sleep timer has just elapsed. -/
theorem covered_handle {d : Device π} {now : DateTime} {e : Event}
    (hd : e = .sleepElapsed ∨ .sleepElapsed ∈ d.queue ∨ d.Covered)
    (hfits : ∀ s, d.armedBy? e = some s → (now.add? s.orZero).isSome) :
    .sleepElapsed ∈ (d.handle now e).value.queue ∨ (d.handle now e).value.Covered := by
  rcases hd with rfl | hq | hc
  · exact .inr (covered_of_idle (Monitor.state_silence _))
  · left
    rw [queue_handle]
    exact List.mem_append_left _ hq
  · right
    intro hne
    rw [monitor_handle] at hne
    rw [sleepTimer_handle]
    -- an event that does not arm the countdown is no alarm, so it leaves a monitor at rest
    rcases d.countdown_route now e with ⟨harm, hcount⟩ | ⟨s, harm, hcount⟩
    · rw [hcount]
      refine hc fun hidle => hne (monitor_route_of_idle hidle ?_ now)
      rintro a rfl
      cases harm
    · rw [hcount, Countdown.isActive_arm]
      exact hfits s harm

theorem covered_drain {d : Device π} {now : DateTime} (hd : .sleepElapsed ∈ d.queue ∨ d.Covered)
    (hfits : ∀ s ∈ (d.routings now).filterMap fun x => x.1.armedBy? x.2, (now.add? s.orZero).isSome) :
    (d.drain now).value.1.Covered := by
  fun_induction drain d now with
  | case1 d h =>
    rw [h] at hd
    exact hd.resolve_left List.not_mem_nil
  | case2 d e rest h x y ih =>
    rw [routings_of_queue_eq_cons h] at hfits
    refine ih (covered_handle ?_ ?_) ?_
    · rw [h, List.mem_cons] at hd
      rcases hd with (he | hq) | hc
      · exact .inl he.symm
      · exact .inr (.inl hq)
      · exact .inr (.inr hc)
    · exact fun s hs => hfits s (List.mem_filterMap.2 ⟨_, List.mem_cons_self, hs⟩)
    · intro s hs
      obtain ⟨z, hz, hzs⟩ := List.mem_filterMap.1 hs
      exact hfits s (List.mem_filterMap.2 ⟨z, List.mem_cons_of_mem _ hz, hzs⟩)

omit [Player π] in
/-- A look at the timers takes the countdown away only if it sends the elapse. -/
theorem covered_polled {d : Device π} (hd : d.Covered) (now : DateTime) :
    .sleepElapsed ∈ (d.polled now).queue ∨ (d.polled now).Covered := by
  cases hdue : d.sleepTimer.countdown.isDue now with
  | true =>
    left
    rw [queue_polled]
    exact List.mem_append_right _ (List.mem_append_right _ (SleepTimer.sleepElapsed_mem_events_poll hdue))
  | false =>
    right
    intro hne
    rw [monitor_polled] at hne
    rw [sleepTimer_polled, SleepTimer.countdown_poll_of_not_isDue hdue]
    exact hd fun hidle => hne (Monitor.state_poll_of_idle hidle now)

theorem covered_turn {d : Device π} {now : DateTime} (hd : d.Covered)
    (hfits : ∀ s ∈ d.armings now .turn, (now.add? s.orZero).isSome) : (d.turn now).value.1.Covered := by
  by_cases hend : (d.dispatcher.poll d.store.alarms now).value.2 = .calendarEnd
  · rw [turn_of_calendarEnd hend]
    exact hd
  · have harm : d.armings now .turn = ((d.polled now).routings now).filterMap fun x => x.1.armedBy? x.2 :=
      if_neg hend
    rw [harm] at hfits
    rw [value_turn hend]
    exact covered_drain (covered_polled hd now) hfits

/-! ### Between turns -/

omit [Player π] in
theorem Between.covered {d e : Device π} {now : DateTime} {armed : List Span} (h : d.Between e now armed)
    (hd : d.Covered) (hfits : ∀ s ∈ armed, (now.add? s.orZero).isSome) : e.Covered := by
  intro hne
  rcases h.countdown_eq with hcount | ⟨s, hs, hcount⟩
  · rw [hcount]
    refine hd fun hidle => hne ?_
    rcases h.state_eq with hstate | hstate
    · rw [hstate, hidle]
    · exact hstate
  · rw [hcount, Countdown.isActive_arm]
    exact hfits s hs

theorem covered_step {d : Device π} {now : DateTime} {op : Operation π} (hd : d.Covered)
    (hfits : ∀ s ∈ d.armings now op, (now.add? s.orZero).isSome) : (d.step now op).Covered := by
  by_cases hop : op = .turn
  · subst hop
    exact covered_turn hd hfits
  · exact (between_step hop d now).covered hd hfits

/-! ### Runs -/

theorem covered_run {d : Device π} (hd : d.Covered) {ops : List (DateTime × Operation π)}
    (hfits : ∀ x ∈ d.runArmings ops, (x.1.add? x.2.orZero).isSome) : (d.run ops).Covered := by
  induction ops generalizing d with
  | nil => exact hd
  | cons x ops ih =>
    rw [runArmings, List.forall_mem_append] at hfits
    obtain ⟨hx, hops⟩ := hfits
    exact ih (covered_step hd fun s hs => hx (x.1, s) (List.mem_map_of_mem hs)) hops

/-- Once the sleep timer is due a turn in which no alarm fires ends in silence. -/
theorem silent_turn {d : Device π} {now : DateTime} (hq : ∀ a, .alarmTriggered a ∉ d.queue)
    (hdue : d.sleepTimer.countdown.isDue now = true) (hfire : d.dispatcher.countdown.isDue now = false) :
    (d.turn now).value.2.isSome = true ∧ (d.turn now).value.1.monitor.state = .idle ∧
      .stop ∈ (d.turn now).commands := by
  have hpoll := Dispatcher.poll_of_not_isDue d.store.alarms hfire
  have hend : (d.dispatcher.poll d.store.alarms now).value.2 ≠ .calendarEnd := by
    rw [hpoll]
    exact nofun
  have hno : ∀ a, .alarmTriggered a ∉ (d.polled now).queue := by
    intro a ha
    rw [queue_polled, hpoll, Act.events_pure, List.append_nil, List.mem_append] at ha
    rcases ha with ha | ha
    · exact hq a ha
    · rcases mem_events_pollOthers ha with ⟨he, -⟩ | ⟨s, hs⟩ | ⟨n, hn⟩
      · cases he
      · cases hs
      · cases hn
  have helapsed : .sleepElapsed ∈ (d.polled now).queue := by
    rw [queue_polled]
    exact List.mem_append_right _ (List.mem_append_right _ (SleepTimer.sleepElapsed_mem_events_poll hdue))
  obtain ⟨hidle, hstop⟩ := silent_drain helapsed hno now
  rw [value_turn hend, commands_turn hend]
  exact ⟨rfl, hidle, Act.mem_commands.2 hstop⟩

/-- In every run in which the timeouts that arm the sleep timer end within the calendar, a monitor that is not at
rest is covered, and from every state without waiting events a turn at the end of the countdown, if no
alarm is due, brings the monitor to rest and stops the player. -/
theorem covered_and_silent_run (store : Store) (player : π) (settings : Settings) (waiting : List Event)
    (begin : DateTime) (ops : List (DateTime × Operation π))
    (hfits : ∀ x ∈ (boot store player settings waiting begin).runArmings ops, (x.1.add? x.2.orZero).isSome) :
    let d := (boot store player settings waiting begin).run ops
    (d.monitor.state ≠ .idle → d.sleepTimer.countdown.isActive = true) ∧
      ∀ now, d.queue = [] → d.sleepTimer.countdown.isDue now = true → d.dispatcher.countdown.isDue now = false →
        (d.turn now).value.2.isSome = true ∧ (d.turn now).value.1.monitor.state = .idle ∧
          .stop ∈ (d.turn now).commands := by
  intro d
  refine ⟨covered_run (covered_of_idle rfl) hfits, fun now hq hdue hfire => silent_turn ?_ hdue hfire⟩
  rw [hq]
  exact fun _ => List.not_mem_nil

/-- The alarm of 08:45 is covered, and an hour later there is silence. -/
theorem covered_and_silent_after_an_hour :
    let d := (morning [everyDay 1 525] (wednesday 524)).run [(wednesday 525, .turn)]
    d.monitor.state = .expecting ∧ d.sleepTimer.countdown.isActive = true ∧
      (d.turn (wednesday 585)).value.1.monitor.state = .idle ∧ .stop ∈ (d.turn (wednesday 585)).commands := by
  intro d
  have hstate : d.monitor.state = .expecting := by decide +kernel
  have h := covered_and_silent_run (Store.inMemory { alarms := [everyDay 1 525] }).announcing ({} : RecordingPlayer)
    bedside [] (wednesday 524) [(wednesday 525, .turn)] (by decide +kernel)
  refine ⟨hstate, h.1 ?_, (h.2 (wednesday 585) ?_ ?_ ?_).2⟩
  · change d.monitor.state ≠ .idle
    rw [hstate]
    decide
  · decide +kernel
  · decide +kernel
  · decide +kernel

end AlarmClock.Device
