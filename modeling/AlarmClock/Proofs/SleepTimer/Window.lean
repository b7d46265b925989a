import AlarmClock.Proofs.SleepTimer.Lockstep

/-! The window of an alarm. News of the player, other timeouts and looks at the clock find the
activity of the alarm and leave its countdown alone. Main statement: without another alarm
or a touch of the user, the first look at or past the end of the alarm's own timeout is
the one that elapses. -/

namespace AlarmClock

namespace Standby

/-- What is neither an alarm nor a touch of the user. -/
def Incident.IsOrdinary : Incident → Prop
  | .alarm _ => False
  | .reset => False
  | _ => True

/-- The clocks of the looks, in order. -/
def looks : List (DateTime × Incident) → List DateTime
  | [] => []
  | (now, .look) :: is => now :: looks is
  | _ :: is => looks is

/-- The window of an alarm lasts until a deadline. -/
structure InWindow (x : Standby) (deadline : DateTime) : Prop where
  activity_eq : x.timer.activity = .alarm
  deadline_eq : x.timer.countdown.deadline = some deadline

theorem inWindow_of_timer_eq {x y : Standby} {deadline : DateTime} (h : x.InWindow deadline)
    (htimer : y.timer = x.timer) : y.InWindow deadline :=
  ⟨htimer ▸ h.activity_eq, htimer ▸ h.deadline_eq⟩

/-! ### One step -/

/-- A window begins with its alarm. -/
theorem inWindow_alarm (x : Standby) (a : Alarm) {start deadline : DateTime}
    (hend : start.add? a.timeout.orZero = some deadline) :
    (x.step start (.alarm a)).value.InWindow deadline ∧ .sleepElapsed ∉ (x.step start (.alarm a)).events := by
  refine ⟨⟨rfl, hend⟩, ?_⟩
  simp [step, SleepTimer.alarmTriggered, SleepTimer.start, SleepTimer.publish]

variable {x : Standby} {deadline : DateTime}

theorem InWindow.isDue_iff (h : x.InWindow deadline) (now : DateTime) :
    x.timer.countdown.isDue now = true ↔ deadline ≤ now := by
  rw [Countdown.isDue_iff, h.deadline_eq]
  simp

theorem InWindow.setTimeout (h : x.InWindow deadline) (now : DateTime) (timeout : Span) :
    (x.step now (.setTimeout timeout)).value.InWindow deadline ∧
      .sleepElapsed ∉ (x.step now (.setTimeout timeout)).events := by
  have hevents : (x.step now (.setTimeout timeout)).events = (x.timer.setTimeout x.store now timeout).events := by
    simp [Standby.step]
  rw [hevents]
  rcases x.timer.setTimeout_cases x.store now timeout with ⟨e, -, hvalue, hquiet⟩ | ⟨t, -, hvalue, htaken⟩
  · rw [hquiet]
    exact ⟨inWindow_of_timer_eq h (by simp [Standby.step, hvalue]), List.not_mem_nil⟩
  · -- only a countdown of playback takes the new timeout over
    have htimer : (x.timer.timeoutChanged now timeout).value = x.timer := by
      simp [SleepTimer.timeoutChanged, h.activity_eq]
    have htold : (x.timer.timeoutChanged now timeout).events = [.sleepTimeoutChanged timeout] := by
      simp [SleepTimer.timeoutChanged, h.activity_eq]
    rw [htaken, htold]
    exact ⟨inWindow_of_timer_eq h (by simp [Standby.step, hvalue, htimer]), by simp⟩

theorem InWindow.look_early (h : x.InWindow deadline) {now : DateTime} (hnow : now < deadline) :
    (x.step now .look).value.InWindow deadline ∧ .sleepElapsed ∉ (x.step now .look).events := by
  have hdue : x.timer.countdown.isDue now = false := by
    rw [← Bool.not_eq_true, h.isDue_iff]
    exact Int.not_le.2 hnow
  refine ⟨⟨?_, ?_⟩, fun hmem => ?_⟩
  · exact (SleepTimer.activity_poll_of_not_isDue hdue).trans h.activity_eq
  · exact (congrArg Countdown.deadline (SleepTimer.countdown_poll_of_not_isDue hdue)).trans h.deadline_eq
  · rw [step, Act.events_bind, Act.events_pure, List.append_nil] at hmem
    rcases SleepTimer.mem_events_poll hmem with ⟨-, hdue'⟩ | ⟨n, hn⟩
    · rw [hdue] at hdue'
      cases hdue'
    · cases hn

theorem InWindow.look_due (h : x.InWindow deadline) {now : DateTime} (hnow : deadline ≤ now) :
    .sleepElapsed ∈ (x.step now .look).events := by
  rw [step, Act.events_bind]
  exact List.mem_append_left _ (SleepTimer.sleepElapsed_mem_events_poll ((h.isDue_iff now).2 hnow))

/-- Nothing ordinary touches a window, but for a look that finds its end. -/
theorem InWindow.step (h : x.InWindow deadline) {now : DateTime} {i : Incident} (hi : i.IsOrdinary)
    (hearly : ∀ t ∈ looks [(now, i)], t < deadline) :
    (x.step now i).value.InWindow deadline ∧ .sleepElapsed ∉ (x.step now i).events := by
  cases i with
  | playback s =>
    have hx : x.step now (.playback s) = pure x := by
      simp [Standby.step, SleepTimer.playbackChanged_of_alarm h.activity_eq]
    rw [hx]
    exact ⟨h, List.not_mem_nil⟩
  | alarm a => exact hi.elim
  | reset => exact hi.elim
  | setTimeout timeout => exact h.setTimeout now timeout
  | look => exact h.look_early (hearly now (List.mem_singleton_self now))
  | store happening => exact ⟨inWindow_of_timer_eq h rfl, List.not_mem_nil⟩

/-! ### All steps -/

theorem looks_cons (i : DateTime × Incident) (is : List (DateTime × Incident)) :
    looks (i :: is) = looks [i] ++ looks is := by
  obtain ⟨now, i⟩ := i
  cases i <;> rfl

theorem InWindow.run (h : x.InWindow deadline) {is : List (DateTime × Incident)} (his : ∀ i ∈ is, i.2.IsOrdinary)
    (hearly : ∀ t ∈ looks is, t < deadline) :
    (x.run is).value.InWindow deadline ∧ .sleepElapsed ∉ (x.run is).events := by
  induction is generalizing x with
  | nil => exact ⟨h, List.not_mem_nil⟩
  | cons i is ih =>
    obtain ⟨hi, his⟩ := List.forall_mem_cons.1 his
    rw [looks_cons, List.forall_mem_append] at hearly
    obtain ⟨hstep, hquiet⟩ := h.step hi hearly.1
    obtain ⟨hrun, hsilent⟩ := ih hstep his hearly.2
    rw [Standby.run, Act.events_bind, List.mem_append]
    exact ⟨hrun, fun hmem => hmem.elim hquiet hsilent⟩

/-- Whatever sleep timer an alarm finds, its timeout, if it ends within the calendar, ends where it was to: after
whatever happens next but another alarm and a touch of the user, and as long as no look at the clock has been at the
deadline or past it, nothing has elapsed, the activity is that of the alarm, and the deadline is the first one; and
the next look elapses exactly if it is at the deadline or past it. -/
theorem window_ends_on_time (x : Standby) (a : Alarm) {start : DateTime} (hfits : (start.add? a.timeout).isSome) :
    ∃ deadline, start.add? a.timeout.orZero = some deadline ∧
      ∀ is : List (DateTime × Incident), (∀ i ∈ is, i.2.IsOrdinary) → (∀ t ∈ looks is, t < deadline) →
        let y := x.run ((start, .alarm a) :: is)
        y.value.timer.activity = .alarm ∧ y.value.timer.countdown.deadline = some deadline ∧
          .sleepElapsed ∉ y.events ∧
          ∀ now, .sleepElapsed ∈ (y.value.step now .look).events ↔ deadline ≤ now := by
  obtain ⟨deadline, hend⟩ := DateTime.exists_add?_orZero hfits
  refine ⟨deadline, hend, ?_⟩
  intro is his hearly y
  obtain ⟨hbegin, hquiet⟩ := x.inWindow_alarm a hend
  obtain ⟨hy, hsilent⟩ := hbegin.run his hearly
  refine ⟨hy.activity_eq, hy.deadline_eq, ?_, fun now => ⟨fun hmem => ?_, hy.look_due⟩⟩
  · rw [show y.events = (x.step start (.alarm a)).events ++ ((x.step start (.alarm a)).value.run is).events from
      Act.events_bind _ _, List.mem_append]
    exact fun hmem => hmem.elim hquiet hsilent
  · by_contra hnow
    exact (hy.look_early (Int.not_le.1 hnow)).2 hmem

/-- An alarm of an hour at 08:45, over a store that means to sleep after ten minutes by then and with a player that
starts to play, elapses at the look of 09:45, though the clock has been set back in between. -/
theorem window_ends_after_an_hour :
    let a := everyDay 1 525
    let x : Standby := { store := .inMemory {} }
    let is : List (DateTime × Incident) := [(wednesday 526, .playback .playing), (wednesday 530, .look),
      (wednesday 540, .setTimeout (Span.minutes 10 (by decide))), (wednesday 500, .look),
      (wednesday 550, .setTimeout Span.zero), (wednesday 584, .look)]
    let y := x.run ((wednesday 525, .alarm a) :: is)
    ((wednesday 525).add? a.timeout).isSome ∧ y.value.store.document.sleepTimeout = Span.minutes 10 (by decide) ∧
      .sleepElapsed ∉ y.events ∧ .sleepElapsed ∈ (y.value.step (wednesday 585) .look).events := by
  intro a x is y
  have hfits : ((wednesday 525).add? a.timeout).isSome := by decide
  obtain ⟨deadline, hend, hwindow⟩ := window_ends_on_time x a hfits
  have hhour : (wednesday 525).add? a.timeout.orZero = some (wednesday 585) := by decide
  obtain rfl : wednesday 585 = deadline := Option.some.inj (hhour.symm.trans hend)
  have hordinary : ∀ i ∈ is, i.2.IsOrdinary := by simp [is, Incident.IsOrdinary]
  have hearly : ∀ t ∈ looks is, t < wednesday 585 := by decide
  obtain ⟨-, -, hsilent, helapses⟩ := hwindow is hordinary hearly
  have hstored : y.value.store.document.sleepTimeout = Span.minutes 10 (by decide) := by decide +kernel
  exact ⟨hfits, hstored, hsilent, (helapses (wednesday 585)).2 (by decide)⟩

end Standby

end AlarmClock
