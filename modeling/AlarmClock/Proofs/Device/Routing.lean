import AlarmClock.Device.Turn
import AlarmClock.Proofs.Dispatcher.Choice
import AlarmClock.Proofs.Monitor
import AlarmClock.Proofs.SleepTimer

/-! What routing one event does to the parts of a device, and what can come of it. Routing
never changes the alarms, never sends one, and stops the player only on the elapse of
the sleep timer. -/

namespace AlarmClock

variable {π : Type} [Player π]

theorem Dispatcher.within_choose (d : Dispatcher) (alarms : List Alarm) (reference now : DateTime)
    {kind : Command → Prop} : ∀ f ∈ (d.choose alarms reference now).effects, f.Within π kind := by
  intro f hf
  cases f with
  | notice _ => trivial
  | command c =>
    have hc : c ∈ (d.choose alarms reference now).commands := Act.mem_commands.2 hf
    rw [commands_choose] at hc
    cases hc
  | event e =>
    obtain ⟨info, rfl⟩ := mem_events_choose (Act.mem_events.2 hf)
    trivial

namespace Device

/-! ### The parts -/

@[simp] theorem store_route (d : Device π) (now : DateTime) (e : Event) : (d.route now e).value.store = d.store := by
  unfold route
  split <;> rfl

/-- Only changed alarms make the dispatcher choose. -/
theorem dispatcher_route {e : Event} (h : e ≠ .alarmsChanged) (d : Device π) (now : DateTime) :
    (d.route now e).value.dispatcher = d.dispatcher := by
  unfold route
  split
  · exact absurd rfl h
  all_goals rfl

/-- An alarm, the player and the elapse of the sleep timer are all that concerns the monitor. -/
theorem monitor_route_cases (d : Device π) (now : DateTime) (e : Event) :
    (∃ a, e = .alarmTriggered a ∧ (d.route now e).value.monitor = (d.monitor.alarmTriggered now a).value) ∨
      (∃ s, e = .player (.changed s) ∧ (d.route now e).value.monitor = (d.monitor.playbackChanged s).value) ∨
      (∃ err, e = .player (.failed err) ∧ (d.route now e).value.monitor = (d.monitor.playerFailed err).value) ∨
      (e = .sleepElapsed ∧ (d.route now e).value.monitor = d.monitor.silence.value) ∨
      (∀ p, e ≠ .player p) ∧ (d.route now e).value.monitor = d.monitor := by
  cases e with
  | alarmTriggered a => exact .inl ⟨a, rfl, rfl⟩
  | player p =>
    cases p with
    | changed s => exact .inr (.inl ⟨s, rfl, rfl⟩)
    | failed err => exact .inr (.inr (.inl ⟨err, rfl, rfl⟩))
  | sleepElapsed => exact .inr (.inr (.inr (.inl ⟨rfl, rfl⟩)))
  | alarmsChanged => exact .inr (.inr (.inr (.inr ⟨by simp, rfl⟩)))
  | upcomingChanged info => exact .inr (.inr (.inr (.inr ⟨by simp, rfl⟩)))
  | monitorChanged s => exact .inr (.inr (.inr (.inr ⟨by simp, rfl⟩)))
  | remainingChanged n => exact .inr (.inr (.inr (.inr ⟨by simp, rfl⟩)))
  | sleepTimeoutChanged s => exact .inr (.inr (.inr (.inr ⟨by simp, rfl⟩)))

/-- A monitor at rest stays there unless an alarm is routed. -/
theorem monitor_route_of_idle {d : Device π} (hd : d.monitor.state = .idle) {e : Event}
    (h : ∀ a, e ≠ .alarmTriggered a) (now : DateTime) : (d.route now e).value.monitor.state = .idle := by
  rcases d.monitor_route_cases now e with ⟨a, rfl, -⟩ | ⟨s, -, hm⟩ | ⟨err, -, hm⟩ | ⟨-, hm⟩ | ⟨-, hm⟩
  · exact absurd rfl (h a)
  all_goals rw [hm]
  · exact Monitor.state_playbackChanged_of_idle hd s
  · exact (Monitor.state_playerFailed_eq_idle_iff _ _).2 hd
  · exact Monitor.state_silence _
  · exact hd

/-- Only the elapse of the sleep timer and a player that stops bring a monitor to rest. -/
theorem monitor_route_ne_idle {d : Device π} (hd : d.monitor.state ≠ .idle) {e : Event} (h : e ≠ .sleepElapsed)
    (hstopped : e ≠ .player (.changed .stopped)) (now : DateTime) :
    (d.route now e).value.monitor.state ≠ .idle := by
  rcases d.monitor_route_cases now e with ⟨a, -, hm⟩ | ⟨s, rfl, hm⟩ | ⟨err, -, hm⟩ | ⟨rfl, -⟩ | ⟨-, hm⟩
  · rw [hm]
    exact Monitor.state_alarmTriggered_ne_idle _ _ _
  · rw [hm]
    exact Monitor.state_playbackChanged_ne_idle hd fun hs => hstopped (by rw [hs])
  · rw [hm]
    exact fun hidle => hd ((Monitor.state_playerFailed_eq_idle_iff _ _).1 hidle)
  · exact absurd rfl h
  · rw [hm]
    exact hd

/-- Only an alarm and the elapse of the sleep timer end a fallback. -/
theorem monitor_route_of_fallback {d : Device π} (hd : d.monitor.state = .fallback) {e : Event}
    (helapsed : e ≠ .sleepElapsed) (halarm : ∀ a, e ≠ .alarmTriggered a) (now : DateTime) :
    (d.route now e).value.monitor.state = .fallback := by
  rcases d.monitor_route_cases now e with ⟨a, rfl, -⟩ | ⟨s, -, hm⟩ | ⟨err, -, hm⟩ | ⟨rfl, -⟩ | ⟨-, hm⟩
  · exact absurd rfl (halarm a)
  · rw [hm, Monitor.playbackChanged_of_fallback hd]
    exact hd
  · rw [hm]
    exact Monitor.state_playerFailed_of_fallback hd err
  · exact absurd rfl helapsed
  · rw [hm]
    exact hd

/-- The countdown of an alarm is left alone by everything but another alarm. -/
theorem sleepTimer_route_of_alarm {d : Device π} (hd : d.sleepTimer.activity = .alarm) {e : Event}
    (h : ∀ a, e ≠ .alarmTriggered a) (now : DateTime) : (d.route now e).value.sleepTimer = d.sleepTimer := by
  unfold route
  split
  · rfl
  · rename_i a
    exact absurd rfl (h a)
  · simp [SleepTimer.playbackChanged_of_alarm hd]
  all_goals rfl

/-- The span with which routing an event arms the sleep timer. -/
def armedBy? (d : Device π) : Event → Option Span
  | .alarmTriggered a => some a.timeout
  | .player (.changed .playing) => if d.sleepTimer.activity = .alarm then none else some d.sleepTimeout
  | _ => none

/-- Routing leaves the countdown of the sleep timer as it is, or arms it. -/
theorem countdown_route (d : Device π) (now : DateTime) (e : Event) :
    (d.armedBy? e = none ∧ (d.route now e).value.sleepTimer.countdown = d.sleepTimer.countdown) ∨
      ∃ s, d.armedBy? e = some s ∧ (d.route now e).value.sleepTimer.countdown = Countdown.arm now s := by
  unfold route
  split
  · exact .inl ⟨rfl, rfl⟩
  · rename_i a
    exact .inr ⟨a.timeout, rfl, rfl⟩
  · rename_i s
    by_cases hs : s = .playing
    · subst hs
      by_cases hd : d.sleepTimer.activity = .alarm
      · left
        simp [armedBy?, hd, SleepTimer.playbackChanged]
      · right
        refine ⟨d.sleepTimeout, ?_, ?_⟩
        · simp [armedBy?, hd]
        · simp [hd, SleepTimer.playbackChanged, SleepTimer.reset, SleepTimer.start]
    · left
      refine ⟨?_, ?_⟩
      · unfold armedBy?
        split <;> simp_all
      · simp [SleepTimer.playbackChanged, hs]
  all_goals exact .inl ⟨rfl, rfl⟩

/-! ### What comes of it -/

theorem within_route {e : Event} (h : e ≠ .sleepElapsed) (d : Device π) (now : DateTime) :
    ∀ f ∈ (d.route now e).effects, f.Within π (· ≠ .stop) := by
  unfold route
  split
  · exact Act.forall_mem_effects_bind.2 ⟨Dispatcher.within_choose _ _ _ _, within_pure _⟩
  · simp only [Act.forall_mem_effects_bind]
    exact ⟨Monitor.within_alarmTriggered _ _ _, SleepTimer.within_alarmTriggered _ _, within_pure _⟩
  · simp only [Act.forall_mem_effects_bind]
    exact ⟨Monitor.within_playbackChanged _ _, SleepTimer.within_playbackChanged _ _ _ _, within_pure _⟩
  · exact Act.forall_mem_effects_bind.2 ⟨Monitor.within_playerFailed _ _, within_pure _⟩
  · exact absurd rfl h
  · exact Act.forall_mem_effects_bind.2 ⟨within_note _, within_pure _⟩
  all_goals exact within_pure _

theorem within_route_sleepElapsed (d : Device π) (now : DateTime) :
    ∀ f ∈ (d.route now .sleepElapsed).effects, f.Within π (· = .stop) := by
  simp only [route, Act.forall_mem_effects_bind]
  exact ⟨within_note _, Monitor.within_silence _, within_pure _⟩

/-- At rest a monitor gives no commands, unless an alarm is routed or the sleep timer has elapsed. -/
theorem within_route_of_idle {d : Device π} (hd : d.monitor.state = .idle) {e : Event} (helapsed : e ≠ .sleepElapsed)
    (halarm : ∀ a, e ≠ .alarmTriggered a) (now : DateTime) {kind : Command → Prop} :
    ∀ f ∈ (d.route now e).effects, f.Within π kind := by
  unfold route
  split
  · exact Act.forall_mem_effects_bind.2 ⟨Dispatcher.within_choose _ _ _ _, within_pure _⟩
  · rename_i a
    exact absurd rfl (halarm a)
  · simp only [Act.forall_mem_effects_bind]
    exact ⟨Monitor.within_playbackChanged _ _, SleepTimer.within_playbackChanged _ _ _ _, within_pure _⟩
  · rw [Monitor.playerFailed_of_idle hd]
    exact within_pure _
  · exact absurd rfl helapsed
  · exact Act.forall_mem_effects_bind.2 ⟨within_note _, within_pure _⟩
  all_goals exact within_pure _

/-- What is sent while an event is routed is neither an alarm nor about the alarms, nor an elapse. -/
theorem ne_of_mem_events_route {d : Device π} {now : DateTime} {e e' : Event} (h : e' ∈ (d.route now e).events) :
    e' ≠ .alarmsChanged ∧ e' ≠ .sleepElapsed ∧ ∀ a, e' ≠ .alarmTriggered a := by
  have hwithin : (Effect.event e').Within π fun _ => True := by
    rw [Act.mem_events] at h
    by_cases he : e = .sleepElapsed
    · subst he
      exact (d.within_route_sleepElapsed now _ h).mono fun _ _ => trivial
    · exact (within_route he d now _ h).mono fun _ _ => trivial
  refine ⟨?_, ?_, ?_⟩
  · rintro rfl
    exact hwithin
  · rintro rfl
    exact hwithin
  · rintro a rfl
    exact hwithin

/-- A steady player reports that it has stopped only when the sleep timer elapses. -/
theorem ne_stopped_of_mem_events_route [SteadyPlayer π] {d : Device π} {now : DateTime} {e e' : Event}
    (he : e ≠ .sleepElapsed) (h : e' ∈ (d.route now e).events) : e' ≠ .player (.changed .stopped) := by
  rintro rfl
  obtain ⟨p, c, hc, hr⟩ := within_route he d now _ (Act.mem_events.1 h)
  exact SteadyPlayer.report_ne_stopped p c hc hr

theorem command_stop_notMem_effects_route {e : Event} (h : e ≠ .sleepElapsed) (d : Device π) (now : DateTime) :
    .command .stop ∉ (d.route now e).effects :=
  fun hf => within_route h d now _ hf rfl

theorem command_stop_mem_effects_route (d : Device π) (now : DateTime) :
    .command .stop ∈ (d.route now .sleepElapsed).effects := by
  simp only [route, Act.effects_bind]
  exact List.mem_append_right _ (List.mem_append_left _ (Monitor.stop_mem_commands_silence d.monitor))

end Device

end AlarmClock
