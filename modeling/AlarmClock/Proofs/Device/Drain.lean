import AlarmClock.Proofs.Device.Routing

/-! Draining the queue of a device, and turns. What handling one event keeps of a device
holds at the end of a drain, and what it allows of its effects holds of them all. A
turn is a look at every timer and then a drain. -/

namespace AlarmClock.Device

variable {π : Type} [Player π]

/-! ### Handling one event -/

@[simp] theorem store_handle (d : Device π) (now : DateTime) (e : Event) : (d.handle now e).value.store = d.store :=
  d.store_route now e

@[simp] theorem dispatcher_handle (d : Device π) (now : DateTime) (e : Event) :
    (d.handle now e).value.dispatcher = (d.route now e).value.dispatcher := rfl

@[simp] theorem monitor_handle (d : Device π) (now : DateTime) (e : Event) :
    (d.handle now e).value.monitor = (d.route now e).value.monitor := rfl

@[simp] theorem sleepTimer_handle (d : Device π) (now : DateTime) (e : Event) :
    (d.handle now e).value.sleepTimer = (d.route now e).value.sleepTimer := rfl

@[simp] theorem effects_handle (d : Device π) (now : DateTime) (e : Event) :
    (d.handle now e).effects = (d.route now e).effects := rfl

@[simp] theorem queue_handle (d : Device π) (now : DateTime) (e : Event) :
    (d.handle now e).value.queue = d.queue ++ (d.route now e).events := by
  rw [handle, queue_queueUp, queue_route]

/-- What waits after an event was handled has waited before, or else it is no alarm, nor about the alarms,
nor an elapse. -/
theorem mem_queue_handle {d : Device π} {now : DateTime} {e e' : Event} (h : e' ∈ (d.handle now e).value.queue) :
    e' ∈ d.queue ∨ e' ≠ .alarmsChanged ∧ e' ≠ .sleepElapsed ∧ ∀ a, e' ≠ .alarmTriggered a := by
  rw [queue_handle, List.mem_append] at h
  exact h.imp id ne_of_mem_events_route

theorem alarmTriggered_notMem_queue_handle {d : Device π} (h : ∀ a, .alarmTriggered a ∉ d.queue) (now : DateTime)
    (e : Event) (a : Alarm) : .alarmTriggered a ∉ (d.handle now e).value.queue := by
  intro ha
  rcases mem_queue_handle ha with hq | ⟨-, -, hne⟩
  · exact h a hq
  · exact hne a rfl

/-! ### Drains -/

theorem drain_of_queue_eq_nil {d : Device π} (h : d.queue = []) (now : DateTime) : d.drain now = pure (d, []) := by
  rw [drain]
  split
  · rfl
  · rename_i e rest hq
    rw [h] at hq
    cases hq

theorem drain_of_queue_eq_cons {d : Device π} {e : Event} {rest : List Event} (h : d.queue = e :: rest)
    (now : DateTime) :
    d.drain now =
      let x := handle { d with queue := rest } now e
      let y := x.value.drain now
      ⟨(y.value.1, e :: y.value.2), x.effects ++ y.effects⟩ := by
  rw [drain]
  split
  · rename_i hq
    rw [h] at hq
    cases hq
  · rename_i e' rest' hq
    rw [h] at hq
    cases hq
    rfl

/-- What handling one event keeps of a device and allows of its effects holds of a whole drain. -/
theorem drain_safe {I : Device π → Prop} {Q : Effect → Prop} {now : DateTime}
    (step : ∀ d e rest, d.queue = e :: rest → I d →
      I (handle { d with queue := rest } now e).value ∧
        ∀ f ∈ (handle { d with queue := rest } now e).effects, Q f)
    {d : Device π} (hd : I d) : I (d.drain now).value.1 ∧ ∀ f ∈ (d.drain now).effects, Q f := by
  fun_induction drain d now with
  | case1 d h => exact ⟨hd, fun f hf => absurd hf List.not_mem_nil⟩
  | case2 d e rest h x y ih =>
    obtain ⟨hx, hxf⟩ := step d e rest h hd
    obtain ⟨hy, hyf⟩ := ih hx
    exact ⟨hy, List.forall_mem_append.2 ⟨hxf, hyf⟩⟩

/-- What handling one event keeps of a device holds after a drain. -/
theorem drain_keeps {I : Device π → Prop} {now : DateTime}
    (step : ∀ d e rest, d.queue = e :: rest → I d → I (handle { d with queue := rest } now e).value)
    {d : Device π} (hd : I d) : I (d.drain now).value.1 :=
  (drain_safe (Q := fun _ => True) (fun d e rest h hI => ⟨step d e rest h hI, fun _ _ => trivial⟩) hd).1

@[simp] theorem store_drain (d : Device π) (now : DateTime) : (d.drain now).value.1.store = d.store :=
  drain_keeps (I := fun x => x.store = d.store) (fun x e rest _ hx => by rw [store_handle]; exact hx) rfl

/-- If all that waits is of a kind, and so is what is sent when such an event is routed, a drain handles only
events of that kind. -/
theorem drain_safe_of_kind {I : Device π → Prop} {K : Event → Prop} {Q : Effect → Prop} {now : DateTime}
    (news : ∀ (d : Device π) (e e' : Event), K e → e' ∈ (d.route now e).events → K e')
    (step : ∀ d e rest, K e → I d →
      I (handle { d with queue := rest } now e).value ∧
        ∀ f ∈ (handle { d with queue := rest } now e).effects, Q f)
    {d : Device π} (hq : ∀ e ∈ d.queue, K e) (hd : I d) :
    I (d.drain now).value.1 ∧ ∀ f ∈ (d.drain now).effects, Q f := by
  have hdrain : (I (d.drain now).value.1 ∧ ∀ e ∈ (d.drain now).value.1.queue, K e) ∧
      ∀ f ∈ (d.drain now).effects, Q f := by
    refine drain_safe (I := fun x => I x ∧ ∀ e ∈ x.queue, K e) ?_ ⟨hd, hq⟩
    rintro x e rest hrest ⟨hx, hkind⟩
    rw [hrest] at hkind
    obtain ⟨he, hkind⟩ := List.forall_mem_cons.1 hkind
    obtain ⟨hI, hQ⟩ := step x e rest he hx
    refine ⟨⟨hI, fun e' he' => ?_⟩, hQ⟩
    rw [queue_handle, List.mem_append] at he'
    exact he'.elim (hkind e') (news _ e e' he)
  exact ⟨hdrain.1.1, hdrain.2⟩

/-- What handling one event of the kind keeps of a device holds after such a drain. -/
theorem drain_keeps_of_kind {I : Device π → Prop} {K : Event → Prop} {now : DateTime}
    (news : ∀ (d : Device π) (e e' : Event), K e → e' ∈ (d.route now e).events → K e')
    (step : ∀ d e rest, K e → I d → I (handle { d with queue := rest } now e).value)
    {d : Device π} (hq : ∀ e ∈ d.queue, K e) (hd : I d) : I (d.drain now).value.1 :=
  (drain_safe_of_kind (Q := fun _ => True) news (fun d e rest he hI => ⟨step d e rest he hI, fun _ _ => trivial⟩) hq
    hd).1

/-- Without alarms on the way a monitor at rest stays there. -/
theorem monitor_drain_of_idle {d : Device π} (hd : d.monitor.state = .idle) (h : ∀ a, .alarmTriggered a ∉ d.queue)
    (now : DateTime) : (d.drain now).value.1.monitor.state = .idle := by
  refine drain_keeps_of_kind (I := fun x => x.monitor.state = .idle) (K := fun e => ∀ a, e ≠ .alarmTriggered a)
    (fun _ _ _ _ hnew => (ne_of_mem_events_route hnew).2.2) (fun x e rest he hx => ?_) ?_ hd
  · exact monitor_route_of_idle (d := { x with queue := rest }) hx he now
  · rintro e he a rfl
    exact h a he

/-- An elapse of the sleep timer that no alarm follows ends with the monitor at rest and the player stopped. -/
theorem silent_drain {d : Device π} (h : .sleepElapsed ∈ d.queue) (hno : ∀ a, .alarmTriggered a ∉ d.queue)
    (now : DateTime) :
    (d.drain now).value.1.monitor.state = .idle ∧ .command .stop ∈ (d.drain now).effects := by
  fun_induction drain d now with
  | case1 d hq =>
    rw [hq] at h
    cases h
  | case2 d e rest hq x y ih =>
    rw [hq] at h hno
    have hnox : ∀ a, .alarmTriggered a ∉ x.value.queue :=
      alarmTriggered_notMem_queue_handle (fun a ha => hno a (List.mem_cons_of_mem _ ha)) now e
    -- the elapse is routed now, or it still waits and the monitor is silenced later
    rcases List.mem_cons.1 h with rfl | h
    · refine ⟨monitor_drain_of_idle (Monitor.state_silence _) hnox now, List.mem_append_left _ ?_⟩
      show .command .stop ∈ (handle { d with queue := rest } now .sleepElapsed).effects
      rw [effects_handle]
      exact command_stop_mem_effects_route _ now
    · obtain ⟨hidle, hstop⟩ := ih (by rw [queue_handle]; exact List.mem_append_left _ h) hnox
      exact ⟨hidle, List.mem_append_right _ hstop⟩

/-! ### The events of a drain -/

/-- The events of a drain, each with the device that routes it. -/
def routings (d : Device π) (now : DateTime) : List (Device π × Event) :=
  match _h : d.queue with
  | [] => []
  | e :: rest => ({ d with queue := rest }, e) :: (handle { d with queue := rest } now e).value.routings now
termination_by weightOf d.queue
decreasing_by exact weightOf_handle_lt d now e rest _h

theorem routings_of_queue_eq_cons {d : Device π} {e : Event} {rest : List Event} (h : d.queue = e :: rest)
    (now : DateTime) :
    d.routings now =
      ({ d with queue := rest }, e) :: (handle { d with queue := rest } now e).value.routings now := by
  rw [routings]
  split
  · rename_i hq
    rw [h] at hq
    cases hq
  · rename_i e' rest' hq
    rw [h] at hq
    cases hq
    rfl

theorem alarmsChanged_mem_routed_iff (d : Device π) (now : DateTime) :
    .alarmsChanged ∈ (d.drain now).value.2 ↔ .alarmsChanged ∈ d.queue := by
  fun_induction drain d now with
  | case1 d h => rw [h]; rfl
  | case2 d e rest h x y ih =>
    have hnew : .alarmsChanged ∉ (route { d with queue := rest } now e).events := fun he =>
      (ne_of_mem_events_route he).1 rfl
    have hx : .alarmsChanged ∈ x.value.queue ↔ .alarmsChanged ∈ rest := by
      rw [queue_handle, List.mem_append]
      exact or_iff_left hnew
    rw [h, List.mem_cons, List.mem_cons, ← hx, ← ih]

/-! ### Turns -/

omit [Player π] in
@[simp] theorem commands_queueUp (x : Act (Device π)) : (queueUp x).commands = x.commands := rfl

omit [Player π] in
@[simp] theorem events_queueUp (x : Act (Device π)) : (queueUp x).events = x.events := rfl

/-- A device after a look at each of its timers, what they sent behind the events that wait. -/
def polled (d : Device π) (now : DateTime) : Device π :=
  (queueUp ((queueUp (Prod.fst <$> d.pollDispatcher now)).value.pollOthers now)).value

omit [Player π] in
@[simp] theorem store_polled (d : Device π) (now : DateTime) : (d.polled now).store = d.store := rfl

omit [Player π] in
@[simp] theorem dispatcher_polled (d : Device π) (now : DateTime) :
    (d.polled now).dispatcher = (d.dispatcher.poll d.store.alarms now).value.1 := rfl

omit [Player π] in
@[simp] theorem monitor_polled (d : Device π) (now : DateTime) :
    (d.polled now).monitor = (d.monitor.poll now).value := rfl

omit [Player π] in
@[simp] theorem sleepTimer_polled (d : Device π) (now : DateTime) :
    (d.polled now).sleepTimer = (d.sleepTimer.poll now).value := rfl

omit [Player π] in
theorem events_pollDispatcher (d : Device π) (now : DateTime) :
    (d.pollDispatcher now).events = (d.dispatcher.poll d.store.alarms now).events := by
  simp [pollDispatcher]

omit [Player π] in
theorem queue_polled (d : Device π) (now : DateTime) :
    (d.polled now).queue = d.queue ++ (d.dispatcher.poll d.store.alarms now).events ++
      ((d.monitor.poll now).events ++ (d.sleepTimer.poll now).events) := by
  rw [polled, queue_queueUp, ← events_pollDispatcher]
  simp [pollOthers, pollDispatcher, queueUp]

omit [Player π] in
/-- What the monitor and the sleep timer send on a look at the clock is the elapse of the sleep timer, if that is
due, and news. -/
theorem mem_events_pollOthers {d : Device π} {now : DateTime} {e : Event}
    (h : e ∈ (d.monitor.poll now).events ++ (d.sleepTimer.poll now).events) :
    (e = .sleepElapsed ∧ d.sleepTimer.countdown.isDue now = true) ∨ (∃ s, e = .monitorChanged s) ∨
      ∃ n, e = .remainingChanged n := by
  rcases List.mem_append.1 h with h | h
  · exact .inr (.inl ⟨_, Monitor.mem_events_poll h⟩)
  · exact (SleepTimer.mem_events_poll h).imp id .inr

omit [Player π] in
theorem ne_of_mem_events_pollOthers {d : Device π} {now : DateTime} {e : Event}
    (h : e ∈ (d.monitor.poll now).events ++ (d.sleepTimer.poll now).events) :
    e ≠ .alarmsChanged ∧ ∀ a, e ≠ .alarmTriggered a := by
  rcases mem_events_pollOthers h with ⟨rfl, -⟩ | ⟨s, rfl⟩ | ⟨n, rfl⟩
  all_goals simp

omit [Player π] in
theorem commands_pollDispatcher (d : Device π) (now : DateTime) : (d.pollDispatcher now).commands = [] := by
  simp [pollDispatcher, Dispatcher.commands_poll]

omit [Player π] in
theorem commands_pollOthers (d : Device π) (now : DateTime) : (d.pollOthers now).commands = [] := by
  simp [pollOthers, Monitor.commands_poll, SleepTimer.commands_poll]

/-- At the end of the calendar a turn stops after the dispatcher. -/
theorem turn_of_calendarEnd {d : Device π} {now : DateTime}
    (h : (d.dispatcher.poll d.store.alarms now).value.2 = .calendarEnd) :
    (d.turn now).value = ((queueUp (Prod.fst <$> d.pollDispatcher now)).value, none) := by
  have hend : (d.pollDispatcher now).value.2 = .calendarEnd := h
  simp only [turn, Act.value_bind]
  rw [if_pos hend]
  rfl

theorem value_turn {d : Device π} {now : DateTime}
    (h : (d.dispatcher.poll d.store.alarms now).value.2 ≠ .calendarEnd) :
    (d.turn now).value = (((d.polled now).drain now).value.1, some ((d.polled now).drain now).value.2) := by
  have hend : (d.pollDispatcher now).value.2 ≠ .calendarEnd := h
  simp only [turn, Act.value_bind]
  rw [if_neg hend]
  rfl

@[simp] theorem store_turn (d : Device π) (now : DateTime) : (d.turn now).value.1.store = d.store := by
  by_cases h : (d.dispatcher.poll d.store.alarms now).value.2 = .calendarEnd
  · rw [turn_of_calendarEnd h]
    rfl
  · rw [value_turn h, store_drain, store_polled]

theorem events_turn_of_calendarEnd {d : Device π} {now : DateTime}
    (h : (d.dispatcher.poll d.store.alarms now).value.2 = .calendarEnd) :
    (d.turn now).events = (d.dispatcher.poll d.store.alarms now).events := by
  have hend : (d.pollDispatcher now).value.2 = .calendarEnd := h
  simp only [turn, Act.events_bind, if_pos hend, events_queueUp]
  simp [events_pollDispatcher]

/-- A turn sends what its looks at the timers send, and then what the drain does. -/
theorem events_turn {d : Device π} {now : DateTime}
    (h : (d.dispatcher.poll d.store.alarms now).value.2 ≠ .calendarEnd) :
    (d.turn now).events = (d.dispatcher.poll d.store.alarms now).events ++
      ((d.monitor.poll now).events ++ (d.sleepTimer.poll now).events) ++ ((d.polled now).drain now).events := by
  have hend : (d.pollDispatcher now).value.2 ≠ .calendarEnd := h
  simp only [turn, Act.events_bind, if_neg hend, events_queueUp]
  simp [polled, pollOthers, pollDispatcher, queueUp]

/-- All the commands of a turn are given while the queue is drained. -/
theorem commands_turn {d : Device π} {now : DateTime}
    (h : (d.dispatcher.poll d.store.alarms now).value.2 ≠ .calendarEnd) :
    (d.turn now).commands = ((d.polled now).drain now).commands := by
  have hend : (d.pollDispatcher now).value.2 ≠ .calendarEnd := h
  simp only [turn, Act.commands_bind, if_neg hend]
  simp [polled, commands_pollDispatcher, commands_pollOthers]

end AlarmClock.Device
