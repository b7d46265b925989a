import AlarmClock.Proofs.Device.Stream

/-! Devices whose player does at once what it is told. It takes up every alarm and says so, and what it says
waits in the queue for as long as the alarm is expected. Main statement: unless a failure is reported from
outside, every turn leaves the monitor at rest or with an alarm that plays, and nothing in a run ever leads
to the fallback. -/

namespace AlarmClock

/-- An event that tells neither of a failure of the player nor of the fallback. -/
def Event.Harmless : Event → Prop
  | .monitorChanged s => s ≠ .fallback
  | .player (.failed _) => False
  | _ => True

theorem Event.Harmless.ne_failed {e : Event} (h : e.Harmless) (err : PlayerError) : e ≠ .player (.failed err) := by
  rintro rfl
  exact h

theorem Event.Routine.harmless {e : Event} (h : e.Routine) : e.Harmless := by
  cases h <;> trivial

theorem Event.harmless_monitorChanged {s : MonitorState} (h : s ≠ .fallback) : (monitorChanged s).Harmless := h

theorem Dispatcher.harmless_of_mem_poll {d : Dispatcher} {alarms : List Alarm} {now : DateTime} :
    ∀ e ∈ (d.poll alarms now).events, e.Harmless := by
  intro e he
  rcases mem_events_poll he with ⟨a, rfl⟩ | ⟨info, rfl⟩ <;> trivial

/-! ### Monitors with such a player -/

namespace Monitor

/-- The player refuses no alarm, and says that it plays. -/
theorem giveAll_alarmCommands (p : LoggingPlayer) (a : Alarm) :
    (giveAll p (alarmCommands a)).value.2 = none ∧
      (giveAll p (alarmCommands a)).events = [.player (.changed .playing)] := ⟨rfl, rfl⟩

theorem state_alarmTriggered_of_logging (m : Monitor LoggingPlayer) (now : DateTime) (a : Alarm) :
    (m.alarmTriggered now a).value.state = .expecting := by
  obtain ⟨hnone, -⟩ := giveAll_alarmCommands (m.enter .expecting).value.player a
  simp [alarmTriggered, command, hnone]

theorem events_alarmTriggered_of_logging (m : Monitor LoggingPlayer) (now : DateTime) (a : Alarm) :
    (m.alarmTriggered now a).events = (m.enter .expecting).events ++ [.player (.changed .playing)] := by
  obtain ⟨hnone, hevents⟩ := giveAll_alarmCommands (m.enter .expecting).value.player a
  simp [alarmTriggered, command, hnone, hevents]

theorem harmless_of_mem_silence {m : Monitor LoggingPlayer} : ∀ e ∈ m.silence.events, e.Harmless := by
  intro e he
  rcases mem_events_silence he with rfl | ⟨s, rfl⟩
  · exact Event.harmless_monitorChanged (by decide)
  · trivial

end Monitor

namespace Device

variable {d : Device LoggingPlayer} {now : DateTime} {e : Event}

/-! ### Routing -/

/-- Only when a failure is routed can something be sent that tells of a failure or of the fallback. -/
theorem harmless_of_mem_route (he : ∀ err, e ≠ .player (.failed err)) : ∀ x ∈ (d.route now e).events, x.Harmless := by
  intro x hx
  cases e with
  | alarmsChanged =>
    have hchoose : x ∈ (d.dispatcher.choose d.store.alarms now now).events := by
      simpa [route, Dispatcher.check] using hx
    obtain ⟨info, rfl⟩ := Dispatcher.mem_events_choose hchoose
    trivial
  | alarmTriggered a =>
    have hparts : x ∈ (d.monitor.alarmTriggered now a).events ∨ x ∈ (SleepTimer.start now a.timeout .alarm).events := by
      simpa [route, SleepTimer.alarmTriggered] using hx
    rcases hparts with hmonitor | hsleep
    · rw [Monitor.events_alarmTriggered_of_logging, List.mem_append, List.mem_singleton] at hmonitor
      rcases hmonitor with henter | rfl
      · rw [Monitor.mem_events_enter henter]
        exact Event.harmless_monitorChanged (by decide)
      · trivial
    · exact (SleepTimer.routine_of_mem_start _ _ _ x hsleep).harmless
  | player p =>
    cases p with
    | failed err => exact absurd rfl (he err)
    | changed s =>
      have hparts : x ∈ (d.monitor.playbackChanged s).events ∨
          x ∈ (d.sleepTimer.playbackChanged now d.sleepTimeout s).events := by
        simpa [route] using hx
      rcases hparts with hmonitor | hsleep
      · rcases Monitor.mem_events_playbackChanged hmonitor with rfl | rfl
        · exact Event.harmless_monitorChanged (by decide)
        · exact Event.harmless_monitorChanged (by decide)
      · exact (SleepTimer.routine_of_mem_playbackChanged _ _ _ _ x hsleep).harmless
  | sleepElapsed =>
    have hsilence : x ∈ d.monitor.silence.events := by
      simpa [route] using hx
    exact Monitor.harmless_of_mem_silence x hsilence
  | upcomingChanged info => simp [route] at hx
  | monitorChanged s => cases hx
  | remainingChanged n => cases hx
  | sleepTimeoutChanged s => cases hx

/-- Only a failure leads to the fallback. -/
theorem state_route_ne_fallback (he : ∀ err, e ≠ .player (.failed err)) (hd : d.monitor.state ≠ .fallback) :
    (d.route now e).value.monitor.state ≠ .fallback := by
  rcases d.monitor_route_cases now e with ⟨a, -, hm⟩ | ⟨s, -, hm⟩ | ⟨err, rfl, -⟩ | ⟨-, hm⟩ | ⟨-, hm⟩
  · rw [hm, Monitor.state_alarmTriggered_of_logging]
    decide
  · rw [hm, Ne, Monitor.state_playbackChanged_eq_fallback_iff]
    exact hd
  · exact absurd rfl (he err)
  · rw [hm, Monitor.state_silence]
    decide
  · rw [hm]
    exact hd

/-- An alarm is expected only if it has just been taken up, or before the player has said that it plays. -/
theorem playing_mem_of_expecting (he : ∀ err, e ≠ .player (.failed err))
    (h : (d.route now e).value.monitor.state = .expecting) :
    .player (.changed .playing) ∈ (d.route now e).events ∨
      d.monitor.state = .expecting ∧ e ≠ .player (.changed .playing) := by
  rcases d.monitor_route_cases now e with ⟨a, rfl, -⟩ | ⟨s, rfl, hm⟩ | ⟨err, rfl, -⟩ | ⟨-, hm⟩ | ⟨hother, hm⟩
  · left
    simp [route, Monitor.events_alarmTriggered_of_logging]
  · rw [hm, Monitor.state_playbackChanged_eq_expecting_iff] at h
    exact .inr ⟨h.1, by simpa using h.2⟩
  · exact absurd rfl (he err)
  · rw [hm, Monitor.state_silence] at h
    cases h
  · rw [hm] at h
    exact .inr ⟨h, hother _⟩

/-! ### Turns -/

/-- A device on its way through a turn: no failure waits, and what the player says of an expected alarm does. -/
structure Settling (d : Device LoggingPlayer) : Prop where
  state_ne : d.monitor.state ≠ .fallback
  playing_mem : d.monitor.state = .expecting → .player (.changed .playing) ∈ d.queue
  ne_failed : ∀ e ∈ d.queue, ∀ err, e ≠ .player (.failed err)

/-- A device between turns: no failure waits, and no alarm is expected. -/
structure Settled (d : Device LoggingPlayer) : Prop where
  state_eq : d.monitor.state = .idle ∨ d.monitor.state = .active
  ne_failed : ∀ e ∈ d.queue, ∀ err, e ≠ .player (.failed err)

theorem Settling.handle {rest : List Event} (h : d.Settling) (hq : d.queue = e :: rest) (now : DateTime) :
    (handle { d with queue := rest } now e).value.Settling ∧
      ∀ x ∈ (handle { d with queue := rest } now e).events, x.Harmless := by
  have hfailed := h.ne_failed
  rw [hq] at hfailed
  obtain ⟨he, hrest⟩ := List.forall_mem_cons.1 hfailed
  have hnew : ∀ x ∈ (route { d with queue := rest } now e).events, x.Harmless := harmless_of_mem_route he
  refine ⟨⟨state_route_ne_fallback he h.state_ne, fun hexpecting => ?_, ?_⟩, hnew⟩
  · rw [queue_handle]
    rcases playing_mem_of_expecting he hexpecting with hsent | ⟨hbefore, hother⟩
    · exact List.mem_append_right _ hsent
    · -- it has been expected before, and the event that was handled is not the one it waits for
      have hwaits := h.playing_mem hbefore
      rw [hq] at hwaits
      exact List.mem_append_left _ (List.mem_of_ne_of_mem (Ne.symm hother) hwaits)
  · rw [queue_handle]
    exact List.forall_mem_append.2 ⟨hrest, fun x hx => (hnew x hx).ne_failed⟩

/-- With an empty queue nothing is expected any more. -/
theorem Settling.drain (h : d.Settling) (now : DateTime) :
    (d.drain now).value.1.Settled ∧ ∀ x ∈ (d.drain now).events, x.Harmless := by
  have hdrain : (d.drain now).value.1.Settling ∧
      ∀ f ∈ (d.drain now).effects, ∀ x, f = .event x → x.Harmless := by
    refine drain_safe (Q := fun f => ∀ x, f = .event x → x.Harmless) (fun x e rest hq hx => ?_) h
    obtain ⟨hkept, hnew⟩ := hx.handle hq now
    refine ⟨hkept, ?_⟩
    rintro f hf y rfl
    exact hnew y (Act.mem_events.2 hf)
  obtain ⟨hend, hsent⟩ := hdrain
  refine ⟨⟨?_, hend.ne_failed⟩, fun x hx => hsent _ (Act.mem_events.1 hx) x rfl⟩
  have hempty := hend.playing_mem
  rw [queue_drain] at hempty
  cases hstate : (d.drain now).value.1.monitor.state with
  | idle => exact .inl rfl
  | active => exact .inr rfl
  | expecting => exact absurd (hempty hstate) List.not_mem_nil
  | fallback => exact absurd hstate hend.state_ne

theorem Settling.state_ne_of_mem_routings (h : d.Settling) (now : DateTime) :
    ∀ x ∈ d.routings now, x.1.monitor.state ≠ .fallback := by
  fun_induction routings d now with
  | case1 d hq => exact List.forall_mem_nil _
  | case2 d e rest hq ih => exact List.forall_mem_cons.2 ⟨h.state_ne, ih (h.handle hq now).1⟩

theorem harmless_of_mem_pollOthers :
    ∀ x ∈ (d.monitor.poll now).events ++ (d.sleepTimer.poll now).events, x.Harmless := by
  intro x hx
  rcases List.mem_append.1 hx with hmonitor | hsleep
  · rw [Monitor.mem_events_poll hmonitor]
    exact Event.harmless_monitorChanged (by decide)
  · rcases SleepTimer.mem_events_poll hsleep with ⟨rfl, -⟩ | ⟨n, rfl⟩ <;> trivial

theorem Settled.polled (h : d.Settled) (now : DateTime) : (d.polled now).Settling := by
  have hstate : (d.polled now).monitor.state = .idle ∨ (d.polled now).monitor.state = .active := by
    rw [monitor_polled]
    rcases d.monitor.state_poll now with hsame | hidle
    · rw [hsame]
      exact h.state_eq
    · exact .inl hidle
  refine ⟨?_, ?_, ?_⟩
  · rcases hstate with hs | hs <;> rw [hs] <;> decide
  · intro hexpecting
    rcases hstate with hs | hs
    · exact absurd (hs.symm.trans hexpecting) (by decide)
    · exact absurd (hs.symm.trans hexpecting) (by decide)
  · rw [queue_polled]
    refine List.forall_mem_append.2 ⟨List.forall_mem_append.2 ⟨h.ne_failed, fun x hx => ?_⟩, fun x hx => ?_⟩
    · exact (Dispatcher.harmless_of_mem_poll x hx).ne_failed
    · exact (harmless_of_mem_pollOthers x hx).ne_failed

theorem Settled.turn (h : d.Settled) (now : DateTime) :
    (d.turn now).value.1.Settled ∧ ∀ x ∈ (d.turn now).events, x.Harmless := by
  by_cases hend : (d.dispatcher.poll d.store.alarms now).value.2 = .calendarEnd
  · -- the turn stops after the dispatcher, and what that has sent waits
    rw [turn_of_calendarEnd hend, events_turn_of_calendarEnd hend]
    refine ⟨⟨h.state_eq, ?_⟩, Dispatcher.harmless_of_mem_poll⟩
    rw [queue_queueUp, Act.events_map, events_pollDispatcher]
    refine List.forall_mem_append.2 ⟨h.ne_failed, fun x hx => ?_⟩
    exact (Dispatcher.harmless_of_mem_poll x hx).ne_failed
  · rw [value_turn hend, events_turn hend]
    obtain ⟨hsettled, hdrain⟩ := (h.polled now).drain now
    refine ⟨hsettled, List.forall_mem_append.2 ⟨?_, hdrain⟩⟩
    exact List.forall_mem_append.2 ⟨Dispatcher.harmless_of_mem_poll, harmless_of_mem_pollOthers⟩

/-! ### Runs -/

/-- What an operation between turns sends is harmless, unless it is the report of a failure. -/
theorem exists_harmless_step {op : Operation LoggingPlayer} (hop : op ≠ .turn)
    (hfailed : ∀ err, op ≠ .playerEvent (.failed err)) (d : Device LoggingPlayer) (now : DateTime) :
    ∃ es, (d.step now op).queue = d.queue ++ es ∧ ∀ x ∈ es, x.Harmless := by
  rcases routinely_step hop d now with ⟨es, hqueue, hroutine, -, -⟩ | rfl | ⟨p, rfl⟩
  · exact ⟨es, hqueue, fun x hx => (hroutine x hx).harmless⟩
  · exact ⟨_, d.queue_stopAlarm, Monitor.harmless_of_mem_silence⟩
  · refine ⟨[.player p], rfl, List.forall_mem_singleton.2 ?_⟩
    cases p with
    | changed s => trivial
    | failed err => exact absurd rfl (hfailed err)

theorem Settled.step {op : Operation LoggingPlayer} (h : d.Settled)
    (hfailed : ∀ err, op ≠ .playerEvent (.failed err)) (now : DateTime) :
    (d.step now op).Settled ∧
      ∃ es, d.routedBy now op ++ (d.step now op).queue = d.queue ++ es ∧ ∀ x ∈ es, x.Harmless := by
  by_cases hop : op = .turn
  · subst hop
    obtain ⟨hsettled, hsent⟩ := h.turn now
    exact ⟨hsettled, (d.turn now).events, d.stream_turn now, hsent⟩
  · obtain ⟨es, hqueue, hes⟩ := exists_harmless_step hop hfailed d now
    refine ⟨⟨?_, ?_⟩, es, by rw [routedBy_of_ne_turn hop]; exact hqueue, hes⟩
    · rcases (between_step hop d now).state_eq with hstate | hidle
      · rw [hstate]
        exact h.state_eq
      · exact .inl hidle
    · rw [hqueue]
      exact List.forall_mem_append.2 ⟨h.ne_failed, fun x hx => (hes x hx).ne_failed⟩

theorem Settled.run {ops : List (DateTime × Operation LoggingPlayer)} (h : d.Settled)
    (hops : ∀ op ∈ ops, ∀ err, op.2 ≠ .playerEvent (.failed err)) :
    (d.run ops).Settled ∧
      ∃ es, d.runRouted ops ++ (d.run ops).queue = d.queue ++ es ∧ ∀ x ∈ es, x.Harmless := by
  induction ops generalizing d with
  | nil => exact ⟨h, [], (List.append_nil _).symm, List.forall_mem_nil _⟩
  | cons x ops ih =>
    obtain ⟨now, op⟩ := x
    obtain ⟨hop, hops⟩ := List.forall_mem_cons.1 hops
    obtain ⟨hstep, es, hes, hsent⟩ := h.step hop now
    obtain ⟨hrun, es', hes', hsent'⟩ := ih hstep hops
    refine ⟨hrun, es ++ es', ?_, List.forall_mem_append.2 ⟨hsent, hsent'⟩⟩
    calc d.runRouted ((now, op) :: ops) ++ (d.run ((now, op) :: ops)).queue
        = d.routedBy now op ++ ((d.step now op).runRouted ops ++ ((d.step now op).run ops).queue) :=
          List.append_assoc _ _ _
      _ = d.queue ++ es ++ es' := by rw [hes', ← List.append_assoc, hes]
      _ = d.queue ++ (es ++ es') := List.append_assoc _ _ _

/-- Whatever is done to a device with a player that does at once what it is told, as long as nobody reports a failure:
the monitor is at rest or with an alarm that plays, no event that tells of the fallback is ever sent, and also
in the middle of a turn the fallback is never played. -/
theorem settles_without_fallback (store : Store) (player : LoggingPlayer) (settings : Settings) {waiting : List Event}
    (hwaiting : ∀ err, .player (.failed err) ∉ waiting) (begin : DateTime)
    {ops : List (DateTime × Operation LoggingPlayer)}
    (hops : ∀ op ∈ ops, ∀ err, op.2 ≠ .playerEvent (.failed err)) :
    let b := boot store player settings waiting begin
    let d := b.run ops
    (d.monitor.state = .idle ∨ d.monitor.state = .active) ∧
      (∃ sent, b.runRouted ops ++ d.queue = waiting ++ sent ∧ .monitorChanged .fallback ∉ sent) ∧
      ∀ now, ∀ x ∈ (d.polled now).routings now, x.1.monitor.state ≠ .fallback := by
  intro b d
  have hchecked : ∀ x ∈ (Dispatcher.check { face := settings.face } store.alarms begin).events, x.Harmless := by
    intro x hx
    obtain ⟨info, rfl⟩ := Dispatcher.mem_events_choose hx
    trivial
  have hb : b.Settled := by
    refine ⟨.inl rfl, ?_⟩
    rw [queue_boot]
    refine List.forall_mem_append.2 ⟨?_, fun x hx => (hchecked x hx).ne_failed⟩
    rintro x hx err rfl
    exact hwaiting err hx
  obtain ⟨hd, es, hes, hsent⟩ := hb.run hops
  have hall := List.forall_mem_append.2 ⟨hchecked, hsent⟩
  refine ⟨hd.state_eq, ⟨_, ?_, fun hfallback => hall _ hfallback rfl⟩,
    fun now => (hd.polled now).state_ne_of_mem_routings now⟩
  rw [hes, queue_boot, List.append_assoc]

/-- The alarm of 08:45 is expected and plays before the turn of 08:45 has ended. -/
theorem settles_with_alarm_playing :
    let b : Device LoggingPlayer := boot (Store.inMemory { (default : Document) with alarms := [everyDay 1 525] })
      {} bedside [] (wednesday 524)
    let ops : List (DateTime × Operation LoggingPlayer) := [(wednesday 524, .turn), (wednesday 525, .turn)]
    .monitorChanged .expecting ∈ b.runRouted ops ∧ (b.run ops).monitor.state = .active := by
  intro b ops
  have hexpected : .monitorChanged .expecting ∈ b.runRouted ops := by decide +kernel
  have hops : ∀ op ∈ ops, ∀ err, op.2 ≠ .playerEvent (.failed err) := by simp [ops]
  obtain ⟨hstate, -⟩ := settles_without_fallback _ {} bedside (fun err => List.not_mem_nil) (wednesday 524) hops
  refine ⟨hexpected, hstate.resolve_left ?_⟩
  decide +kernel

end Device

end AlarmClock
