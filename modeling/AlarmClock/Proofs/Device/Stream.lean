import AlarmClock.Proofs.Device.Routed
import AlarmClock.Proofs.News

/-! The stream of events that a device routes and shows to its subscribers. What is told in it keeps up
with the device as far as the queue has been routed. Main statement: whoever is shown the stream from
its beginning knows after every turn which text is shown and what the monitor is about, and is never
told the same thing twice in a row. -/

namespace AlarmClock.Device

variable {π σ : Type}

/-! ### What a device tells -/

/-- What is sent on the way from one device to another keeps up with the text and the state of the monitor. -/
structure Tells (d : Device π) (es : List Event) (e : Device π) : Prop where
  info : Leads d.upcomingInfo (es.filterMap Event.info?) e.upcomingInfo
  state : Leads d.monitor.state (es.filterMap Event.monitorState?) e.monitor.state

theorem Tells.trans {d e f : Device π} {es fs : List Event} (h : d.Tells es e) (h' : e.Tells fs f) :
    d.Tells (es ++ fs) f := by
  constructor
  · rw [List.filterMap_append]
    exact h.info.append h'.info
  · rw [List.filterMap_append]
    exact h.state.append h'.state

theorem tells_of_quiet {d e : Device π} {es : List Event} (h : ∀ x ∈ es, x.Quiet)
    (hinfo : e.upcomingInfo = d.upcomingInfo) (hstate : e.monitor.state = d.monitor.state) : d.Tells es e := by
  constructor
  · rw [Event.infos_of_quiet h]
    exact hinfo
  · rw [Event.monitorStates_of_quiet h]
    exact hstate

theorem tells_of_routine {d e : Device π} {es : List Event} (h : ∀ x ∈ es, x.Routine)
    (hinfo : e.upcomingInfo = d.upcomingInfo) (hstate : e.monitor.state = d.monitor.state) : d.Tells es e :=
  tells_of_quiet (fun x hx => (h x hx).quiet) hinfo hstate

theorem tells_of_dispatcher {d : Device π} {es : List Event} {x : Dispatcher} (h : d.dispatcher.Tells es x) :
    d.Tells es { d with dispatcher := x } := by
  refine ⟨h.info, ?_⟩
  rw [h.state]
  exact rfl

theorem tells_of_monitor {d : Device π} {x : Act (Monitor π)} (h : d.monitor.Tells x) :
    d.Tells x.events { d with monitor := x.value } := by
  refine ⟨?_, h.state⟩
  rw [h.info]
  exact rfl

/-! ### Routing -/

variable [Player π]

theorem tells_route (d : Device π) (now : DateTime) (e : Event) :
    d.Tells (d.route now e).events (d.route now e).value := by
  cases e with
  | alarmsChanged =>
    have hcheck := tells_of_dispatcher (d.dispatcher.tells_choose d.store.alarms now now)
    simpa [route, Dispatcher.check] using hcheck
  | alarmTriggered a =>
    have halarm := tells_of_monitor (d.monitor.tells_alarmTriggered now a)
    have hsleep := SleepTimer.routine_of_mem_start now a.timeout .alarm
    have hboth := halarm.trans (tells_of_routine (e := (d.route now (.alarmTriggered a)).value) hsleep rfl rfl)
    simpa [route, SleepTimer.alarmTriggered] using hboth
  | player e =>
    cases e with
    | changed s =>
      have hplayback := tells_of_monitor (d.monitor.tells_playbackChanged s)
      have hsleep := d.sleepTimer.routine_of_mem_playbackChanged now d.sleepTimeout s
      have hboth := hplayback.trans (tells_of_routine (e := (d.route now (.player (.changed s))).value) hsleep rfl rfl)
      simpa [route] using hboth
    | failed e =>
      have hfailed := tells_of_monitor (d.monitor.tells_playerFailed e)
      simpa [route] using hfailed
  | sleepElapsed =>
    have hsilence := tells_of_monitor d.monitor.tells_silence
    simpa [route] using hsilence
  | upcomingChanged info => exact ⟨rfl, rfl⟩
  | monitorChanged s => exact ⟨rfl, rfl⟩
  | remainingChanged n => exact ⟨rfl, rfl⟩
  | sleepTimeoutChanged s => exact ⟨rfl, rfl⟩

theorem tells_drain (d : Device π) (now : DateTime) : d.Tells (d.drain now).events (d.drain now).value.1 := by
  fun_induction drain d now with
  | case1 d h => exact ⟨rfl, rfl⟩
  | case2 d e rest h x y ih =>
    have hevents : (Act.mk (y.value.1, e :: y.value.2) (x.effects ++ y.effects)).events = x.events ++ y.events :=
      List.filterMap_append
    have hroute := tells_route { d with queue := rest } now e
    have hx : d.Tells x.events x.value := ⟨hroute.info, hroute.state⟩
    rw [hevents]
    exact hx.trans ih

omit [Player π] in
theorem tells_polled (d : Device π) (now : DateTime) :
    d.Tells ((d.dispatcher.poll d.store.alarms now).events ++
      ((d.monitor.poll now).events ++ (d.sleepTimer.poll now).events)) (d.polled now) := by
  have hdispatcher := tells_of_dispatcher (d.dispatcher.tells_poll d.store.alarms now)
  have hmonitor := tells_of_monitor (d := { d with dispatcher := (d.polled now).dispatcher }) (d.monitor.tells_poll now)
  have hsleep := d.sleepTimer.quiet_of_mem_poll now
  exact hdispatcher.trans (hmonitor.trans (tells_of_quiet (e := d.polled now) hsleep rfl rfl))

theorem tells_turn (d : Device π) (now : DateTime) : d.Tells (d.turn now).events (d.turn now).value.1 := by
  by_cases hend : (d.dispatcher.poll d.store.alarms now).value.2 = .calendarEnd
  · rw [events_turn_of_calendarEnd hend, turn_of_calendarEnd hend]
    have hdispatcher := tells_of_dispatcher (d.dispatcher.tells_poll d.store.alarms now)
    exact ⟨hdispatcher.info, hdispatcher.state⟩
  · rw [events_turn hend, value_turn hend]
    exact (d.tells_polled now).trans (tells_drain _ _)

/-! ### Between turns -/

/-- What was sent on the way from one device to another waits behind what waited before, and keeps up. -/
def Adds (d e : Device π) : Prop := ∃ es, e.queue = d.queue ++ es ∧ d.Tells es e

/-- On the way from one device to another only routine news were sent, and what it shows has stayed. -/
def Routinely (d e : Device π) : Prop :=
  ∃ es, e.queue = d.queue ++ es ∧ (∀ x ∈ es, x.Routine) ∧ e.upcomingInfo = d.upcomingInfo ∧
    e.monitor.state = d.monitor.state

omit [Player π] in
theorem routinely_of_same {d e : Device π} (hqueue : e.queue = d.queue) (hinfo : e.upcomingInfo = d.upcomingInfo)
    (hstate : e.monitor.state = d.monitor.state) : d.Routinely e :=
  ⟨[], by rw [hqueue, List.append_nil], List.forall_mem_nil _, hinfo, hstate⟩

omit [Player π] in
theorem routinely_withStore (d : Device π) (c : Change) :
    d.Routinely (d.withStore (c.perform d.store)).value.state :=
  ⟨_, rfl, Store.routine_of_mem_perform, rfl, rfl⟩

omit [Player π] in
theorem routinely_setSleepTimeout (d : Device π) (now : DateTime) (timeout : Span) :
    d.Routinely (d.setSleepTimeout now timeout).value.state := by
  rcases d.setSleepTimeout_cases now timeout with ⟨e, -, hvalue⟩ | ⟨s, -, hvalue⟩
  · rw [hvalue]
    exact routinely_of_same rfl rfl rfl
  · rw [hvalue]
    exact ⟨_, rfl, d.sleepTimer.routine_of_mem_timeoutChanged now timeout, rfl, rfl⟩

/-- Between turns all but a stopped alarm and a report of the player is routine. -/
theorem routinely_step {op : Operation π} (h : op ≠ .turn) (d : Device π) (now : DateTime) :
    d.Routinely (d.step now op) ∨ op = .stopAlarm ∨ ∃ p, op = .playerEvent p := by
  cases op with
  | add a => exact .inl (d.routinely_withStore (.add a))
  | delete id => exact .inl (d.routinely_withStore (.delete id))
  | update id edit => exact .inl (d.routinely_withStore (.update id edit))
  | storeTimeout timeout => exact .inl (d.routinely_withStore (.sleepTimeout timeout))
  | newAlarm id media time period => exact .inl (d.routinely_withStore (.add _))
  | deleteAlarm id => exact .inl (d.routinely_withStore (.delete id))
  | reschedule id time period => exact .inl (d.routinely_withStore (.update id _))
  | setEnabled id enabled => exact .inl (d.routinely_withStore (.update id _))
  | setSleepTimeout timeout => exact .inl (d.routinely_setSleepTimeout now timeout)
  | resetSleep => exact .inl ⟨_, rfl, SleepTimer.routine_of_mem_start now d.sleepTimeout .playing, rfl, rfl⟩
  | stopAlarm => exact .inr (.inl rfl)
  | playerEvent p => exact .inr (.inr ⟨p, rfl⟩)
  | turn => exact absurd rfl h
  | playerBecomes p => exact .inl (routinely_of_same rfl rfl rfl)
  | fileBecomes c => exact .inl (routinely_of_same rfl rfl rfl)

theorem queue_stopAlarm (d : Device π) : d.stopAlarm.value.queue = d.queue ++ d.monitor.silence.events := by
  simp [stopAlarm]

theorem adds_step {op : Operation π} (h : op ≠ .turn) (d : Device π) (now : DateTime) : d.Adds (d.step now op) := by
  rcases routinely_step h d now with ⟨es, hqueue, hroutine, hinfo, hstate⟩ | rfl | ⟨p, rfl⟩
  · exact ⟨es, hqueue, tells_of_routine hroutine hinfo hstate⟩
  · have hsilence := tells_of_monitor d.monitor.tells_silence
    exact ⟨_, d.queue_stopAlarm, hsilence.info, hsilence.state⟩
  · exact ⟨[.player p], rfl, rfl, rfl⟩

/-! ### The stream -/

/-- The events that an operation routes. -/
def routedBy (d : Device π) (now : DateTime) : Operation π → List Event
  | .turn => (d.turn now).value.2.getD []
  | _ => []

theorem routedBy_of_ne_turn {op : Operation π} (h : op ≠ .turn) (d : Device π) (now : DateTime) :
    d.routedBy now op = [] := by
  unfold routedBy
  split
  · exact absurd rfl h
  · rfl

/-- The events that are routed in a run, in order. -/
def runRouted (d : Device π) : List (DateTime × Operation π) → List Event
  | [] => []
  | (now, op) :: ops => d.routedBy now op ++ (d.step now op).runRouted ops

theorem stream_turn (d : Device π) (now : DateTime) :
    d.routedBy now .turn ++ (d.step now .turn).queue = d.queue ++ (d.turn now).events := by
  by_cases hend : (d.dispatcher.poll d.store.alarms now).value.2 = .calendarEnd
  · rw [routedBy, step, turn_of_calendarEnd hend, events_turn_of_calendarEnd hend, queue_queueUp, Act.events_map,
      events_pollDispatcher]
    rfl
  · rw [routedBy, step, value_turn hend, queue_drain, List.append_nil]
    exact routed_turn hend

/-- What an operation routes, and what waits after it, is what waited before and what was sent. -/
theorem exists_stream_step (d : Device π) (now : DateTime) (op : Operation π) :
    ∃ es, d.routedBy now op ++ (d.step now op).queue = d.queue ++ es ∧ d.Tells es (d.step now op) := by
  by_cases hop : op = .turn
  · subst hop
    exact ⟨(d.turn now).events, d.stream_turn now, d.tells_turn now⟩
  · rw [routedBy_of_ne_turn hop]
    exact adds_step hop d now

/-- A device and the stream that has led to it: what was routed and what still waits. -/
structure Told (d : Device π) (stream : List Event) : Prop where
  info : Leads "" (stream.filterMap Event.info?) d.upcomingInfo
  state : Leads .idle (stream.filterMap Event.monitorState?) d.monitor.state
  begun : stream.filterMap Event.info? ≠ []

omit [Player π] in
theorem Told.append {d e : Device π} {stream es : List Event} (h : d.Told stream) (hes : d.Tells es e) :
    e.Told (stream ++ es) := by
  refine ⟨?_, ?_, ?_⟩
  · rw [List.filterMap_append]
    exact h.info.append hes.info
  · rw [List.filterMap_append]
    exact h.state.append hes.state
  · rw [List.filterMap_append]
    exact fun hnil => h.begun (List.append_eq_nil_iff.1 hnil).1

theorem told_run {d : Device π} {routed : List Event} (h : d.Told (routed ++ d.queue))
    (ops : List (DateTime × Operation π)) : (d.run ops).Told (routed ++ d.runRouted ops ++ (d.run ops).queue) := by
  induction ops generalizing d routed with
  | nil =>
    rw [runRouted, List.append_nil]
    exact h
  | cons x ops ih =>
    obtain ⟨now, op⟩ := x
    obtain ⟨es, hes, htells⟩ := d.exists_stream_step now op
    have hstep : (d.step now op).Told (routed ++ d.routedBy now op ++ (d.step now op).queue) := by
      rw [List.append_assoc, hes, ← List.append_assoc]
      exact h.append htells
    have hrun := ih hstep
    rw [List.append_assoc routed] at hrun
    exact hrun

/-! ### The beginning -/

theorem upcomingText_ne_empty (face : ClockFace) (i : Option DateTime) : upcomingText face i ≠ "" := by
  cases i with
  | none => exact (by decide : noUpcomingText ≠ "")
  | some i =>
    intro h
    have hchars : i.labelChars face = [] := by
      have htext := congrArg String.toList h
      rwa [upcomingText, String.toList_ofList] at htext
    unfold DateTime.labelChars at hchars
    exact List.cons_ne_nil _ _ (List.append_eq_nil_iff.1 hchars).2

theorem info_check_ne_empty (d : Dispatcher) (alarms : List Alarm) (now : DateTime) :
    (d.check alarms now).value.info ≠ "" := by
  unfold Dispatcher.check
  cases hu : upcoming? alarms now with
  | none =>
    rw [Dispatcher.value_choose_of_none hu]
    exact upcomingText_ne_empty d.face none
  | some x =>
    rw [Dispatcher.value_choose_of_some hu]
    exact upcomingText_ne_empty d.face (some x.2)

omit [Player π] in
theorem queue_boot (store : Store) (player : π) (settings : Settings) (waiting : List Event) (begin : DateTime) :
    (boot store player settings waiting begin).queue =
      waiting ++ (Dispatcher.check { face := settings.face } store.alarms begin).events := by
  simp [boot, start]

omit [Player π] in
/-- Setting a device up is told at once. -/
theorem told_boot (store : Store) (player : π) (settings : Settings) {waiting : List Event}
    (hwaiting : ∀ e ∈ waiting, e.Quiet) (begin : DateTime) :
    (boot store player settings waiting begin).Told (boot store player settings waiting begin).queue := by
  have hcheck := Dispatcher.tells_choose { face := settings.face } store.alarms begin begin
  rw [queue_boot]
  refine ⟨?_, ?_, ?_⟩
  · rw [List.filterMap_append, Event.infos_of_quiet hwaiting]
    exact hcheck.info
  · rw [List.filterMap_append, Event.monitorStates_of_quiet hwaiting, Dispatcher.check, hcheck.state]
    exact rfl
  · rw [List.filterMap_append, Event.infos_of_quiet hwaiting]
    intro hnil
    have hinfo := hcheck.info
    rw [← Dispatcher.check, List.append_eq_nil_iff.1 hnil |>.2] at hinfo
    exact info_check_ne_empty _ _ _ hinfo

/-! ### Subscribers -/

/-- One operation before subscribers, who are shown what it routes. If an alarm fires at the end of the calendar the
turn stops before it routes anything. -/
def stepBefore (x : Device π × List (Subscriber σ)) (now : DateTime) :
    Operation π → Device π × List (Subscriber σ)
  | .turn =>
    match (x.1.turnBefore now x.2).value with
    | none => ((x.1.turn now).value.1, x.2)
    | some y => (y.device, y.audience)
  | op => (x.1.step now op, x.2)

def runBefore (d : Device π) (audience : List (Subscriber σ)) (ops : List (DateTime × Operation π)) :
    Device π × List (Subscriber σ) :=
  ops.foldl (fun x op => stepBefore x op.1 op.2) (d, audience)

theorem runBefore_concat (d : Device π) (audience : List (Subscriber σ)) (ops : List (DateTime × Operation π))
    (now : DateTime) (op : Operation π) :
    d.runBefore audience (ops ++ [(now, op)]) = stepBefore (d.runBefore audience ops) now op := by
  simp [runBefore]

theorem stepBefore_eq (d : Device π) (audience : List (Subscriber σ)) (now : DateTime) (op : Operation π) :
    stepBefore (d, audience) now op =
      (d.step now op, audience.map fun s => { s with state := (d.routedBy now op).foldl s.hear s.state }) := by
  unfold stepBefore
  split
  · rw [turnBefore_eq, Act.value_map, routedBy, step]
    cases (d.turn now).value.2 with
    | none => simp
    | some routed => rfl
  · rename_i hop
    rw [routedBy_of_ne_turn hop]
    simp

theorem runBefore_eq (d : Device π) (audience : List (Subscriber σ)) (ops : List (DateTime × Operation π)) :
    d.runBefore audience ops =
      (d.run ops, audience.map fun s => { s with state := (d.runRouted ops).foldl s.hear s.state }) := by
  induction ops generalizing d audience with
  | nil => simp [runBefore, run, runRouted]
  | cons x ops ih =>
    obtain ⟨now, op⟩ := x
    have hstep : d.runBefore audience ((now, op) :: ops) =
        (d.step now op).runBefore
          (audience.map fun s => { s with state := (d.routedBy now op).foldl s.hear s.state }) ops := by
      rw [runBefore, List.foldl_cons, stepBefore_eq]
      rfl
    rw [hstep, ih, runRouted, List.map_map]
    simp [run, Function.comp_def, List.foldl_append]

theorem queue_turn_of_some {d : Device π} {now : DateTime} {routed : List Event}
    (h : (d.turn now).value.2 = some routed) : (d.turn now).value.1.queue = [] := by
  by_cases hend : (d.dispatcher.poll d.store.alarms now).value.2 = .calendarEnd
  · rw [turn_of_calendarEnd hend] at h
    cases h
  · rw [value_turn hend]
    exact queue_drain _ _

/-- Whatever has been done to a device since it was set up with a queue that told nothing of it: after every turn that
ends, the last text that its subscribers were told is the one that it shows, and the last state that they were told,
at rest if none, is that of its monitor. And in all that they were shown no text and no state comes twice in a row. -/
theorem audience_knows (store : Store) (player : π) (settings : Settings) {waiting : List Event}
    (hwaiting : ∀ e ∈ waiting, e.Quiet) (begin : DateTime) (ops : List (DateTime × Operation π))
    (audience : List (Subscriber σ)) {d : Device π} {before : List (Subscriber σ)}
    (hrun : (boot store player settings waiting begin).runBefore audience ops = (d, before)) {now : DateTime}
    {x : Handled π σ} (hturn : (d.turnBefore now before).value = some x) :
    let heard := (boot store player settings waiting begin).runRouted (ops ++ [(now, .turn)])
    x.audience = audience.map (fun s => { s with state := heard.foldl s.hear s.state }) ∧
      (heard.filterMap Event.info?).getLast? = some x.device.upcomingInfo ∧
      (heard.filterMap Event.monitorState?).getLast?.getD .idle = x.device.monitor.state ∧
      (heard.filterMap Event.info?).IsChain (· ≠ ·) ∧ (heard.filterMap Event.monitorState?).IsChain (· ≠ ·) := by
  intro heard
  have hlast : (boot store player settings waiting begin).runBefore audience (ops ++ [(now, .turn)]) =
      (x.device, x.audience) := by
    rw [runBefore_concat, hrun, stepBefore, hturn]
  rw [runBefore_eq, Prod.mk.injEq] at hlast
  obtain ⟨hdevice, haudience⟩ := hlast
  have hqueue : x.device.queue = [] := by
    rw [turnBefore_eq, Act.value_map] at hturn
    obtain ⟨routed, hrouted, rfl⟩ := Option.map_eq_some_iff.1 hturn
    exact queue_turn_of_some hrouted
  have htold : x.device.Told heard := by
    have hboot : (boot store player settings waiting begin).Told
        ([] ++ (boot store player settings waiting begin).queue) := told_boot store player settings hwaiting begin
    have hall := told_run hboot (ops ++ [(now, .turn)])
    rwa [hdevice, hqueue, List.append_nil] at hall
  refine ⟨haudience.symm, ?_, htold.state.getLast?_getD, htold.info.isChain_cons.tail, htold.state.isChain_cons.tail⟩
  obtain ⟨text, htext⟩ := Option.isSome_iff_exists.1 (List.getLast?_isSome.2 htold.begun)
  have hinfo := htold.info.getLast?_getD
  rw [htext] at hinfo ⊢
  exact congrArg some hinfo

/-- An alarm plays and is stopped by the user, before a subscriber who records what it hears. -/
theorem knows_after_stopped_alarm :
    let b := morning [everyDay 1 525] (wednesday 524)
    let ops := [(wednesday 525, .turn), (wednesday 525, .playerEvent (.changed .playing)), (wednesday 525, .turn),
      (wednesday 527, .stopAlarm)]
    let heard := b.runRouted (ops ++ [(wednesday 528, .turn)])
    ∃ x, ((b.run ops).turnBefore (wednesday 528) (b.runBefore [Subscriber.recorder] ops).2).value = some x ∧
      x.audience.map (·.state) = [heard] ∧
      (heard.filterMap Event.info?).getLast? = some x.device.upcomingInfo ∧
      (heard.filterMap Event.monitorState?).getLast?.getD .idle = x.device.monitor.state ∧
      heard.filterMap Event.info? = ["Wed 08:45", "Thu 08:45"] ∧
      heard.filterMap Event.monitorState? = [.expecting, .active, .idle] := by
  intro b ops heard
  have hrun : b.runBefore [Subscriber.recorder] ops = (b.run ops, (b.runBefore [Subscriber.recorder] ops).2) := by
    rw [runBefore_eq]
  have hsome : ((b.run ops).turnBefore (wednesday 528)
      (b.runBefore [Subscriber.recorder] ops).2).value.isSome = true := by
    decide +kernel
  have hinfos : heard.filterMap Event.info? = ["Wed 08:45", "Thu 08:45"] := by decide +kernel
  have hstates : heard.filterMap Event.monitorState? = [.expecting, .active, .idle] := by decide +kernel
  obtain ⟨x, hx⟩ := Option.isSome_iff_exists.1 hsome
  have hquiet : ∀ e ∈ ([] : List Event), e.Quiet := by decide
  obtain ⟨haudience, hinfo, hstate, -, -⟩ := audience_knows _ _ _ hquiet _ ops [Subscriber.recorder] hrun hx
  have hrecord : x.audience.map (·.state) = [heard.foldl Subscriber.recorder.hear Subscriber.recorder.state] :=
    congrArg (List.map Subscriber.state) haudience
  rw [Subscriber.foldl_recorder] at hrecord
  exact ⟨x, hx, hrecord, hinfo, hstate, hinfos, hstates⟩

end AlarmClock.Device
