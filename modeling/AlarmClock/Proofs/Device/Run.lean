import AlarmClock.Device.Operations
import AlarmClock.Proofs.Device.Drain
import AlarmClock.Proofs.Store.Announcing

/-! Runs of a device: any operations in any order, each at a clock of its own, from a device
that has just been set up. Between turns nothing but the store, the player and the
queue changes, apart from the countdowns that an operation arms and a silenced monitor. -/

namespace AlarmClock

/-- What can happen to a device: changes of its store, what it is asked to do, and changes around it. -/
inductive Operation (π : Type) where
  | add (a : Alarm)
  | delete (id : Uuid)
  | update (id : Uuid) (edit : Alarm → Alarm × Bool)
  | storeTimeout (timeout : Span)
  | newAlarm (id : Uuid) (media : Url) (time : TimeOfDay) (period : Period)
  | deleteAlarm (id : Uuid)
  | reschedule (id : Uuid) (time : TimeOfDay) (period : Period)
  | setEnabled (id : Uuid) (enabled : Bool)
  | setSleepTimeout (timeout : Span)
  | resetSleep
  | stopAlarm
  | playerEvent (e : PlayerEvent)
  | turn
  /-- The player is another one from now on, for instance one that refuses other commands. -/
  | playerBecomes (p : π)
  /-- Something else stands at the path of the file. -/
  | fileBecomes (c : FileContent)

namespace Device

variable {π : Type}

variable [Player π]

/-- The device after an operation. -/
def step (d : Device π) (now : DateTime) : Operation π → Device π
  | .add a => (d.withStore (d.store.add a)).value.state
  | .delete id => (d.withStore (d.store.delete id)).value.state
  | .update id edit => (d.withStore (d.store.update id edit)).value.state
  | .storeTimeout timeout => (d.withStore (d.store.setSleepTimeout timeout)).value.state
  | .newAlarm id media time period => (d.newAlarm id media time period).value.state
  | .deleteAlarm id => (d.deleteAlarm id).value.state
  | .reschedule id time period => (d.reschedule id time period).value.state
  | .setEnabled id enabled => (d.setEnabled id enabled).value.state
  | .setSleepTimeout timeout => (d.setSleepTimeout now timeout).value.state
  | .resetSleep => (d.resetSleep now).value
  | .stopAlarm => d.stopAlarm.value
  | .playerEvent e => (d.playerEvent e).value
  | .turn => (d.turn now).value.1
  | .playerBecomes p => { d with monitor := { d.monitor with player := p } }
  | .fileBecomes c => { d with store := { d.store with file := d.store.file.map fun f => { f with content := c } } }

/-- The device after operations in order, each with the clock at which it happens. -/
def run (d : Device π) (ops : List (DateTime × Operation π)) : Device π :=
  ops.foldl (fun d op => d.step op.1 op.2) d

omit [Player π] in
/-- A device that has just been set up with a queue in which events can wait already. -/
def boot (store : Store) (player : π) (settings : Settings) (waiting : List Event) (now : DateTime) : Device π :=
  let d := (start store player settings now).value
  { d with queue := waiting ++ d.queue }

/-! ### Armings of the sleep timer -/

/-- The spans with which an operation arms the sleep timer, in a turn one after another. -/
def armings (d : Device π) (now : DateTime) : Operation π → List Span
  | .setSleepTimeout timeout =>
    if (d.store.setSleepTimeout timeout).value.result.isOk ∧ d.sleepTimer.activity = .playing ∧
        d.sleepTimer.countdown.isActive then
      [timeout]
    else []
  | .resetSleep => [d.sleepTimeout]
  | .turn =>
    if (d.pollDispatcher now).value.2 = .calendarEnd then []
    else ((d.polled now).routings now).filterMap fun x => x.1.armedBy? x.2
  | _ => []

/-- The spans with which the sleep timer is armed in a run, each with its clock. -/
def runArmings (d : Device π) : List (DateTime × Operation π) → List (DateTime × Span)
  | [] => []
  | (now, op) :: ops => (d.armings now op).map (now, ·) ++ (d.step now op).runArmings ops

/-! ### A new timeout -/

omit [Player π] in
/-- A timeout that the store refuses leaves the device as it was; one that it takes, the sleep timer takes over. -/
theorem setSleepTimeout_cases (d : Device π) (now : DateTime) (timeout : Span) :
    (∃ e, (d.store.setSleepTimeout timeout).value.result = .error e ∧
      (d.setSleepTimeout now timeout).value = ⟨.error e, d⟩) ∨
    ∃ s, (d.store.setSleepTimeout timeout).value = ⟨.ok (), s⟩ ∧
      (d.setSleepTimeout now timeout).value = ⟨.ok (),
        { d with
          sleepTimer := (d.sleepTimer.timeoutChanged now timeout).value
          store := s
          queue := d.queue ++ (d.sleepTimer.timeoutChanged now timeout).events }⟩ := by
  rcases d.sleepTimer.setTimeout_cases d.store now timeout with ⟨e, he, hvalue, hevents⟩ | ⟨s, hs, hvalue, hevents⟩
  · exact .inl ⟨e, he, by simp [setSleepTimeout, withTimer, Attempt.map, hvalue, hevents]⟩
  · exact .inr ⟨s, hs, by simp [setSleepTimeout, withTimer, Attempt.map, hvalue, hevents]⟩

/-! ### Between turns -/

/-- What can become of a device between turns: its dispatcher stays, its alarms stay or are announced to have
changed, its monitor stays or comes to rest, and its sleep timer counts on or is armed. -/
structure Between (d e : Device π) (now : DateTime) (armed : List Span) : Prop where
  dispatcher_eq : e.dispatcher = d.dispatcher
  announces_eq : e.store.announces = d.store.announces
  queue_prefix : d.queue <+: e.queue
  alarms_eq : d.store.announces = true → e.store.alarms = d.store.alarms ∨ .alarmsChanged ∈ e.queue
  state_eq : e.monitor.state = d.monitor.state ∨ e.monitor.state = .idle
  countdown_eq : e.sleepTimer.countdown = d.sleepTimer.countdown ∨
    ∃ s ∈ armed, e.sleepTimer.countdown = Countdown.arm now s

omit [Player π] in
theorem between_refl (d : Device π) (now : DateTime) (armed : List Span) : d.Between d now armed :=
  ⟨rfl, rfl, List.prefix_rfl, fun _ => .inl rfl, .inl rfl, .inl rfl⟩

omit [Player π] in
theorem between_withStore {d : Device π} {x : Act (Attempt Unit Store)} (hx : d.store.Announced x)
    (now : DateTime) (armed : List Span) : d.Between (d.withStore x).value.state now armed where
  dispatcher_eq := rfl
  announces_eq := hx.1
  queue_prefix := List.prefix_append _ _
  alarms_eq ha := (hx.2 ha).imp_right (List.mem_append_right _)
  state_eq := .inl rfl
  countdown_eq := .inl rfl

/-- A new timeout arms the sleep timer only if the store takes it and playback is counted down. -/
theorem between_setSleepTimeout (d : Device π) (now : DateTime) (timeout : Span) :
    d.Between (d.setSleepTimeout now timeout).value.state now (d.armings now (.setSleepTimeout timeout)) := by
  rcases d.setSleepTimeout_cases now timeout with ⟨e, -, hvalue⟩ | ⟨s, hs, hvalue⟩
  · rw [hvalue]
    exact d.between_refl now _
  · obtain ⟨hann, -⟩ := d.store.announced_perform (.sleepTimeout timeout)
    have halarms := d.store.alarms_setSleepTimeout timeout
    rw [Change.perform, hs] at hann
    rw [hs] at halarms
    rw [hvalue]
    refine ⟨rfl, hann, List.prefix_append _ _, fun _ => .inl halarms, .inl rfl, ?_⟩
    by_cases hplay : d.sleepTimer.activity = .playing ∧ d.sleepTimer.countdown.isActive = true
    · right
      refine ⟨timeout, ?_, ?_⟩
      · simp [armings, hs, hplay, Except.isOk, Except.toBool]
      · simp [SleepTimer.timeoutChanged, hplay]
    · left
      simp [SleepTimer.timeoutChanged, hplay]

theorem between_step {op : Operation π} (h : op ≠ .turn) (d : Device π) (now : DateTime) :
    d.Between (d.step now op) now (d.armings now op) := by
  cases op with
  | add a => exact between_withStore (Store.announced_perform _ (.add a)) now _
  | delete id => exact between_withStore (Store.announced_perform _ (.delete id)) now _
  | update id edit => exact between_withStore (Store.announced_perform _ (.update id edit)) now _
  | storeTimeout timeout => exact between_withStore (Store.announced_perform _ (.sleepTimeout timeout)) now _
  | newAlarm id media time period => exact between_withStore (Store.announced_perform _ (.add _)) now _
  | deleteAlarm id => exact between_withStore (Store.announced_perform _ (.delete id)) now _
  | reschedule id time period => exact between_withStore (Store.announced_perform _ (.update id _)) now _
  | setEnabled id enabled => exact between_withStore (Store.announced_perform _ (.update id _)) now _
  | setSleepTimeout timeout => exact d.between_setSleepTimeout now timeout
  | resetSleep =>
    refine ⟨rfl, rfl, List.prefix_append _ _, fun _ => .inl rfl, .inl rfl, .inr ?_⟩
    exact ⟨d.sleepTimeout, List.mem_singleton_self _, rfl⟩
  | stopAlarm =>
    exact ⟨rfl, rfl, List.prefix_append _ _, fun _ => .inl rfl, .inr (Monitor.state_silence _), .inl rfl⟩
  | playerEvent e => exact ⟨rfl, rfl, List.prefix_append _ _, fun _ => .inl rfl, .inl rfl, .inl rfl⟩
  | turn => exact absurd rfl h
  | playerBecomes p => exact ⟨rfl, rfl, List.prefix_rfl, fun _ => .inl rfl, .inl rfl, .inl rfl⟩
  | fileBecomes c => exact ⟨rfl, rfl, List.prefix_rfl, fun _ => .inl rfl, .inl rfl, .inl rfl⟩

/-! ### A morning -/

/-- What a device on a bedside table is set up with. -/
def bedside : Settings := ⟨Span.ofSeconds 20 (by decide), (everyDay 0 0).media, .hours24⟩

/-- A device with alarms in memory and a player that keeps what it is told. -/
def morning (alarms : List Alarm) (now : DateTime) : Device RecordingPlayer :=
  boot (Store.inMemory { (default : Document) with alarms := alarms }).announcing {} bedside [] now

end Device

end AlarmClock
