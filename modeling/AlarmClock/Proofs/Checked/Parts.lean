import AlarmClock.Proofs.Checked.Times
import AlarmClock.Proofs.Dispatcher.Choice
import AlarmClock.SleepTimer

/-! The dispatcher, the sleep timer and the store at work with numbers of bounded size. What they do comes out as it
does without bounds, with the same effects; only the dispatcher stops, when it fires without an instant one second
later. -/

namespace AlarmClock

/-- An act whose numbers are of bounded size. What was done before an overflow has been done. -/
abbrev Checked (α : Type) := ExceptT Overflow Act α

namespace Checked

variable {α β : Type}

theorem liftM_ok (a : α) : (liftM (Except.ok a : Except Overflow α) : Checked α) = pure a := rfl

theorem run_liftM (x : Act α) : (liftM x : Checked α).run = ⟨.ok x.value, x.effects⟩ := Act.map_eq _ x

/-! ### The dispatcher -/

/-- Chooses the alarm that is upcoming at `reference` and arms the countdown for it. -/
def choose (d : Dispatcher) (alarms : List Alarm) (reference now : DateTime) : Checked Dispatcher := do
  match ← upcoming alarms reference with
  | some (a, instant) => do
    if d.upcoming ≠ some a.id then note (.nextAlarm a.id instant)
    let countdown ← armUntil now instant
    Dispatcher.publish { d with upcoming := some a.id, countdown := countdown } (upcomingText d.face (some instant))
  | none => do
    if d.upcoming.isSome || d.countdown.isActive then note .noAlarm
    Dispatcher.publish { d with upcoming := none, countdown := d.countdown.cancel } (upcomingText d.face none)

/-- Looks at the clock, and fires if the countdown is due. -/
def poll (d : Dispatcher) (alarms : List Alarm) (now : DateTime) : Checked Dispatcher :=
  if d.countdown.isDue now then do
    let d := { d with countdown := d.countdown.cancel }
    d.fire alarms now
    let second ← seconds 1
    let reference ← later now second
    choose d alarms reference now
  else pure d

theorem choose_eq (d : Dispatcher) (alarms : List Alarm) (reference now : DateTime) :
    choose d alarms reference now = liftM (d.choose alarms reference now) := by
  rw [choose, Dispatcher.choose, upcoming_eq, liftM_ok, pure_bind]
  cases upcoming? alarms reference with
  | none => simp only [liftM_bind, apply_ite liftM]
  | some u => simp only [armUntil_eq, liftM_ok, pure_bind, liftM_bind, apply_ite liftM]

theorem poll_eq {d : Dispatcher} {now : DateTime} (h : ¬ (d.countdown.isDue now = true ∧ now.add? Span.second = none))
    (alarms : List Alarm) : poll d alarms now = liftM (Prod.fst <$> d.poll alarms now) := by
  rw [poll, map_eq_pure_bind]
  cases hdue : d.countdown.isDue now with
  | false =>
    rw [Dispatcher.poll_of_not_isDue alarms hdue]
    rfl
  | true =>
    cases hnext : now.add? Span.second with
    | none => exact absurd ⟨hdue, hnext⟩ h
    | some reference =>
      rw [Dispatcher.poll_of_isDue alarms hdue, if_pos rfl, hnext]
      simp only [seconds_one, later, hnext, liftM_ok, pure_bind, choose_eq, liftM_bind, bind_assoc, bind_pure]

/-- Fired without an instant one second later, the dispatcher stops. -/
theorem poll_overflows {d : Dispatcher} {now : DateTime} (hdue : d.countdown.isDue now = true)
    (hnext : now.add? Span.second = none) (alarms : List Alarm) :
    (poll d alarms now).run.value = .error .calendar := by
  rw [poll, if_pos hdue]
  simp only [seconds_one, later, hnext, liftM_ok, pure_bind]
  rfl

/-! ### The sleep timer -/

/-- Whole minutes until standby, none of them when nothing runs. -/
def remainingMinutes (t : SleepTimer) (now : DateTime) : Except Overflow Int := do
  match ← remaining t.countdown now with
  | some s => wholeMinutes s
  | none => pure 0

/-- Tells the time left. -/
def publish (t : SleepTimer) (now : DateTime) : Checked Unit := do
  let minutes ← remainingMinutes t now
  emit (.remainingChanged minutes)

/-- Logs a notice that tells the minutes of a span. -/
def noteMinutes (s : Span) (n : Notice) : Checked Unit := do
  let _ ← wholeMinutes s
  note n

/-- Starts the countdown for an activity. -/
def startSleep (now : DateTime) (timeout : Span) (activity : Activity) : Checked SleepTimer := do
  let tick ← seconds 30
  let t : SleepTimer := ⟨Countdown.arm now timeout, Countdown.arm now tick, activity⟩
  publish t now
  pure t

/-- Starts the countdown that an alarm brings. -/
def alarmTriggered (now : DateTime) (a : Alarm) : Checked SleepTimer := do
  noteMinutes a.timeout (.sleepArmed a.id a.timeout)
  startSleep now a.timeout .alarm

/-- The player has changed its state: playing starts the countdown anew, unless an alarm runs. -/
def playbackChanged (t : SleepTimer) (now : DateTime) (sleepTimeout : Span) (s : PlaybackState) : Checked SleepTimer :=
  if s = .playing ∧ t.activity ≠ .alarm then startSleep now sleepTimeout .playing else pure t

/-- Looks at the clock. -/
def pollSleep (t : SleepTimer) (now : DateTime) : Checked SleepTimer :=
  if t.countdown.isDue now then do
    noteMinutes t.countdown.interval (.sleepElapsed t.countdown.interval t.activity)
    let t : SleepTimer := ⟨t.countdown.cancel, t.ticker.cancel, .idle⟩
    emit .sleepElapsed
    publish t now
    pure t
  else if t.ticker.isDue now then do
    let tick ← seconds 30
    let t := { t with ticker := Countdown.arm now tick }
    publish t now
    pure t
  else pure t

/-- A new timeout, which a countdown of playback takes over at once. -/
def timeoutChanged (t : SleepTimer) (now : DateTime) (timeout : Span) : Checked SleepTimer := do
  noteMinutes timeout (.sleepTimeoutSet timeout)
  emit (.sleepTimeoutChanged timeout)
  if t.activity = .playing ∧ t.countdown.isActive then do
    let t := { t with countdown := Countdown.arm now timeout }
    publish t now
    pure t
  else pure t

theorem remainingMinutes_eq (t : SleepTimer) (now : DateTime) :
    remainingMinutes t now = .ok (t.remainingMinutes now) := by
  rw [remainingMinutes, remaining_eq, SleepTimer.remainingMinutes]
  cases t.countdown.remaining now with
  | none => rfl
  | some s => exact wholeMinutes_eq s

theorem publish_eq (t : SleepTimer) (now : DateTime) : publish t now = liftM (t.publish now) := by
  rw [publish, remainingMinutes_eq, liftM_ok, pure_bind, SleepTimer.publish]

theorem noteMinutes_eq (s : Span) (n : Notice) : noteMinutes s n = liftM (note n) := by
  rw [noteMinutes, wholeMinutes_eq, liftM_ok, pure_bind]

theorem seconds_thirty : seconds 30 = .ok SleepTimer.tickInterval := rfl

theorem startSleep_eq (now : DateTime) (timeout : Span) (activity : Activity) :
    startSleep now timeout activity = liftM (SleepTimer.start now timeout activity) := by
  simp only [startSleep, seconds_thirty, liftM_ok, pure_bind, publish_eq, SleepTimer.start, liftM_bind, liftM_pure]

theorem alarmTriggered_eq (now : DateTime) (a : Alarm) :
    alarmTriggered now a = liftM (SleepTimer.alarmTriggered now a) := by
  rw [alarmTriggered, noteMinutes_eq, startSleep_eq, SleepTimer.alarmTriggered, liftM_bind]

theorem playbackChanged_eq (t : SleepTimer) (now : DateTime) (sleepTimeout : Span) (s : PlaybackState) :
    playbackChanged t now sleepTimeout s = liftM (t.playbackChanged now sleepTimeout s) := by
  rw [playbackChanged, startSleep_eq, SleepTimer.playbackChanged, apply_ite liftM, liftM_pure, SleepTimer.reset]

theorem pollSleep_eq (t : SleepTimer) (now : DateTime) : pollSleep t now = liftM (t.poll now) := by
  simp only [pollSleep, SleepTimer.poll, noteMinutes_eq, publish_eq, seconds_thirty, liftM_ok, pure_bind,
    apply_ite liftM, liftM_bind, liftM_pure]

theorem timeoutChanged_eq (t : SleepTimer) (now : DateTime) (timeout : Span) :
    timeoutChanged t now timeout = liftM (t.timeoutChanged now timeout) := by
  simp only [timeoutChanged, SleepTimer.timeoutChanged, noteMinutes_eq, publish_eq, apply_ite liftM, liftM_bind,
    liftM_pure]

/-! ### The store -/

/-- The minutes of all timeouts of a document, as they stand in its written form. -/
def minutesOf (d : Document) : Except Overflow (List Int) := do
  let alarmTimeout ← wholeMinutes d.alarmTimeout
  let sleepTimeout ← wholeMinutes d.sleepTimeout
  let timeouts ← d.alarms.mapM fun a => wholeMinutes a.timeout
  pure (alarmTimeout :: sleepTimeout :: timeouts)

/-- Writes a document, and has it only once it is written. Without a file nothing is written. -/
def write (s : Store) (staged : Document) : Except Overflow (Attempt Unit Store) := do
  if s.file.isSome then let _ ← minutesOf staged
  pure (s.write staged)

/-- Has a copy of the document edited, which asks for no arithmetic, and written if it was changed. -/
def apply (s : Store) (ofAlarms : Bool) (edit : Document → Act (Attempt Bool Document)) :
    Checked (Attempt Unit Store) := do
  let staged ← edit s.document
  match staged.result with
  | .error e => pure ⟨.error e, s⟩
  | .ok false => pure ⟨.ok (), s⟩
  | .ok true => do
    let written ← write s staged.state
    match written.result with
    | .error e => pure ⟨.error e, written.state⟩
    | .ok () => do
      if ofAlarms ∧ s.announces then emit .alarmsChanged
      pure ⟨.ok (), written.state⟩

/-- Sets the time without activity before standby, which has to be positive. -/
def setSleepTimeout (s : Store) (timeout : Span) : Checked (Attempt Unit Store) :=
  if timeout ≤ Span.zero then do
    let minutes ← wholeMinutes timeout
    pure ⟨.error (.badTimeout minutes), s⟩
  else apply s false (Document.takeSleepTimeout timeout)

/-- Stores a new timeout, and takes it over once it is stored. -/
def setTimeout (t : SleepTimer) (s : Store) (now : DateTime) (timeout : Span) :
    Checked (Attempt Unit (SleepTimer × Store)) := do
  let stored ← setSleepTimeout s timeout
  match stored.result with
  | .error e => pure ⟨.error e, t, stored.state⟩
  | .ok () => do
    let t ← timeoutChanged t now timeout
    pure ⟨.ok (), t, stored.state⟩

theorem minutesOf_eq (d : Document) :
    minutesOf d = .ok (d.alarmTimeout.wholeMinutes :: d.sleepTimeout.wholeMinutes ::
      d.alarms.map fun a => a.timeout.wholeMinutes) := by
  have halarms : d.alarms.mapM (fun a => wholeMinutes a.timeout) =
      (pure (d.alarms.map fun a => a.timeout.wholeMinutes) : Except Overflow (List Int)) := by
    simp only [wholeMinutes_eq]
    exact List.mapM_pure
  rw [minutesOf, wholeMinutes_eq, wholeMinutes_eq, halarms]
  rfl

theorem write_eq (s : Store) (d : Document) : write s d = .ok (s.write d) := by
  rw [write, minutesOf_eq]
  split <;> rfl

theorem apply_eq (s : Store) (ofAlarms : Bool) (edit : Document → Act (Attempt Bool Document)) :
    apply s ofAlarms edit = liftM (s.apply ofAlarms edit) := by
  rw [apply, Store.apply, liftM_bind]
  refine bind_congr fun staged => ?_
  cases staged.result with
  | error e => rfl
  | ok changed =>
    cases changed with
    | false => rfl
    | true =>
      simp only [write_eq, liftM_ok, pure_bind]
      cases (s.write staged.state).result with
      | error e => rfl
      | ok _ => simp only [liftM_bind, apply_ite liftM, liftM_pure]

theorem setSleepTimeout_eq (s : Store) (timeout : Span) :
    setSleepTimeout s timeout = liftM (s.setSleepTimeout timeout) := by
  rw [setSleepTimeout, Store.setSleepTimeout, wholeMinutes_eq, apply_eq, apply_ite liftM, liftM_ok, pure_bind,
    liftM_pure]

theorem setTimeout_eq (t : SleepTimer) (s : Store) (now : DateTime) (timeout : Span) :
    setTimeout t s now timeout = liftM (t.setTimeout s now timeout) := by
  rw [setTimeout, SleepTimer.setTimeout, setSleepTimeout_eq, liftM_bind]
  refine bind_congr fun stored => ?_
  cases stored.result with
  | error e => rfl
  | ok _ => simp only [timeoutChanged_eq, liftM_bind, liftM_pure]

end Checked

end AlarmClock
