import AlarmClock.Proofs.Checked.Parts
import AlarmClock.Proofs.Device.Run

/-! A device at work with numbers of bounded size. What is only counted, like the events of a turn, is bounded by the
memory that holds it and has no bound here. Main statement: whatever the device and whatever is done to it, the
only thing that can overflow is a turn that fires an alarm without an instant one second later; all else comes out
as it does without bounds. -/

namespace AlarmClock.Checked

variable {α β π : Type}

/-! ### Acts handed on -/

/-- Makes another act of one in which nothing overflowed. -/
def through (f : Act α → Act β) (x : Checked α) : Checked β :=
  ExceptT.mk <|
    match x.run.value with
    | .ok a => Except.ok <$> f ⟨a, x.run.effects⟩
    | .error e => ⟨.error e, x.run.effects⟩

/-- What comes of an act in which nothing overflowed. -/
def outcome (f : Act α → β) (x : Checked α) : Except Overflow β :=
  match x.run.value with
  | .ok a => .ok (f ⟨a, x.run.effects⟩)
  | .error e => .error e

/-- A result together with where it comes from. -/
def attach : (r : Except Overflow α) → Except Overflow { a : α // r = .ok a }
  | .ok a => .ok ⟨a, rfl⟩
  | .error e => .error e

/-- An act that knows of its value where it comes from. -/
def attached (x : Checked α) : Checked { a : α // x.run.value = .ok a } :=
  ExceptT.mk ⟨attach x.run.value, x.run.effects⟩

theorem through_liftM (f : Act α → Act β) (x : Act α) : through f (liftM x) = liftM (f x) := by
  rw [through, run_liftM]
  rfl

theorem outcome_liftM (f : Act α → β) (x : Act α) : outcome f (liftM x) = .ok (f x) := by
  rw [outcome, run_liftM]

theorem outcome_of_error {x : Checked α} {e : Overflow} (h : x.run.value = .error e) (f : Act α → β) :
    outcome f x = .error e := by
  rw [outcome, h]

theorem run_value_through {f : Act α → Act β} {x : Checked α} {e : Overflow} (h : x.run.value = .error e) :
    (through f x).run.value = .error e := by
  rw [through, h]
  rfl

theorem run_value_bind {x : Checked α} {e : Overflow} (h : x.run.value = .error e) (f : α → Checked β) :
    (x >>= f).run.value = .error e := by
  rw [ExceptT.run_bind, Act.value_bind, h]
  rfl

theorem run_attached_bind {x : Checked α} {y : Act α} (h : x = liftM y) (hvalue : x.run.value = .ok y.value)
    (f : { a : α // x.run.value = .ok a } → Checked β) :
    (attached x >>= f).run = ⟨(f ⟨y.value, hvalue⟩).run.value, y.effects ++ (f ⟨y.value, hvalue⟩).run.effects⟩ := by
  subst h
  exact congrArg (fun es => Act.mk _ (es ++ _)) (List.append_nil y.effects)

/-! ### Routing -/

/-- Takes an event to the parts that it concerns. -/
def route [Player π] (d : Device π) (now : DateTime) : Event → Checked (Device π)
  | .alarmsChanged => do
    let dispatcher ← choose d.dispatcher d.store.alarms now now
    pure { d with dispatcher := dispatcher }
  | .alarmTriggered a => do
    let monitor ← d.monitor.alarmTriggered now a
    let sleepTimer ← alarmTriggered now a
    pure { d with monitor := monitor, sleepTimer := sleepTimer }
  | .player (.changed s) => do
    let monitor ← d.monitor.playbackChanged s
    let sleepTimer ← playbackChanged d.sleepTimer now d.sleepTimeout s
    pure { d with monitor := monitor, sleepTimer := sleepTimer }
  -- the others ask for no arithmetic
  | e => d.route now e

/-- Routes an event that has been taken from the queue. -/
def handle [Player π] (d : Device π) (now : DateTime) (e : Event) : Checked (Device π) :=
  through Device.queueUp (route d now e)

theorem route_eq [Player π] (d : Device π) (now : DateTime) (e : Event) : route d now e = liftM (d.route now e) := by
  unfold route
  split
  · rw [choose_eq, Device.route, liftM_bind]
    rfl
  · simp only [alarmTriggered_eq, Device.route, liftM_bind, liftM_pure]
  · simp only [playbackChanged_eq, Device.route, liftM_bind, liftM_pure]
  · rfl

theorem handle_eq [Player π] (d : Device π) (now : DateTime) (e : Event) : handle d now e = liftM (d.handle now e) := by
  rw [handle, route_eq, through_liftM, Device.handle]

/-! ### Turns -/

/-- Routes events until none waits; the events come back in the order in which they were routed. -/
def drain [Player π] (d : Device π) (now : DateTime) : Checked (Device π × List Event) :=
  match _h : d.queue with
  | [] => pure (d, [])
  | e :: rest => do
    let next ← attached (handle { d with queue := rest } now e)
    let (last, routed) ← drain next.1 now
    pure (last, e :: routed)
termination_by weightOf d.queue
decreasing_by
  obtain ⟨next, hnext⟩ := next
  rw [handle_eq, run_liftM] at hnext
  cases hnext
  exact Device.weightOf_handle_lt d now e rest _h

/-- Looks at the dispatcher's countdown. -/
def pollDispatcher (d : Device π) (now : DateTime) : Checked (Device π) := do
  let dispatcher ← poll d.dispatcher d.store.alarms now
  pure { d with dispatcher := dispatcher }

/-- Looks at the countdowns of the monitor and of the sleep timer. -/
def pollOthers (d : Device π) (now : DateTime) : Checked (Device π) := do
  let monitor ← d.monitor.poll now
  let sleepTimer ← pollSleep d.sleepTimer now
  pure { d with monitor := monitor, sleepTimer := sleepTimer }

/-- One turn: the device after it and the events that were routed. -/
def turn [Player π] (d : Device π) (now : DateTime) : Checked (Device π × List Event) := do
  let d ← through Device.queueUp (pollDispatcher d now)
  let d ← through Device.queueUp (pollOthers d now)
  drain d now

theorem drain_of_queue_eq_nil [Player π] {d : Device π} (h : d.queue = []) (now : DateTime) :
    drain d now = pure (d, []) := by
  rw [drain]
  split
  · rfl
  · rename_i e rest hq
    rw [h] at hq
    cases hq

theorem drain_of_queue_eq_cons [Player π] {d : Device π} {e : Event} {rest : List Event} (h : d.queue = e :: rest)
    (now : DateTime) :
    drain d now = (do
      let next ← attached (handle { d with queue := rest } now e)
      let (last, routed) ← drain next.1 now
      pure (last, e :: routed)) := by
  rw [drain]
  split
  · rename_i hq
    rw [h] at hq
    cases hq
  · rename_i e' rest' hq
    rw [h] at hq
    cases hq
    rfl

theorem drain_eq [Player π] (d : Device π) (now : DateTime) : drain d now = liftM (d.drain now) := by
  fun_induction Device.drain d now with
  | case1 d h => exact drain_of_queue_eq_nil h now
  | case2 d e rest h x y ih =>
    have hrest : (do let (last, routed) ← drain x.value now; pure (last, e :: routed)) =
        (liftM ((fun r => (r.1, e :: r.2)) <$> y) : Checked (Device π × List Event)) := by
      rw [ih, map_eq_pure_bind, liftM_bind]
      rfl
    rw [drain_of_queue_eq_cons h]
    refine ExceptT.ext ?_
    rw [run_attached_bind (handle_eq _ _ _) (by rw [handle_eq, run_liftM]), hrest, run_liftM, run_liftM, Act.effects_map]
    rfl

theorem pollOthers_eq (d : Device π) (now : DateTime) : pollOthers d now = liftM (d.pollOthers now) := by
  simp only [pollOthers, Device.pollOthers, pollSleep_eq, liftM_bind, liftM_pure]

theorem pollDispatcher_eq {d : Device π} {now : DateTime}
    (h : ¬ (d.dispatcher.countdown.isDue now = true ∧ now.add? Span.second = none)) :
    pollDispatcher d now = liftM (Prod.fst <$> d.pollDispatcher now) := by
  rw [pollDispatcher, poll_eq h]
  simp only [Device.pollDispatcher, map_eq_pure_bind, liftM_bind, liftM_pure, bind_assoc, pure_bind]

theorem turn_eq [Player π] {d : Device π} {now : DateTime}
    (h : ¬ (d.dispatcher.countdown.isDue now = true ∧ now.add? Span.second = none)) :
    turn d now = liftM ((fun r => (r.1, r.2.getD [])) <$> d.turn now) := by
  have hend : (d.pollDispatcher now).value.2 ≠ .calendarEnd := mt Dispatcher.firing_eq_calendarEnd_iff.1 h
  rw [turn, pollDispatcher_eq h, through_liftM, Device.turn]
  simp only [if_neg hend, pollOthers_eq, through_liftM, drain_eq, map_eq_pure_bind, liftM_bind, liftM_pure, bind_assoc,
    pure_bind, Option.getD_some]
  exact bind_congr fun d => bind_congr fun e => (bind_pure _).symm

/-- A turn that fires an alarm without an instant one second later stops there. -/
theorem turn_overflows [Player π] {d : Device π} {now : DateTime} (hdue : d.dispatcher.countdown.isDue now = true)
    (hnext : now.add? Span.second = none) : (turn d now).run.value = .error .calendar := by
  refine run_value_bind (run_value_through ?_) _
  exact run_value_bind (poll_overflows hdue hnext _) _

/-! ### Operations -/

/-- A device with its alarms looked at once. -/
def start (store : Store) (player : π) (settings : Settings) (now : DateTime) : Checked (Device π) :=
  through Device.queueUp do
    let dispatcher ← choose { face := settings.face } store.alarms now now
    pure
      { store := store, dispatcher := dispatcher, monitor := Monitor.start player settings.grace settings.fallback
        sleepTimer := {}, queue := [] }

/-- Starts the countdown to standby anew. -/
def resetSleep (d : Device π) (now : DateTime) : Checked (Device π) :=
  through Device.queueUp do
    let sleepTimer ← startSleep now d.sleepTimeout .playing
    pure { d with sleepTimer := sleepTimer }

/-- The device after a change of its store, refused or not. -/
def changed (d : Device π) (x : Checked (Attempt Unit Store)) : Except Overflow (Device π) :=
  outcome (fun x => (d.withStore x).value.state) x

/-- The device after an operation. -/
def step [Player π] (d : Device π) (now : DateTime) : Operation π → Except Overflow (Device π)
  | .add a => changed d (apply d.store true (Document.tryInsert a))
  | .delete id => changed d (apply d.store true (Document.tryRemove id))
  | .update id edit => changed d (apply d.store true (Document.tryEdit id edit))
  | .storeTimeout timeout => changed d (setSleepTimeout d.store timeout)
  | .newAlarm id media time period =>
    changed d (apply d.store true (Document.tryInsert
      (Alarm.create id media time period d.store.document.alarmTimeout)))
  | .deleteAlarm id => changed d (apply d.store true (Document.tryRemove id))
  | .reschedule id time period =>
    changed d (apply d.store true (Document.tryEdit id (Alarm.editAll [.time time, .period period])))
  | .setEnabled id enabled => changed d (apply d.store true (Document.tryEdit id (Alarm.editAll [.enabled enabled])))
  | .setSleepTimeout timeout =>
    outcome (fun x => (d.withTimer x).value.state) (setTimeout d.sleepTimer d.store now timeout)
  | .resetSleep => outcome Act.value (resetSleep d now)
  | .turn => outcome (·.value.1) (turn d now)
  -- the others ask for no arithmetic
  | .stopAlarm => pure (d.step now .stopAlarm)
  | .playerEvent e => pure (d.step now (.playerEvent e))
  | .playerBecomes p => pure (d.step now (.playerBecomes p))
  | .fileBecomes c => pure (d.step now (.fileBecomes c))

theorem start_eq (store : Store) (player : π) (settings : Settings) (now : DateTime) :
    start store player settings now = liftM (Device.start store player settings now) := by
  rw [start, choose_eq, Device.start, Dispatcher.check, ← through_liftM, liftM_bind]
  rfl

theorem resetSleep_eq (d : Device π) (now : DateTime) : resetSleep d now = liftM (d.resetSleep now) := by
  rw [resetSleep, startSleep_eq, Device.resetSleep, SleepTimer.reset, ← through_liftM, liftM_bind]
  rfl

theorem changed_apply (d : Device π) (ofAlarms : Bool) (edit : Document → Act (Attempt Bool Document)) :
    changed d (apply d.store ofAlarms edit) = .ok (d.withStore (d.store.apply ofAlarms edit)).value.state := by
  rw [changed, apply_eq, outcome_liftM]

theorem step_eq [Player π] {op : Operation π} (h : op ≠ .turn) (d : Device π) (now : DateTime) :
    step d now op = .ok (d.step now op) := by
  cases op with
  | add a => exact changed_apply d _ _
  | delete id => exact changed_apply d _ _
  | update id edit => exact changed_apply d _ _
  | storeTimeout timeout => rw [step, changed, setSleepTimeout_eq, outcome_liftM, Device.step]
  | newAlarm id media time period => exact changed_apply d _ _
  | deleteAlarm id => exact changed_apply d _ _
  | reschedule id time period => exact changed_apply d _ _
  | setEnabled id enabled => exact changed_apply d _ _
  | setSleepTimeout timeout => rw [step, setTimeout_eq, outcome_liftM, Device.step, Device.setSleepTimeout]
  | resetSleep => rw [step, resetSleep_eq, outcome_liftM, Device.step]
  | turn => exact absurd rfl h
  | stopAlarm => rfl
  | playerEvent e => rfl
  | playerBecomes p => rfl
  | fileBecomes c => rfl

/-- What stops a device: a turn in which the dispatcher's countdown is due while there is no instant one second
later. -/
def Stops (d : Device π) (now : DateTime) (op : Operation π) : Prop :=
  op = .turn ∧ (∃ deadline, d.dispatcher.countdown.deadline = some deadline ∧ deadline ≤ now) ∧
    now.add? Span.second = none

theorem step_of_stops [Player π] {d : Device π} {now : DateTime} {op : Operation π} (h : Stops d now op) :
    step d now op = .error .calendar := by
  obtain ⟨rfl, hdue, hnext⟩ := h
  rw [step, outcome_of_error (turn_overflows (Countdown.isDue_iff.2 hdue) hnext)]

theorem step_of_not_stops [Player π] {d : Device π} {now : DateTime} {op : Operation π} (h : ¬ Stops d now op) :
    step d now op = .ok (d.step now op) := by
  by_cases hop : op = .turn
  · subst hop
    have hturn : ¬ (d.dispatcher.countdown.isDue now = true ∧ now.add? Span.second = none) := fun hstop =>
      h ⟨rfl, Countdown.isDue_iff.1 hstop.1, hstop.2⟩
    rw [step, turn_eq hturn, outcome_liftM]
    rfl
  · exact step_eq hop d now

/-! ### Runs -/

/-- The device after operations in order, up to the first that overflows. -/
def run [Player π] (d : Device π) (ops : List (DateTime × Operation π)) : Except Overflow (Device π) :=
  ops.foldlM (fun d op => step d op.1 op.2) d

/-- Something stops a device in a run. -/
def StopsIn [Player π] (d : Device π) (ops : List (DateTime × Operation π)) : Prop :=
  ∃ before now op behind, ops = before ++ (now, op) :: behind ∧ Stops (d.run before) now op

theorem not_stopsIn_nil [Player π] (d : Device π) : ¬ StopsIn d [] := by
  rintro ⟨before, now, op, behind, h, -⟩
  simp at h

theorem stopsIn_cons [Player π] (d : Device π) (now : DateTime) (op : Operation π)
    (ops : List (DateTime × Operation π)) :
    StopsIn d ((now, op) :: ops) ↔ Stops d now op ∨ StopsIn (d.step now op) ops := by
  constructor
  · rintro ⟨before, t, x, behind, h, hstops⟩
    cases before with
    | nil =>
      cases h
      exact .inl hstops
    | cons y before =>
      cases h
      exact .inr ⟨before, t, x, behind, rfl, hstops⟩
  · rintro (hstops | ⟨before, t, x, behind, rfl, hstops⟩)
    · exact ⟨[], now, op, ops, rfl, hstops⟩
    · exact ⟨(now, op) :: before, t, x, behind, rfl, hstops⟩

/-- A run goes on as it does without bounds until something stops the device. -/
theorem run_cases [Player π] (d : Device π) (ops : List (DateTime × Operation π)) :
    (StopsIn d ops ∧ run d ops = .error .calendar) ∨ (¬ StopsIn d ops ∧ run d ops = .ok (d.run ops)) := by
  induction ops generalizing d with
  | nil => exact .inr ⟨not_stopsIn_nil d, rfl⟩
  | cons x ops ih =>
    obtain ⟨now, op⟩ := x
    rw [stopsIn_cons, run, List.foldlM_cons]
    by_cases h : Stops d now op
    · rw [step_of_stops h]
      exact .inl ⟨.inl h, rfl⟩
    · rw [step_of_not_stops h, or_iff_right h]
      exact ih (d.step now op)

/-- A turn without bounds tells nothing of what it routed exactly where one with bounds stops. -/
theorem snd_turn_eq_none_iff [Player π] (d : Device π) (now : DateTime) :
    (d.turn now).value.2 = none ↔ Stops d now .turn := by
  have hstops : Stops d now .turn ↔ (d.dispatcher.poll d.store.alarms now).value.2 = .calendarEnd := by
    rw [Dispatcher.firing_eq_calendarEnd_iff, Countdown.isDue_iff]
    exact and_iff_right rfl
  rw [hstops]
  by_cases hend : (d.dispatcher.poll d.store.alarms now).value.2 = .calendarEnd
  · rw [Device.turn_of_calendarEnd hend]
    exact iff_of_true rfl hend
  · rw [Device.value_turn hend]
    exact iff_of_false nofun hend

/-! ### What a device shows -/

def timeToNext (d : Device π) (now : DateTime) : Except Overflow (Option Span) := remaining d.dispatcher.countdown now

def sleepMinutes (d : Device π) (now : DateTime) : Except Overflow Int := remainingMinutes d.sleepTimer now

/-! ### Where numbers of bounded size are too small -/

/-- Whatever the device, the clock and what is done, an operation overflows exactly if it stops the device, and then
at the end of the calendar; otherwise it does what it does without bounds, and so does a run in which nothing stops
the device. What a device shows, setting one up, arming a countdown, the time it has left, next instances,
minutes and levels of volumes never overflow. -/
theorem overflows_only_at_calendarEnd [Player π] (d : Device π) (now : DateTime) :
    (∀ op e, step d now op = .error e ↔ e = .calendar ∧ Stops d now op) ∧
    (∀ op e, step d now op = .ok e ↔ ¬ Stops d now op ∧ e = d.step now op) ∧
    (∀ ops, (StopsIn d ops ∧ run d ops = .error .calendar) ∨ (¬ StopsIn d ops ∧ run d ops = .ok (d.run ops))) ∧
    ((d.turn now).value.2 = none ↔ Stops d now .turn) ∧
    (timeToNext d now = .ok (d.timeToNext now) ∧ sleepMinutes d now = .ok (d.sleepMinutes now)) ∧
    (∀ (store : Store) (player : π) (settings : Settings),
      start store player settings now = liftM (Device.start store player settings now)) ∧
    (∀ instant, armUntil now instant = .ok (Countdown.armUntil now instant)) ∧
    (∀ c : Countdown, remaining c now = .ok (c.remaining now)) ∧
    (∀ a : Alarm, nextInstance a now = .ok (a.nextInstance now)) ∧
    (∀ s : Span, wholeMinutes s = .ok s.wholeMinutes) ∧
    ∀ n : Int, volumeLevel n = .ok (Volume.clamp n).level := by
  refine ⟨fun op e => ?_, fun op e => ?_, run_cases d, snd_turn_eq_none_iff d now,
    ⟨remaining_eq _ now, remainingMinutes_eq _ now⟩, fun store player settings => start_eq store player settings now,
    armUntil_eq now, fun c => remaining_eq c now, fun a => nextInstance_eq a now, wholeMinutes_eq, volumeLevel_eq⟩
  · by_cases h : Stops d now op
    · rw [step_of_stops h, Except.error.injEq, eq_comm]
      exact (and_iff_left h).symm
    · rw [step_of_not_stops h]
      exact ⟨nofun, fun hstop => absurd hstop.2 h⟩
  · by_cases h : Stops d now op
    · rw [step_of_stops h]
      exact ⟨nofun, fun hgo => absurd h hgo.1⟩
    · rw [step_of_not_stops h, Except.ok.injEq, eq_comm]
      exact (and_iff_right h).symm

/-- The beginning of the last minute of the calendar. -/
def lastMinute : DateTime := ⟨Date.last, DayMinute.start ⟨1439, by decide⟩⟩

/-- An alarm of the last minute of the calendar that is not looked at before its last second. -/
theorem turn_overflows_in_lastSecond :
    step (Device.morning [everyDay 1 1439] lastMinute) DateTime.lastSecond .turn = .error .calendar :=
  ((overflows_only_at_calendarEnd _ _).1 _ _).2 ⟨rfl, rfl, ⟨lastMinute, by decide +kernel, by decide⟩, by decide⟩

end AlarmClock.Checked
