import AlarmClock.Proofs.Schedule.NextInstance
import AlarmClock.Proofs.SleepTimer
import AlarmClock.Proofs.Store.OrderedMap

/-! The activity of a sleep timer and its countdown. Arming starts both and the elapse ends both,
but a countdown armed beyond the end of the calendar has no deadline: it is not active and never
elapses, while the activity stays. Main statement: the two keep in step, and the activity ends
when the countdown does, exactly if the last arming ended within the calendar. -/

namespace AlarmClock

/-- A sleep timer with the store that it takes its timeout from. -/
structure Standby where
  store : Store
  timer : SleepTimer := {}

namespace Standby

/-! ### Runs -/

/-- What can happen around a sleep timer: news of the player, an alarm, a touch of the user, another timeout, a look at
the clock, or something happens to its store. -/
inductive Incident where
  | playback (s : PlaybackState)
  | alarm (a : Alarm)
  | reset
  | setTimeout (timeout : Span)
  | look
  | store (h : Happening)

def sleepTimeout (x : Standby) : Span := x.store.document.sleepTimeout

def step (x : Standby) (now : DateTime) : Incident → Act Standby
  | .playback s => do
    let timer ← x.timer.playbackChanged now x.sleepTimeout s
    pure { x with timer := timer }
  | .alarm a => do
    let timer ← SleepTimer.alarmTriggered now a
    pure { x with timer := timer }
  | .reset => do
    let timer ← SleepTimer.reset now x.sleepTimeout
    pure { x with timer := timer }
  | .setTimeout timeout => do
    let left ← x.timer.setTimeout x.store now timeout
    pure { store := left.state.2, timer := left.state.1 }
  | .look => do
    let timer ← x.timer.poll now
    pure { x with timer := timer }
  | .store h => pure { x with store := x.store.step h }

/-- What happens in order, each at a clock of its own. -/
def run (x : Standby) : List (DateTime × Incident) → Act Standby
  | [] => pure x
  | (now, i) :: is => do (← x.step now i).run is

/-- The span with which an incident arms the countdown. -/
def armed? (x : Standby) : Incident → Option Span
  | .playback s => if s = .playing ∧ x.timer.activity ≠ .alarm then some x.sleepTimeout else none
  | .alarm a => some a.timeout
  | .reset => some x.sleepTimeout
  | .setTimeout timeout =>
    if (x.store.setSleepTimeout timeout).value.result.isOk ∧ x.timer.activity = .playing ∧
        x.timer.countdown.isActive then
      some timeout
    else none
  | .look => none
  | .store _ => none

/-- The spans with which the countdown is armed in a run, each with its clock. -/
def armings (x : Standby) : List (DateTime × Incident) → List (DateTime × Span)
  | [] => []
  | (now, i) :: is => (x.armed? i).toList.map (now, ·) ++ (x.step now i).value.armings is

/-! ### One step -/

/-- What a step can do to countdown and activity: start both, end both, or leave both as they are. -/
inductive Counts (x : Standby) (now : DateTime) (i : Incident) (y : Standby) : Prop where
  | starts (s : Span) (hi : x.armed? i = some s) (hcount : y.timer.countdown = Countdown.arm now s)
      (hbusy : y.timer.activity ≠ .idle)
  | ends (hi : x.armed? i = none) (hdue : x.timer.countdown.isDue now = true)
      (hcount : y.timer.countdown.deadline = none) (hidle : y.timer.activity = .idle)
  | goesOn (hi : x.armed? i = none) (hcount : y.timer.countdown = x.timer.countdown)
      (hactivity : y.timer.activity = x.timer.activity)

theorem counts_playback (x : Standby) (now : DateTime) (s : PlaybackState) :
    x.Counts now (.playback s) (x.step now (.playback s)).value := by
  by_cases h : s = .playing ∧ x.timer.activity ≠ .alarm
  · have hi : x.armed? (.playback s) = some x.sleepTimeout := if_pos h
    refine .starts x.sleepTimeout hi ?_ ?_
    · simp [step, SleepTimer.playbackChanged, h, SleepTimer.reset, SleepTimer.start]
    · simp [step, SleepTimer.playbackChanged, h, SleepTimer.reset, SleepTimer.start]
  · have hi : x.armed? (.playback s) = none := if_neg h
    have htimer : x.timer.playbackChanged now x.sleepTimeout s = pure x.timer := if_neg h
    refine .goesOn hi ?_ ?_
    · simp [step, htimer]
    · simp [step, htimer]

theorem counts_setTimeout (x : Standby) (now : DateTime) (timeout : Span) :
    x.Counts now (.setTimeout timeout) (x.step now (.setTimeout timeout)).value := by
  rcases x.timer.setTimeout_cases x.store now timeout with ⟨e, hresult, hvalue, -⟩ | ⟨t, hstored, hvalue, -⟩
  · -- a timeout that the store refuses changes nothing
    have hi : x.armed? (.setTimeout timeout) = none := by
      simp [armed?, hresult, Except.isOk, Except.toBool]
    have hx : (x.step now (.setTimeout timeout)).value = x := by
      simp [step, hvalue]
    rw [hx]
    exact .goesOn hi rfl rfl
  · have hx : (x.step now (.setTimeout timeout)).value =
        { store := t, timer := (x.timer.timeoutChanged now timeout).value } := by
      simp [step, hvalue]
    rw [hx]
    by_cases h : x.timer.activity = .playing ∧ x.timer.countdown.isActive = true
    · have hi : x.armed? (.setTimeout timeout) = some timeout := by
        simp [armed?, hstored, h, Except.isOk, Except.toBool]
      refine .starts timeout hi ?_ ?_
      · simp [SleepTimer.timeoutChanged, h]
      · simp [SleepTimer.timeoutChanged, h]
    · have hi : x.armed? (.setTimeout timeout) = none := if_neg fun hc => h hc.2
      refine .goesOn hi ?_ ?_
      · simp [SleepTimer.timeoutChanged, h]
      · simp [SleepTimer.timeoutChanged, h]

theorem counts_look (x : Standby) (now : DateTime) : x.Counts now .look (x.step now .look).value := by
  cases hdue : x.timer.countdown.isDue now with
  | true =>
    refine .ends rfl hdue ?_ ?_
    · simp [step, SleepTimer.poll, hdue, Countdown.cancel]
    · simp [step, SleepTimer.poll, hdue]
  | false =>
    refine .goesOn rfl ?_ ?_
    · exact SleepTimer.countdown_poll_of_not_isDue hdue
    · exact SleepTimer.activity_poll_of_not_isDue hdue

theorem counts_step (x : Standby) (now : DateTime) (i : Incident) : x.Counts now i (x.step now i).value := by
  cases i with
  | playback s => exact x.counts_playback now s
  | alarm a => exact .starts a.timeout rfl rfl nofun
  | reset => exact .starts x.sleepTimeout rfl rfl nofun
  | setTimeout timeout => exact x.counts_setTimeout now timeout
  | look => exact x.counts_look now
  | store h => exact .goesOn rfl rfl rfl

/-! ### All steps -/

/-- An arming ends within the calendar. -/
def Fits (a : DateTime × Span) : Prop := (a.1.add? a.2.orZero).isSome

/-- A busy timer counts down to where the last arming ends, if it ends; an idle one does not count, and the last arming
has elapsed. -/
structure CountsFrom (x : Standby) (last : Option (DateTime × Span)) : Prop where
  busy : x.timer.activity ≠ .idle → ∃ a, last = some a ∧ x.timer.countdown.deadline = a.1.add? a.2.orZero
  idle : x.timer.activity = .idle → x.timer.countdown.deadline = none ∧ ∀ a ∈ last, Fits a

theorem CountsFrom.step {x : Standby} {last : Option (DateTime × Span)} (h : x.CountsFrom last) (now : DateTime)
    (i : Incident) : (x.step now i).value.CountsFrom (((x.armed? i).map (now, ·)).or last) := by
  cases x.counts_step now i with
  | starts s hi hcount hbusy =>
    refine ⟨fun _ => ⟨(now, s), by rw [hi]; rfl, by rw [hcount]; rfl⟩, fun hidle => ?_⟩
    exact absurd hidle hbusy
  | ends hi hdue hcount hidle =>
    rw [hi]
    refine ⟨fun hbusy => absurd hidle hbusy, fun _ => ⟨hcount, fun a ha => ?_⟩⟩
    -- what has elapsed had a deadline
    obtain ⟨d, hd, -⟩ := Countdown.isDue_iff.1 hdue
    by_cases hbusy : x.timer.activity = .idle
    · exact (h.idle hbusy).2 a ha
    · obtain ⟨b, hb, hdeadline⟩ := h.busy hbusy
      have hab : a = b := Option.some.inj (Eq.trans (Eq.symm ha) hb)
      rw [hab, Fits, ← hdeadline, hd]
      rfl
  | goesOn hi hcount hactivity =>
    rw [hi]
    refine ⟨?_, ?_⟩
    · rw [hcount, hactivity]
      exact h.busy
    · rw [hcount, hactivity]
      exact h.idle

theorem CountsFrom.run {x : Standby} {last : Option (DateTime × Span)} (h : x.CountsFrom last)
    (is : List (DateTime × Incident)) : (x.run is).value.CountsFrom ((x.armings is).getLast?.or last) := by
  induction is generalizing x last with
  | nil => exact h
  | cons i is ih =>
    obtain ⟨now, i⟩ := i
    rw [armings, ← Option.toList_map, getLast?_toList_append]
    exact ih (h.step now i)

/-- The looks find a busy timer idle from some instant on exactly if its countdown has a deadline. -/
theorem ends_iff_isActive {t : SleepTimer} (hbusy : t.activity ≠ .idle) :
    (∃ i, ∀ now, (t.poll now).value.activity = .idle ↔ i ≤ now) ↔ t.countdown.isActive = true := by
  have hpoll : ∀ now, (t.poll now).value.activity = .idle ↔ t.countdown.isDue now = true := by
    intro now
    cases hdue : t.countdown.isDue now with
    | true => exact iff_of_true (SleepTimer.activity_poll_of_isDue hdue) rfl
    | false =>
      refine iff_of_false ?_ nofun
      rw [SleepTimer.activity_poll_of_not_isDue hdue]
      exact hbusy
  constructor
  · rintro ⟨i, hi⟩
    exact Countdown.isActive_of_isDue ((hpoll i).1 ((hi i).2 (Int.le_refl _)))
  · intro hactive
    obtain ⟨d, hd⟩ := Option.isSome_iff_exists.1 hactive
    refine ⟨d, fun now => (hpoll now).trans ?_⟩
    simp [Countdown.isDue_iff, hd]

/-- Whatever happens to a sleep timer over whatever store, at whatever clocks: its countdown is active exactly while
its activity is not idle if and only if the last arming ended within the calendar. This is also when its activity is
idle or comes to be so at the looks from some instant on; otherwise no look ever ends it. -/
theorem in_step_iff_fits (s : Store) (is : List (DateTime × Incident)) :
    let x := (run { store := s } is).value
    let fits := ∀ a ∈ (armings { store := s } is).getLast?, Fits a
    ((x.timer.countdown.isActive = true ↔ x.timer.activity ≠ .idle) ↔ fits) ∧
      ((x.timer.activity = .idle ∨ ∃ i, ∀ now, (x.timer.poll now).value.activity = .idle ↔ i ≤ now) ↔ fits) := by
  intro x fits
  have hx : x.CountsFrom (armings { store := s } is).getLast? := by
    have hstart : CountsFrom { store := s } none :=
      ⟨fun hbusy => absurd rfl hbusy, fun _ => ⟨rfl, fun a ha => by cases ha⟩⟩
    have hrun := hstart.run is
    rwa [Option.or_none] at hrun
  by_cases hidle : x.timer.activity = .idle
  · obtain ⟨hdeadline, hfits⟩ := hx.idle hidle
    have hactive : x.timer.countdown.isActive = false := by
      rw [Countdown.isActive, hdeadline]
      rfl
    exact ⟨iff_of_true (by simp [hactive, hidle]) hfits, iff_of_true (.inl hidle) hfits⟩
  · obtain ⟨a, ha, hdeadline⟩ := hx.busy hidle
    have hactive : x.timer.countdown.isActive = true ↔ fits := by
      rw [Countdown.isActive, hdeadline]
      refine ⟨fun h b hb => ?_, fun h => h a ha⟩
      cases Option.some.inj (Eq.trans (Eq.symm ha) hb)
      exact h
    have hends : (∃ i, ∀ now, (x.timer.poll now).value.activity = .idle ↔ i ≤ now) ↔ fits :=
      (ends_iff_isActive hidle).trans hactive
    exact ⟨by simp [hidle, hactive], by simp [hidle, hends]⟩

/-- A configuration with an alarm whose timeout ends some hundred thousand years behind the calendar. -/
def endlessText : String :=
  "\x7b\"Alarms\": [[\"11111111111111111111111111111111\", \"daily\", \"08:45\", \"file:///bell\", true, 30," ++
    " 200000000000]]\x7d"

/-- Such an alarm leaves the timer without a countdown, and from then on every look finds the activity of the alarm
and playback changes nothing. -/
theorem alarm_outlives_countdown :
    ∃ d a, (Document.read endlessText).value = .ok d ∧ d.alarms = [a] ∧
      let x := (run { store := .inMemory d } [(wednesday 525, .alarm a)]).value
      x.timer.countdown.isActive = false ∧ (∀ now, (x.timer.poll now).value.activity = .alarm) ∧
        ∀ now s, x.timer.playbackChanged now x.sleepTimeout s = pure x.timer := by
  have hread : ((Document.read endlessText).value.toOption.map fun d =>
      decide (d.alarms.map (fun a => (wednesday 525).add? a.timeout.orZero) = [none])) = some true := by
    decide +kernel
  obtain ⟨d, hd, hdeadlines⟩ := Option.map_eq_some_iff.1 hread
  obtain ⟨a, ha, hdeadline⟩ := List.map_eq_singleton_iff.1 (of_decide_eq_true hdeadlines)
  refine ⟨d, a, toOption_eq_some_iff.1 hd, ha, ?_⟩
  intro x
  have hcount : x.timer.countdown = Countdown.arm (wednesday 525) a.timeout := rfl
  have hactive : x.timer.countdown.isActive = false := by
    rw [hcount, Countdown.isActive_arm, hdeadline]
    rfl
  refine ⟨hactive, fun now => ?_, fun now => SleepTimer.playbackChanged_of_alarm rfl now _⟩
  exact SleepTimer.activity_poll_of_not_isDue (Countdown.isDue_of_not_isActive hactive now)

end Standby

end AlarmClock
