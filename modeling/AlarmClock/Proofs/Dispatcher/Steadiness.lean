import AlarmClock.Proofs.Dispatcher.Occurrences

/-! What a dispatcher does while it waits. From a reference up to the instant that is upcoming there the same
alarm stays upcoming, so a check in between arms the countdown for the deadline that it already has. Main
statement: while time passes the choice does not drift, and up to its deadline a dispatcher that has made it
is changed by no check and by no look at the clock, and stays silent. -/

namespace AlarmClock

namespace Dispatcher

variable {d : Dispatcher} {alarms : List Alarm} {reference now : DateTime}

/-- Up to the deadline of a dispatcher the same alarm is upcoming as at its reference. -/
theorem Follows.upcoming?_eq (h : d.Follows alarms reference) (hle : reference ≤ now)
    (hnow : ∀ i, d.countdown.deadline = some i → now ≤ i) :
    upcoming? alarms now = upcoming? alarms reference := by
  cases hu : upcoming? alarms reference with
  | none => exact upcoming?_eq_none_of_le hu hle
  | some x =>
    refine upcoming?_of_le hu hle (hnow x.2 ?_)
    rw [h.deadline_eq, hu]
    rfl

theorem Follows.of_upcoming?_eq (h : d.Follows alarms reference)
    (hu : upcoming? alarms now = upcoming? alarms reference) : d.Follows alarms now := by
  unfold Follows at h ⊢
  rw [hu]
  exact h

theorem Follows.with_countdown (h : d.Follows alarms reference) {c : Countdown}
    (hc : c.deadline = d.countdown.deadline) : Follows { d with countdown := c } alarms reference := by
  unfold Follows at h ⊢
  rw [hc]
  exact h

/-- To choose again what is followed anyway gives at most a new interval, and no effect at all. -/
theorem Follows.check_eq (h : d.Follows alarms now) :
    ∃ c, d.check alarms now = pure { d with countdown := c } ∧ c.deadline = d.countdown.deadline := by
  unfold check choose
  cases hu : upcoming? alarms now with
  | none =>
    rw [Follows, hu] at h
    obtain ⟨hupcoming, hdeadline, hinfo⟩ := h
    refine ⟨d.countdown.cancel, ?_, hdeadline.symm⟩
    simp [hupcoming, Countdown.isActive, hdeadline, publish, upcomingText, hinfo]
  | some x =>
    obtain ⟨a, i⟩ := x
    rw [Follows, hu] at h
    obtain ⟨hupcoming, hdeadline, hinfo⟩ := h
    refine ⟨Countdown.armUntil now i, ?_, ?_⟩
    · simp [hupcoming, publish, hinfo]
    · rw [hdeadline, Countdown.deadline_armUntil (goesOff_of_upcoming? hu).1]

end Dispatcher

namespace Diary

variable {alarms : List Alarm} {x : Diary} {reference now : DateTime}

/-- An errand is made before a deadline has come; a check may be made when it comes. -/
def Errand.InTime (now deadline : DateTime) : Errand → Prop
  | .check => now ≤ deadline
  | .look => now < deadline

/-- An errand in time changes at most the interval of the countdown and has no effects. -/
theorem step_inTime {e : Errand} (h : x.dispatcher.Follows alarms reference) (hle : reference ≤ now)
    (he : ∀ i, x.dispatcher.countdown.deadline = some i → e.InTime now i) :
    ∃ c, (x.step alarms now e).value.dispatcher = { x.dispatcher with countdown := c } ∧
      c.deadline = x.dispatcher.countdown.deadline ∧ (x.step alarms now e).effects = [] := by
  cases e with
  | check =>
    obtain ⟨c, hcheck, hc⟩ := (h.of_upcoming?_eq (h.upcoming?_eq hle he)).check_eq
    refine ⟨c, ?_, hc, ?_⟩
    · simp [step, hcheck]
    · simp [step, hcheck]
  | look =>
    have hdue : x.dispatcher.countdown.isDue now = false := by
      rw [← Bool.not_eq_true, Countdown.isDue_iff]
      rintro ⟨i, hi, hin⟩
      exact absurd hin (Int.not_le.2 (he i hi))
    refine ⟨x.dispatcher.countdown, ?_, rfl, ?_⟩
    · simp [step, Dispatcher.poll_of_not_isDue alarms hdue]
    · simp [step, Dispatcher.poll_of_not_isDue alarms hdue]

/-- Nor do any number of them, in whatever order their clocks stand. -/
theorem run_inTime {es : List (DateTime × Errand)} (h : x.dispatcher.Follows alarms reference)
    (hes : ∀ e ∈ es, reference ≤ e.1 ∧ ∀ i, x.dispatcher.countdown.deadline = some i → e.2.InTime e.1 i) :
    ∃ c, (x.run alarms es).value.dispatcher = { x.dispatcher with countdown := c } ∧
      c.deadline = x.dispatcher.countdown.deadline ∧ (x.run alarms es).effects = [] := by
  induction es generalizing x with
  | nil => exact ⟨x.dispatcher.countdown, rfl, rfl, rfl⟩
  | cons e es ih =>
    obtain ⟨now, e⟩ := e
    obtain ⟨⟨hle, he⟩, hes⟩ := List.forall_mem_cons.1 hes
    obtain ⟨c, hstep, hc, heffects⟩ := step_inTime h hle he
    -- the dispatcher after the step is followed and waits as before, for the rest of the errands
    have hfollows : (x.step alarms now e).value.dispatcher.Follows alarms reference := by
      rw [hstep]
      exact h.with_countdown hc
    have hdeadline : (x.step alarms now e).value.dispatcher.countdown.deadline =
        x.dispatcher.countdown.deadline := by rw [hstep, hc]
    obtain ⟨c', hrun, hc', heffects'⟩ := ih hfollows (by rw [hdeadline]; exact hes)
    refine ⟨c', ?_, hc'.trans hdeadline, ?_⟩
    · rw [run, Act.value_bind, hrun, hstep]
    · rw [run, Act.effects_bind, heffects, heffects']
      rfl

end Diary

/-- As time passes, the upcoming alarm and its instant stay the same until the instant comes, and behind it only later
ones follow; where nothing is upcoming, nothing will be. A dispatcher that checks in between, whatever checks
and looks at the clock it has already made before its deadline, keeps what it has chosen and does nothing else. -/
theorem upcoming?_steady {t t' : DateTime} (h : t ≤ t') (alarms : List Alarm) :
    (∀ a i, upcoming? alarms t = some (a, i) →
      (t' ≤ i → upcoming? alarms t' = some (a, i)) ∧
        (i < t' → ∀ b j, upcoming? alarms t' = some (b, j) → i < j)) ∧
    (upcoming? alarms t = none → upcoming? alarms t' = none) ∧
    ∀ (d : Dispatcher) (es : List (DateTime × Diary.Errand)),
      let checked := (d.check alarms t).value
      (∀ e ∈ es, t ≤ e.1 ∧ ∀ i, checked.countdown.deadline = some i → e.2.InTime e.1 i) →
      (∀ i, checked.countdown.deadline = some i → t' ≤ i) →
      let again := (Diary.run alarms { dispatcher := checked } es).value.dispatcher.check alarms t'
      again.value.upcoming = checked.upcoming ∧
        again.value.countdown.deadline = checked.countdown.deadline ∧
        again.value.info = checked.info ∧ again.effects = [] := by
  refine ⟨fun a i hu => ⟨upcoming?_of_le hu h, fun hlt b j hj => ?_⟩, fun hu => upcoming?_eq_none_of_le hu h, ?_⟩
  · exact Int.lt_of_lt_of_le hlt (goesOff_of_upcoming? hj).1
  · intro d es checked hes ht' again
    obtain ⟨c, hrun, hc, -⟩ := Diary.run_inTime (x := { dispatcher := checked }) (d.follows_check alarms t) hes
    have hfollows : (Dispatcher.mk c checked.upcoming checked.info checked.face).Follows alarms t :=
      (d.follows_check alarms t).with_countdown hc
    have hsame : upcoming? alarms t' = upcoming? alarms t :=
      hfollows.upcoming?_eq h (by rw [hc]; exact ht')
    obtain ⟨c', hcheck, hc'⟩ := (hfollows.of_upcoming?_eq hsame).check_eq
    have hagain : again = pure { checked with countdown := c' } := by
      rw [show again = (Dispatcher.mk c checked.upcoming checked.info checked.face).check alarms t' from
        congrArg (fun e : Dispatcher => e.check alarms t') hrun, hcheck]
    rw [hagain]
    exact ⟨rfl, hc'.trans hc, rfl, rfl⟩

/-- From 08:00 to 08:20 an alarm of 08:45 stays upcoming, and a check at 08:20 does nothing, though the clock has been
looked at in between. -/
theorem upcoming?_steady_before_alarm :
    let checked := (Dispatcher.check { face := .hours24 } [everyDay 1 525] (wednesday 480)).value
    let looked := (Diary.run [everyDay 1 525] { dispatcher := checked } [(wednesday 490, .look)]).value.dispatcher
    wednesday 480 ≤ wednesday 500 ∧
      upcoming? [everyDay 1 525] (wednesday 500) = some (everyDay 1 525, wednesday 525) ∧
      checked.countdown.deadline = some (wednesday 525) ∧
      (looked.check [everyDay 1 525] (wednesday 500)).effects = [] := by
  intro checked looked
  have hle : wednesday 480 ≤ wednesday 500 := by decide
  obtain ⟨hsame, -, hkept⟩ := upcoming?_steady hle [everyDay 1 525]
  have hdeadline : checked.countdown.deadline = some (wednesday 525) := by decide +kernel
  refine ⟨hle, (hsame _ _ (by decide)).1 (by decide), hdeadline, ?_⟩
  refine (hkept { face := .hours24 } [(wednesday 490, .look)] ?_ ?_).2.2.2
  · intro e he
    rw [List.mem_singleton.1 he]
    refine ⟨by decide, fun i hi => ?_⟩
    obtain rfl : wednesday 525 = i := Option.some.inj (hdeadline.symm.trans hi)
    show wednesday 490 < wednesday 525
    decide
  · intro i hi
    obtain rfl : wednesday 525 = i := Option.some.inj (hdeadline.symm.trans hi)
    decide

end AlarmClock
