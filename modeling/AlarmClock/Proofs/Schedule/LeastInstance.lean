import AlarmClock.Proofs.Schedule.NextInstance

/-! The next instance, in days from today. The first step goes to tomorrow if the time has passed on a day that
counts, or from a weekend to Monday for an alarm of the workdays; the second one goes on from a day that
is not allowed to the next that is. Main statement: these steps lead to the least instant from now on
that has the time of the alarm and an allowed weekday, as long as the calendar has one. -/

namespace AlarmClock

/-- Days from a weekday to the next day that falls on another one, or none if it is that one itself. -/
def Weekday.daysTo (w target : Weekday) : Nat := (target.index + 7 - w.index) % 7

namespace Period

/-- Days of the first step from today's weekday. -/
def firstStep (passed : Bool) (w : Weekday) : Period → Nat
  | once | daily => passed.toNat
  | weekend => (w.isWeekend && passed).toNat
  | workdays => if w.isWeekend then w.daysTo .mon else passed.toNat

/-- Days of the second step from the weekday that the first one has led to. -/
def secondStep (w : Weekday) : Period → Nat
  | once | daily => 0
  | weekend => if w.isWeekend then 0 else w.daysTo .sat
  | workdays => if w.isWeekend then w.daysTo .mon else 0

/-- Both steps together lead as far as waiting for an allowed day from the first one on which the time is still to
come. -/
theorem firstStep_add_secondStep (p : Period) (passed : Bool) (w : Weekday) :
    p.firstStep passed w + p.secondStep (Weekday.ofIndex (w.index + p.firstStep passed w)) =
      passed.toNat + p.wait (Weekday.ofIndex (w.index + passed.toNat)) := by
  cases p <;> cases passed <;> cases w <;> rfl

end Period

/-- Days that are added one after another are added together, even if the weekday in between tells how many follow. -/
theorem Date.addDays?_bind (d : Date) (m : Nat) (f : Weekday → Nat) :
    ((d.addDays? m).bind fun e => e.addDays? (f e.weekday)) =
      d.addDays? (m + f (Weekday.ofIndex (d.weekday.index + m))) := by
  cases he : d.addDays? m with
  | none =>
    -- what lies behind the end of the calendar leads further away from it
    have hlower := d.lower
    rw [addDays?, ofDay?_eq_none] at he
    rw [Option.bind_none, eq_comm, addDays?, ofDay?_eq_none]
    omega
  | some e =>
    rw [addDays?_eq_some] at he
    rw [Option.bind_some, weekday_eq_ofIndex he, addDays?, addDays?, he]
    congr 1
    omega

namespace Alarm

/-- The date of the next instance, in two steps that can each leave the calendar. -/
def steppedDate? (a : Alarm) (now : DateTime) : Option Date :=
  let passed : Bool := a.time.start < now.time
  (now.date.addDays? (a.period.firstStep passed now.date.weekday)).bind fun d =>
    d.addDays? (a.period.secondStep d.weekday)

theorem firstDate?_eq_addDays? (a : Alarm) (now : DateTime) :
    a.firstDate? now = now.date.addDays? (decide (a.time.start < now.time)).toNat := by
  unfold firstDate?
  split
  · rename_i hpassed
    rw [decide_eq_true hpassed]
    rfl
  · rename_i hpassed
    rw [decide_eq_false hpassed, eq_comm, Date.addDays?_eq_some]
    simp

theorem nextInstance_eq_stepped (a : Alarm) (now : DateTime) :
    a.nextInstance now = if a.enabled then (a.steppedDate? now).map fun d => ⟨d, a.time.start⟩ else none := by
  have hsteps : a.steppedDate? now =
      (a.firstDate? now).bind fun d => d.addDays? (a.period.wait d.weekday) := by
    -- from today on both ways add up to the same number of days
    rw [firstDate?_eq_addDays?, Date.addDays?_bind now.date _ a.period.wait, ← Period.firstStep_add_secondStep]
    exact Date.addDays?_bind now.date _ fun w => a.period.secondStep w
  rw [nextInstance, hsteps]
  cases a.firstDate? now <;> rfl

/-- An enabled alarm goes off at its time on every date with an allowed weekday. -/
theorem goesOffAt_iff_exists_date {a : Alarm} {i : DateTime} :
    a.GoesOffAt i ↔ a.enabled = true ∧ ∃ d : Date, i = ⟨d, a.time.start⟩ ∧ a.period.allows d.weekday = true := by
  constructor
  · exact fun h => ⟨h.enabled, i.date, by rw [← h.time_eq], h.allowed⟩
  · rintro ⟨henabled, d, rfl, hallowed⟩
    exact ⟨henabled, rfl, hallowed⟩

/-- There is no next instance exactly if the alarm is disabled or the calendar has no further date on which it could
go off. Otherwise the next instance is the one instant from now on that has the time of the alarm and an allowed
weekday and no other such instant before it, and it is what the two steps lead to. -/
theorem nextInstance_least (a : Alarm) (now : DateTime) :
    (a.nextInstance now = none ↔
      a.enabled = false ∨ ¬ ∃ d : Date, now ≤ ⟨d, a.time.start⟩ ∧ a.period.allows d.weekday = true) ∧
    (∀ i, a.nextInstance now = some i ↔
      a.enabled = true ∧ (now ≤ i ∧ i.time = a.time.start ∧ a.period.allows i.date.weekday = true) ∧
        ∀ j < i, ¬ (now ≤ j ∧ j.time = a.time.start ∧ a.period.allows j.date.weekday = true)) ∧
    a.nextInstance now = if a.enabled then (a.steppedDate? now).map fun d => ⟨d, a.time.start⟩ else none := by
  refine ⟨?_, fun i => ?_, nextInstance_eq_stepped a now⟩
  · rw [nextInstance_eq_none_iff]
    constructor
    · intro h
      by_cases henabled : a.enabled = true
      · right
        rintro ⟨d, hnow, hallowed⟩
        exact h _ ⟨henabled, rfl, hallowed⟩ hnow
      · exact .inl (Bool.eq_false_iff.2 henabled)
    · rintro (hdisabled | hnone) j hj hnow
      · rw [hj.enabled] at hdisabled
        cases hdisabled
      · obtain ⟨-, d, rfl, hallowed⟩ := goesOffAt_iff_exists_date.1 hj
        exact hnone ⟨d, hnow, hallowed⟩
  · rw [nextInstance_eq_some_iff]
    constructor
    · rintro ⟨hi, hnow, hleast⟩
      refine ⟨hi.enabled, ⟨hnow, hi.time_eq, hi.allowed⟩, fun j hj hall => ?_⟩
      obtain ⟨hnowj, htime, hallowed⟩ := hall
      exact absurd hj (Int.not_lt.2 (hleast j ⟨hi.enabled, htime, hallowed⟩ hnowj))
    · rintro ⟨henabled, ⟨hnow, htime, hallowed⟩, hleast⟩
      refine ⟨⟨henabled, htime, hallowed⟩, hnow, fun j hj hnowj => ?_⟩
      exact Int.not_lt.1 fun hlt => hleast j hlt ⟨hnowj, hj.time_eq, hj.allowed⟩

end Alarm

end AlarmClock
