import AlarmClock.Countdown

/-! When a countdown is due, and which arming is its last one. -/

namespace AlarmClock

/-- A span of no time leads from every instant to itself, also within a leap second. -/
theorem DateTime.add?_zero (a : DateTime) : a.add? Span.zero = some a := by
  have hsecond := a.time.second_lt
  have hnano := a.time.nano_lt
  unfold add?
  by_cases h : 1000000000 ≤ a.time.nano
  · rw [dif_pos h, dif_neg (by simp only [Span.zero]; omega), dif_neg (by simp only [Span.zero]; omega)]
    simp [Span.zero]
  · have hday : Date.ofDay? (a.date.day + (a.time.sinceMidnight + Span.zero.nanos) / dayNanos) = some a.date := by
      rw [Date.ofDay?_eq_some]
      simp only [TimeOfDay.sinceMidnight, Span.zero, dayNanos]
      omega
    rw [dif_neg h, ofMidnight?, hday]
    refine congrArg some (rank_injective ?_)
    simp only [rank, TimeOfDay.rank, TimeOfDay.sinceMidnight, Span.zero, dayNanos]
    omega

/-- If a span ends within the calendar, so does the countdown of that span: one that leads back counts as none. -/
theorem DateTime.exists_add?_orZero {a : DateTime} {s : Span} (h : (a.add? s).isSome) :
    ∃ b, a.add? s.orZero = some b := by
  unfold Span.orZero
  split
  · exact ⟨a, a.add?_zero⟩
  · exact Option.isSome_iff_exists.1 h

namespace Countdown

theorem isDue_iff {c : Countdown} {now : DateTime} : c.isDue now = true ↔ ∃ i, c.deadline = some i ∧ i ≤ now := by
  unfold isDue
  cases c.deadline <;> simp

theorem isDue_of_not_isActive {c : Countdown} (h : c.isActive = false) (now : DateTime) : c.isDue now = false := by
  rw [← Bool.not_eq_true]
  intro hdue
  rw [isActive_of_isDue hdue] at h
  cases h

/-- A countdown is active after arming if its deadline lies within the calendar. -/
theorem isActive_arm (now : DateTime) (s : Span) : (arm now s).isActive = (now.add? s.orZero).isSome := rfl

end Countdown

/-- The last of several armings is the last of the later ones, or else the first one, or else the last before. -/
theorem getLast?_toList_append {α : Type} (first : Option α) (later : List α) (before : Option α) :
    (first.toList ++ later).getLast?.or before = later.getLast?.or (first.or before) := by
  have hfirst : first.toList.getLast? = first := by cases first <;> rfl
  rw [List.getLast?_append, hfirst, Option.or_assoc]

end AlarmClock
