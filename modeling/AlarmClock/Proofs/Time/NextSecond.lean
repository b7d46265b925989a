import AlarmClock.Time.DateTime

/-! The instant one second later. It is later also around leap seconds, and it exists
before the last second of the calendar and not within it. -/

namespace AlarmClock

namespace DateTime

/-- The beginning of the last second of the calendar. -/
def lastSecond : DateTime :=
  ⟨Date.last, ⟨TimeOfDay.last.second, 0, TimeOfDay.last.second_lt, TimeOfDay.midnight.nano_lt, by decide⟩⟩

/-- Nanoseconds from midnight to one second after an instant. A leap second has no successor of its own. -/
def nextSecondNanos (a : DateTime) : Int := (a.time.second + 1) * 1000000000 + a.time.nano % 1000000000

theorem add?_of_nanos_eq {s : Span} (hs : s.nanos = 1000000000) (a : DateTime) :
    a.add? s = ofMidnight? a.date a.nextSecondNanos := by
  have hn := a.time.nano_lt
  unfold add? nextSecondNanos TimeOfDay.sinceMidnight
  by_cases ha : 1000000000 ≤ a.time.nano
  · rw [dif_pos ha, dif_pos (by omega)]
    exact congrArg (ofMidnight? a.date) (by omega)
  · rw [dif_neg ha]
    exact congrArg (ofMidnight? a.date) (by omega)

theorem add?_second (a : DateTime) : a.add? Span.second = ofMidnight? a.date a.nextSecondNanos :=
  add?_of_nanos_eq rfl a

theorem lt_of_add?_second {a b : DateTime} (h : a.add? Span.second = some b) : a < b := by
  have hs := a.time.second_lt
  have hn := a.time.nano_lt
  rw [add?_second, ofMidnight?] at h
  split at h
  · cases h
  · rename_i e he
    cases h
    rw [Date.ofDay?_eq_some] at he
    change a.rank < _
    simp only [nextSecondNanos, dayNanos] at he ⊢
    simp only [rank, TimeOfDay.rank, he]
    omega

theorem add?_second_eq_none_iff {a : DateTime} : a.add? Span.second = none ↔ lastSecond ≤ a := by
  have hs := a.time.second_lt
  have hn := a.time.nano_lt
  have hd := a.date.upper
  have hl := a.date.lower
  have hnone : a.add? Span.second = none ↔ Date.ofDay? (a.date.day + a.nextSecondNanos / dayNanos) = none := by
    rw [add?_second, ofMidnight?]
    split
    · rename_i he
      simp [he]
    · rename_i e he
      simp [he]
  rw [hnone, Date.ofDay?_eq_none]
  change _ ↔ lastSecond.rank ≤ a.rank
  simp only [lastSecond, rank, TimeOfDay.rank, TimeOfDay.last, Date.last, nextSecondNanos, dayNanos]
  unfold firstDay at hl ⊢
  unfold lastDay at hd ⊢
  omega

/-- Before the last second of the calendar there is an instant one second later. -/
theorem exists_add?_second {a : DateTime} (h : a < lastSecond) : ∃ b, a.add? Span.second = some b := by
  cases hb : a.add? Span.second with
  | some b => exact ⟨b, rfl⟩
  | none =>
    rw [add?_second_eq_none_iff] at hb
    exact absurd h (Int.not_lt.2 hb)

end DateTime

end AlarmClock
