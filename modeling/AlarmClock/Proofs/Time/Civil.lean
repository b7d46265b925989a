import AlarmClock.Time.Date

/-! Days as year, month and day of the month. A year begins where the one before it ends, and the months of a
year part its days. Main statement: the calendar gives every date back for its year,
month and day of the month. -/

namespace AlarmClock

/-! ### Years -/

theorem yearStart_succ (y : Int) : yearStart (y + 1) = yearStart y + if isLeapYear y then 366 else 365 := by
  have hleap : isLeapYear y = true ↔ y % 4 = 0 ∧ (y % 100 ≠ 0 ∨ y % 400 = 0) := by
    simp [isLeapYear]
  unfold yearStart
  split
  · rename_i h
    rw [hleap] at h
    omega
  · rename_i h
    rw [hleap] at h
    omega

/-- The estimate of the year never comes too late, and at most one year too early. -/
theorem yearOf_estimate (n : Int) :
    yearStart (n * 400 / 146097 + 1) ≤ n ∧ n < yearStart (n * 400 / 146097 + 1 + 1 + 1) := by
  unfold yearStart
  omega

/-- A day lies in its year. -/
theorem yearOf_spec (n : Int) : yearStart (yearOf n) ≤ n ∧ n < yearStart (yearOf n + 1) := by
  obtain ⟨hfrom, hto⟩ := yearOf_estimate n
  unfold yearOf
  dsimp only
  rw [if_neg (Int.not_lt.2 hfrom)]
  split
  · rename_i h
    exact ⟨h, hto⟩
  · rename_i h
    exact ⟨hfrom, Int.not_le.1 h⟩

theorem yearStart_mono {y z : Int} (h : y ≤ z) : yearStart y ≤ yearStart z := by
  rcases Int.le_iff_lt_or_eq.1 h with hlt | rfl
  · unfold yearStart
    omega
  · exact Int.le_refl _

theorem Date.year_bounds (d : Date) : -262143 ≤ d.civil.year ∧ d.civil.year ≤ 262142 := by
  have hlow := d.lower
  have hhigh := d.upper
  have hfirst : firstDay = yearStart (-262143) := by decide
  have hlast : lastDay < yearStart 262143 := by decide
  obtain ⟨hfrom, hto⟩ := yearOf_spec d.day
  change -262143 ≤ yearOf d.day ∧ yearOf d.day ≤ 262142
  constructor
  · refine Int.not_lt.1 fun hearly => ?_
    have := yearStart_mono (show yearOf d.day + 1 ≤ -262143 by omega)
    omega
  · refine Int.not_lt.1 fun hlate => ?_
    have := yearStart_mono (show 262143 ≤ yearOf d.day by omega)
    omega

/-! ### Months -/

theorem length_monthLengths (leap : Bool) : (monthLengths leap).length = 12 := rfl

theorem le_of_mem_monthLengths {leap : Bool} {l : Nat} (h : l ∈ monthLengths leap) : l ≤ 31 := by
  revert h
  revert l
  cases leap <;> decide

/-- The days of months together. -/
def daysOf (ls : List Nat) : Nat := ls.foldr (· + ·) 0

theorem daysOf_cons (l : Nat) (ls : List Nat) : daysOf (l :: ls) = l + daysOf ls := rfl

theorem daysOf_monthLengths (leap : Bool) : daysOf (monthLengths leap) = if leap then 366 else 365 := by
  cases leap <;> rfl

/-- Days that fit into months lie in one of them, behind the months in front of it. -/
theorem exists_splitMonths_eq (m : Nat) {ls : List Nat} {n : Nat} (h : n < daysOf ls) :
    ∃ k l r, splitMonths m ls n = (m + k, r) ∧ ls[k]? = some l ∧ r < l ∧ daysOf (ls.take k) + r = n := by
  induction ls generalizing m n with
  | nil => cases h
  | cons l ls ih =>
    rw [daysOf_cons] at h
    rw [splitMonths]
    split
    · rename_i hl
      exact ⟨0, l, n, rfl, rfl, hl, Nat.zero_add n⟩
    · rename_i hl
      obtain ⟨k, l', r, hsplit, hget, hr, hsum⟩ := ih (m + 1) (n := n - l) (by omega)
      refine ⟨k + 1, l', r, ?_, hget, hr, ?_⟩
      · rw [hsplit, Nat.add_assoc, Nat.add_comm 1 k]
      · rw [List.take_succ_cons, daysOf_cons]
        omega

/-- The month of a date is one of its year, and the day one of that month; the day of the year counts the months in
front. -/
theorem Date.exists_civil_eq (d : Date) :
    ∃ k l r, d.civil = ⟨yearOf d.day, k + 1, r + 1⟩ ∧ (monthLengths (isLeapYear (yearOf d.day)))[k]? = some l ∧
      r < l ∧ d.day = yearStart (yearOf d.day) + daysOf ((monthLengths (isLeapYear (yearOf d.day))).take k) + r := by
  obtain ⟨hfrom, hto⟩ := yearOf_spec d.day
  rw [yearStart_succ] at hto
  have hfits : (d.day - yearStart (yearOf d.day)).toNat < daysOf (monthLengths (isLeapYear (yearOf d.day))) := by
    rw [daysOf_monthLengths]
    split at hto <;> rename_i hleap <;> simp only [hleap, if_true, if_false, Bool.false_eq_true] <;> omega
  obtain ⟨k, l, r, hsplit, hget, hr, hsum⟩ := exists_splitMonths_eq 1 hfits
  refine ⟨k, l, r, ?_, hget, hr, by omega⟩
  rw [civil]
  dsimp only
  rw [hsplit, Nat.add_comm 1 k]

theorem Date.month_bounds (d : Date) : 1 ≤ d.civil.month ∧ d.civil.month ≤ 12 := by
  obtain ⟨k, l, r, hcivil, hget, -⟩ := d.exists_civil_eq
  obtain ⟨hk, -⟩ := List.getElem?_eq_some_iff.1 hget
  rw [length_monthLengths] at hk
  rw [hcivil]
  dsimp only
  omega

theorem Date.dayOfMonth_bounds (d : Date) : 1 ≤ d.civil.day ∧ d.civil.day ≤ 31 := by
  obtain ⟨k, l, r, hcivil, hget, hr, -⟩ := d.exists_civil_eq
  have hl := le_of_mem_monthLengths (List.mem_of_getElem? hget)
  rw [hcivil]
  dsimp only
  omega

/-- The calendar gives a date back for its year, month and day of the month. -/
theorem Date.date?_civil (d : Date) : d.civil.date? = some d := by
  obtain ⟨k, l, r, hcivil, hget, hr, hday⟩ := d.exists_civil_eq
  rw [hcivil, Civil.date?]
  dsimp only
  rw [Nat.add_sub_cancel, hget]
  dsimp only
  rw [if_pos ⟨by omega, by omega, by omega⟩, Date.ofDay?_eq_some]
  rw [daysOf] at hday
  omega

end AlarmClock
