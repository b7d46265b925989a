import AlarmClock.Text.Numeral

/-! Days of the proleptic Gregorian calendar. A date is the number of days since
0001-01-01, a Monday, within the years -262143 to 262142; its year, month and
day of the month are computed from that number. -/

namespace AlarmClock

/-! ### Weekdays -/

inductive Weekday where
  | mon | tue | wed | thu | fri | sat | sun
  deriving DecidableEq, Repr

namespace Weekday

/-- The weekday so many days after a Monday. -/
def ofIndex (n : Nat) : Weekday :=
  match n % 7 with
  | 0 => mon
  | 1 => tue
  | 2 => wed
  | 3 => thu
  | 4 => fri
  | 5 => sat
  | _ => sun

/-- Days since the last Monday. -/
def index : Weekday → Nat
  | mon => 0
  | tue => 1
  | wed => 2
  | thu => 3
  | fri => 4
  | sat => 5
  | sun => 6

/-- The three-letter name. -/
def name : Weekday → List Char
  | mon => ['M', 'o', 'n']
  | tue => ['T', 'u', 'e']
  | wed => ['W', 'e', 'd']
  | thu => ['T', 'h', 'u']
  | fri => ['F', 'r', 'i']
  | sat => ['S', 'a', 't']
  | sun => ['S', 'u', 'n']

def isWeekend : Weekday → Bool
  | sat | sun => true
  | _ => false

theorem index_ofIndex (n : Nat) : (ofIndex n).index = n % 7 := by
  unfold ofIndex
  have h : n % 7 < 7 := Nat.mod_lt _ (by omega)
  generalize n % 7 = k at h
  rcases k with _ | _ | _ | _ | _ | _ | _ | k <;> first | rfl | omega

end Weekday

/-! ### Dates -/

/-- The first day of the year -262143. -/
def firstDay : Int := -95746130

/-- The last day of the year 262142. -/
def lastDay : Int := 95745398

/-- A day of the calendar, counted from 0001-01-01. -/
structure Date where
  day : Int
  lower : firstDay ≤ day
  upper : day ≤ lastDay
  deriving DecidableEq

namespace Date

theorem ext_day {a b : Date} (h : a.day = b.day) : a = b := by
  cases a; cases b; cases h; rfl

/-- The date with a day number, unless it lies outside the calendar. -/
def ofDay? (n : Int) : Option Date :=
  if h : firstDay ≤ n ∧ n ≤ lastDay then some ⟨n, h.1, h.2⟩ else none

/-- The date so many days later. -/
def addDays? (d : Date) (n : Nat) : Option Date := ofDay? (d.day + n)

def weekday (d : Date) : Weekday := Weekday.ofIndex (d.day % 7).toNat

def first : Date := ⟨firstDay, by decide, by decide⟩
def last : Date := ⟨lastDay, by decide, by decide⟩

instance : Inhabited Date := ⟨first⟩

theorem ofDay?_eq_some {n : Int} {d : Date} : ofDay? n = some d ↔ d.day = n := by
  unfold ofDay?
  constructor
  · intro h
    split at h
    · cases h; rfl
    · cases h
  · rintro rfl
    rw [dif_pos ⟨d.lower, d.upper⟩]

theorem ofDay?_eq_none {n : Int} : ofDay? n = none ↔ n < firstDay ∨ lastDay < n := by
  unfold ofDay?
  split <;> simp <;> omega

end Date

/-! ### Years, months and days of the month -/

/-- The number of the first day of a year. -/
def yearStart (y : Int) : Int := 365 * (y - 1) + (y - 1) / 4 - (y - 1) / 100 + (y - 1) / 400

def isLeapYear (y : Int) : Bool := y % 4 == 0 && (y % 100 != 0 || y % 400 == 0)

/-- The year that holds a day: an estimate by the mean length of a year is off by at most one. -/
def yearOf (n : Int) : Int :=
  let y := n * 400 / 146097 + 1
  if n < yearStart y then y - 1 else if yearStart (y + 1) ≤ n then y + 1 else y

/-- The lengths of the twelve months. -/
def monthLengths (leap : Bool) : List Nat :=
  [31, if leap then 29 else 28, 31, 30, 31, 30, 31, 31, 30, 31, 30, 31]

/-- The month, counted from `m`, and the day in it, counted from zero, for a count of days. -/
def splitMonths (m : Nat) : List Nat → Nat → Nat × Nat
  | [], n => (m, n)
  | l :: ls, n => if n < l then (m, n) else splitMonths (m + 1) ls (n - l)

/-- A day written as year, month and day of the month. -/
structure Civil where
  year : Int
  month : Nat
  day : Nat
  deriving DecidableEq, Repr

/-- The year, month and day of the month of a date. -/
def Date.civil (d : Date) : Civil :=
  let y := yearOf d.day
  let (m, n) := splitMonths 1 (monthLengths (isLeapYear y)) (d.day - yearStart y).toNat
  ⟨y, m, n + 1⟩

/-- The date of a year, month and day of the month, if the calendar has it. -/
def Civil.date? (c : Civil) : Option Date :=
  match (monthLengths (isLeapYear c.year))[c.month - 1]? with
  | none => none
  | some l =>
    if 1 ≤ c.month ∧ 1 ≤ c.day ∧ c.day ≤ l then
      let before : Nat := ((monthLengths (isLeapYear c.year)).take (c.month - 1)).foldr (· + ·) 0
      Date.ofDay? (yearStart c.year + before + (c.day - 1))
    else none

end AlarmClock
