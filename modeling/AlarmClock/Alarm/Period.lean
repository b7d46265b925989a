import AlarmClock.Text.Blank
import AlarmClock.Time.Date

/-! How often an alarm goes off. A period allows some weekdays; one that goes off once
allows them all, like a daily one. -/

namespace AlarmClock

inductive Period where
  | once | daily | weekend | workdays
  deriving DecidableEq, Repr

namespace Period

/-- The word that names a period. -/
def word : Period → String
  | once => "once"
  | daily => "daily"
  | weekend => "weekend"
  | workdays => "workdays"

instance : ToString Period := ⟨word⟩

/-- The period that a word names, in any case and with blanks around it. -/
def read? (text : String) : Option Period :=
  let word := String.ofList ((Text.trim text.toList).map Char.toLower)
  [once, daily, weekend, workdays].find? (·.word = word)

/-- Whether an alarm may go off on a weekday. -/
def allows : Period → Weekday → Bool
  | once, _ => true
  | daily, _ => true
  | weekend, d => d.isWeekend
  | workdays, d => !d.isWeekend

/-- Days from a weekday to the first one that is allowed. -/
def wait : Period → Weekday → Nat
  | once, _ => 0
  | daily, _ => 0
  | weekend, d => if d.isWeekend then 0 else 5 - d.index
  | workdays, d => if d.isWeekend then 7 - d.index else 0

theorem allows_wait (p : Period) (d : Weekday) : p.allows (Weekday.ofIndex (d.index + p.wait d)) = true := by
  cases p <;> cases d <;> rfl

theorem not_allows_of_lt_wait {p : Period} {d : Weekday} {n : Nat} (h : n < p.wait d) :
    p.allows (Weekday.ofIndex (d.index + n)) = false := by
  revert n
  cases p <;> cases d <;> decide

end Period

end AlarmClock
