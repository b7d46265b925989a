import AlarmClock.Alarm.Period
import AlarmClock.Time.Span
import AlarmClock.Time.TimeOfDay
import AlarmClock.Url.Basic
import AlarmClock.Uuid

/-! Alarms. An alarm keeps its identifier for life; everything else is set by edits. Its
time is a whole minute and its volume at most 100, by their types. -/

namespace AlarmClock

/-- A volume from 0 to 100. -/
structure Volume where
  level : Nat
  level_le : level ≤ 100
  deriving DecidableEq

namespace Volume

/-- The volume next to a number. -/
def clamp (n : Int) : Volume := ⟨min n.toNat 100, Nat.min_le_right _ _⟩

instance : OfNat Volume n := ⟨clamp n⟩

theorem level_clamp (n : Int) : (clamp n).level = min n.toNat 100 := rfl

theorem clamp_level (v : Volume) : clamp v.level = v := by
  rcases v with ⟨n, h⟩
  simp only [clamp, Int.toNat_natCast, mk.injEq]
  exact Nat.min_eq_left h

end Volume

structure Alarm where
  id : Uuid
  time : DayMinute
  period : Period
  enabled : Bool
  media : Url
  volume : Volume
  timeout : Span
  deriving DecidableEq

namespace Alarm

/-- The volume of an alarm that does not name one. -/
def defaultVolume : Volume := 30

/-- An enabled alarm with the default volume. Seconds of the time are dropped. -/
def create (id : Uuid) (media : Url) (time : TimeOfDay) (period : Period) (timeout : Span) : Alarm where
  id := id
  time := DayMinute.ofTime time
  period := period
  enabled := true
  media := media
  volume := defaultVolume
  timeout := timeout

/-! ### Edits -/

/-- A new value for one part of an alarm. -/
inductive Edit where
  | time (t : TimeOfDay)
  | period (p : Period)
  | enabled (b : Bool)
  | media (u : Url)
  | volume (n : Nat)
  | timeout (s : Span)
  deriving DecidableEq

/-- The alarm with one part set. -/
def apply (a : Alarm) : Edit → Alarm
  | .time t => { a with time := DayMinute.ofTime t }
  | .period p => { a with period := p }
  | .enabled b => { a with enabled := b }
  | .media u => { a with media := u }
  | .volume n => { a with volume := Volume.clamp n }
  | .timeout s => { a with timeout := s }

/-- Whether an edit changes an alarm. -/
def changes (a : Alarm) (e : Edit) : Bool := a.apply e ≠ a

/-- The alarm after edits in order, and of each whether it changed something. -/
def applyAll (a : Alarm) : List Edit → Alarm × List Bool
  | [] => (a, [])
  | e :: es =>
    let (b, changed) := (a.apply e).applyAll es
    (b, a.changes e :: changed)

/-- Edits as one, with the answer whether any of them changed something. -/
def editAll (es : List Edit) (a : Alarm) : Alarm × Bool :=
  let (b, changed) := a.applyAll es
  (b, changed.contains true)

@[simp] theorem id_apply (a : Alarm) (e : Edit) : (a.apply e).id = a.id := by
  cases e <;> rfl

@[simp] theorem id_applyAll (a : Alarm) (es : List Edit) : (a.applyAll es).1.id = a.id := by
  induction es generalizing a with
  | nil => rfl
  | cons e es ih => exact (ih _).trans (id_apply a e)

end Alarm

end AlarmClock
