import AlarmClock.Countdown
import AlarmClock.Proofs.Schedule.LeastInstance
import AlarmClock.Proofs.Time.Minutes

/-! Times worked out in numbers of bounded size, where a result that does not fit is an overflow. Everything here
that the calendar does not limit comes out as it does without bounds: the span between two instants, the minutes
of a span, what a countdown is armed with and has left, the days to a weekday, next instances and the upcoming
alarm. Only an instant that is later by a span can fail to exist. -/

namespace AlarmClock

/-- What does not fit. -/
inductive Overflow where
  /-- A span longer than the longest one. -/
  | span
  /-- A number outside 64 bits with a sign. -/
  | int64
  /-- A number outside 32 bits without a sign. -/
  | uint32
  /-- A number outside 8 bits without a sign. -/
  | uint8
  /-- An instant outside the calendar. -/
  | calendar
  deriving DecidableEq, Repr

namespace Checked

/-! ### Numbers -/

def int64 (n : Int) : Except Overflow Int := if -2 ^ 63 ≤ n ∧ n < 2 ^ 63 then .ok n else .error .int64

def uint32 (n : Int) : Except Overflow Nat := if 0 ≤ n ∧ n < 2 ^ 32 then .ok n.toNat else .error .uint32

def uint8 (n : Int) : Except Overflow Nat := if 0 ≤ n ∧ n < 2 ^ 8 then .ok n.toNat else .error .uint8

/-- The span of so many nanoseconds. -/
def span (n : Int) : Except Overflow Span :=
  match Span.ofNanos? n with
  | some s => .ok s
  | none => .error .span

/-- The span of so many seconds. -/
def seconds (n : Int) : Except Overflow Span := span (n * 1000000000)

theorem int64_eq {n : Int} (h : -2 ^ 63 ≤ n ∧ n < 2 ^ 63) : int64 n = .ok n := if_pos h

theorem uint8_eq {n : Int} (h : 0 ≤ n ∧ n < 2 ^ 8) : uint8 n = .ok n.toNat := if_pos h

theorem span_eq {n : Int} (lower : -spanLimit ≤ n) (upper : n ≤ spanLimit) : span n = .ok ⟨n, lower, upper⟩ := by
  rw [span, Span.ofNanos?, dif_pos ⟨lower, upper⟩]

theorem seconds_one : seconds 1 = .ok Span.second := rfl

/-! ### Volumes -/

/-- The level of a volume next to a number. -/
def volumeLevel (n : Int) : Except Overflow Nat := uint8 (max 0 (min n 100))

theorem volumeLevel_eq (n : Int) : volumeLevel n = .ok (Volume.clamp n).level := by
  rw [volumeLevel, uint8_eq (by omega), Volume.level_clamp]
  congr 1
  omega

/-! ### Spans between instants -/

/-- The span between two times of day. -/
def timeSince (s t : TimeOfDay) : Except Overflow Span :=
  span (s.sinceMidnight - t.sinceMidnight + DateTime.leapCorrection s t * 1000000000)

/-- The span from `b` to `a`: first the days between them, then the time of day. -/
def since (a b : DateTime) : Except Overflow Span := do
  let days ← span ((a.date.day - b.date.day) * dayNanos)
  let rest ← timeSince a.time b.time
  span (days.nanos + rest.nanos)

theorem timeSince_bounds (s t : TimeOfDay) :
    -(2 * dayNanos) ≤ s.sinceMidnight - t.sinceMidnight + DateTime.leapCorrection s t * 1000000000 ∧
      s.sinceMidnight - t.sinceMidnight + DateTime.leapCorrection s t * 1000000000 ≤ 2 * dayNanos := by
  have hs := s.second_lt; have hsn := s.nano_lt
  have ht := t.second_lt; have htn := t.nano_lt
  unfold dayNanos TimeOfDay.sinceMidnight DateTime.leapCorrection
  split <;> (try split) <;> omega

theorem days_bounds (a b : Date) :
    -(spanLimit - 2 * dayNanos) ≤ (a.day - b.day) * dayNanos ∧
      (a.day - b.day) * dayNanos ≤ spanLimit - 2 * dayNanos := by
  have ha := a.lower; have ha' := a.upper
  have hb := b.lower; have hb' := b.upper
  unfold firstDay at ha hb
  unfold lastDay at ha' hb'
  unfold spanLimit dayNanos
  omega

/-- Two instants are never further apart than the longest span. -/
theorem since_eq (a b : DateTime) : since a b = .ok (a.since b) := by
  have hdays := days_bounds a.date b.date
  have htime := timeSince_bounds a.time b.time
  have hlimit : 0 ≤ dayNanos ∧ 2 * dayNanos ≤ spanLimit := by decide
  have hsum : ∀ {m n : Int}, -(spanLimit - 2 * dayNanos) ≤ m ∧ m ≤ spanLimit - 2 * dayNanos →
      -(2 * dayNanos) ≤ n ∧ n ≤ 2 * dayNanos → -spanLimit ≤ m + n ∧ m + n ≤ spanLimit := by omega
  rw [since, timeSince, span_eq (by omega) (by omega), span_eq (by omega) (by omega)]
  change span (_ + _) = _
  rw [span_eq (hsum hdays htime).1 (hsum hdays htime).2]
  exact congrArg Except.ok (Span.ext_nanos (Int.add_assoc _ _ _).symm)

/-! ### Minutes -/

/-- Whole seconds, cut off toward zero: they are counted downward, so a rest of a negative span takes one back. -/
def wholeSeconds (s : Span) : Except Overflow Int := do
  let n ← int64 (s.nanos / 1000000000)
  if n < 0 ∧ 0 < s.nanos % 1000000000 then int64 (n + 1) else pure n

/-- Whole minutes, cut off toward zero. -/
def wholeMinutes (s : Span) : Except Overflow Int := do
  let n ← wholeSeconds s
  int64 (n.tdiv 60)

theorem wholeSeconds_eq (s : Span) : wholeSeconds s = .ok (s.nanos.tdiv 1000000000) := by
  have hlow := s.lower
  have hhigh := s.upper
  unfold spanLimit at hlow hhigh
  have hcut : s.nanos.tdiv 1000000000 =
      if s.nanos / 1000000000 < 0 ∧ 0 < s.nanos % 1000000000 then s.nanos / 1000000000 + 1
      else s.nanos / 1000000000 := by
    rcases tdiv_cases s.nanos 1000000000 with ⟨hsign, h⟩ | ⟨hsign, h⟩ <;> rw [h] <;> split <;> omega
  rw [wholeSeconds, int64_eq (by omega), hcut]
  change (if _ then _ else _) = _
  split
  · exact int64_eq (by omega)
  · rfl

/-- Minutes of whole seconds: cutting off twice toward zero is cutting off once. -/
theorem tdiv_second_tdiv_minute (n : Int) : (n.tdiv 1000000000).tdiv 60 = n.tdiv 60000000000 := by
  rcases tdiv_cases n 1000000000 with ⟨hn, h⟩ | ⟨hn, h⟩
  · rw [h, Int.tdiv_eq_ediv_of_nonneg (by omega), Int.tdiv_eq_ediv_of_nonneg hn]
    omega
  · rw [h, Int.neg_tdiv, Int.tdiv_eq_ediv_of_nonneg (by omega), ← Int.neg_neg n, Int.neg_tdiv,
      Int.tdiv_eq_ediv_of_nonneg (by omega), Int.neg_neg]
    omega

/-- The minutes of a span fit into 64 bits. -/
theorem wholeMinutes_eq (s : Span) : wholeMinutes s = .ok s.wholeMinutes := by
  rw [wholeMinutes, wholeSeconds_eq]
  change int64 _ = _
  rw [tdiv_second_tdiv_minute]
  exact int64_eq s.wholeMinutes_bounds

/-! ### Later instants -/

/-- The instant a span later, which has to lie in the calendar. -/
def later (a : DateTime) (s : Span) : Except Overflow DateTime :=
  match a.add? s with
  | some b => .ok b
  | none => .error .calendar

/-! ### Countdowns -/

/-- Armed until an instant, or until now if that has passed. -/
def armUntil (now instant : DateTime) : Except Overflow Countdown := do
  let s ← since instant now
  pure ⟨s.orZero, some (DateTime.latest instant now)⟩

/-- The time left, or none when it is not armed. -/
def remaining (c : Countdown) (now : DateTime) : Except Overflow (Option Span) :=
  match c.deadline with
  | some d => do
    let s ← since d now
    pure (some s.orZero)
  | none => pure none

theorem armUntil_eq (now instant : DateTime) : armUntil now instant = .ok (Countdown.armUntil now instant) := by
  rw [armUntil, since_eq]
  rfl

theorem remaining_eq (c : Countdown) (now : DateTime) : remaining c now = .ok (c.remaining now) := by
  unfold remaining Countdown.remaining
  split
  · rename_i d hd
    rw [hd, since_eq]
    rfl
  · rename_i hd
    rw [hd]
    rfl

/-! ### Next instances -/

/-- Days from a weekday to the next day that falls on another one. What is taken away is at most what there is. -/
def daysTo (w target : Weekday) : Except Overflow Nat := do
  let sum ← uint32 (target.index + 7)
  let difference ← uint32 (sum - w.index)
  pure (difference % 7)

theorem daysTo_eq (w target : Weekday) : daysTo w target = .ok (w.daysTo target) := by
  cases w <;> cases target <;> rfl

/-- Days of the first step from today's weekday. -/
def firstStep (passed : Bool) (w : Weekday) : Period → Except Overflow Nat
  | .once | .daily => pure passed.toNat
  | .weekend => pure (w.isWeekend && passed).toNat
  | .workdays => if w.isWeekend then daysTo w .mon else pure passed.toNat

/-- Days of the second step from the weekday that the first one has led to. -/
def secondStep (w : Weekday) : Period → Except Overflow Nat
  | .once | .daily => pure 0
  | .weekend => if w.isWeekend then pure 0 else daysTo w .sat
  | .workdays => if w.isWeekend then daysTo w .mon else pure 0

theorem firstStep_eq (passed : Bool) (w : Weekday) (p : Period) : firstStep passed w p = .ok (p.firstStep passed w) := by
  cases p <;> simp only [firstStep, Period.firstStep, daysTo_eq] <;> first | rfl | (split <;> rfl)

theorem secondStep_eq (w : Weekday) (p : Period) : secondStep w p = .ok (p.secondStep w) := by
  cases p <;> simp only [secondStep, Period.secondStep, daysTo_eq] <;> first | rfl | (split <;> rfl)

/-- The next instant at which an alarm goes off, in two steps. A step that leaves the calendar is no overflow: then
there is no such instant. -/
def nextInstance (a : Alarm) (now : DateTime) : Except Overflow (Option DateTime) :=
  if a.enabled then do
    let first ← firstStep (a.time.start < now.time) now.date.weekday a.period
    match now.date.addDays? first with
    | none => pure none
    | some d => do
      let second ← secondStep d.weekday a.period
      pure ((d.addDays? second).map fun e => ⟨e, a.time.start⟩)
  else pure none

theorem nextInstance_eq (a : Alarm) (now : DateTime) : nextInstance a now = .ok (a.nextInstance now) := by
  rw [Alarm.nextInstance_eq_stepped, nextInstance, firstStep_eq]
  split
  · change (match now.date.addDays? _ with | none => _ | some d => _) = _
    rw [Alarm.steppedDate?]
    split
    · rename_i hd
      rw [hd]
      rfl
    · rename_i d hd
      rw [hd, secondStep_eq]
      rfl
  · rfl

/-! ### The upcoming alarm -/

/-- The one of two alarms that goes off first; the one seen earlier if neither does. -/
def sooner (now : DateTime) (best candidate : Alarm) : Except Overflow Alarm := do
  let instant ← nextInstance candidate now
  let limit ← nextInstance best now
  pure (if compareInstances instant limit = .lt then candidate else best)

/-- The alarm that goes off next, and when. -/
def upcoming (alarms : List Alarm) (now : DateTime) : Except Overflow (Option (Alarm × DateTime)) :=
  match alarms with
  | [] => pure none
  | a :: as => do
    let soonest ← as.foldlM (sooner now) a
    let instant ← nextInstance soonest now
    pure (instant.map fun i => (soonest, i))

theorem sooner_eq (now : DateTime) (best candidate : Alarm) :
    sooner now best candidate = .ok (Alarm.sooner now best candidate) := by
  rw [sooner, nextInstance_eq, nextInstance_eq, Alarm.sooner, Alarm.firesBefore, Alarm.compareNext]
  simp only [decide_eq_true_eq]
  rfl

theorem upcoming_eq (alarms : List Alarm) (now : DateTime) : upcoming alarms now = .ok (upcoming? alarms now) := by
  cases alarms with
  | nil => rfl
  | cons a as =>
    have hfold : as.foldlM (sooner now) a = (pure (as.foldl (Alarm.sooner now) a) : Except Overflow Alarm) := by
      have hsooner : sooner now = fun best candidate => pure (Alarm.sooner now best candidate) :=
        funext fun best => funext fun candidate => sooner_eq now best candidate
      rw [hsooner, List.foldlM_pure]
    rw [upcoming, hfold]
    change (nextInstance _ now >>= _) = _
    rw [nextInstance_eq]
    rfl

end Checked

end AlarmClock
