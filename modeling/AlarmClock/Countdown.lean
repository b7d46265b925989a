import AlarmClock.Time.DateTime

/-! Countdowns that elapse once. Arming sets the deadline anew, so an earlier one can never
elapse; polling at or past the deadline answers yes and takes it away. -/

namespace AlarmClock

structure Countdown where
  interval : Span
  deadline : Option DateTime
  deriving DecidableEq

namespace Countdown

/-- A countdown that was never armed. -/
def idle : Countdown := ⟨Span.zero, none⟩

instance : Inhabited Countdown := ⟨idle⟩

/-- Armed for a span from now on. A span that leads back counts as none; one that leaves the calendar sets no
deadline. -/
def arm (now : DateTime) (s : Span) : Countdown := ⟨s.orZero, now.add? s.orZero⟩

/-- Armed until an instant, or until now if that has passed. -/
def armUntil (now instant : DateTime) : Countdown := ⟨(instant.since now).orZero, some (DateTime.latest instant now)⟩

def cancel (c : Countdown) : Countdown := { c with deadline := none }

def isActive (c : Countdown) : Bool := c.deadline.isSome

/-- The time left, or none when it is not armed. -/
def remaining (c : Countdown) (now : DateTime) : Option Span :=
  c.deadline.map fun d => (d.since now).orZero

/-- Whether the deadline has come. -/
def isDue (c : Countdown) (now : DateTime) : Bool :=
  match c.deadline with
  | some d => d ≤ now
  | none => false

/-- The countdown after a look at the clock, and whether it has elapsed. -/
def poll (c : Countdown) (now : DateTime) : Countdown × Bool :=
  if c.isDue now then (c.cancel, true) else (c, false)

theorem isActive_of_isDue {c : Countdown} {now : DateTime} (h : c.isDue now = true) : c.isActive = true := by
  unfold isDue at h
  split at h
  · rename_i d hd; simp [isActive, hd]
  · cases h

@[simp] theorem snd_poll (c : Countdown) (now : DateTime) : (c.poll now).2 = c.isDue now := by
  unfold poll; split <;> simp_all

end Countdown

end AlarmClock
