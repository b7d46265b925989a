import AlarmClock.Power

/-! Spans of time. A span is a number of nanoseconds whose size stays within a
63-bit count of milliseconds; the bound is part of the type, so a span that
exists needs no further check. -/

namespace AlarmClock

/-- The size of the longest span in nanoseconds. -/
def spanLimit : Int := 9223372036854775807000000

/-- A length of time, negative for one that leads back. -/
structure Span where
  nanos : Int
  lower : -spanLimit ≤ nanos
  upper : nanos ≤ spanLimit
  deriving DecidableEq

namespace Span

theorem ext_nanos {s t : Span} (h : s.nanos = t.nanos) : s = t := by
  cases s; cases t; cases h; rfl

instance : LE Span := ⟨fun s t => s.nanos ≤ t.nanos⟩
instance : LT Span := ⟨fun s t => s.nanos < t.nanos⟩
instance (s t : Span) : Decidable (s ≤ t) := inferInstanceAs (Decidable (s.nanos ≤ t.nanos))
instance (s t : Span) : Decidable (s < t) := inferInstanceAs (Decidable (s.nanos < t.nanos))

/-- The span of so many nanoseconds, unless it is too long. -/
def ofNanos? (n : Int) : Option Span :=
  if h : -spanLimit ≤ n ∧ n ≤ spanLimit then some ⟨n, h.1, h.2⟩ else none

/-- The span of so many milliseconds, unless it is too long. -/
def ofMillis? (n : Int) : Option Span := ofNanos? (n * 1000000)

/-- The span of so many minutes, unless it is too long. -/
def ofMinutes? (n : Int) : Option Span := ofNanos? (n * 60000000000)

/-- The span of so many seconds, for a count of at most 32 bits. -/
def ofSeconds (n : Nat) (h : n < 2 ^ 32) : Span :=
  ⟨n * 1000000000, by unfold spanLimit; omega, by unfold spanLimit; omega⟩

def zero : Span := ⟨0, by decide, by decide⟩
def second : Span := ⟨1000000000, by decide, by decide⟩

/-- The span of one minute times `n`, for a small `n`. -/
def minutes (n : Nat) (h : n < 2 ^ 32) : Span :=
  ⟨n * 60000000000, by unfold spanLimit; omega, by unfold spanLimit; omega⟩

instance : Inhabited Span := ⟨zero⟩

/-- A span that leads back counts as no time at all. -/
def orZero (s : Span) : Span := if s ≤ zero then zero else s

/-- Whole minutes, cut off toward zero. -/
def wholeMinutes (s : Span) : Int := s.nanos.tdiv 60000000000

/-- Whole milliseconds, cut off toward zero. -/
def wholeMillis (s : Span) : Int := s.nanos.tdiv 1000000

end Span

end AlarmClock
