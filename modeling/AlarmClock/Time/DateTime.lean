import AlarmClock.Time.Date
import AlarmClock.Time.Span
import AlarmClock.Time.TimeOfDay

/-! Instants of local time: a date with a time of day. Adding a span can leave the
calendar; the span between two instants always exists. Main statement: instants
are told apart by their ranks, which give their order. -/

namespace AlarmClock

structure DateTime where
  date : Date
  time : TimeOfDay
  deriving DecidableEq

/-- Nanoseconds in a day. -/
def dayNanos : Int := 86400000000000

namespace DateTime

instance : Inhabited DateTime := ⟨⟨default, default⟩⟩

/-- The place of an instant among all instants. -/
def rank (a : DateTime) : Int := a.date.day * 172800000000000 + a.time.rank

theorem rank_injective {a b : DateTime} (h : a.rank = b.rank) : a = b := by
  rcases a with ⟨d, s⟩
  rcases b with ⟨e, t⟩
  have hs := s.second_lt; have hn := s.nano_lt
  have ht := t.second_lt; have hm := t.nano_lt
  simp only [rank, TimeOfDay.rank] at h
  have h1 : d.day = e.day := by omega
  have h2 : s.rank = t.rank := by simp only [TimeOfDay.rank]; omega
  rw [Date.ext_day h1, TimeOfDay.rank_injective h2]

instance : LE DateTime := ⟨fun a b => a.rank ≤ b.rank⟩
instance : LT DateTime := ⟨fun a b => a.rank < b.rank⟩
instance (a b : DateTime) : Decidable (a ≤ b) := inferInstanceAs (Decidable (a.rank ≤ b.rank))
instance (a b : DateTime) : Decidable (a < b) := inferInstanceAs (Decidable (a.rank < b.rank))

/-- The later of two instants. -/
def latest (a b : DateTime) : DateTime := if a ≤ b then b else a

/-- The first and the last instant outside a leap second. -/
def first : DateTime := ⟨Date.first, TimeOfDay.midnight⟩
def last : DateTime := ⟨Date.last, TimeOfDay.last⟩

/-- The instant a number of nanoseconds after midnight of a day; no leap second is counted. -/
def ofMidnight? (d : Date) (n : Int) : Option DateTime :=
  match Date.ofDay? (d.day + n / dayNanos) with
  | none => none
  | some e =>
    some ⟨e, ⟨(n % dayNanos / 1000000000).toNat, (n % dayNanos % 1000000000).toNat,
      by unfold dayNanos; omega, by omega, by omega⟩⟩

/-- The instant a span later, unless it lies outside the calendar. Within a leap second only a span
that neither reaches its end nor takes a whole second back leaves it counted as such. -/
def add? (a : DateTime) (s : Span) : Option DateTime :=
  let n := a.time.sinceMidnight
  if ha : 1000000000 ≤ a.time.nano then
    if _ : 2000000000 ≤ a.time.nano + s.nanos then ofMidnight? a.date (n - 1000000000 + s.nanos)
    else if _ : s.nanos ≤ -1000000000 then ofMidnight? a.date (n + s.nanos)
    else
      some ⟨a.date, ⟨a.time.second, (a.time.nano + s.nanos).toNat, a.time.second_lt, by omega,
        fun _ => a.time.leap ha⟩⟩
  else ofMidnight? a.date (n + s.nanos)

/-- Leap seconds of the two times of day that their count since midnight misses or has too many. -/
def leapCorrection (s t : TimeOfDay) : Int :=
  if t.second < s.second ∧ t.isLeap then 1
  else if s.second < t.second ∧ s.isLeap then -1
  else 0

/-- The span from `b` to `a`. -/
def since (a b : DateTime) : Span where
  nanos := (a.date.day - b.date.day) * dayNanos + (a.time.sinceMidnight - b.time.sinceMidnight) +
    leapCorrection a.time b.time * 1000000000
  lower := by
    have h1 := a.date.lower; have h2 := b.date.upper
    have h3 := b.time.second_lt; have h4 := b.time.nano_lt
    unfold firstDay at h1; unfold lastDay at h2
    unfold spanLimit dayNanos TimeOfDay.sinceMidnight leapCorrection
    split <;> (try split) <;> omega
  upper := by
    have h1 := a.date.upper; have h2 := b.date.lower
    have h3 := a.time.second_lt; have h4 := a.time.nano_lt
    unfold lastDay at h1; unfold firstDay at h2
    unfold spanLimit dayNanos TimeOfDay.sinceMidnight leapCorrection
    split <;> (try split) <;> omega

/-- The instant a span later, or the end of the calendar on that side. -/
def addOrEnd (a : DateTime) (s : Span) : DateTime :=
  match a.add? s with
  | some b => b
  | none => if s.nanos < 0 then first else last

end DateTime

end AlarmClock
