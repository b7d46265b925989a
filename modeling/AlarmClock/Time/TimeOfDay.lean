/-! Times of day: a second of the day and nanoseconds in it. A leap second is the
second billion of nanoseconds of the last second of a minute. A minute of the
day is a time of day whose seconds are zero. -/

namespace AlarmClock

/-- A time of day. Nanoseconds from a billion on belong to a leap second. -/
structure TimeOfDay where
  second : Nat
  nano : Nat
  second_lt : second < 86400
  nano_lt : nano < 2000000000
  leap : 1000000000 ≤ nano → second % 60 = 59
  deriving DecidableEq

namespace TimeOfDay

/-- The place of a time of day among all times of day. -/
def rank (t : TimeOfDay) : Nat := t.second * 2000000000 + t.nano

theorem rank_injective {s t : TimeOfDay} (h : s.rank = t.rank) : s = t := by
  rcases s with ⟨s, n, hs, hn, hl⟩
  rcases t with ⟨t, m, ht, hm, hk⟩
  simp only [rank] at h
  have h1 : s = t := by omega
  have h2 : n = m := by omega
  cases h1; cases h2; rfl

instance : LE TimeOfDay := ⟨fun s t => s.rank ≤ t.rank⟩
instance : LT TimeOfDay := ⟨fun s t => s.rank < t.rank⟩
instance (s t : TimeOfDay) : Decidable (s ≤ t) := inferInstanceAs (Decidable (s.rank ≤ t.rank))
instance (s t : TimeOfDay) : Decidable (s < t) := inferInstanceAs (Decidable (s.rank < t.rank))

def isLeap (t : TimeOfDay) : Bool := 1000000000 ≤ t.nano

/-- Nanoseconds since midnight, with every leap second counted where it stands. -/
def sinceMidnight (t : TimeOfDay) : Int := t.second * 1000000000 + t.nano

def midnight : TimeOfDay := ⟨0, 0, by decide, by decide, by decide⟩

/-- The last nanosecond of the day that is not part of a leap second. -/
def last : TimeOfDay := ⟨86399, 999999999, by decide, by decide, by decide⟩

instance : Inhabited TimeOfDay := ⟨midnight⟩

def hour (t : TimeOfDay) : Nat := t.second / 3600
def minute (t : TimeOfDay) : Nat := t.second / 60 % 60

/-- The second of the minute; a leap second has the number 60. -/
def secondOfMinute (t : TimeOfDay) : Nat := t.second % 60 + if t.isLeap then 1 else 0

theorem hour_lt (t : TimeOfDay) : t.hour < 24 := by
  have := t.second_lt
  rw [hour]
  omega

theorem minute_lt (t : TimeOfDay) : t.minute < 60 := Nat.mod_lt _ (by decide)

theorem secondOfMinute_le (t : TimeOfDay) : t.secondOfMinute ≤ 60 := by
  have := Nat.mod_lt t.second (show 0 < 60 by decide)
  rw [secondOfMinute]
  split <;> omega

/-- Nanoseconds in the second. -/
def fraction (t : TimeOfDay) : Nat := t.nano % 1000000000

/-- The time of day with an hour, a minute and a second; the second 60 is a leap second. -/
def ofParts? (hour minute second : Nat) : Option TimeOfDay :=
  if h : hour < 24 ∧ minute < 60 ∧ second < 60 then
    some ⟨hour * 3600 + minute * 60 + second, 0, by omega, by omega, by omega⟩
  else if h : hour < 24 ∧ minute < 60 ∧ second = 60 then
    some ⟨hour * 3600 + minute * 60 + 59, 1000000000, by omega, by omega, by omega⟩
  else none

end TimeOfDay

/-! ### Minutes of the day -/

/-- A minute of the day. -/
structure DayMinute where
  index : Nat
  index_lt : index < 1440
  deriving DecidableEq

namespace DayMinute

instance : Inhabited DayMinute := ⟨⟨0, by decide⟩⟩

def hour (m : DayMinute) : Nat := m.index / 60
def minute (m : DayMinute) : Nat := m.index % 60

/-- The first instant of the minute. -/
def start (m : DayMinute) : TimeOfDay :=
  ⟨m.index * 60, 0, by have := m.index_lt; omega, by omega, by omega⟩

/-- The minute that a time of day lies in. -/
def ofTime (t : TimeOfDay) : DayMinute := ⟨t.second / 60, by have := t.second_lt; omega⟩

theorem ofTime_start (m : DayMinute) : ofTime m.start = m := by
  cases m; simp [ofTime, start]

end DayMinute

end AlarmClock
