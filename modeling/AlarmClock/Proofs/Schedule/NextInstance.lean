import AlarmClock.Schedule.Basic

/-! The next instance of an alarm. An alarm goes off at its time on the weekdays that its
period allows, as long as it is enabled. Main statements: the next instance from an
instant on is the first one at which the alarm goes off, and there is none exactly
if the alarm does not go off again before the calendar ends. -/

namespace AlarmClock

/-! ### Days and weekdays -/

theorem Weekday.ofIndex_congr {m n : Nat} (h : m % 7 = n % 7) : ofIndex m = ofIndex n := by
  rw [ofIndex, ofIndex, h]

namespace Date

theorem addDays?_eq_some {d e : Date} {n : Nat} : d.addDays? n = some e ↔ e.day = d.day + n :=
  ofDay?_eq_some

theorem weekday_eq_ofIndex {d e : Date} {n : Nat} (h : e.day = d.day + n) :
    e.weekday = Weekday.ofIndex (d.weekday.index + n) := by
  unfold weekday
  rw [Weekday.index_ofIndex, h]
  apply Weekday.ofIndex_congr
  omega

end Date

namespace Period

/-- After the wait of a period a weekday is allowed. -/
theorem allows_of_day_eq {p : Period} {d e : Date} (h : e.day = d.day + p.wait d.weekday) :
    p.allows e.weekday = true := by
  rw [Date.weekday_eq_ofIndex h]
  exact p.allows_wait d.weekday

/-- No day before the end of the wait is allowed. -/
theorem wait_le_of_allows {p : Period} {d e : Date} (hde : d.day ≤ e.day) (he : p.allows e.weekday = true) :
    d.day + p.wait d.weekday ≤ e.day := by
  have hn : e.day = d.day + (e.day - d.day).toNat := by omega
  rw [Date.weekday_eq_ofIndex hn] at he
  by_cases hlt : (e.day - d.day).toNat < p.wait d.weekday
  · rw [not_allows_of_lt_wait hlt] at he
    cases he
  · omega

end Period

/-! ### Instants at which an alarm goes off -/

namespace DateTime

theorem le_def {a b : DateTime} : a ≤ b ↔ a.rank ≤ b.rank := Iff.rfl

theorem lt_def {a b : DateTime} : a < b ↔ a.rank < b.rank := Iff.rfl

theorem le_antisymm {a b : DateTime} (h : a ≤ b) (h' : b ≤ a) : a = b :=
  rank_injective (Int.le_antisymm h h')

theorem rank_start (d : Date) (m : DayMinute) :
    rank ⟨d, m.start⟩ = d.day * 172800000000000 + m.index * 120000000000 := by
  simp only [rank, TimeOfDay.rank, DayMinute.start]
  omega

end DateTime

namespace Alarm

/-- An enabled alarm goes off at its time on allowed weekdays. -/
structure GoesOffAt (a : Alarm) (i : DateTime) : Prop where
  enabled : a.enabled = true
  time_eq : i.time = a.time.start
  allowed : a.period.allows i.date.weekday = true

instance (a : Alarm) (i : DateTime) : Decidable (a.GoesOffAt i) :=
  decidable_of_iff (a.enabled = true ∧ i.time = a.time.start ∧ a.period.allows i.date.weekday = true)
    ⟨fun h => ⟨h.1, h.2.1, h.2.2⟩, fun h => ⟨h.1, h.2, h.3⟩⟩

theorem GoesOffAt.rank_eq {a : Alarm} {i : DateTime} (h : a.GoesOffAt i) :
    i.rank = i.date.day * 172800000000000 + a.time.index * 120000000000 := by
  rw [← DateTime.rank_start, ← h.time_eq]

/-- The first date is the earliest on which the time of the alarm does not lie back. -/
theorem le_of_firstDate? {a : Alarm} {now : DateTime} {d : Date} (h : a.firstDate? now = some d) :
    now ≤ ⟨d, a.time.start⟩ ∧ ∀ e : Date, now ≤ ⟨e, a.time.start⟩ → d.day ≤ e.day := by
  have hs := now.time.second_lt
  have hm := a.time.index_lt
  have hn := now.time.nano_lt
  simp only [DateTime.le_def, DateTime.rank_start]
  unfold firstDate? at h
  split at h
  · rename_i hlt
    rw [Date.addDays?_eq_some] at h
    change (a.time.start).rank < now.time.rank at hlt
    simp only [DateTime.rank, TimeOfDay.rank, DayMinute.start] at hlt ⊢
    exact ⟨by omega, fun e he => by omega⟩
  · rename_i hge
    cases h
    change ¬ (a.time.start).rank < now.time.rank at hge
    simp only [DateTime.rank, TimeOfDay.rank, DayMinute.start] at hge ⊢
    exact ⟨by omega, fun e he => by omega⟩

theorem not_le_of_firstDate?_eq_none {a : Alarm} {now : DateTime} (h : a.firstDate? now = none) (e : Date) :
    ¬ now ≤ ⟨e, a.time.start⟩ := by
  have he := e.upper
  unfold firstDate? at h
  split at h
  · rename_i hlt
    change (a.time.start).rank < now.time.rank at hlt
    rw [Date.addDays?, Date.ofDay?_eq_none] at h
    have hd := now.date.lower
    simp only [DateTime.le_def, DateTime.rank, TimeOfDay.rank, DayMinute.start] at hlt ⊢
    omega
  · cases h

/-! ### The next instance -/

/-- The next instance from `now` on is one, and none comes before it. -/
theorem goesOffAt_nextInstance {a : Alarm} {now i : DateTime} (h : a.nextInstance now = some i) :
    a.GoesOffAt i ∧ now ≤ i ∧ ∀ j, a.GoesOffAt j → now ≤ j → i ≤ j := by
  unfold nextInstance at h
  split at h
  · rename_i hen
    split at h
    · cases h
    · rename_i d hd
      obtain ⟨hle, hfirst⟩ := le_of_firstDate? hd
      obtain ⟨e, he, rfl⟩ := Option.map_eq_some_iff.1 h
      rw [Date.addDays?_eq_some] at he
      refine ⟨⟨hen, rfl, Period.allows_of_day_eq he⟩, ?_, ?_⟩
      · simp only [DateTime.le_def, DateTime.rank_start] at hle ⊢
        omega
      · intro j hj hnow
        have hday : d.day ≤ j.date.day := hfirst j.date (by rw [← hj.time_eq]; exact hnow)
        have hwait := Period.wait_le_of_allows hday hj.allowed
        simp only [DateTime.le_def, DateTime.rank_start, hj.rank_eq]
        omega
  · cases h

/-- Without a next instance from `now` on, the alarm goes off at no later instant. -/
theorem not_goesOffAt_of_nextInstance_eq_none {a : Alarm} {now j : DateTime} (h : a.nextInstance now = none)
    (hj : a.GoesOffAt j) : ¬ now ≤ j := by
  intro hnow
  have hstart : now ≤ ⟨j.date, a.time.start⟩ := by rw [← hj.time_eq]; exact hnow
  rw [nextInstance, if_pos hj.enabled] at h
  split at h
  · rename_i hnone
    exact not_le_of_firstDate?_eq_none hnone j.date hstart
  · rename_i d hd
    have hwait := Period.wait_le_of_allows ((le_of_firstDate? hd).2 j.date hstart) hj.allowed
    rw [Option.map_eq_none_iff, Date.addDays?, Date.ofDay?_eq_none] at h
    have hlast := j.date.upper
    have hfirst := d.lower
    omega

theorem nextInstance_eq_some_iff {a : Alarm} {now i : DateTime} :
    a.nextInstance now = some i ↔ a.GoesOffAt i ∧ now ≤ i ∧ ∀ j, a.GoesOffAt j → now ≤ j → i ≤ j := by
  constructor
  · exact goesOffAt_nextInstance
  · rintro ⟨hi, hnow, hleast⟩
    cases hn : a.nextInstance now with
    | none => exact absurd hnow (not_goesOffAt_of_nextInstance_eq_none hn hi)
    | some k =>
      obtain ⟨hk, hnk, hmin⟩ := goesOffAt_nextInstance hn
      rw [DateTime.le_antisymm (hmin i hi hnow) (hleast k hk hnk)]

theorem nextInstance_eq_none_iff {a : Alarm} {now : DateTime} :
    a.nextInstance now = none ↔ ∀ j, a.GoesOffAt j → ¬ now ≤ j := by
  constructor
  · exact fun h j hj => not_goesOffAt_of_nextInstance_eq_none h hj
  · intro h
    cases hn : a.nextInstance now with
    | none => rfl
    | some k =>
      obtain ⟨hk, hnk, -⟩ := goesOffAt_nextInstance hn
      exact absurd hnk (h k hk)

end Alarm

/-! ### A morning -/

/-- The beginning of a minute of Wednesday 2020-11-18. -/
def wednesday (n : Fin 1440) : DateTime := ⟨⟨737746, by decide, by decide⟩, DayMinute.start ⟨n, n.isLt⟩⟩

/-- An alarm of every day for an hour, the digits of its identifier all alike. -/
def everyDay (digit : Fin 16) (n : Fin 1440) : Alarm where
  id := ⟨List.replicate 32 digit, List.length_replicate⟩
  time := ⟨n, n.isLt⟩
  period := .daily
  enabled := true
  media := ⟨['f', 'i', 'l', 'e'], none, .segments [['b', 'e', 'l', 'l']], none, none⟩
  volume := Alarm.defaultVolume
  timeout := Span.ofSeconds 3600 (by decide)

/-- On that morning 08:45 is the first instant of a daily alarm of 08:45. -/
example : (everyDay 1 525).nextInstance (wednesday 480) = some (wednesday 525) := by decide

theorem goesOffAt_wednesday (digit : Fin 16) (n : Fin 1440) : (everyDay digit n).GoesOffAt (wednesday n) :=
  ⟨rfl, rfl, rfl⟩

/-- Between two minutes of that day a daily alarm goes off at its own one at most. -/
theorem eq_wednesday_of_goesOffAt {digit : Fin 16} {n m k : Fin 1440} {i : DateTime}
    (hi : (everyDay digit n).GoesOffAt i) (hm : wednesday m ≤ i) (hk : i ≤ wednesday k) : i = wednesday n := by
  apply DateTime.rank_injective
  have hn := n.isLt
  have hmk := m.isLt
  have hkk := k.isLt
  have hrank := hi.rank_eq
  simp only [DateTime.le_def, wednesday, DateTime.rank_start, everyDay] at hm hk hrank ⊢
  omega

end AlarmClock
