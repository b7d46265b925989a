import AlarmClock.Proofs.Schedule.LeastInstance
import AlarmClock.Proofs.Text.Written
import AlarmClock.Schedule.Label

/-! What is shown of the upcoming alarm. A label keeps weekday, hour and minute, on either face of the clock. Main
statement: since the next instances from one instant on lie within a week and begin a minute, the
label tells them apart. -/

namespace AlarmClock

open Text

/-! ### What a label keeps -/

theorem Weekday.length_name (w : Weekday) : w.name.length = 3 := by
  cases w <;> rfl

theorem Weekday.name_injective {v w : Weekday} (h : v.name = w.name) : v = w := by
  revert h
  cases v <;> cases w <;> decide

namespace TimeOfDay

theorem minuteChars_inj {s t : TimeOfDay} (h : s.minuteChars = t.minuteChars) :
    s.hour = t.hour ∧ s.minute = t.minute := by
  have hs := s.hour_lt; have hsm := s.minute_lt
  have ht := t.hour_lt; have htm := t.minute_lt
  have hjoin : padded 2 s.hour ++ ':' :: padded 2 s.minute ++ [] = padded 2 t.hour ++ ':' :: padded 2 t.minute ++ [] :=
    congrArg (· ++ []) h
  obtain ⟨hhour, hminute, -⟩ := padded_append_inj hjoin (by omega) (by omega) (by omega) (by omega)
  exact ⟨hhour, hminute⟩

/-- The hour on a face of twelve hours and the half of the day tell the hour. -/
theorem halfDayChars_inj {s t : TimeOfDay} (h : s.halfDayChars = t.halfDayChars) :
    s.hour = t.hour ∧ s.minute = t.minute := by
  have hs := s.hour_lt; have hsm := s.minute_lt
  have ht := t.hour_lt; have htm := t.minute_lt
  obtain ⟨hhour, hminute, hhalf⟩ := padded_append_inj h (by split <;> omega) (by split <;> omega) (by omega) (by omega)
  have hhalf : s.hour < 12 ↔ t.hour < 12 := by
    by_cases hs12 : s.hour < 12 <;> by_cases ht12 : t.hour < 12 <;> simp [hs12, ht12] at hhalf ⊢
  refine ⟨?_, hminute⟩
  split at hhour <;> split at hhour <;> omega

end TimeOfDay

theorem DateTime.labelChars_inj {face : ClockFace} {i j : DateTime} (h : i.labelChars face = j.labelChars face) :
    i.date.weekday = j.date.weekday ∧ i.time.hour = j.time.hour ∧ i.time.minute = j.time.minute := by
  obtain ⟨hname, htime⟩ := List.append_inj h (by rw [Weekday.length_name, Weekday.length_name])
  have htime := (List.cons.inj htime).2
  refine ⟨Weekday.name_injective hname, ?_⟩
  cases face with
  | hours24 => exact TimeOfDay.minuteChars_inj htime
  | hours12 => exact TimeOfDay.halfDayChars_inj htime

/-! ### What the schedule leaves open -/

/-- An allowed day is at most five days away. -/
theorem Period.wait_le (p : Period) (w : Weekday) : p.wait w ≤ 5 := by
  cases p <;> cases w <;> decide

namespace Alarm

/-- The next instance lies within a week. -/
theorem day_of_nextInstance {a : Alarm} {now i : DateTime} (h : a.nextInstance now = some i) :
    now.date.day ≤ i.date.day ∧ i.date.day < now.date.day + 7 := by
  unfold nextInstance at h
  split at h
  · split at h
    · cases h
    · rename_i d hd
      obtain ⟨e, he, rfl⟩ := Option.map_eq_some_iff.1 h
      have hwait := a.period.wait_le d.weekday
      have hpassed := Bool.toNat_le (decide (a.time.start < now.time))
      rw [firstDate?_eq_addDays?, Date.addDays?_eq_some] at hd
      rw [Date.addDays?_eq_some] at he
      dsimp only
      omega
  · cases h

theorem time_of_nextInstance {a : Alarm} {now i : DateTime} (h : a.nextInstance now = some i) :
    i.time = a.time.start :=
  (goesOffAt_nextInstance h).1.time_eq

end Alarm

/-- Days of one week with the same weekday are the same. -/
theorem Date.eq_of_weekday_eq {d e : Date} {n : Int} (hd : n ≤ d.day ∧ d.day < n + 7) (he : n ≤ e.day ∧ e.day < n + 7)
    (h : d.weekday = e.weekday) : d = e := by
  have hindex := congrArg Weekday.index h
  rw [weekday, weekday, Weekday.index_ofIndex, Weekday.index_ofIndex] at hindex
  apply ext_day
  omega

/-- The first instants of two minutes of the day with the same hour and minute are the same. -/
theorem DayMinute.start_eq_of_hour_eq {m n : DayMinute} (hhour : m.start.hour = n.start.hour)
    (hminute : m.start.minute = n.start.minute) : m.start = n.start := by
  apply TimeOfDay.rank_injective
  simp only [start, TimeOfDay.hour, TimeOfDay.minute, TimeOfDay.rank] at *
  omega

/-- On either face of the clock the labels of two next instances from one instant on are the same exactly if these
are, and none is what is shown without an upcoming alarm. -/
theorem upcomingText_tells_apart (face : ClockFace) {now i j : DateTime} {a b : Alarm} (ha : a.nextInstance now = some i)
    (hb : b.nextInstance now = some j) :
    (upcomingText face (some i) = upcomingText face (some j) ↔ i = j) ∧
      upcomingText face (some i) ≠ upcomingText face none := by
  refine ⟨⟨fun h => ?_, fun h => by rw [h]⟩, fun h => ?_⟩
  · have hchars : i.labelChars face = j.labelChars face := String.ofList_injective h
    obtain ⟨hweekday, hhour, hminute⟩ := DateTime.labelChars_inj hchars
    have hdate : i.date = j.date :=
      Date.eq_of_weekday_eq (Alarm.day_of_nextInstance ha) (Alarm.day_of_nextInstance hb) hweekday
    have htime : i.time = j.time := by
      rw [Alarm.time_of_nextInstance ha, Alarm.time_of_nextInstance hb] at hhour hminute ⊢
      exact DayMinute.start_eq_of_hour_eq hhour hminute
    cases i
    cases j
    cases hdate
    cases htime
    rfl
  · -- a label has a blank behind its third character
    have hchars := congrArg (fun s => s.toList[3]?) h
    simp [upcomingText, DateTime.labelChars, noUpcomingText, Weekday.length_name] at hchars

/-- On Wednesday morning midnight is a matter of Thursday and noon is still to come; on a face of twelve hours both are
at twelve. -/
theorem upcomingText_tells_noon_from_midnight :
    let midnight : DateTime := ⟨⟨737747, by decide, by decide⟩, DayMinute.start ⟨0, by decide⟩⟩
    (everyDay 1 0).nextInstance (wednesday 480) = some midnight ∧
      (everyDay 2 720).nextInstance (wednesday 480) = some (wednesday 720) ∧
        upcomingText .hours12 (some midnight) ≠ upcomingText .hours12 (some (wednesday 720)) := by
  intro midnight
  have hmidnight : (everyDay 1 0).nextInstance (wednesday 480) = some midnight := by decide
  have hnoon : (everyDay 2 720).nextInstance (wednesday 480) = some (wednesday 720) := by decide
  have hapart := (upcomingText_tells_apart .hours12 hmidnight hnoon).1
  exact ⟨hmidnight, hnoon, fun h => absurd (hapart.1 h) (by decide)⟩

example : upcomingText .hours12 (some (wednesday 720)) = "Wed 12:00 PM" := by decide +kernel

end AlarmClock
