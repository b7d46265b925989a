import AlarmClock.Proofs.Dispatcher.Choice
import Mathlib.Data.List.Induction
import Mathlib.Data.List.Nodup

/-! Which alarms a dispatcher sends that is looked at again and again. Each choice is made
from one second after the last firing on, and only the first of the alarms that go off
together is chosen; what falls behind either of these is never sent. Main statement:
an alarm is sent at the first look after its instant exactly if it is no such case. -/

namespace AlarmClock

/-- The alarm that is sent for an instant: what stands under the identifier of the first one that goes off. -/
def sentAt? (alarms : List Alarm) (i : DateTime) : Option Alarm :=
  (alarms.find? fun a => a.GoesOffAt i).bind fun a => alarms.find? (·.id = a.id)

/-- A dispatcher and the instants at which it has fired. -/
structure Watch where
  dispatcher : Dispatcher
  fired : List DateTime := []

namespace Watch

/-- Looks at the clock, and remembers a firing. -/
def poll (alarms : List Alarm) (w : Watch) (now : DateTime) : Watch :=
  let x := (w.dispatcher.poll alarms now).value
  { dispatcher := x.1, fired := if x.2 = .notDue then w.fired else w.fired ++ [now] }

/-- The dispatcher follows a reference that neither lies before a second after a firing nor leaves
out an instant that no look has passed. -/
structure Keeps (w : Watch) (alarms : List Alarm) (start : DateTime) (looks : List DateTime)
    (reference : DateTime) : Prop where
  follows : w.dispatcher.Follows alarms reference
  start_le : start ≤ reference
  ahead : ∀ x, GoesOff alarms x → reference ≤ x → ∀ s ∈ looks, s < x
  le_reference : ∀ s ∈ w.fired, ∀ u, s.add? Span.second = some u → u ≤ reference
  reference_eq : reference = start ∨ ∃ s ∈ w.fired, s.add? Span.second = some reference

theorem keeps_poll {w : Watch} {alarms : List Alarm} {start reference now next : DateTime} {looks : List DateTime}
    (h : w.Keeps alarms start looks reference) (hstart : start ≤ now) (hlooks : ∀ s ∈ looks, s ≤ now)
    (hnext : now.add? Span.second = some next) :
    ∃ r, (w.poll alarms now).Keeps alarms start (looks ++ [now]) r := by
  cases hdue : w.dispatcher.countdown.isDue now with
  | false =>
    have hw : w.poll alarms now = w := by
      simp [poll, Dispatcher.poll_of_not_isDue alarms hdue]
    refine ⟨reference, ?_⟩
    rw [hw]
    refine { h with ahead := fun x hx hr s hs => ?_ }
    rcases List.mem_append.1 hs with hs | hs
    · exact h.ahead x hx hr s hs
    · rw [List.mem_singleton.1 hs]
      exact h.follows.lt_of_not_isDue hdue hx hr
  | true =>
    have hlt : now < next := DateTime.lt_of_add?_second hnext
    -- the reference before lies at or before the deadline, which has come
    have hr : reference ≤ now := by
      obtain ⟨a, i, hu, -, hi⟩ := h.follows.exists_upcoming_of_isDue hdue
      exact Int.le_trans (goesOff_of_upcoming? hu).1 hi
    have hfired : (w.poll alarms now).fired = w.fired ++ [now] := by
      rw [poll]
      refine if_neg fun hn => ?_
      rw [Dispatcher.firing_eq_notDue_iff, hdue] at hn
      cases hn
    refine ⟨next, Dispatcher.follows_poll alarms hdue hnext, ?_, ?_, ?_, ?_⟩
    · exact Int.le_of_lt (Int.lt_of_le_of_lt hstart hlt)
    · intro x _ hx s hs
      have hsn : s ≤ now := by
        rcases List.mem_append.1 hs with hs | hs
        · exact hlooks s hs
        · rw [List.mem_singleton.1 hs]
          exact Int.le_refl _
      exact Int.lt_of_le_of_lt hsn (Int.lt_of_lt_of_le hlt hx)
    · intro s hs u hu
      rw [hfired] at hs
      rcases List.mem_append.1 hs with hs | hs
      · exact Int.le_of_lt (Int.lt_of_le_of_lt (Int.le_trans (h.le_reference s hs u hu) hr) hlt)
      · rw [List.mem_singleton.1 hs, hnext] at hu
        cases hu
        exact Int.le_refl _
    · exact .inr ⟨now, by rw [hfired]; simp, hnext⟩

end Watch

namespace Dispatcher

/-- A dispatcher that is made to choose at an instant and from then on only looked at. -/
def watch (d : Dispatcher) (alarms : List Alarm) (start : DateTime) (looks : List DateTime) : Watch :=
  looks.foldl (Watch.poll alarms) { dispatcher := (d.check alarms start).value }

theorem keeps_watch (d : Dispatcher) {alarms : List Alarm} {start : DateTime} {looks : List DateTime}
    (hord : (start :: looks).Pairwise (· ≤ ·)) (hsec : ∀ s ∈ looks, ∃ u, s.add? Span.second = some u) :
    ∃ r, (d.watch alarms start looks).Keeps alarms start looks r := by
  induction looks using List.reverseRecOn with
  | nil =>
    refine ⟨start, d.follows_check alarms start, Int.le_refl _, ?_, ?_, .inl rfl⟩
    · exact fun x _ _ s hs => absurd hs List.not_mem_nil
    · exact fun s hs => absurd hs List.not_mem_nil
  | append_singleton looks now ih =>
    rw [← List.cons_append, List.pairwise_append] at hord
    obtain ⟨hlooks, -, hlast⟩ := hord
    obtain ⟨r, hr⟩ := ih hlooks fun s hs => hsec s (List.mem_append_left _ hs)
    obtain ⟨next, hnext⟩ := hsec now (by simp)
    have hle : ∀ s ∈ start :: looks, s ≤ now := fun s hs => hlast s hs now (by simp)
    rw [watch, List.foldl_append]
    exact Watch.keeps_poll hr (hle start (by simp)) (fun s hs => hle s (List.mem_cons_of_mem _ hs)) hnext

end Dispatcher

/-- Before an instant at which an alarm goes off the calendar has another second. -/
theorem exists_add?_second_of_goesOffAt {a : Alarm} {s i : DateTime} (hi : a.GoesOffAt i) (hs : s < i) :
    ∃ u, s.add? Span.second = some u := by
  apply DateTime.exists_add?_second
  have hday := i.date.upper
  have hidx := a.time.index_lt
  simp only [DateTime.lt_def, hi.rank_eq] at hs ⊢
  simp only [DateTime.lastSecond, DateTime.rank, TimeOfDay.rank, TimeOfDay.last, Date.last] at hs ⊢
  omega

/-- At the first look at or after an instant at which alarms go off, and no others in the meantime, an
alarm is sent exactly if no look that fired lies less than a second before the instant, and if it is
what stands under the identifier of the first alarm that goes off then. -/
theorem alarmTriggered_mem_first_look_iff (d : Dispatcher) {alarms : List Alarm} {start now i : DateTime}
    {looks : List DateTime} {a : Alarm} (hord : (start :: (looks ++ [now])).Pairwise (· ≤ ·)) (ha : a ∈ alarms)
    (hi : a.GoesOffAt i) (hstart : start ≤ i) (hlooks : ∀ s ∈ looks, s < i) (hnow : i ≤ now)
    (hone : ∀ x, GoesOff alarms x → start ≤ x → (∀ s ∈ looks, s < x) → x ≤ now → x = i) :
    .alarmTriggered a ∈ ((d.watch alarms start looks).dispatcher.poll alarms now).events ↔
      (∀ s ∈ (d.watch alarms start looks).fired, ∀ u, s.add? Span.second = some u → u ≤ i) ∧
        sentAt? alarms i = some a := by
  rw [← List.cons_append, List.pairwise_append] at hord
  obtain ⟨r, hkeeps⟩ := d.keeps_watch hord.1 fun s hs => exists_add?_second_of_goesOffAt hi (hlooks s hs)
  have hgoes : GoesOff alarms i := ⟨a, ha, hi⟩
  -- the dispatcher is due at the only instant in the meantime, if at all
  have hsole : ∀ b x, upcoming? alarms r = some (b, x) → x ≤ now → x = i := by
    intro b x hu hx
    obtain ⟨hrx, hfind, -⟩ := goesOff_of_upcoming? hu
    have hbx : GoesOff alarms x := ⟨b, List.mem_of_find?_eq_some hfind, by simpa using List.find?_some hfind⟩
    exact hone x hbx (Int.le_trans hkeeps.start_le hrx) (hkeeps.ahead x hbx hrx) hx
  have hpassed : r ≤ i ↔
      ∀ s ∈ (d.watch alarms start looks).fired, ∀ u, s.add? Span.second = some u → u ≤ i := by
    constructor
    · exact fun h s hs u hu => Int.le_trans (hkeeps.le_reference s hs u hu) h
    · intro h
      rcases hkeeps.reference_eq with rfl | ⟨s, hs, hu⟩
      · exact hstart
      · exact h s hs r hu
  rw [← hpassed, Dispatcher.alarmTriggered_mem_events_poll_iff]
  constructor
  · rintro ⟨hdue, id, hid, hstore, -⟩
    obtain ⟨b, x, hu, hb, hx⟩ := hkeeps.follows.exists_upcoming_of_isDue hdue
    obtain rfl := hsole b x hu hx
    obtain ⟨hr, hfind, -⟩ := goesOff_of_upcoming? hu
    rw [hid] at hb
    cases hb
    refine ⟨hr, ?_⟩
    rw [sentAt?, hfind]
    exact hstore
  · rintro ⟨hr, hsent⟩
    cases hu : upcoming? alarms r with
    | none => exact absurd hr (not_goesOff_of_upcoming?_eq_none hu hgoes)
    | some y =>
      obtain ⟨b, x⟩ := y
      obtain rfl := hsole b x hu (Int.le_trans ((goesOff_of_upcoming? hu).2.2 i hgoes hr) hnow)
      have hfollows := hkeeps.follows
      rw [Dispatcher.Follows, hu] at hfollows
      rw [sentAt?, (goesOff_of_upcoming? hu).2.1] at hsent
      exact ⟨Countdown.isDue_iff.2 ⟨x, hfollows.2.1, hnow⟩, b.id, hfollows.1, hsent, hi.enabled⟩

/-- An alarm of 08:45 and one of 09:30, looked at a minute after the first and at the second. -/
theorem alarmTriggered_mem_look_at_half_past_nine :
    .alarmTriggered (everyDay 2 570) ∈
      ((Dispatcher.watch { face := .hours24 } [everyDay 1 525, everyDay 2 570] (wednesday 480)
        [wednesday 526]).dispatcher.poll [everyDay 1 525, everyDay 2 570] (wednesday 570)).events := by
  refine (alarmTriggered_mem_first_look_iff _ (by decide) (by decide) (goesOffAt_wednesday 2 570) (by decide)
    (by decide) (by decide) ?_).2 (by decide +kernel)
  rintro x ⟨a, ha, hx⟩ - hlooks hnow
  have hlook : wednesday 526 < x := hlooks _ (List.mem_singleton_self _)
  rcases List.mem_cons.1 ha with rfl | ha
  · rw [eq_wednesday_of_goesOffAt hx (Int.le_of_lt hlook) hnow] at hlook
    exact absurd hlook (by decide)
  · rw [List.mem_singleton.1 ha] at hx
    exact eq_wednesday_of_goesOffAt hx (Int.le_of_lt hlook) hnow

/-- The second of two alarms of 08:45 is not sent, though nothing else goes off and the look comes in time. -/
theorem alarmTriggered_notMem_look_of_second :
    (everyDay 2 525).GoesOffAt (wednesday 525) ∧
      (∀ x, GoesOff [everyDay 1 525, everyDay 2 525] x → wednesday 524 ≤ x → x ≤ wednesday 525 →
        x = wednesday 525) ∧
      .alarmTriggered (everyDay 2 525) ∉
        ((Dispatcher.watch { face := .hours24 } [everyDay 1 525, everyDay 2 525] (wednesday 524)
          []).dispatcher.poll [everyDay 1 525, everyDay 2 525] (wednesday 525)).events := by
  refine ⟨goesOffAt_wednesday 2 525, ?_, by decide +kernel⟩
  rintro x ⟨a, ha, hx⟩ hstart hnow
  rcases List.mem_cons.1 ha with rfl | ha
  · exact eq_wednesday_of_goesOffAt hx hstart hnow
  · rw [List.mem_singleton.1 ha] at hx
    exact eq_wednesday_of_goesOffAt hx hstart hnow

end AlarmClock
