import AlarmClock.Proofs.Dispatcher.Polling
import AlarmClock.Proofs.Dispatcher.Soundness

/-! The occurrences for which a dispatcher sends. Firing chooses from the next second on, so what has
been sent is left behind; a check chooses from the clock as it is, and a clock that still stands at an
instant chooses that instant again. Main statement: on a clock that does not run back this is the only
way for an occurrence to be sent twice. -/

namespace AlarmClock

/-- What stands under the identifier of an alarm that goes off is sent for an instant of that identifier. -/
theorem exists_goesOffAt_of_sentAt? {alarms : List Alarm} {i : DateTime} {a : Alarm} (h : sentAt? alarms i = some a) :
    ∃ b ∈ alarms, b.id = a.id ∧ b.GoesOffAt i := by
  obtain ⟨b, hb, ha⟩ := Option.bind_eq_some_iff.1 h
  have hid : a.id = b.id := by simpa using List.find?_some ha
  exact ⟨b, List.mem_of_find?_eq_some hb, hid.symm, by simpa using List.find?_some hb⟩

/-- An alarm that was sent, with the instant that it was sent for. -/
structure Sending where
  alarm : Alarm
  instant : DateTime
  /-- The clock of the check that chose the alarm, or none if a firing chose it. -/
  checkedAt : Option DateTime

/-- A sending repeats an earlier one: both are for the same identifier and the same instant. -/
def Sending.Repeats (q p : Sending) : Prop := p.alarm.id = q.alarm.id ∧ p.instant = q.instant

/-- A dispatcher with what it has sent so far. -/
structure Diary where
  dispatcher : Dispatcher
  checkedAt : Option DateTime := none
  sent : List Sending := []

namespace Diary

/-- A dispatcher is made to choose, or looks at the clock. -/
inductive Errand where
  | check
  | look

/-- What a look sends, with the deadline that has elapsed. -/
def sending (x : Diary) (alarms : List Alarm) (now : DateTime) : List Sending :=
  x.dispatcher.countdown.deadline.toList.flatMap fun i =>
    (x.dispatcher.poll alarms now).sent.map fun a => ⟨a, i, x.checkedAt⟩

def step (alarms : List Alarm) (x : Diary) (now : DateTime) : Errand → Act Diary
  | .check => do
    let dispatcher ← x.dispatcher.check alarms now
    pure { x with dispatcher := dispatcher, checkedAt := some now }
  | .look => do
    let (dispatcher, firing) ← x.dispatcher.poll alarms now
    let checkedAt := if firing = .notDue then x.checkedAt else none
    pure { dispatcher := dispatcher, checkedAt := checkedAt, sent := x.sent ++ x.sending alarms now }

def run (alarms : List Alarm) (x : Diary) : List (DateTime × Errand) → Act Diary
  | [] => pure x
  | (now, e) :: es => do (← x.step alarms now e).run alarms es

variable {alarms : List Alarm} {x : Diary} {now : DateTime}

/-! ### What is sent -/

theorem sending_of_not_isDue (h : x.dispatcher.countdown.isDue now = false) : x.sending alarms now = [] := by
  simp [sending, Dispatcher.poll_of_not_isDue alarms h]

theorem map_alarm_sending (alarms : List Alarm) (x : Diary) (now : DateTime) :
    (x.sending alarms now).map Sending.alarm = (x.dispatcher.poll alarms now).sent := by
  cases hd : x.dispatcher.countdown.deadline with
  | some i => simp [sending, hd, Function.comp_def]
  | none =>
    have hactive : x.dispatcher.countdown.isActive = false := by
      rw [Countdown.isActive, hd]
      rfl
    have hdue := Countdown.isDue_of_not_isActive hactive now
    simp [sending, hd, Dispatcher.poll_of_not_isDue alarms hdue]

/-- A diary misses nothing and invents nothing. -/
theorem map_alarm_sent_step (alarms : List Alarm) (x : Diary) (now : DateTime) (e : Errand) :
    (x.step alarms now e).value.sent.map Sending.alarm = x.sent.map Sending.alarm ++ (x.step alarms now e).sent := by
  cases e with
  | check =>
    have hnone : (x.dispatcher.check alarms now).sent = [] := by
      rw [List.eq_nil_iff_forall_not_mem]
      intro a ha
      obtain ⟨info, hinfo⟩ := Dispatcher.mem_events_choose (Act.mem_sent.1 ha)
      cases hinfo
    simp [step, hnone]
  | look => simp [step, map_alarm_sending]

theorem map_alarm_sent_run (alarms : List Alarm) (x : Diary) (es : List (DateTime × Errand)) :
    (x.run alarms es).value.sent.map Sending.alarm = x.sent.map Sending.alarm ++ (x.run alarms es).sent := by
  induction es generalizing x with
  | nil => simp [run]
  | cons e es ih =>
    obtain ⟨now, e⟩ := e
    rw [run, Act.value_bind, Act.sent_bind, ih, map_alarm_sent_step, List.append_assoc]

/-! ### One errand -/

/-- A dispatcher that waits at all waits for what is upcoming at a reference. What it has sent lies before that, or,
if a check was made there, at most at it. -/
structure Keeps (alarms : List Alarm) (x : Diary) : Prop where
  waits : ∀ i, x.dispatcher.countdown.deadline = some i →
    ∃ r, x.dispatcher.Follows alarms r ∧ (∀ p ∈ x.sent, p.instant ≤ r) ∧
      (x.checkedAt = some r ∨ x.checkedAt = none ∧ ∀ p ∈ x.sent, p.instant < r)
  sentAt_eq : ∀ p ∈ x.sent, sentAt? alarms p.instant = some p.alarm
  repeats_iff : x.sent.Pairwise fun p q => q.Repeats p ↔ q.checkedAt = some p.instant

theorem exists_of_mem_sending {q : Sending} (h : q ∈ x.sending alarms now) :
    x.dispatcher.countdown.deadline = some q.instant ∧ q.checkedAt = x.checkedAt ∧
      q.alarm ∈ (x.dispatcher.poll alarms now).sent := by
  obtain ⟨i, hi, hq⟩ := List.mem_flatMap.1 h
  obtain ⟨a, ha, rfl⟩ := List.mem_map.1 hq
  exact ⟨Option.mem_toList.1 hi, rfl, ha⟩

/-- A look sends the alarm of the instant that is upcoming at the reference, when that has come. -/
theorem upcoming?_of_mem_sending {q : Sending} {r : DateTime} (hr : x.dispatcher.Follows alarms r)
    (h : q ∈ x.sending alarms now) :
    (∃ b, upcoming? alarms r = some (b, q.instant)) ∧ q.instant ≤ now ∧ sentAt? alarms q.instant = some q.alarm := by
  obtain ⟨hdeadline, -, hsent⟩ := exists_of_mem_sending h
  obtain ⟨hdue, id, hid, hfind, -⟩ := Dispatcher.alarmTriggered_mem_events_poll_iff.1 (Act.mem_sent.1 hsent)
  obtain ⟨b, i, hu, hb, hi⟩ := hr.exists_upcoming_of_isDue hdue
  have hq : i = q.instant := by
    rw [hr.deadline_eq, hu] at hdeadline
    exact Option.some.inj hdeadline
  subst hq
  refine ⟨⟨b, hu⟩, hi, ?_⟩
  rw [hid] at hb
  cases hb
  rw [sentAt?, (goesOff_of_upcoming? hu).2.1]
  exact hfind

/-- A sending repeats an earlier one exactly if a check chose its alarm at the instant of that one. -/
theorem Keeps.repeats_iff_of_mem_sending (h : x.Keeps alarms) {p q : Sending} (hp : p ∈ x.sent)
    (hq : q ∈ x.sending alarms now) : q.Repeats p ↔ q.checkedAt = some p.instant := by
  obtain ⟨hdeadline, hchecked, -⟩ := exists_of_mem_sending hq
  obtain ⟨r, hr, hle, hreference⟩ := h.waits _ hdeadline
  obtain ⟨⟨b, hu⟩, -, hsent⟩ := upcoming?_of_mem_sending hr hq
  obtain ⟨hrq, -, hleast⟩ := goesOff_of_upcoming? hu
  rw [hchecked]
  constructor
  · rintro ⟨-, hpq⟩
    -- the reference lies between the two instants, which are one
    have hpr : p.instant = r := by
      rw [← hpq] at hrq
      exact DateTime.le_antisymm (hle p hp) hrq
    rcases hreference with hat | ⟨-, hlt⟩
    · rw [hat, hpr]
    · have hpr' := hlt p hp
      rw [hpr] at hpr'
      exact absurd hpr' (Int.lt_irrefl _)
  · intro hat
    rcases hreference with hr' | ⟨hnone, -⟩
    · rw [hr'] at hat
      cases hat
      obtain ⟨c, hc, -, hgoes⟩ := exists_goesOffAt_of_sentAt? (h.sentAt_eq p hp)
      have hpq : p.instant = q.instant :=
        DateTime.le_antisymm hrq (hleast p.instant ⟨c, hc, hgoes⟩ (Int.le_refl _))
      refine ⟨?_, hpq⟩
      have halarm : p.alarm = q.alarm := by
        have hps := h.sentAt_eq p hp
        rw [hpq, hsent] at hps
        exact (Option.some.inj hps).symm
      rw [halarm]
    · rw [hnone] at hat
      cases hat

theorem pairwise_of_length_le_one {α : Type} {R : α → α → Prop} {l : List α} (h : l.length ≤ 1) : l.Pairwise R := by
  match l, h with
  | [], _ => exact .nil
  | [a], _ => exact List.pairwise_singleton R a

theorem Keeps.check (h : x.Keeps alarms) (hclock : ∀ p ∈ x.sent, p.instant ≤ now) :
    (x.step alarms now .check).value.Keeps alarms where
  waits _ _ := ⟨now, x.dispatcher.follows_check alarms now, hclock, .inl rfl⟩
  sentAt_eq := h.sentAt_eq
  repeats_iff := h.repeats_iff

theorem Keeps.look (h : x.Keeps alarms) (hclock : ∀ p ∈ x.sent, p.instant ≤ now) :
    (x.step alarms now .look).value.Keeps alarms ∧
      ∀ p ∈ (x.step alarms now .look).value.sent, p.instant ≤ now := by
  cases hdue : x.dispatcher.countdown.isDue now with
  | false =>
    have hx : (x.step alarms now .look).value = x := by
      simp [step, Dispatcher.poll_of_not_isDue alarms hdue, sending_of_not_isDue hdue]
    rw [hx]
    exact ⟨h, hclock⟩
  | true =>
    obtain ⟨i, hi, -⟩ := Countdown.isDue_iff.1 hdue
    obtain ⟨r, hr, -, -⟩ := h.waits i hi
    have hnew : ∀ q ∈ x.sending alarms now, q.instant ≤ now ∧ sentAt? alarms q.instant = some q.alarm :=
      fun q hq => (upcoming?_of_mem_sending hr hq).2
    have hsent : ∀ p ∈ (x.step alarms now .look).value.sent, p.instant ≤ now :=
      List.forall_mem_append.2 ⟨hclock, fun q hq => (hnew q hq).1⟩
    have hchecked : (x.step alarms now .look).value.checkedAt = none := by
      refine if_neg fun hn => ?_
      rw [Dispatcher.firing_eq_notDue_iff, hdue] at hn
      cases hn
    refine ⟨⟨?_, List.forall_mem_append.2 ⟨h.sentAt_eq, fun q hq => (hnew q hq).2⟩, ?_⟩, hsent⟩
    · intro j hj
      cases hnext : now.add? Span.second with
      | none =>
        -- at the end of the calendar it waits no more
        simp [step, Dispatcher.poll_of_isDue alarms hdue, hnext, Countdown.cancel] at hj
      | some next =>
        have hlt : ∀ p ∈ (x.step alarms now .look).value.sent, p.instant < next := fun p hp =>
          Int.lt_of_le_of_lt (hsent p hp) (DateTime.lt_of_add?_second hnext)
        exact ⟨next, Dispatcher.follows_poll alarms hdue hnext, fun p hp => Int.le_of_lt (hlt p hp),
          .inr ⟨hchecked, hlt⟩⟩
    · refine List.pairwise_append.2 ⟨h.repeats_iff, pairwise_of_length_le_one ?_, ?_⟩
      · rw [← List.length_map (f := Sending.alarm), map_alarm_sending]
        exact Dispatcher.length_sent_poll_le _ _ _
      · exact fun p hp q hq => h.repeats_iff_of_mem_sending hp hq

/-! ### All errands -/

theorem Keeps.step (h : x.Keeps alarms) (hclock : ∀ p ∈ x.sent, p.instant ≤ now) (e : Errand) :
    (x.step alarms now e).value.Keeps alarms ∧ ∀ p ∈ (x.step alarms now e).value.sent, p.instant ≤ now := by
  cases e with
  | check => exact ⟨h.check hclock, hclock⟩
  | look => exact h.look hclock

theorem Keeps.run (h : x.Keeps alarms) {es : List (DateTime × Errand)} (hord : (es.map Prod.fst).Pairwise (· ≤ ·))
    (hclock : ∀ e ∈ es, ∀ p ∈ x.sent, p.instant ≤ e.1) : (x.run alarms es).value.Keeps alarms := by
  induction es generalizing x with
  | nil => exact h
  | cons e es ih =>
    obtain ⟨now, e⟩ := e
    obtain ⟨hnow, hord⟩ := List.pairwise_cons.1 hord
    obtain ⟨hkeeps, hsent⟩ := h.step (hclock (now, e) List.mem_cons_self) e
    refine ih hkeeps hord fun f hf p hp => ?_
    exact Int.le_trans (hsent p hp) (hnow f.1 (List.mem_map_of_mem hf))

/-- On a clock that does not run back every alarm is sent for an instant at which one with its identifier goes off, and
of two sendings the later repeats the earlier exactly if its alarm was chosen by a check made at that very instant. -/
theorem repeats_iff_checked (face : ClockFace) (alarms : List Alarm) {es : List (DateTime × Errand)}
    (hord : (es.map Prod.fst).Pairwise (· ≤ ·)) :
    let x := run alarms { dispatcher := { face := face } } es
    x.value.sent.map Sending.alarm = x.sent ∧
      (∀ p ∈ x.value.sent, ∃ b ∈ alarms, b.id = p.alarm.id ∧ b.GoesOffAt p.instant) ∧
        x.value.sent.Pairwise fun p q => q.Repeats p ↔ q.checkedAt = some p.instant := by
  intro x
  have hstart : Keeps alarms { dispatcher := { face := face } } :=
    ⟨fun i hi => (by cases hi), List.forall_mem_nil _, .nil⟩
  have hx : x.value.Keeps alarms := hstart.run hord fun _ _ => List.forall_mem_nil _
  refine ⟨map_alarm_sent_run alarms _ es, fun p hp => ?_, hx.repeats_iff⟩
  exact exists_goesOffAt_of_sentAt? (hx.sentAt_eq p hp)

/-- With a check a minute after an alarm of 08:45 nothing is repeated. -/
theorem not_repeats_of_check_past_it :
    let es := [(wednesday 524, .check), (wednesday 525, .look), (wednesday 526, .check), (wednesday 570, .look)]
    let x := run [everyDay 1 525, everyDay 2 570] { dispatcher := { face := .hours24 } } es
    x.sent = [everyDay 1 525, everyDay 2 570] ∧ x.value.sent.Pairwise fun p q => ¬ q.Repeats p := by
  intro es x
  have hord : (es.map Prod.fst).Pairwise (· ≤ ·) := by decide
  obtain ⟨hsent, -, hpairs⟩ := repeats_iff_checked .hours24 [everyDay 1 525, everyDay 2 570] hord
  have hchecked : x.value.sent.Pairwise fun p q => q.checkedAt ≠ some p.instant := by decide +kernel
  have hno : x.value.sent.Pairwise fun p q => ¬ q.Repeats p :=
    (hpairs.and hchecked).imp fun hpq hrepeats => hpq.2 (hpq.1.1 hrepeats)
  have hlist : x.value.sent.map Sending.alarm = [everyDay 1 525, everyDay 2 570] := by decide +kernel
  exact ⟨hsent.symm.trans hlist, hno⟩

/-- With a check at 08:45, when the alarm of that time has just been sent, it is sent again. -/
theorem sent_again_after_check_at_it :
    let x := run [everyDay 1 525] { dispatcher := { face := .hours24 } }
      [(wednesday 524, .check), (wednesday 525, .look), (wednesday 525, .check), (wednesday 525, .look)]
    x.sent = [everyDay 1 525, everyDay 1 525] ∧
      x.value.sent.map Sending.instant = [wednesday 525, wednesday 525] := by
  decide +kernel

end Diary

end AlarmClock
