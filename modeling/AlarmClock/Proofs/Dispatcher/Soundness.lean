import AlarmClock.Proofs.Dispatcher.Choice
import AlarmClock.Proofs.Store.OrderedMap

/-! A dispatcher sends soundly, whatever happens to its store in the meantime. It fires exactly
when the instant of its last choice has come, sends at most what the store holds at that
moment under the chosen identifier, and then waits for a later instant. Main statement:
once an alarm is deleted or disabled it is not sent before a change brings it back. -/

namespace AlarmClock

/-! ### Alarms that are sent -/

/-- The alarm that an event sends. -/
def Event.alarm? : Event → Option Alarm
  | alarmTriggered a => some a
  | _ => none

namespace Act

variable {α β : Type}

/-- The alarms that are sent on the way to a value, in order. -/
def sent (x : Act α) : List Alarm := x.events.filterMap Event.alarm?

@[simp] theorem sent_pure (a : α) : (pure a : Act α).sent = [] := rfl

@[simp] theorem sent_bind (x : Act α) (f : α → Act β) : (x >>= f).sent = x.sent ++ (f x.value).sent := by
  simp [sent]

@[simp] theorem sent_map (f : α → β) (x : Act α) : (f <$> x).sent = x.sent := by
  simp [sent]

theorem mem_sent {x : Act α} {a : Alarm} : a ∈ x.sent ↔ .alarmTriggered a ∈ x.events := by
  rw [sent, List.mem_filterMap]
  constructor
  · rintro ⟨e, he, hea⟩
    unfold Event.alarm? at hea
    split at hea
    · cases hea
      exact he
    · cases hea
  · exact fun h => ⟨_, h, rfl⟩

end Act

namespace Dispatcher

theorem length_sent_fire_le (d : Dispatcher) (alarms : List Alarm) (now : DateTime) :
    (d.fire alarms now).sent.length ≤ 1 := by
  cases hs : (d.fire alarms now).sent with
  | nil => exact Nat.zero_le 1
  | cons a as =>
    have ha : .alarmTriggered a ∈ (d.fire alarms now).events := Act.mem_sent.1 (hs ▸ List.mem_cons_self)
    rw [← hs, Act.sent, events_fire_eq_of_mem ha]
    exact Nat.le_refl 1

/-- All that a look at the clock sends it sends on firing. -/
theorem sent_poll (d : Dispatcher) (alarms : List Alarm) (now : DateTime) :
    (d.poll alarms now).sent = if d.countdown.isDue now then (d.fire alarms now).sent else [] := by
  split
  · rename_i hdue
    obtain ⟨rest, hevents, hrest⟩ := exists_events_poll_eq alarms hdue
    have hnone : rest.filterMap Event.alarm? = [] := by
      rw [List.filterMap_eq_nil_iff]
      intro e he
      obtain ⟨info, rfl⟩ := hrest e he
      rfl
    rw [Act.sent, hevents, List.filterMap_append, hnone, List.append_nil]
    rfl
  · rename_i hdue
    rw [poll_of_not_isDue alarms (Bool.eq_false_iff.2 hdue)]
    rfl

theorem length_sent_poll_le (d : Dispatcher) (alarms : List Alarm) (now : DateTime) :
    (d.poll alarms now).sent.length ≤ 1 := by
  rw [sent_poll]
  split
  · exact d.length_sent_fire_le alarms now
  · exact Nat.zero_le 1

/-- A dispatcher that follows a reference waits for the instant that is upcoming there. -/
theorem Follows.deadline_eq {d : Dispatcher} {alarms : List Alarm} {reference : DateTime}
    (h : d.Follows alarms reference) : d.countdown.deadline = (upcoming? alarms reference).map Prod.snd := by
  unfold Follows at h
  split at h
  · rename_i hu
    rw [hu]
    exact h.2.1
  · rename_i hu
    rw [hu]
    exact h.2.1

theorem isDue_of_fired {d : Dispatcher} {alarms : List Alarm} {now : DateTime}
    (h : (d.poll alarms now).value.2 = .fired) : d.countdown.isDue now = true := by
  cases hdue : d.countdown.isDue now with
  | true => rfl
  | false =>
    rw [poll_of_not_isDue alarms hdue] at h
    cases h

/-- A dispatcher that has fired waits for an instant that is still to come. -/
theorem lt_deadline_poll {d : Dispatcher} {alarms : List Alarm} {now i : DateTime}
    (h : (d.poll alarms now).value.2 = .fired) (hi : (d.poll alarms now).value.1.countdown.deadline = some i) :
    now < i := by
  have hdue := isDue_of_fired h
  cases hr : now.add? Span.second with
  | none =>
    rw [firing_eq_calendarEnd_iff.2 ⟨hdue, hr⟩] at h
    cases h
  | some reference =>
    rw [(follows_poll alarms hdue hr).deadline_eq] at hi
    obtain ⟨⟨a, j⟩, hu, rfl⟩ := Option.map_eq_some_iff.1 hi
    exact Int.lt_of_lt_of_le (DateTime.lt_of_add?_second hr) (goesOff_of_upcoming? hu).1

end Dispatcher

/-! ### A dispatcher and its store -/

/-- What can happen around a dispatcher: something happens to its store, it is made to choose, or it looks at
the clock. -/
inductive Task where
  | store (h : Happening)
  | choose
  | look

def Task.BySetters : Task → Prop
  | store h => h.BySetters
  | _ => True

/-- A dispatcher with the store that it looks into and the instant that its last choice was for. -/
structure Desk where
  store : Store
  dispatcher : Dispatcher
  chosen : Option DateTime := none

namespace Desk

/-- The instant that is upcoming at a reference. -/
def instant? (x : Desk) (reference : DateTime) : Option DateTime :=
  (upcoming? x.store.alarms reference).map Prod.snd

/-- The dispatcher looks at the clock. -/
def look (x : Desk) (now : DateTime) : Act (Dispatcher × Firing) := x.dispatcher.poll x.store.alarms now

/-- What happens at a clock of its own; what the store announces goes elsewhere. -/
def step (x : Desk) (now : DateTime) : Task → Act Desk
  | .store h => pure { x with store := x.store.step h }
  | .choose => do
    let dispatcher ← x.dispatcher.check x.store.alarms now
    pure { x with dispatcher := dispatcher, chosen := x.instant? now }
  | .look => do
    let (dispatcher, firing) ← x.look now
    let chosen := if firing = .notDue then x.chosen else (now.add? Span.second).bind x.instant?
    pure { x with dispatcher := dispatcher, chosen := chosen }

def run (x : Desk) : List (DateTime × Task) → Act Desk
  | [] => pure x
  | (now, t) :: ts => do (← x.step now t).run ts

/-- The identifiers are distinct, and the countdown runs until the chosen instant. -/
structure Tied (x : Desk) : Prop where
  nodup_ids : (x.store.alarms.map Alarm.id).Nodup
  deadline_eq : x.dispatcher.countdown.deadline = x.chosen

theorem tied_step {x : Desk} (hx : x.Tied) (now : DateTime) {t : Task} (ht : t.BySetters) :
    (x.step now t).value.Tied := by
  cases t with
  | store h => exact ⟨Store.nodup_run hx.nodup_ids (List.forall_mem_singleton.2 ht), hx.deadline_eq⟩
  | choose => exact ⟨hx.nodup_ids, (Dispatcher.follows_check _ _ now).deadline_eq⟩
  | look =>
    refine ⟨hx.nodup_ids, ?_⟩
    simp only [step, look, Act.value_bind, Act.value_pure, Dispatcher.firing_eq_notDue_iff]
    cases hdue : x.dispatcher.countdown.isDue now with
    | false =>
      rw [Dispatcher.poll_of_not_isDue _ hdue]
      exact hx.deadline_eq
    | true =>
      rw [if_neg (by decide)]
      cases hr : now.add? Span.second with
      | none =>
        rw [Dispatcher.poll_of_isDue _ hdue, hr]
        rfl
      | some reference => exact (Dispatcher.follows_poll _ hdue hr).deadline_eq

theorem tied_run {x : Desk} (hx : x.Tied) {ts : List (DateTime × Task)} (hset : ∀ t ∈ ts, t.2.BySetters) :
    (x.run ts).value.Tied := by
  induction ts generalizing x with
  | nil => exact hx
  | cons t ts ih =>
    obtain ⟨ht, hset⟩ := List.forall_mem_cons.1 hset
    exact ih (tied_step hx t.1 ht) hset

/-! ### One look at the clock -/

/-- A look at the clock is sound: it fires exactly if the chosen instant has come, sends at most one alarm and only on
firing, namely the enabled one that the store holds under the chosen identifier, and having fired waits for a later
instant, so that a second look does nothing. -/
structure SoundAt (x : Desk) (now : DateTime) : Prop where
  ends : (x.look now).value.2 ≠ .calendarEnd
  fired_iff : (x.look now).value.2 = .fired ↔
    x.dispatcher.countdown.isActive = true ∧ ∃ i, x.chosen = some i ∧ i ≤ now
  length_sent_le : (x.look now).sent.length ≤ 1
  mem_sent_iff : ∀ a, a ∈ (x.look now).sent ↔ (x.look now).value.2 = .fired ∧
    ∃ id, x.dispatcher.upcoming = some id ∧ x.store.get id = .ok a ∧ a.id = id ∧ a.enabled = true
  lt_deadline : (x.look now).value.2 = .fired → ∀ i, (x.look now).value.1.countdown.deadline = some i → now < i
  again : (x.look now).value.2 = .fired →
    (x.look now).value.1.poll x.store.alarms now = pure ((x.look now).value.1, .notDue)

theorem fired_iff_isDue {x : Desk} {now : DateTime} (h : now < DateTime.lastSecond) :
    (x.look now).value.2 = .fired ↔ x.dispatcher.countdown.isDue now = true := by
  have hend : (x.look now).value.2 ≠ .calendarEnd := Dispatcher.firing_ne_calendarEnd h _ _
  have hdue : (x.look now).value.2 = .notDue ↔ x.dispatcher.countdown.isDue now = false :=
    Dispatcher.firing_eq_notDue_iff
  rw [← Bool.not_eq_false, ← hdue]
  cases hf : (x.look now).value.2 with
  | calendarEnd => exact absurd hf hend
  | notDue => simp
  | fired => simp

theorem soundAt_of_tied {x : Desk} (hx : x.Tied) {now : DateTime} (h : now < DateTime.lastSecond) : x.SoundAt now where
  ends := Dispatcher.firing_ne_calendarEnd h _ _
  fired_iff := by
    rw [fired_iff_isDue h, Countdown.isDue_iff, hx.deadline_eq, Countdown.isActive, hx.deadline_eq]
    constructor
    · rintro ⟨i, hi, hnow⟩
      exact ⟨by rw [hi]; rfl, i, hi, hnow⟩
    · exact fun hc => hc.2
  length_sent_le := Dispatcher.length_sent_poll_le _ _ _
  mem_sent_iff a := by
    rw [Act.mem_sent, look, Dispatcher.alarmTriggered_mem_events_poll_iff, ← look, fired_iff_isDue h]
    simp only [Store.get_eq_ok_iff_find?]
    refine and_congr_right fun _ => exists_congr fun id => and_congr_right fun _ => and_congr_right fun hfind => ?_
    have hid : a.id = id := by simpa using List.find?_some hfind
    exact ⟨fun hen => ⟨hid, hen⟩, fun hc => hc.2⟩
  lt_deadline hf _ hi := Dispatcher.lt_deadline_poll hf hi
  again hf := by
    refine Dispatcher.poll_of_not_isDue _ (Bool.eq_false_iff.2 fun hdue => ?_)
    obtain ⟨i, hi, hnow⟩ := Countdown.isDue_iff.1 hdue
    exact absurd (Dispatcher.lt_deadline_poll hf hi) (Int.not_lt.2 hnow)

end Desk

/-! ### Alarms that are deleted or disabled -/

namespace Change

/-- A change ends an alarm of a document: it deletes or disables it. -/
def Ends (id : Uuid) (d : Document) : Change → Prop
  | delete id' => id' = id
  | update id' edit => id' = id ∧ ∃ a, d.find? id = some a ∧ (edit a).2 = true ∧ (edit a).1.enabled = false
  | _ => False

/-- A change brings an alarm back to a document: it adds it enabled, or enables it. -/
def Revives (id : Uuid) (d : Document) : Change → Prop
  | add a => a.id = id ∧ a.enabled = true
  | update id' edit => id' = id ∧ ∃ a, d.find? id = some a ∧ (edit a).2 = true ∧ (edit a).1.enabled = true
  | _ => False

end Change

/-- No alarm with an identifier is enabled. -/
def Document.Mute (d : Document) (id : Uuid) : Prop := ∀ a ∈ d.alarms, a.id = id → a.enabled = false

/-- With distinct identifiers no other alarm has the one of the first. -/
theorem FirstWith.ne_of_mem {id : Uuid} {as before behind : List Alarm} {a b : Alarm}
    (h : FirstWith id as before a behind) (hids : (as.map Alarm.id).Nodup) (hb : b ∈ before ++ behind) : b.id ≠ id := by
  rw [h.ids_eq, List.nodup_middle, List.nodup_cons, ← List.map_append] at hids
  rintro rfl
  exact hids.1 (List.mem_map_of_mem hb)

theorem FirstWith.mem_of_mem {id : Uuid} {as before behind : List Alarm} {a b : Alarm}
    (h : FirstWith id as before a behind) (hb : b ∈ before ++ behind) : b ∈ as := by
  rw [h.eq_append]
  exact ((List.sublist_cons_self _ _).append_left _).subset hb

theorem Change.Makes.mute_of_ends {c : Change} {d e : Document} {id : Uuid} (h : c.Makes d e)
    (hids : (d.alarms.map Alarm.id).Nodup) (hends : c.Ends id d) : e.Mute id := by
  cases c with
  | delete id' =>
    obtain rfl := hends
    obtain ⟨before, a, behind, hfirst, rfl⟩ := h
    exact fun b hb hid => absurd hid (hfirst.ne_of_mem hids hb)
  | update id' edit =>
    obtain ⟨rfl, a, hfind, -, hoff⟩ := hends
    obtain ⟨before, b, behind, hfirst, -, rfl⟩ := h
    have hab : b = a := Option.some.inj (hfirst.find?_eq.symm.trans hfind)
    intro c hc hid
    rw [List.mem_append, List.mem_cons, or_left_comm, ← List.mem_append] at hc
    rcases hc with rfl | hc
    · rw [hab, hoff]
    · exact absurd hid (hfirst.ne_of_mem hids hc)
  | add _ | sleepTimeout _ => exact hends.elim

theorem Change.Makes.mute {c : Change} {d e : Document} {id : Uuid} (h : c.Makes d e) (hc : c.BySetters)
    (hd : d.Mute id) (hrevives : ¬ c.Revives id d) : e.Mute id := by
  cases c with
  | add a =>
    obtain ⟨-, rfl⟩ := h
    intro b hb hid
    rcases List.mem_append.1 hb with hb | hb
    · exact hd b hb hid
    · rw [List.mem_singleton.1 hb] at hid ⊢
      exact Bool.eq_false_iff.2 fun hen => hrevives ⟨hid, hen⟩
  | delete id' =>
    obtain ⟨before, a, behind, hfirst, rfl⟩ := h
    exact fun b hb => hd b (hfirst.mem_of_mem hb)
  | update id' edit =>
    obtain ⟨before, a, behind, hfirst, hedit, rfl⟩ := h
    intro b hb hid
    rw [List.mem_append, List.mem_cons, or_left_comm, ← List.mem_append] at hb
    rcases hb with rfl | hb
    · -- the edited alarm keeps its identifier, so the edit would have enabled it
      have hid' : id' = id := by rw [← hid, Alarm.BySetters.id_eq hc, hfirst.id_eq]
      subst hid'
      exact Bool.eq_false_iff.2 fun hen => hrevives ⟨rfl, a, hfirst.find?_eq, hedit, hen⟩
    · exact hd b (hfirst.mem_of_mem hb) hid
  | sleepTimeout timeout =>
    obtain ⟨-, rfl⟩ := h
    exact hd

namespace Desk

/-- No change that is carried out brings an alarm back. -/
def Unrevived (id : Uuid) (x : Desk) : List (DateTime × Task) → Prop
  | [] => True
  | (now, t) :: ts =>
    (∀ c s, t = .store (.change c) → (c.perform x.store).value = ⟨.ok (), s⟩ → ¬ c.Revives id x.store.document) ∧
      (x.step now t).value.Unrevived id ts

theorem mute_step {x : Desk} {id : Uuid} (hx : x.store.document.Mute id) (now : DateTime) {t : Task} (ht : t.BySetters)
    (hrevives : ∀ c s, t = .store (.change c) → (c.perform x.store).value = ⟨.ok (), s⟩ →
      ¬ c.Revives id x.store.document) :
    (x.step now t).value.store.document.Mute id := by
  cases t with
  | store h =>
    cases h with
    | fileBecomes content => exact hx
    | change c =>
      change (c.perform x.store).value.state.document.Mute id
      rcases x.store.refused_or_declined_or_committed c with hc | hc | hc
      · rw [hc.state_eq]
        exact hx
      · rw [hc.value_eq]
        exact hx
      · obtain ⟨d, hd, hvalue⟩ := hc.value_eq
        rw [hvalue]
        exact hd.mute ht hx (hrevives c _ rfl hvalue)
  | choose => exact hx
  | look => exact hx

/-- What is sent in a step is an enabled alarm of the store. -/
theorem mem_sent_step {x : Desk} {now : DateTime} {t : Task} {a : Alarm} (h : a ∈ (x.step now t).sent) :
    a ∈ x.store.alarms ∧ a.enabled = true := by
  cases t with
  | store h' => cases h
  | choose =>
    rw [step, Act.sent_bind, Act.sent_pure, List.append_nil] at h
    obtain ⟨info, hinfo⟩ := Dispatcher.mem_events_choose (Act.mem_sent.1 h)
    cases hinfo
  | look =>
    rw [step, Act.sent_bind, Act.sent_pure, List.append_nil, look, Act.mem_sent,
      Dispatcher.alarmTriggered_mem_events_poll_iff] at h
    obtain ⟨-, id, -, hfind, hen⟩ := h
    exact ⟨List.mem_of_find?_eq_some hfind, hen⟩

theorem not_sent_run {x : Desk} {id : Uuid} (hx : x.store.document.Mute id) {ts : List (DateTime × Task)}
    (hset : ∀ t ∈ ts, t.2.BySetters) (hrevives : x.Unrevived id ts) : ∀ a ∈ (x.run ts).sent, a.id ≠ id := by
  induction ts generalizing x with
  | nil => exact fun a ha => absurd ha List.not_mem_nil
  | cons t ts ih =>
    obtain ⟨ht, hset⟩ := List.forall_mem_cons.1 hset
    rw [run, Act.sent_bind, List.forall_mem_append]
    refine ⟨fun a ha hid => ?_, ih (mute_step hx t.1 ht hrevives.1) hset hrevives.2⟩
    obtain ⟨hmem, hen⟩ := mem_sent_step ha
    rw [hx a hmem hid] at hen
    cases hen

/-- In every run before the last second of the calendar each look at the clock is sound, and an alarm that a change
which is carried out deletes or disables is not sent before a change that is carried out brings it back. -/
theorem sound_run {s : Store} (hids : (s.alarms.map Alarm.id).Nodup) (face : ClockFace)
    {ts : List (DateTime × Task)} (hset : ∀ t ∈ ts, t.2.BySetters) :
    let x := (run { store := s, dispatcher := { face := face } } ts).value
    (∀ now < DateTime.lastSecond, x.SoundAt now) ∧
      ∀ (id : Uuid) (c : Change) (s' : Store), c.Ends id x.store.document → (c.perform x.store).value = ⟨.ok (), s'⟩ →
        ∀ ts', (∀ t ∈ ts', t.2.BySetters) → Unrevived id { x with store := s' } ts' →
          ∀ a ∈ (run { x with store := s' } ts').sent, a.id ≠ id := by
  intro x
  have hx : x.Tied := tied_run ⟨hids, rfl⟩ hset
  refine ⟨fun now hnow => soundAt_of_tied hx hnow, fun id c s' hends hs ts' hset' hrevives => ?_⟩
  refine not_sent_run ?_ hset' hrevives
  rcases Store.perform_eq_ok_iff.1 hs with ⟨hk, -⟩ | ⟨-, d, hd, rfl⟩
  · -- an edit that deletes or disables is never one that says it changed nothing
    cases c with
    | update id' edit =>
      obtain ⟨rfl, a, hfind, hedit, -⟩ := hends
      obtain ⟨before, b, behind, hfirst, hfalse⟩ := hk
      rw [Option.some.inj (hfirst.find?_eq.symm.trans hfind), hedit] at hfalse
      cases hfalse
    | add _ | delete _ | sleepTimeout _ => exact hk.elim
  · exact hd.mute_of_ends hx.nodup_ids hends

/-- The alarm of 08:45 that is disabled at 08:00, after it was chosen, is not sent at 08:45. -/
theorem sound_of_disabled :
    let s := Store.inMemory { alarms := [everyDay 1 525] }
    let x := (run { store := s, dispatcher := { face := .hours24 } } [(wednesday 480, .choose)]).value
    let off := Change.update (everyDay 1 525).id (Alarm.editAll [.enabled false])
    x.SoundAt (wednesday 525) ∧ (x.look (wednesday 525)).value.2 = .fired ∧
      ∃ s', (off.perform x.store).value = ⟨.ok (), s'⟩ ∧
        ∀ a ∈ (run { x with store := s' } [(wednesday 525, .look)]).sent, a.id ≠ (everyDay 1 525).id := by
  intro s x off
  have hids : (s.alarms.map Alarm.id).Nodup := by decide
  have hset : ∀ t ∈ [(wednesday 480, Task.choose)], t.2.BySetters := List.forall_mem_singleton.2 trivial
  obtain ⟨hsound, hquiet⟩ := sound_run hids .hours24 hset
  refine ⟨hsound _ (by decide), by decide +kernel, _, rfl, ?_⟩
  refine hquiet _ off _ ⟨rfl, _, rfl, rfl, rfl⟩ rfl _ (List.forall_mem_singleton.2 trivial) ⟨?_, trivial⟩
  exact fun c s' hc => nomatch hc

end Desk

end AlarmClock
