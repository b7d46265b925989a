import AlarmClock.Proofs.Device.Run

/-! The dispatcher and the store agree. Unless changed alarms are still waiting to be looked
at, the dispatcher shows and waits for what is upcoming at the reference of its last
choice. Every change of the alarms is announced, every announcement leads to a choice,
and a dispatcher that fires chooses anew. -/

namespace AlarmClock.Device

variable {π : Type} [Player π]

/-! ### References -/

/-- The reference of the last choice of the dispatcher in an operation, if it makes one: the clock for changed
alarms, which are looked at last, and a second later for a dispatcher that fires. -/
def reference? (d : Device π) (now : DateTime) : Operation π → Option DateTime
  | .turn =>
    if (d.turn now).value.2.any (·.contains .alarmsChanged) then some now
    else if d.dispatcher.countdown.isDue now then now.add? Span.second
    else none
  | _ => none

/-- The reference of the last choice in a run. -/
def runReference (d : Device π) (reference : DateTime) : List (DateTime × Operation π) → DateTime
  | [] => reference
  | (now, op) :: ops => (d.step now op).runReference ((d.reference? now op).getD reference) ops

/-- A device whose store announces its changes, and whose dispatcher follows a reference unless changed alarms
wait. -/
structure Coherent (d : Device π) (face : ClockFace) (reference : DateTime) : Prop where
  announces : d.store.announces = true
  face_eq : d.dispatcher.face = face
  follows : .alarmsChanged ∈ d.queue ∨ d.dispatcher.Follows d.store.alarms reference

omit [Player π] in
theorem Coherent.follows_of_notMem {d : Device π} {face : ClockFace} {reference : DateTime}
    (h : d.Coherent face reference) (hq : .alarmsChanged ∉ d.queue) : d.dispatcher.Follows d.store.alarms reference :=
  h.follows.resolve_left hq

omit [Player π] in
theorem coherent_boot {store : Store} (h : store.announces = true) (player : π) (settings : Settings)
    (waiting : List Event) (now : DateTime) :
    (boot store player settings waiting now).Coherent settings.face now :=
  ⟨h, Dispatcher.face_choose _ _ _ _, .inr (Dispatcher.follows_check _ _ now)⟩

/-! ### Between turns -/

omit [Player π] in
theorem Between.coherent {d e : Device π} {now reference : DateTime} {armed : List Span} {face : ClockFace}
    (h : d.Between e now armed) (hd : d.Coherent face reference) : e.Coherent face reference := by
  refine ⟨h.announces_eq.trans hd.announces, (congrArg Dispatcher.face h.dispatcher_eq).trans hd.face_eq, ?_⟩
  rcases hd.follows with hq | hf
  · exact .inl (h.queue_prefix.subset hq)
  · rcases h.alarms_eq hd.announces with ha | ha
    · rw [h.dispatcher_eq, ha]
      exact .inr hf
    · exact .inl ha

/-! ### Turns -/

theorem face_drain (d : Device π) (now : DateTime) :
    (d.drain now).value.1.dispatcher.face = d.dispatcher.face := by
  refine drain_keeps (I := fun x => x.dispatcher.face = d.dispatcher.face) (fun x e rest _ hx => ?_) rfl
  rw [dispatcher_handle]
  by_cases he : e = .alarmsChanged
  · subst he
    exact (Dispatcher.face_choose _ _ _ _).trans hx
  · rw [dispatcher_route he]
    exact hx

/-- A drain without changed alarms leaves the dispatcher as it is. -/
theorem dispatcher_drain_of_notMem {d : Device π} (h : .alarmsChanged ∉ d.queue) (now : DateTime) :
    (d.drain now).value.1.dispatcher = d.dispatcher := by
  refine drain_keeps_of_kind (I := fun x => x.dispatcher = d.dispatcher) (K := (· ≠ .alarmsChanged))
    (fun _ _ _ _ hnew => (ne_of_mem_events_route hnew).1) (fun x e rest he hx => ?_) ?_ rfl
  · rw [dispatcher_handle, dispatcher_route he]
    exact hx
  · rintro e he rfl
    exact h he

/-- After a drain with changed alarms the dispatcher follows the clock. -/
theorem follows_drain_of_mem {d : Device π} {now : DateTime} (h : .alarmsChanged ∈ d.queue) :
    (d.drain now).value.1.dispatcher.Follows d.store.alarms now := by
  have hkeeps : (d.drain now).value.1.store = d.store ∧ (.alarmsChanged ∈ (d.drain now).value.1.queue ∨
      (d.drain now).value.1.dispatcher.Follows d.store.alarms now) := by
    refine drain_keeps (I := fun x => x.store = d.store ∧
      (.alarmsChanged ∈ x.queue ∨ x.dispatcher.Follows d.store.alarms now)) ?_ ⟨rfl, .inl h⟩
    rintro x e rest hq ⟨hs, hx⟩
    refine ⟨(store_handle _ _ _).trans hs, ?_⟩
    by_cases he : e = .alarmsChanged
    · subst he
      right
      rw [← hs]
      exact Dispatcher.follows_check x.dispatcher x.store.alarms now
    · rw [hq, List.mem_cons, or_iff_right (Ne.symm he)] at hx
      rw [dispatcher_handle, dispatcher_route he, queue_handle]
      exact hx.imp (List.mem_append_left _) id
  rw [queue_drain] at hkeeps
  exact hkeeps.2.resolve_left List.not_mem_nil

omit [Player π] in
theorem alarmsChanged_mem_queue_polled_iff (d : Device π) (now : DateTime) :
    .alarmsChanged ∈ (d.polled now).queue ↔ .alarmsChanged ∈ d.queue := by
  rw [queue_polled, List.append_assoc, List.mem_append]
  refine or_iff_left fun h => ?_
  rcases List.mem_append.1 h with h | h
  · rcases Dispatcher.mem_events_poll h with ⟨a, ha⟩ | ⟨info, hinfo⟩
    · cases ha
    · cases hinfo
  · exact (ne_of_mem_events_pollOthers h).1 rfl

theorem coherent_turn {d : Device π} {now reference : DateTime} {face : ClockFace} (hd : d.Coherent face reference)
    (hnow : now < DateTime.lastSecond) :
    (d.turn now).value.1.Coherent face ((d.reference? now .turn).getD reference) := by
  obtain ⟨next, hnext⟩ := DateTime.exists_add?_second hnow
  have hend := Dispatcher.firing_ne_calendarEnd hnow d.dispatcher d.store.alarms
  have hrouted : (d.turn now).value.2.any (·.contains .alarmsChanged) = true ↔ .alarmsChanged ∈ d.queue := by
    rw [value_turn hend, ← d.alarmsChanged_mem_queue_polled_iff now, ← alarmsChanged_mem_routed_iff _ now]
    simp
  refine ⟨by rw [store_turn]; exact hd.announces, ?_, .inr ?_⟩
  · rw [value_turn hend, face_drain, dispatcher_polled, Dispatcher.face_poll]
    exact hd.face_eq
  rw [store_turn, value_turn hend, reference?]
  -- changed alarms are routed after the look at the timers, so they make the last choice
  by_cases hq : .alarmsChanged ∈ d.queue
  · rw [if_pos (hrouted.2 hq)]
    exact follows_drain_of_mem ((d.alarmsChanged_mem_queue_polled_iff now).2 hq)
  · have hpolled : .alarmsChanged ∉ (d.polled now).queue := mt (d.alarmsChanged_mem_queue_polled_iff now).1 hq
    rw [if_neg (mt hrouted.1 hq), dispatcher_drain_of_notMem hpolled, dispatcher_polled]
    by_cases hdue : d.dispatcher.countdown.isDue now = true
    · rw [if_pos hdue, hnext]
      exact Dispatcher.follows_poll d.store.alarms hdue hnext
    · rw [if_neg hdue, Dispatcher.poll_of_not_isDue _ (Bool.eq_false_iff.2 hdue)]
      exact hd.follows_of_notMem hq

/-! ### Runs -/

theorem coherent_step {d : Device π} {now reference : DateTime} {face : ClockFace} (hd : d.Coherent face reference)
    (hnow : now < DateTime.lastSecond) (op : Operation π) :
    (d.step now op).Coherent face ((d.reference? now op).getD reference) := by
  by_cases hop : op = .turn
  · subst hop
    exact coherent_turn hd hnow
  · have href : d.reference? now op = none := by
      unfold reference?
      split
      · exact absurd rfl hop
      · rfl
    rw [href]
    exact (between_step hop d now).coherent hd

theorem coherent_run {d : Device π} {reference : DateTime} {face : ClockFace} (hd : d.Coherent face reference)
    {ops : List (DateTime × Operation π)} (hclock : ∀ x ∈ ops, x.1 < DateTime.lastSecond) :
    (d.run ops).Coherent face (d.runReference reference ops) := by
  induction ops generalizing d reference with
  | nil => exact hd
  | cons x ops ih =>
    obtain ⟨hx, hops⟩ := List.forall_mem_cons.1 hclock
    exact ih (coherent_step hd hx x.2) hops

/-- In every run before the last second of the calendar the dispatcher of a device follows the reference of its last
choice as long as no changed alarms wait, so also after every turn. -/
theorem follows_upcoming_run (store : Store) (hstore : store.announces = true) (player : π) (settings : Settings)
    (waiting : List Event) (begin : DateTime) (ops : List (DateTime × Operation π))
    (hclock : ∀ x ∈ ops, x.1 < DateTime.lastSecond) :
    let b := boot store player settings waiting begin
    let d := b.run ops
    let r := b.runReference begin ops
    d.dispatcher.face = settings.face ∧
      (.alarmsChanged ∉ d.queue → d.dispatcher.Follows d.store.alarms r) ∧
      ∀ now < DateTime.lastSecond,
        (d.step now .turn).dispatcher.Follows (d.step now .turn).store.alarms ((d.reference? now .turn).getD r) := by
  intro b d r
  have hd : d.Coherent settings.face r := coherent_run (coherent_boot hstore player settings waiting begin) hclock
  refine ⟨hd.face_eq, hd.follows_of_notMem, fun now hnow => ?_⟩
  refine (coherent_turn hd hnow).follows_of_notMem ?_
  rw [value_turn (Dispatcher.firing_ne_calendarEnd hnow _ _), queue_drain]
  exact List.not_mem_nil

/-- An alarm that is added is waited for after the next turn. -/
theorem follows_upcoming_of_added :
    let ops := [(wednesday 481, .add (everyDay 1 525)), (wednesday 482, .turn)]
    let d := (morning [] (wednesday 480)).run ops
    .alarmsChanged ∉ d.queue ∧ d.dispatcher.Follows d.store.alarms (wednesday 482) := by
  intro ops d
  have hq : .alarmsChanged ∉ d.queue := by decide +kernel
  have hr : (morning [] (wednesday 480)).runReference (wednesday 480) ops = wednesday 482 := by decide +kernel
  obtain ⟨-, hfollows, -⟩ := follows_upcoming_run (Store.inMemory {}).announcing rfl ({} : RecordingPlayer) bedside []
    (wednesday 480) ops (by decide)
  rw [← hr]
  exact ⟨hq, hfollows hq⟩

end AlarmClock.Device
