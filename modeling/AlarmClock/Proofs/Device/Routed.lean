import AlarmClock.Device.Audience
import AlarmClock.Proofs.Device.Reach
import AlarmClock.Proofs.Device.Run

/-! The events that a turn routes: those that waited, and then all that are sent in the turn, in
the order in which they are sent. Main statement: with a direct player a turn ends with an
empty queue, having routed at most six events for each one that waited after the look at the
timers, and its subscribers have heard just these. -/

namespace AlarmClock

/-- A subscriber who keeps all that it hears, in order. -/
def Subscriber.recorder : Subscriber (List Event) := ⟨[], fun heard e => heard ++ [e]⟩

theorem Subscriber.foldl_recorder (es : List Event) : es.foldl recorder.hear recorder.state = es := by
  change es.foldl (fun heard e => heard ++ [e]) [] = es
  rw [List.foldl_append_eq_append, ← List.flatMap_def, List.flatMap_singleton', List.nil_append]

variable {π σ : Type} [Player π]

namespace Device

/-! ### Drains -/

/-- Nothing is lost and nothing overtakes: the queue is routed first, and then what is sent. -/
theorem routed_drain (d : Device π) (now : DateTime) : (d.drain now).value.2 = d.queue ++ (d.drain now).events := by
  fun_induction drain d now with
  | case1 d h => rw [h]; rfl
  | case2 d e rest h x y ih =>
    have hevents : (Act.mk (y.value.1, e :: y.value.2) (x.effects ++ y.effects)).events = x.events ++ y.events :=
      List.filterMap_append
    have hsent : x.value.queue = rest ++ x.events := queue_handle _ _ _
    rw [hevents, h, List.cons_append, ← List.append_assoc, ← hsent, ← ih]

/-- The reach of what waits bounds what a drain routes. -/
theorem length_routed_le [DirectPlayer π] (d : Device π) (now : DateTime) :
    (d.drain now).value.2.length ≤ reachOf d.sleepTimer.activity d.queue := by
  fun_induction drain d now with
  | case1 d h => exact Nat.zero_le _
  | case2 d e rest h x y ih =>
    exact Nat.lt_of_le_of_lt ih (reachOf_handle_lt d now e rest h)

/-! ### Subscribers -/

/-- What a drain leaves of subscribers who have heard what it routed, one event after another. -/
def heard (audience : List (Subscriber σ)) (x : Device π × List Event) : Handled π σ :=
  ⟨x.1, audience.map fun s => { s with state := x.2.foldl s.hear s.state }, x.2.length⟩

omit [Player π] in
theorem heard_cons (audience : List (Subscriber σ)) (d : Device π) (e : Event) (es : List Event) :
    heard audience (d, e :: es) = { heard (Subscriber.allShown audience e) (d, es) with count := es.length + 1 } := by
  simp [heard, Subscriber.allShown, Subscriber.shown]

/-- Subscribers do not change a drain, and each hears what it routes. -/
theorem drainBefore_eq (d : Device π) (now : DateTime) (audience : List (Subscriber σ)) :
    d.drainBefore now audience = heard audience <$> d.drain now := by
  fun_induction drainBefore d now audience with
  | case1 d audience h =>
    rw [drain_of_queue_eq_nil h, map_pure]
    simp [heard]
  | case2 d audience e rest h x y ih =>
    have hy : y = ⟨heard (Subscriber.allShown audience e) (x.value.drain now).value, (x.value.drain now).effects⟩ := by
      rw [← Act.map_eq]
      exact ih
    rw [drain_of_queue_eq_cons h, Act.map_eq, heard_cons, hy]
    rfl

theorem turnBefore_eq (d : Device π) (now : DateTime) (audience : List (Subscriber σ)) :
    d.turnBefore now audience =
      (fun x => x.2.map fun routed => heard audience (x.1, routed)) <$> d.turn now := by
  unfold turnBefore turn
  simp only [map_bind, drainBefore_eq]
  by_cases h : (d.pollDispatcher now).value.2 = .calendarEnd
  · simp only [if_pos h, map_pure, Option.map_none]
  · simp only [if_neg h, map_bind, bind_pure_comp, Functor.map_map, Option.map_some]

/-! ### Turns -/

theorem routed_turn {d : Device π} {now : DateTime} (h : (d.dispatcher.poll d.store.alarms now).value.2 ≠ .calendarEnd) :
    ((d.polled now).drain now).value.2 = d.queue ++ (d.turn now).events := by
  rw [routed_drain, events_turn h, queue_polled]
  simp only [List.append_assoc]

/-- With a direct player every turn before the last second of the calendar ends, whatever waits. It leaves an empty
queue, has routed what waited and then all that was sent in the turn, which is at most six events for each one that
waited after the look at the timers, and each subscriber has heard just these, each once and in this order. -/
theorem turn_routes_all [DirectPlayer π] (d : Device π) {now : DateTime} (hnow : now < DateTime.lastSecond)
    (audience : List (Subscriber σ)) :
    let x := d.turnBefore now audience
    let routed := d.queue ++ x.events
    ∃ e : Device π, e.queue = [] ∧ (d.turn now).value = (e, some routed) ∧
      x.value = some ⟨e, audience.map fun s => { s with state := routed.foldl s.hear s.state }, routed.length⟩ ∧
      routed.length ≤ 6 * (d.polled now).queue.length := by
  intro x routed
  have hend := Dispatcher.firing_ne_calendarEnd hnow d.dispatcher d.store.alarms
  have hrouted : ((d.polled now).drain now).value.2 = routed := by
    rw [routed_turn hend]
    simp only [routed, x, turnBefore_eq, Act.events_map]
  have hturn : (d.turn now).value = (((d.polled now).drain now).value.1, some routed) := by
    rw [value_turn hend, hrouted]
  refine ⟨((d.polled now).drain now).value.1, queue_drain _ _, hturn, ?_, ?_⟩
  · simp only [x, turnBefore_eq, Act.value_map, hturn, Option.map_some, heard]
  · rw [← hrouted]
    exact Nat.le_trans (length_routed_le _ _) (reachOf_le _ _)

/-- An alarm, an elapse and a failure that wait before a player that answers at once: the turn ends, and who records
what it hears has them first and then what was sent. -/
theorem turn_routes_all_of_mixture :
    let waiting := [.alarmTriggered (everyDay 1 525), .sleepElapsed, .player (.failed (.network "stream lost"))]
    let d : Device LoggingPlayer := boot (Store.inMemory default).announcing {} bedside waiting (wednesday 524)
    ∃ y, (d.turnBefore (wednesday 524) [Subscriber.recorder]).value = some y ∧ y.device.queue = [] ∧ y.count ≤ 24 ∧
      y.audience.map (·.state) = [waiting ++ [.upcomingChanged "no upcoming alarm", .monitorChanged .expecting,
        .player (.changed .playing), .remainingChanged 60, .monitorChanged .idle, .player (.changed .stopped)]] := by
  intro waiting d
  have hnow : wednesday 524 < DateTime.lastSecond := by decide
  -- the news that nothing is upcoming waits too
  have hpolled : (d.polled (wednesday 524)).queue.length = 4 := by decide +kernel
  have hrouted : d.queue ++ (d.turnBefore (wednesday 524) [Subscriber.recorder]).events =
      waiting ++ [.upcomingChanged "no upcoming alarm", .monitorChanged .expecting, .player (.changed .playing),
        .remainingChanged 60, .monitorChanged .idle, .player (.changed .stopped)] := by
    decide +kernel
  obtain ⟨e, hempty, -, hvalue, hle⟩ := turn_routes_all d hnow [Subscriber.recorder]
  rw [hpolled] at hle
  refine ⟨_, hvalue, hempty, hle, ?_⟩
  rw [List.map_singleton, List.map_singleton, Subscriber.foldl_recorder, hrouted]

end Device

end AlarmClock
