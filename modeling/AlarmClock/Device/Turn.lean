import AlarmClock.Device.Weight

/-! Turns of a device: every timer is looked at once, and then events are routed until none
waits. Main statement: a turn leaves nothing in the queue. -/

namespace AlarmClock.Device

variable {π : Type} [Player π]

/-- Routes an event that has been taken from the queue. -/
def handle (d : Device π) (now : DateTime) (e : Event) : Act (Device π) := queueUp (d.route now e)

theorem weightOf_handle_lt (d : Device π) (now : DateTime) (e : Event) (rest : List Event) (h : d.queue = e :: rest) :
    weightOf (handle { d with queue := rest } now e).value.queue < weightOf d.queue := by
  have := weightOf_route_lt { d with queue := rest } now e
  rw [handle, queue_queueUp, queue_route, h]
  simp; omega

/-- Routes events until none waits; the events come back in the order in which they were routed. -/
def drain (d : Device π) (now : DateTime) : Act (Device π × List Event) :=
  match _h : d.queue with
  | [] => pure (d, [])
  | e :: rest =>
    let x := handle { d with queue := rest } now e
    let y := drain x.value now
    ⟨(y.value.1, e :: y.value.2), x.effects ++ y.effects⟩
termination_by weightOf d.queue
decreasing_by exact weightOf_handle_lt d now e rest _h

theorem queue_drain (d : Device π) (now : DateTime) : (d.drain now).value.1.queue = [] := by
  fun_induction drain d now with
  | case1 d h => exact h
  | case2 d e rest h x y ih => exact ih

/-- One turn: the events that were routed, or nothing if an alarm fired at the end of the calendar, where
the turn stops. -/
def turn (d : Device π) (now : DateTime) : Act (Device π × Option (List Event)) := do
  let polled := d.pollDispatcher now
  let d ← queueUp (Prod.fst <$> polled)
  if polled.value.2 = .calendarEnd then pure (d, none)
  else do
    let d ← queueUp (d.pollOthers now)
    let (d, routed) ← d.drain now
    pure (d, some routed)

end AlarmClock.Device
