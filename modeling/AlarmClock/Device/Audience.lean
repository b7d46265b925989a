import AlarmClock.Device.Turn

/-! Subscribers of a device. They are shown every event right after it was routed, and make of
it what they like, but send nothing themselves. -/

namespace AlarmClock

/-- Somebody who takes in events. -/
structure Subscriber (σ : Type) where
  state : σ
  hear : σ → Event → σ

namespace Subscriber

variable {σ : Type}

/-- A subscriber who has been shown an event. -/
def shown (s : Subscriber σ) (e : Event) : Subscriber σ := { s with state := s.hear s.state e }

/-- Subscribers who have each been shown an event. -/
def allShown (audience : List (Subscriber σ)) (e : Event) : List (Subscriber σ) := audience.map (·.shown e)

end Subscriber

/-- What is left of a turn: the device, its subscribers, and how many events were handled. -/
structure Handled (π σ : Type) where
  device : Device π
  audience : List (Subscriber σ)
  count : Nat

namespace Device

variable {π σ : Type} [Player π]

/-- Routes events until none waits, and shows each of them to the subscribers. -/
def drainBefore (d : Device π) (now : DateTime) (audience : List (Subscriber σ)) : Act (Handled π σ) :=
  match _h : d.queue with
  | [] => pure ⟨d, audience, 0⟩
  | e :: rest =>
    let x := handle { d with queue := rest } now e
    let y := x.value.drainBefore now (Subscriber.allShown audience e)
    ⟨{ y.value with count := y.value.count + 1 }, x.effects ++ y.effects⟩
termination_by weightOf d.queue
decreasing_by exact weightOf_handle_lt d now e rest _h

/-- One turn before subscribers; nothing is told of it if an alarm fired at the end of the calendar. -/
def turnBefore (d : Device π) (now : DateTime) (audience : List (Subscriber σ)) : Act (Option (Handled π σ)) := do
  let polled := d.pollDispatcher now
  let d ← queueUp (Prod.fst <$> polled)
  if polled.value.2 = .calendarEnd then pure none
  else do
    let d ← queueUp (d.pollOthers now)
    some <$> d.drainBefore now audience

end Device

end AlarmClock
