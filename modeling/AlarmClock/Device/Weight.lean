import AlarmClock.Device.Basic

/-! What an event can still bring about. Each event has a weight, and routing it sends
events of less weight in all, whatever the player answers. This is why a turn ends. -/

namespace AlarmClock

def Event.weight : Event → Nat
  | alarmsChanged => 2
  | upcomingChanged _ => 1
  | alarmTriggered _ => 22
  | monitorChanged _ => 1
  | sleepElapsed => 5
  | remainingChanged _ => 1
  | sleepTimeoutChanged _ => 1
  | player (.changed _) => 3
  | player (.failed _) => 11

/-- The weight of events together. -/
def weightOf : List Event → Nat
  | [] => 0
  | e :: es => e.weight + weightOf es

@[simp] theorem weightOf_nil : weightOf [] = 0 := rfl

@[simp] theorem weightOf_cons (e : Event) (es : List Event) : weightOf (e :: es) = e.weight + weightOf es := rfl

@[simp] theorem weightOf_append (es fs : List Event) : weightOf (es ++ fs) = weightOf es + weightOf fs := by
  induction es with
  | nil => simp
  | cons e es ih =>
    rw [List.cons_append, weightOf_cons, weightOf_cons, ih]
    omega

variable {π : Type}

/-! ### The dispatcher -/

theorem weightOf_publish_le (d : Dispatcher) (info : String) : weightOf (d.publish info).events ≤ 1 := by
  unfold Dispatcher.publish
  split <;> simp [Event.weight]

theorem weightOf_choose_le (d : Dispatcher) (alarms : List Alarm) (reference now : DateTime) :
    weightOf (d.choose alarms reference now).events ≤ 1 := by
  unfold Dispatcher.choose
  split <;> split <;> simp [weightOf_publish_le]

/-! ### The player -/

theorem event?_notices (ns : List Notice) : (ns.map Effect.notice).filterMap Effect.event? = [] := by
  simp [Effect.event?]

theorem weightOf_give_le [Player π] (p : π) (c : Command) : weightOf (give p c).events ≤ 3 := by
  rw [give, Act.events, Reply.effects, List.cons_append, List.filterMap_cons]
  simp only [Effect.event?, List.filterMap_append, event?_notices]
  split <;> simp [Effect.event?, Event.weight]

theorem weightOf_giveAll_le [Player π] (cs : List Command) (p : π) :
    weightOf (giveAll p cs).events ≤ 3 * cs.length := by
  induction cs generalizing p with
  | nil => simp [giveAll]
  | cons c cs ih =>
    have h := weightOf_give_le p c
    rw [giveAll, Act.events_bind, weightOf_append, List.length_cons]
    split
    rename_i q r hq
    split
    · simp; omega
    · have := ih q
      omega

/-! ### The monitor -/

theorem weightOf_enter_le (m : Monitor π) (s : MonitorState) : weightOf (m.enter s).events ≤ 1 := by
  unfold Monitor.enter
  split <;> simp [Event.weight]

theorem weightOf_command_le [Player π] (m : Monitor π) (cs : List Command) :
    weightOf (m.command cs).events ≤ 3 * cs.length := by
  have := weightOf_giveAll_le cs m.player
  simpa [Monitor.command] using this

theorem weightOf_fallBack_le [Player π] (m : Monitor π) : weightOf m.fallBack.events ≤ 10 := by
  have h1 := weightOf_enter_le { m with countdown := m.countdown.cancel } .fallback
  simp only [Monitor.fallBack, Act.events_bind, weightOf_append]
  have h2 := weightOf_command_le
    (Monitor.enter { m with countdown := m.countdown.cancel } .fallback).value
    (Monitor.enter { m with countdown := m.countdown.cancel } .fallback).value.fallbackCommands
  simp only [Monitor.fallbackCommands, List.length_cons, List.length_nil] at h2 ⊢
  split <;> simp <;> omega

theorem weightOf_alarmTriggered_le [Player π] (m : Monitor π) (now : DateTime) (a : Alarm) :
    weightOf (m.alarmTriggered now a).events ≤ 20 := by
  have h1 := weightOf_enter_le m .expecting
  have h2 := weightOf_command_le
    { (m.enter .expecting).value with countdown := Countdown.arm now (m.enter .expecting).value.grace }
    (Monitor.alarmCommands a)
  simp only [Monitor.alarmCommands, List.length_cons, List.length_nil] at h2
  simp only [Monitor.alarmTriggered, Monitor.alarmCommands, Act.events_bind, weightOf_append]
  generalize Monitor.command (π := π) _ _ = x at h2 ⊢
  have h3 := weightOf_fallBack_le x.value.1
  split <;> simp <;> omega

theorem weightOf_playerFailed_le [Player π] (m : Monitor π) (e : PlayerError) :
    weightOf (m.playerFailed e).events ≤ 10 := by
  have := weightOf_fallBack_le m
  unfold Monitor.playerFailed
  split <;> simp <;> omega

theorem weightOf_playbackChanged_le (m : Monitor π) (s : PlaybackState) :
    weightOf (m.playbackChanged s).events ≤ 1 := by
  unfold Monitor.playbackChanged
  split <;> simp [weightOf_enter_le]

theorem weightOf_silence_le [Player π] (m : Monitor π) : weightOf m.silence.events ≤ 4 := by
  have h1 : weightOf m.stop.events ≤ 1 := weightOf_enter_le _ _
  have h2 := weightOf_command_le m.stop.value [.stop]
  simp only [Monitor.silence, Act.events_bind, weightOf_append]
  simp only [List.length_cons, List.length_nil] at h2
  split <;> simp <;> omega

/-! ### The sleep timer -/

theorem weightOf_start (now : DateTime) (s : Span) (a : Activity) : weightOf (SleepTimer.start now s a).events = 1 := by
  simp [SleepTimer.start, SleepTimer.publish, Event.weight]

theorem weightOf_sleepTriggered (now : DateTime) (a : Alarm) :
    weightOf (SleepTimer.alarmTriggered now a).events = 1 := by
  simp [SleepTimer.alarmTriggered, weightOf_start]

theorem weightOf_sleepPlayback_le (t : SleepTimer) (now : DateTime) (s : Span) (p : PlaybackState) :
    weightOf (t.playbackChanged now s p).events ≤ 1 := by
  unfold SleepTimer.playbackChanged
  split <;> simp [SleepTimer.reset, weightOf_start]

/-! ### Routing -/

theorem weightOf_route_lt [Player π] (d : Device π) (now : DateTime) (e : Event) :
    weightOf (d.route now e).events < e.weight := by
  unfold Device.route
  split
  · have := weightOf_choose_le d.dispatcher d.store.alarms now now
    simp [Event.weight, Dispatcher.check]; omega
  · rename_i a
    have h1 := weightOf_alarmTriggered_le d.monitor now a
    have h2 := weightOf_sleepTriggered now a
    simp [Event.weight]; omega
  · rename_i s
    have h1 := weightOf_playbackChanged_le d.monitor s
    have h2 := weightOf_sleepPlayback_le d.sleepTimer now d.sleepTimeout s
    simp [Event.weight]; omega
  · rename_i err
    have := weightOf_playerFailed_le d.monitor err
    simp [Event.weight]; omega
  · have := weightOf_silence_le d.monitor
    simp [Event.weight]; omega
  · simp [Event.weight]
  · simp [Event.weight]
  · simp [Event.weight]
  · simp [Event.weight]

theorem queue_route [Player π] (d : Device π) (now : DateTime) (e : Event) :
    (d.route now e).value.queue = d.queue := by
  unfold Device.route
  split <;> rfl

end AlarmClock
