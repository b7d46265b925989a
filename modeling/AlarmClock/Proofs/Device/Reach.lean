import AlarmClock.Proofs.Device.Drain

/-! How many events a turn routes with a direct player. An event brings about a bounded number
of others, fewer of them while an alarm runs in the sleep timer, and within a turn none
ends that. Main statement: no event accounts for more than six, itself among them. -/

namespace AlarmClock

variable {π : Type}

/-- How many events come of an event at most, itself among them, during an activity of the sleep timer: a player
that plays is no news to it while an alarm runs. -/
def Event.reach (activity : Activity) : Event → Nat
  | alarmsChanged => 2
  | upcomingChanged _ => 1
  | alarmTriggered _ => 6
  | monitorChanged _ => 1
  | sleepElapsed => 4
  | remainingChanged _ => 1
  | sleepTimeoutChanged _ => 1
  | player (.changed .playing) => if activity = .alarm then 2 else 3
  | player (.changed .stopped) => 2
  | player (.changed .paused) => 1
  | player (.failed _) => 5

/-- The reach of events together. -/
def reachOf (activity : Activity) : List Event → Nat
  | [] => 0
  | e :: es => e.reach activity + reachOf activity es

@[simp] theorem reachOf_nil (activity : Activity) : reachOf activity [] = 0 := rfl

@[simp] theorem reachOf_cons (activity : Activity) (e : Event) (es : List Event) :
    reachOf activity (e :: es) = e.reach activity + reachOf activity es := rfl

@[simp] theorem reachOf_append (activity : Activity) (es fs : List Event) :
    reachOf activity (es ++ fs) = reachOf activity es + reachOf activity fs := by
  induction es with
  | nil => simp
  | cons e es ih => rw [List.cons_append, reachOf_cons, reachOf_cons, ih, Nat.add_assoc]

theorem Event.reach_le_six (activity : Activity) (e : Event) : e.reach activity ≤ 6 := by
  unfold reach
  split <;> (try split) <;> omega

theorem reachOf_le (activity : Activity) (es : List Event) : reachOf activity es ≤ 6 * es.length := by
  induction es with
  | nil => exact Nat.le_refl 0
  | cons e es ih =>
    have := e.reach_le_six activity
    rw [reachOf_cons, List.length_cons]
    omega

/-- The reach of an event shrinks when an alarm comes to run. -/
theorem Event.reach_mono {activity later : Activity} (h : activity = .alarm → later = .alarm) (e : Event) :
    e.reach later ≤ e.reach activity := by
  unfold reach
  split
  all_goals try exact Nat.le_refl _
  by_cases ha : activity = .alarm
  · rw [if_pos ha, if_pos (h ha)]
  · rw [if_neg ha]
    split <;> omega

theorem reachOf_mono {activity later : Activity} (h : activity = .alarm → later = .alarm) (es : List Event) :
    reachOf later es ≤ reachOf activity es := by
  induction es with
  | nil => exact Nat.le_refl 0
  | cons e es ih =>
    rw [reachOf_cons, reachOf_cons]
    exact Nat.add_le_add (e.reach_mono h) ih

theorem Event.reach_le_weight (activity : Activity) (e : Event) : e.reach activity ≤ e.weight := by
  unfold reach
  split
  all_goals
    simp only [weight]
    try split
  all_goals omega

/-- Where only news is sent the weight is the bound. -/
theorem reachOf_le_weightOf (activity : Activity) (es : List Event) : reachOf activity es ≤ weightOf es := by
  induction es with
  | nil => exact Nat.le_refl 0
  | cons e es ih =>
    rw [reachOf_cons, weightOf_cons]
    exact Nat.add_le_add (e.reach_le_weight activity) ih

/-! ### The monitor -/

theorem reachOf_enter_le (activity : Activity) (m : Monitor π) (s : MonitorState) :
    reachOf activity (m.enter s).events ≤ 1 :=
  Nat.le_trans (reachOf_le_weightOf _ _) (weightOf_enter_le m s)

theorem reachOf_playbackChanged_le (activity : Activity) (m : Monitor π) (s : PlaybackState) :
    reachOf activity (m.playbackChanged s).events ≤ if s = .paused then 0 else 1 := by
  split
  · rename_i hs
    subst hs
    cases hm : m.state <;> simp [Monitor.playbackChanged, hm]
  · exact Nat.le_trans (reachOf_le_weightOf _ _) (weightOf_playbackChanged_le m s)

section DirectPlayer

variable [Player π] [DirectPlayer π]

theorem events_command_of_starts {cs : List Command} (h : Starts cs) (m : Monitor π) :
    (m.command cs).events = [] ∨
      (m.command cs).value.2 = none ∧ (m.command cs).events = [.player (.changed .playing)] := by
  simpa [Monitor.command] using events_giveAll_of_starts h m.player

theorem reachOf_command_fallback_le (activity : Activity) (m : Monitor π) :
    reachOf activity (m.command m.fallbackCommands).events ≤ (Event.player (.changed .playing)).reach activity := by
  have hstarts : Starts m.fallbackCommands := .cons nofun nofun (.cons nofun nofun .play)
  rcases events_command_of_starts hstarts m with h | ⟨-, h⟩ <;> simp [h]

theorem reachOf_fallBack_le (activity : Activity) (m : Monitor π) :
    reachOf activity m.fallBack.events ≤ 1 + (Event.player (.changed .playing)).reach activity := by
  have henter := reachOf_enter_le activity { m with countdown := m.countdown.cancel } .fallback
  have hplay := reachOf_command_fallback_le activity
    (Monitor.enter { m with countdown := m.countdown.cancel } .fallback).value
  simp only [Monitor.fallBack, Act.events_bind, reachOf_append]
  split <;> simp <;> omega

/-- An alarm plays, or it gives way to the fallback, and that plays. -/
theorem reachOf_alarmTriggered_le (m : Monitor π) (now : DateTime) (a : Alarm) :
    reachOf .alarm (m.alarmTriggered now a).events ≤ 4 := by
  have hstarts : Starts (Monitor.alarmCommands a) := .cons nofun nofun (.cons nofun nofun .play)
  have henter := reachOf_enter_le .alarm m .expecting
  have hplay := events_command_of_starts hstarts
    { (m.enter .expecting).value with countdown := Countdown.arm now (m.enter .expecting).value.grace }
  simp only [Monitor.alarmTriggered, Act.events_bind, reachOf_append]
  generalize Monitor.command (π := π) _ _ = x at hplay ⊢
  rcases hplay with hnil | ⟨hnone, hplaying⟩
  · have hfallback : reachOf .alarm x.value.1.fallBack.events ≤ 3 := reachOf_fallBack_le .alarm x.value.1
    rw [hnil]
    split <;> simp <;> omega
  · rw [hnone, hplaying]
    simp [Event.reach]
    omega

theorem reachOf_playerFailed_le (activity : Activity) (m : Monitor π) (e : PlayerError) :
    reachOf activity (m.playerFailed e).events ≤ 4 := by
  have hplaying : (Event.player (.changed .playing)).reach activity ≤ 3 := by
    simp only [Event.reach]
    split <;> omega
  have := reachOf_fallBack_le activity m
  unfold Monitor.playerFailed
  split <;> simp <;> omega

theorem reachOf_silence_le (activity : Activity) (m : Monitor π) : reachOf activity m.silence.events ≤ 3 := by
  have henter := reachOf_enter_le activity { m with countdown := m.countdown.cancel } .idle
  have hstop : reachOf activity (m.stop.value.command [.stop]).events ≤ 2 := by
    have hevents : (m.stop.value.command [.stop]).events = (give m.stop.value.player .stop).events := by
      simp [Monitor.command, giveAll_singleton]
    rw [hevents]
    rcases events_give_cases m.stop.value.player .stop with h | ⟨-, ⟨hplay, -⟩ | ⟨-, h⟩⟩
    · simp [h]
    · cases hplay
    · simp [h, Event.reach]
  simp only [Monitor.silence, Act.events_bind, reachOf_append]
  rw [← Monitor.stop] at henter
  split <;> simp <;> omega

end DirectPlayer

/-! ### The sleep timer -/

/-- Only a player that plays is news to the sleep timer, and only while no alarm runs. -/
theorem reachOf_sleepPlayback_le (activity : Activity) (t : SleepTimer) (now : DateTime) (timeout : Span)
    (s : PlaybackState) :
    reachOf activity (t.playbackChanged now timeout s).events ≤ if s = .playing ∧ t.activity ≠ .alarm then 1 else 0 := by
  split
  · exact Nat.le_trans (reachOf_le_weightOf _ _) (weightOf_sleepPlayback_le t now timeout s)
  · rename_i h
    rw [SleepTimer.playbackChanged, if_neg h]
    exact Nat.le_refl 0

/-! ### Routing -/

/-- An alarm that runs in the sleep timer goes on running. -/
theorem Device.activity_route [Player π] {d : Device π} (h : d.sleepTimer.activity = .alarm) (now : DateTime)
    (e : Event) : (d.route now e).value.sleepTimer.activity = .alarm := by
  by_cases he : ∃ a, e = .alarmTriggered a
  · obtain ⟨a, rfl⟩ := he
    rfl
  · rw [Device.sleepTimer_route_of_alarm h (not_exists.1 he)]
    exact h

/-- Routing an event sends less than the event could bring about. -/
theorem Device.reachOf_route_lt [Player π] [DirectPlayer π] (d : Device π) (now : DateTime) (e : Event) :
    reachOf (d.route now e).value.sleepTimer.activity (d.route now e).events < e.reach d.sleepTimer.activity := by
  generalize hlater : (d.route now e).value.sleepTimer.activity = later
  unfold Device.route at hlater ⊢
  split at hlater
  · have := Nat.le_trans (reachOf_le_weightOf later _) (weightOf_choose_le d.dispatcher d.store.alarms now now)
    simp [Event.reach, Dispatcher.check]
    omega
  · rename_i a
    obtain rfl : later = .alarm := hlater.symm
    have hmonitor := reachOf_alarmTriggered_le d.monitor now a
    have hsleep := Nat.le_trans (reachOf_le_weightOf .alarm _) (Nat.le_of_eq (weightOf_sleepTriggered now a))
    simp [Event.reach]
    omega
  · rename_i s
    have hmonitor := reachOf_playbackChanged_le later d.monitor s
    have hsleep := reachOf_sleepPlayback_le later d.sleepTimer now d.sleepTimeout s
    rw [Act.events_bind, Act.events_bind, Act.events_pure, List.append_nil, reachOf_append]
    cases s with
    | playing =>
      by_cases hd : d.sleepTimer.activity = .alarm
      · simp [Event.reach, hd] at hmonitor hsleep ⊢
        omega
      · simp [Event.reach, hd] at hmonitor hsleep ⊢
        omega
    | stopped =>
      simp [Event.reach] at hmonitor hsleep ⊢
      omega
    | paused =>
      simp [Event.reach] at hmonitor hsleep ⊢
      omega
  · rename_i err
    have := reachOf_playerFailed_le later d.monitor err
    simp [Event.reach]
    omega
  · have := reachOf_silence_le later d.monitor
    simp [Event.reach]
    omega
  all_goals simp [Event.reach]

theorem Device.reachOf_handle_lt [Player π] [DirectPlayer π] (d : Device π) (now : DateTime) (e : Event)
    (rest : List Event) (h : d.queue = e :: rest) :
    let x := handle { d with queue := rest } now e
    reachOf x.value.sleepTimer.activity x.value.queue < reachOf d.sleepTimer.activity d.queue := by
  intro x
  have hsent : reachOf x.value.sleepTimer.activity (route { d with queue := rest } now e).events <
      e.reach d.sleepTimer.activity := reachOf_route_lt { d with queue := rest } now e
  have hrest : reachOf x.value.sleepTimer.activity rest ≤ reachOf d.sleepTimer.activity rest :=
    reachOf_mono (fun hd => activity_route (d := { d with queue := rest }) hd now e) rest
  have hqueue : x.value.queue = rest ++ (route { d with queue := rest } now e).events := queue_handle _ _ _
  rw [hqueue, h, reachOf_append, reachOf_cons]
  omega

end AlarmClock
