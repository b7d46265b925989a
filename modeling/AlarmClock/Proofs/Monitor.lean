import AlarmClock.Monitor
import AlarmClock.Proofs.Media.Player

/-! What the operations of a monitor do to its state, and what comes of them. Only an alarm
takes the monitor out of rest; only silencing it stops the player. -/

namespace AlarmClock.Monitor

variable {π : Type}

@[simp] theorem state_enter (m : Monitor π) (s : MonitorState) : (m.enter s).value.state = s := by
  unfold enter
  split
  · rename_i h
    exact h.symm
  · rfl

theorem fallback_enter (m : Monitor π) (s : MonitorState) : (m.enter s).value.fallback = m.fallback := by
  unfold enter
  split <;> rfl

@[simp] theorem countdown_enter (m : Monitor π) (s : MonitorState) : (m.enter s).value.countdown = m.countdown := by
  unfold enter
  split <;> rfl

@[simp] theorem grace_enter (m : Monitor π) (s : MonitorState) : (m.enter s).value.grace = m.grace := by
  unfold enter
  split <;> rfl

theorem mem_events_enter {m : Monitor π} {s : MonitorState} {e : Event} (h : e ∈ (m.enter s).events) :
    e = .monitorChanged s := by
  unfold enter at h
  split at h
  · cases h
  · simpa using h

/-! ### Looking at the clock -/

theorem poll_of_not_isDue {m : Monitor π} {now : DateTime} (h : m.countdown.isDue now = false) :
    m.poll now = pure m := by
  simp [poll, Countdown.poll, h]

/-- After the grace period an alarm that is still expected counts as delivered. -/
theorem state_poll_of_isDue {m : Monitor π} {now : DateTime} (hs : m.state = .expecting)
    (h : m.countdown.isDue now = true) : (m.poll now).value.state = .idle := by
  simp [poll, h, hs]

theorem state_poll_of_ne_expecting {m : Monitor π} (h : m.state ≠ .expecting) (now : DateTime) :
    (m.poll now).value.state = m.state := by
  simp [poll, h]

theorem fallback_poll (m : Monitor π) (now : DateTime) : (m.poll now).value.fallback = m.fallback := by
  unfold poll
  dsimp only
  split
  · exact fallback_enter _ _
  · rfl

/-- Looking at the clock ends at most the wait for an alarm. -/
theorem state_poll (m : Monitor π) (now : DateTime) :
    (m.poll now).value.state = m.state ∨ (m.poll now).value.state = .idle := by
  unfold poll
  simp only
  split
  · exact .inr (by simp)
  · exact .inl rfl

/-- A look at the clock sends at most that the monitor has come to rest. -/
theorem mem_events_poll {m : Monitor π} {now : DateTime} {e : Event} (h : e ∈ (m.poll now).events) :
    e = .monitorChanged .idle := by
  unfold poll at h
  dsimp only at h
  split at h
  · exact mem_events_enter h
  · cases h

theorem commands_poll (m : Monitor π) (now : DateTime) : (m.poll now).commands = [] := by
  unfold poll enter
  dsimp only
  split
  · split <;> rfl
  · rfl

theorem state_poll_of_idle {m : Monitor π} (h : m.state = .idle) (now : DateTime) :
    (m.poll now).value.state = .idle := by
  rcases m.state_poll now with hs | hs
  · rw [hs, h]
  · exact hs

variable [Player π]

/-! ### The fallback -/

theorem within_enter (m : Monitor π) (s : MonitorState) {kind : Command → Prop} :
    ∀ f ∈ (m.enter s).effects, f.Within π kind := by
  intro f hf
  unfold enter at hf
  split at hf
  · cases hf
  · rw [List.mem_singleton.1 hf]
    trivial

theorem within_command {kind : Command → Prop} {cs : List Command} (h : ∀ c ∈ cs, kind c) (m : Monitor π) :
    ∀ f ∈ (m.command cs).effects, f.Within π kind := by
  rw [command, Act.forall_mem_effects_bind]
  exact ⟨within_giveAll h m.player, within_pure _⟩

@[simp] theorem state_fallBack (m : Monitor π) : m.fallBack.value.state = .fallback := by
  simp only [fallBack, Act.value_bind]
  split <;> simp [command]

@[simp] theorem countdown_fallBack (m : Monitor π) : m.fallBack.value.countdown = m.countdown.cancel := by
  simp only [fallBack, Act.value_bind]
  split <;> simp [command]

@[simp] theorem grace_fallBack (m : Monitor π) : m.fallBack.value.grace = m.grace := by
  simp only [fallBack, Act.value_bind]
  split <;> simp [command]

theorem within_fallBack (m : Monitor π) : ∀ f ∈ m.fallBack.effects, f.Within π (· ≠ .stop) := by
  simp only [fallBack, Act.forall_mem_effects_bind]
  refine ⟨within_enter _ _, within_command (by simp [fallbackCommands]) _, ?_⟩
  split
  · exact within_pure _
  · exact Act.forall_mem_effects_bind.2 ⟨within_note _, within_pure _⟩

/-- The fallback begins with its playlist, whether or not the player takes it. -/
theorem setPlaylist_mem_effects_fallBack (m : Monitor π) : .command (.setPlaylist m.fallback) ∈ m.fallBack.effects := by
  simp only [fallBack, Act.effects_bind, command, fallbackCommands, giveAll, give, Reply.effects, fallback_enter]
  simp

/-! ### Alarms -/

theorem state_alarmTriggered (m : Monitor π) (now : DateTime) (a : Alarm) :
    (m.alarmTriggered now a).value.state = .expecting ∨ (m.alarmTriggered now a).value.state = .fallback := by
  simp only [alarmTriggered, Act.value_bind]
  split
  · left; simp [command]
  · right; simp

theorem state_alarmTriggered_ne_idle (m : Monitor π) (now : DateTime) (a : Alarm) :
    (m.alarmTriggered now a).value.state ≠ .idle := by
  rcases m.state_alarmTriggered now a with h | h <;> rw [h] <;> decide

theorem within_alarmTriggered (m : Monitor π) (now : DateTime) (a : Alarm) :
    ∀ f ∈ (m.alarmTriggered now a).effects, f.Within π (· ≠ .stop) := by
  simp only [alarmTriggered, Act.forall_mem_effects_bind]
  refine ⟨within_note _, within_enter _ _, within_command (by simp [alarmCommands]) _, ?_⟩
  split
  · exact within_pure _
  · exact Act.forall_mem_effects_bind.2 ⟨within_note _, within_fallBack _⟩

/-! ### News of the player -/

theorem playerFailed_of_idle {m : Monitor π} (h : m.state = .idle) (e : PlayerError) : m.playerFailed e = pure m := by
  simp [playerFailed, h]

theorem state_playerFailed_of_fallback {m : Monitor π} (h : m.state = .fallback) (e : PlayerError) :
    (m.playerFailed e).value.state = .fallback := by
  simp [playerFailed, h]

/-- A monitor that minds an alarm lets a failure of the player start the fallback. -/
theorem playerFailed_of_minding {m : Monitor π} (h : m.state = .active ∨ m.state = .expecting) (e : PlayerError) :
    m.playerFailed e = note (.playerFailed m.state e) >>= fun _ => m.fallBack := by
  rcases h with h | h <;> simp [playerFailed, h]

/-- A failure of the player leaves a monitor at rest, and no other one comes to rest. -/
theorem state_playerFailed_eq_idle_iff (m : Monitor π) (e : PlayerError) :
    (m.playerFailed e).value.state = .idle ↔ m.state = .idle := by
  unfold playerFailed
  split <;> simp_all

theorem within_playerFailed (m : Monitor π) (e : PlayerError) :
    ∀ f ∈ (m.playerFailed e).effects, f.Within π (· ≠ .stop) := by
  unfold playerFailed
  split
  · exact Act.forall_mem_effects_bind.2 ⟨within_note _, within_fallBack m⟩
  · exact Act.forall_mem_effects_bind.2 ⟨within_note _, within_fallBack m⟩
  · exact Act.forall_mem_effects_bind.2 ⟨within_note _, within_pure _⟩
  · exact within_pure _

omit [Player π] in
theorem state_playbackChanged_of_idle {m : Monitor π} (h : m.state = .idle) (s : PlaybackState) :
    (m.playbackChanged s).value.state = .idle := by
  cases s <;> simp [playbackChanged, h]

omit [Player π] in
theorem playbackChanged_of_fallback {m : Monitor π} (h : m.state = .fallback) (s : PlaybackState) :
    m.playbackChanged s = pure m := by
  cases s <;> simp [playbackChanged, h]

omit [Player π] in
/-- Only a player that stops brings a monitor to rest. -/
theorem state_playbackChanged_ne_idle {m : Monitor π} (h : m.state ≠ .idle) {s : PlaybackState}
    (hs : s ≠ .stopped) : (m.playbackChanged s).value.state ≠ .idle := by
  unfold playbackChanged
  split <;> simp_all

omit [Player π] in
/-- News of the player lead neither into the fallback nor out of it. -/
theorem state_playbackChanged_eq_fallback_iff (m : Monitor π) (s : PlaybackState) :
    (m.playbackChanged s).value.state = .fallback ↔ m.state = .fallback := by
  unfold playbackChanged
  split <;> simp_all

omit [Player π] in
/-- An alarm is expected until the player plays. -/
theorem state_playbackChanged_eq_expecting_iff (m : Monitor π) (s : PlaybackState) :
    (m.playbackChanged s).value.state = .expecting ↔ m.state = .expecting ∧ s ≠ .playing := by
  unfold playbackChanged
  split <;> simp_all

omit [Player π] in
theorem mem_events_playbackChanged {m : Monitor π} {s : PlaybackState} {e : Event}
    (h : e ∈ (m.playbackChanged s).events) : e = .monitorChanged .active ∨ e = .monitorChanged .idle := by
  unfold playbackChanged at h
  split at h
  · exact .inl (mem_events_enter h)
  · exact .inr (mem_events_enter h)
  · cases h

theorem within_playbackChanged (m : Monitor π) (s : PlaybackState) {kind : Command → Prop} :
    ∀ f ∈ (m.playbackChanged s).effects, f.Within π kind := by
  unfold playbackChanged
  split
  · exact within_enter _ _
  · exact within_enter _ _
  · exact within_pure _

/-! ### Silence -/

@[simp] theorem state_silence (m : Monitor π) : m.silence.value.state = .idle := by
  simp only [silence, stop, Act.value_bind]
  split <;> simp [command]

/-- What is sent on the way to silence is that the monitor has come to rest, and what the player has changed to. -/
theorem mem_events_silence {m : Monitor π} {e : Event} (h : e ∈ m.silence.events) :
    e = .monitorChanged .idle ∨ ∃ s, e = .player (.changed s) := by
  rw [silence, Act.events_bind, Act.events_bind, List.mem_append, List.mem_append] at h
  rcases h with h | h | h
  · exact .inl (mem_events_enter h)
  · rw [command, Act.events_bind, Act.events_pure, List.append_nil] at h
    exact .inr (exists_of_mem_events_giveAll h)
  · split at h
    split at h <;> cases h

theorem stop_mem_commands_silence (m : Monitor π) : .command .stop ∈ m.silence.effects := by
  simp only [silence, Act.effects_bind, command, giveAll, give, Reply.effects]
  simp

theorem within_silence (m : Monitor π) : ∀ f ∈ m.silence.effects, f.Within π (· = .stop) := by
  simp only [silence, stop, Act.forall_mem_effects_bind]
  refine ⟨within_enter _ _, within_command (by simp) _, ?_⟩
  split
  · exact within_pure _
  · exact Act.forall_mem_effects_bind.2 ⟨within_note _, within_pure _⟩

end AlarmClock.Monitor
