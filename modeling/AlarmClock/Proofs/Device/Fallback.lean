import AlarmClock.Proofs.Device.Run

/-! What becomes of a failure of the player that waits for the next turn. The monitor looks
at the clock before any event is routed: if the grace period of an expected alarm has
ended by then, the monitor is at rest when the failure reaches it, and nothing is done
about it. In every other case the failure starts the fallback. -/

namespace AlarmClock.Device

variable {π : Type} [Player π]

/-! ### Drains without alarms and elapses -/

/-- Neither an alarm nor an elapse of the sleep timer waits. -/
def Calm (d : Device π) : Prop := ∀ e ∈ d.queue, e ≠ .sleepElapsed ∧ ∀ a, e ≠ .alarmTriggered a

theorem calm_handle {d : Device π} {e : Event} {rest : List Event} (hq : d.queue = e :: rest) (hd : d.Calm)
    (now : DateTime) : (handle { d with queue := rest } now e).value.Calm := by
  intro e' he'
  rcases mem_queue_handle he' with he' | ⟨-, helapsed, halarm⟩
  · exact hd e' (by rw [hq]; exact List.mem_cons_of_mem _ he')
  · exact ⟨helapsed, halarm⟩

theorem fallback_drain {d : Device π} (hd : d.Calm) (hstate : d.monitor.state = .fallback) (now : DateTime) :
    (d.drain now).value.1.monitor.state = .fallback := by
  refine drain_keeps_of_kind (I := fun x => x.monitor.state = .fallback) ?_ ?_ hd hstate
  · exact fun _ _ _ _ hnew => (ne_of_mem_events_route hnew).2
  · exact fun x e rest he hx => monitor_route_of_fallback (d := { x with queue := rest }) hx he.1 he.2 now

/-- A monitor at rest stays there and gives no commands. -/
theorem idle_drain {d : Device π} (hd : d.Calm) (hstate : d.monitor.state = .idle) (now : DateTime) :
    (d.drain now).value.1.monitor.state = .idle ∧ (d.drain now).commands = [] := by
  obtain ⟨hidle, hwithin⟩ : (d.drain now).value.1.monitor.state = .idle ∧
      ∀ f ∈ (d.drain now).effects, f.Within π fun _ => False := by
    refine drain_safe_of_kind (I := fun x => x.monitor.state = .idle) ?_ ?_ hd hstate
    · exact fun _ _ _ _ hnew => (ne_of_mem_events_route hnew).2
    · exact fun x e rest he hx => ⟨monitor_route_of_idle (d := { x with queue := rest }) hx he.2 now,
        within_route_of_idle (d := { x with queue := rest }) hx he.1 he.2 now⟩
  exact ⟨hidle, List.eq_nil_iff_forall_not_mem.2 fun c hc => hwithin _ (Act.mem_commands.1 hc)⟩

/-! ### A failure at the front of the queue -/

theorem fallback_drain_of_queue_eq_cons {d : Device π} {e : PlayerError} {rest : List Event}
    (hq : d.queue = .player (.failed e) :: rest) (hd : d.Calm)
    (hstate : d.monitor.state = .active ∨ d.monitor.state = .expecting) (now : DateTime) :
    (d.drain now).value.1.monitor.state = .fallback ∧ .setPlaylist d.monitor.fallback ∈ (d.drain now).commands := by
  have hroute : (handle { d with queue := rest } now (.player (.failed e))).value.monitor.state = .fallback := by
    simp [route, Monitor.playerFailed_of_minding hstate]
  have hoffered : .command (.setPlaylist d.monitor.fallback) ∈
      (handle { d with queue := rest } now (.player (.failed e))).effects := by
    rw [effects_handle, route, Act.effects_bind, Monitor.playerFailed_of_minding hstate, Act.effects_bind]
    exact List.mem_append_left _ (List.mem_append_right _ d.monitor.setPlaylist_mem_effects_fallBack)
  rw [Act.mem_commands, drain_of_queue_eq_cons hq]
  exact ⟨fallback_drain (calm_handle hq hd now) hroute now, List.mem_append_left _ hoffered⟩

/-! ### The turn after a failure -/

omit [Player π] in
/-- In a turn in which neither dispatcher nor sleep timer is due a failure is routed first, and only news behind it. -/
theorem queue_polled_playerEvent {d : Device π} {now : DateTime} (e : PlayerError) (hq : d.queue = [])
    (hfire : d.dispatcher.countdown.isDue now = false) (hsleep : d.sleepTimer.countdown.isDue now = false) :
    (∃ rest, ((d.playerEvent (.failed e)).value.polled now).queue = .player (.failed e) :: rest) ∧
      ((d.playerEvent (.failed e)).value.polled now).Calm := by
  have hqueue : ((d.playerEvent (.failed e)).value.polled now).queue =
      .player (.failed e) :: ((d.monitor.poll now).events ++ (d.sleepTimer.poll now).events) := by
    rw [queue_polled, playerEvent, queue_queueUp]
    change d.queue ++ [.player (.failed e)] ++ (d.dispatcher.poll d.store.alarms now).events ++ _ = _
    rw [hq, Dispatcher.poll_of_not_isDue _ hfire]
    rfl
  refine ⟨⟨_, hqueue⟩, fun f hf => ?_⟩
  rw [hqueue] at hf
  rcases List.mem_cons.1 hf with rfl | hf
  · simp
  · rcases mem_events_pollOthers hf with ⟨-, hdue⟩ | ⟨s, rfl⟩ | ⟨n, rfl⟩
    · rw [hsleep] at hdue
      cases hdue
    · simp
    · simp

/-- A failure that was reported while an alarm was minded starts the fallback in the next turn, and has its playlist
offered to the player, exactly if the alarm played already or its grace period has not ended by that turn. -/
theorem fallback_of_failure_iff {d : Device π} {now : DateTime} (e : PlayerError) (hq : d.queue = [])
    (hstate : d.monitor.state = .active ∨ d.monitor.state = .expecting)
    (hfire : d.dispatcher.countdown.isDue now = false) (hsleep : d.sleepTimer.countdown.isDue now = false) :
    let t := (d.playerEvent (.failed e)).value.turn now
    t.value.2.isSome = true ∧
      (t.value.1.monitor.state = .fallback ↔ d.monitor.state = .active ∨ d.monitor.countdown.isDue now = false) ∧
      (.setPlaylist d.monitor.fallback ∈ t.commands ↔
        d.monitor.state = .active ∨ d.monitor.countdown.isDue now = false) := by
  intro t
  have hend : ((d.playerEvent (.failed e)).value.dispatcher.poll (d.playerEvent (.failed e)).value.store.alarms
      now).value.2 ≠ .calendarEnd := by
    change (d.dispatcher.poll d.store.alarms now).value.2 ≠ .calendarEnd
    rw [Dispatcher.poll_of_not_isDue _ hfire]
    exact nofun
  obtain ⟨⟨rest, hqueue⟩, hcalm⟩ := queue_polled_playerEvent e hq hfire hsleep
  have hpolled : ((d.playerEvent (.failed e)).value.polled now).monitor = (d.monitor.poll now).value := rfl
  rw [value_turn hend, commands_turn hend]
  refine ⟨rfl, ?_⟩
  by_cases hminds : d.monitor.state = .active ∨ d.monitor.countdown.isDue now = false
  · have hminding : (d.monitor.poll now).value.state = .active ∨ (d.monitor.poll now).value.state = .expecting := by
      rcases hminds with hactive | hdue
      · left
        rw [Monitor.state_poll_of_ne_expecting (by rw [hactive]; decide), hactive]
      · rw [Monitor.poll_of_not_isDue hdue]
        exact hstate
    obtain ⟨hfallback, hoffered⟩ := fallback_drain_of_queue_eq_cons hqueue hcalm hminding now
    rw [hpolled, Monitor.fallback_poll] at hoffered
    exact ⟨iff_of_true hfallback hminds, iff_of_true hoffered hminds⟩
  · obtain ⟨hactive, hdue⟩ := not_or.1 hminds
    have hidle : (d.monitor.poll now).value.state = .idle :=
      Monitor.state_poll_of_isDue (hstate.resolve_left hactive) (by simpa using hdue)
    obtain ⟨hstays, hnone⟩ := idle_drain hcalm hidle now
    refine ⟨iff_of_false ?_ hminds, iff_of_false ?_ hminds⟩
    · rw [hstays]
      decide
    · rw [hnone]
      exact List.not_mem_nil

/-- A failure at 08:45 of the alarm of 08:45 starts the fallback in a turn at once. -/
theorem fallback_of_failure_at_once :
    let d := (morning [everyDay 1 525] (wednesday 524)).run [(wednesday 525, .turn)]
    let t := (d.playerEvent (.failed (.network "stream unreachable"))).value.turn (wednesday 525)
    t.value.1.monitor.state = .fallback ∧ .setPlaylist (Playlist.loop [bedside.fallback]) ∈ t.commands := by
  intro d t
  have hq : d.queue = [] := by decide +kernel
  have hstate : d.monitor.state = .expecting := by decide +kernel
  have hgrace : d.monitor.countdown.isDue (wednesday 525) = false := by decide +kernel
  have hfire : d.dispatcher.countdown.isDue (wednesday 525) = false := by decide +kernel
  have hsleep : d.sleepTimer.countdown.isDue (wednesday 525) = false := by decide +kernel
  have hplaylist : d.monitor.fallback = Playlist.loop [bedside.fallback] := by decide +kernel
  obtain ⟨-, hfallback, hoffered⟩ :=
    fallback_of_failure_iff (.network "stream unreachable") hq (.inr hstate) hfire hsleep
  rw [← hplaylist]
  exact ⟨hfallback.2 (.inr hgrace), hoffered.2 (.inr hgrace)⟩

/-- The same failure is lost if the next turn is at 08:46, forty seconds after the end of the grace period. -/
theorem failure_lost :
    let d := (morning [everyDay 1 525] (wednesday 524)).run [(wednesday 525, .turn)]
    let t := (d.playerEvent (.failed (.network "stream unreachable"))).value.turn (wednesday 526)
    d.queue = [] ∧ d.monitor.state = .expecting ∧ d.monitor.countdown.isDue (wednesday 525) = false ∧
      d.dispatcher.countdown.isDue (wednesday 526) = false ∧ d.sleepTimer.countdown.isDue (wednesday 526) = false ∧
      t.value.1.monitor.state = .idle ∧ t.commands = [] := by
  decide +kernel

end AlarmClock.Device
