import AlarmClock.Proofs.Dispatcher.Choice
import AlarmClock.Proofs.Monitor
import AlarmClock.Proofs.SleepTimer
import AlarmClock.Proofs.Store.Change
import Mathlib.Data.List.Chain

/-! What the parts of a device tell of themselves. A dispatcher tells what is upcoming and a monitor what
it is about, each when that has changed and only then; the other parts tell neither. So what was told
keeps up with what there is. -/

namespace AlarmClock

variable {α β π : Type}

/-! ### Values that keep up -/

/-- Values that lead from `x` to `y`: each differs from the one before it, and the last one is `y`. -/
def Leads (x : α) : List α → α → Prop
  | [], y => y = x
  | v :: vs, y => v ≠ x ∧ Leads v vs y

namespace Leads

variable {x y z : α} {vs ws : List α}

theorem append (h : Leads x vs y) (h' : Leads y ws z) : Leads x (vs ++ ws) z := by
  induction vs generalizing x with
  | nil =>
    have hxy : y = x := h
    subst hxy
    exact h'
  | cons v vs ih => exact ⟨h.1, ih h.2⟩

theorem getLast?_getD (h : Leads x vs y) : vs.getLast?.getD x = y := by
  induction vs generalizing x with
  | nil => exact Eq.symm h
  | cons v vs ih =>
    rw [List.getLast?_cons, Option.getD_some]
    exact ih h.2

theorem isChain_cons (h : Leads x vs y) : (x :: vs).IsChain (· ≠ ·) := by
  induction vs generalizing x with
  | nil => exact List.isChain_singleton x
  | cons v vs ih => exact List.isChain_cons_cons.2 ⟨h.1.symm, ih h.2⟩

end Leads

/-! ### News -/

namespace Event

/-- The text that is shown from now on. -/
def info? : Event → Option String
  | upcomingChanged text => some text
  | _ => none

/-- The state of the monitor from now on. -/
def monitorState? : Event → Option MonitorState
  | monitorChanged s => some s
  | _ => none

/-- An event that tells neither. -/
def Quiet (e : Event) : Prop := e.info? = none ∧ e.monitorState? = none

instance (e : Event) : Decidable e.Quiet := inferInstanceAs (Decidable (_ ∧ _))

variable {es : List Event}

theorem infos_of_quiet (h : ∀ e ∈ es, e.Quiet) : es.filterMap info? = [] :=
  List.filterMap_eq_nil_iff.2 fun e he => (h e he).1

theorem monitorStates_of_quiet (h : ∀ e ∈ es, e.Quiet) : es.filterMap monitorState? = [] :=
  List.filterMap_eq_nil_iff.2 fun e he => (h e he).2

end Event

theorem quiet_of_mem_giveAll [Player π] (p : π) (cs : List Command) : ∀ e ∈ (giveAll p cs).events, e.Quiet := by
  intro e he
  obtain ⟨s, rfl⟩ := exists_of_mem_events_giveAll he
  exact ⟨rfl, rfl⟩

/-! ### Stores and sleep timers -/

/-- News of the alarms, or of the sleep timer while it counts. -/
inductive Event.Routine : Event → Prop where
  | alarmsChanged : Routine .alarmsChanged
  | remainingChanged (minutes : Int) : Routine (.remainingChanged minutes)
  | sleepTimeoutChanged (s : Span) : Routine (.sleepTimeoutChanged s)

theorem Event.Routine.quiet {e : Event} (h : e.Routine) : e.Quiet := by
  cases h <;> exact ⟨rfl, rfl⟩

/-- A change of a store is at most announced. -/
theorem Store.routine_of_mem_perform {s : Store} {c : Change} : ∀ e ∈ (c.perform s).events, e.Routine := by
  intro e he
  rcases s.refused_or_declined_or_committed c with h | h | h
  · rw [h.events_eq] at he
    cases he
  · rw [h.events_eq] at he
    cases he
  · rw [h.events_eq] at he
    unfold announcement at he
    split at he
    · rw [List.mem_singleton.1 he]
      exact .alarmsChanged
    · cases he

namespace SleepTimer

theorem routine_of_mem_start (now : DateTime) (s : Span) (a : Activity) :
    ∀ e ∈ (start now s a).events, e.Routine := by
  intro e he
  rw [List.mem_singleton.1 he]
  exact .remainingChanged _

theorem routine_of_mem_playbackChanged (t : SleepTimer) (now : DateTime) (timeout : Span) (s : PlaybackState) :
    ∀ e ∈ (t.playbackChanged now timeout s).events, e.Routine := by
  unfold playbackChanged
  split
  · exact routine_of_mem_start _ _ _
  · exact List.forall_mem_nil _

theorem quiet_of_mem_poll (t : SleepTimer) (now : DateTime) : ∀ e ∈ (t.poll now).events, e.Quiet := by
  intro e he
  rcases mem_events_poll he with ⟨rfl, -⟩ | ⟨n, rfl⟩
  · exact ⟨rfl, rfl⟩
  · exact ⟨rfl, rfl⟩

theorem routine_of_mem_timeoutChanged (t : SleepTimer) (now : DateTime) (timeout : Span) :
    ∀ e ∈ (t.timeoutChanged now timeout).events, e.Routine := by
  have hchanged : (Event.sleepTimeoutChanged timeout).Routine := .sleepTimeoutChanged timeout
  unfold timeoutChanged
  split
  · simp [publish, hchanged, Event.Routine.remainingChanged]
  · simp [hchanged]

end SleepTimer

/-! ### Dispatchers -/

namespace Dispatcher

/-- What is sent on the way from one dispatcher to another keeps up with what is upcoming. -/
structure Tells (d : Dispatcher) (es : List Event) (e : Dispatcher) : Prop where
  info : Leads d.info (es.filterMap Event.info?) e.info
  state : es.filterMap Event.monitorState? = []

theorem tells_publish (d : Dispatcher) (info : String) : d.Tells (d.publish info).events (d.publish info).value := by
  unfold publish
  split
  · exact ⟨rfl, rfl⟩
  · rename_i hnew
    exact ⟨⟨hnew, rfl⟩, rfl⟩

theorem tells_choose (d : Dispatcher) (alarms : List Alarm) (reference now : DateTime) :
    d.Tells (d.choose alarms reference now).events (d.choose alarms reference now).value := by
  unfold choose
  split
  · rename_i a i hu
    have hpublish := tells_publish { d with upcoming := some a.id, countdown := Countdown.armUntil now i }
      (upcomingText d.face (some i))
    split <;> exact ⟨hpublish.info, hpublish.state⟩
  · have hpublish := tells_publish { d with upcoming := none, countdown := d.countdown.cancel }
      (upcomingText d.face none)
    split <;> exact ⟨hpublish.info, hpublish.state⟩

theorem Tells.after_quiet {d e : Dispatcher} {es fs : List Event} (h : d.Tells fs e) (hquiet : ∀ x ∈ es, x.Quiet) :
    d.Tells (es ++ fs) e := by
  constructor
  · rw [List.filterMap_append, Event.infos_of_quiet hquiet]
    exact h.info
  · rw [List.filterMap_append, Event.monitorStates_of_quiet hquiet]
    exact h.state

theorem quiet_of_mem_fire (d : Dispatcher) (alarms : List Alarm) (now : DateTime) :
    ∀ e ∈ (d.fire alarms now).events, e.Quiet := by
  intro e he
  obtain ⟨id, a, -, -, -, rfl⟩ := mem_events_fire_iff.1 he
  exact ⟨rfl, rfl⟩

theorem tells_poll (d : Dispatcher) (alarms : List Alarm) (now : DateTime) :
    d.Tells (d.poll alarms now).events (d.poll alarms now).value.1 := by
  cases hdue : d.countdown.isDue now with
  | false =>
    rw [poll_of_not_isDue alarms hdue]
    exact ⟨rfl, rfl⟩
  | true =>
    have hfire := quiet_of_mem_fire { d with countdown := d.countdown.cancel } alarms now
    rw [poll_of_isDue alarms hdue, Act.events_bind]
    refine Tells.after_quiet ?_ hfire
    cases now.add? Span.second with
    | none => exact ⟨rfl, rfl⟩
    | some reference =>
      have hchoose := tells_choose { d with countdown := d.countdown.cancel } alarms reference now
      simp only [Act.events_bind, Act.events_pure, List.append_nil]
      exact ⟨hchoose.info, hchoose.state⟩

end Dispatcher

/-! ### Monitors -/

namespace Monitor

/-- What a monitor sends on the way to another one keeps up with its state. -/
structure Tells (m : Monitor π) (x : Act (Monitor π)) : Prop where
  state : Leads m.state (x.events.filterMap Event.monitorState?) x.value.state
  info : x.events.filterMap Event.info? = []

variable {m : Monitor π} {x : Act (Monitor π)}

theorem tells_pure (m : Monitor π) : m.Tells (pure m) := ⟨rfl, rfl⟩

theorem Tells.bind {f : Monitor π → Act (Monitor π)} (h : m.Tells x) (hf : x.value.Tells (f x.value)) :
    m.Tells (x >>= f) := by
  constructor
  · rw [Act.events_bind, List.filterMap_append]
    exact h.state.append hf.state
  · rw [Act.events_bind, List.filterMap_append, h.info, hf.info]
    rfl

theorem Tells.after_note (h : m.Tells x) (n : Notice) : m.Tells (note n >>= fun _ => x) := ⟨h.state, h.info⟩

theorem tells_enter (m : Monitor π) (s : MonitorState) : m.Tells (m.enter s) := by
  unfold enter
  split
  · exact m.tells_pure
  · rename_i hnew
    exact ⟨⟨hnew, rfl⟩, rfl⟩

/-- The countdown tells nothing. -/
theorem tells_enter_with (m : Monitor π) (c : Countdown) (s : MonitorState) :
    m.Tells (enter { m with countdown := c } s) := by
  have henter := tells_enter { m with countdown := c } s
  exact ⟨henter.state, henter.info⟩

theorem tells_poll (m : Monitor π) (now : DateTime) : m.Tells (m.poll now) := by
  unfold poll
  simp only
  split
  · exact m.tells_enter_with _ _
  · exact ⟨rfl, rfl⟩

theorem tells_playbackChanged (m : Monitor π) (s : PlaybackState) : m.Tells (m.playbackChanged s) := by
  unfold playbackChanged
  split
  · exact m.tells_enter_with _ _
  · exact m.tells_enter _
  · exact m.tells_pure

variable [Player π]

/-- Commands tell nothing, whatever the player makes of them. -/
theorem tells_command_bind {n : Monitor π} {cs : List Command} {f : Monitor π × Option PlayerError → Act (Monitor π)}
    (hn : n.state = m.state) (hf : ∀ p refusal, Tells { n with player := p } (f ({ n with player := p }, refusal))) :
    m.Tells (n.command cs >>= f) := by
  have hquiet : ∀ e ∈ (n.command cs).events, e.Quiet := by
    rw [command, Act.events_bind, Act.events_pure, List.append_nil]
    exact quiet_of_mem_giveAll n.player cs
  have hrest := hf (giveAll n.player cs).value.1 (giveAll n.player cs).value.2
  constructor
  · rw [Act.events_bind, List.filterMap_append, Event.monitorStates_of_quiet hquiet, ← hn]
    exact hrest.state
  · rw [Act.events_bind, List.filterMap_append, Event.infos_of_quiet hquiet]
    exact hrest.info

theorem tells_fallBack (m : Monitor π) : m.Tells m.fallBack := by
  refine (m.tells_enter_with _ _).bind (tells_command_bind rfl fun p refusal => ?_)
  cases refusal with
  | none => exact tells_pure _
  | some e => exact (tells_pure _).after_note _

theorem tells_alarmTriggered (m : Monitor π) (now : DateTime) (a : Alarm) : m.Tells (m.alarmTriggered now a) := by
  refine Tells.after_note ((m.tells_enter _).bind (tells_command_bind ?_ fun p refusal => ?_)) _
  · rfl
  · cases refusal with
    | none => exact tells_pure _
    | some e => exact (tells_fallBack _).after_note _

theorem tells_playerFailed (m : Monitor π) (e : PlayerError) : m.Tells (m.playerFailed e) := by
  unfold playerFailed
  split
  · exact m.tells_fallBack.after_note _
  · exact m.tells_fallBack.after_note _
  · exact m.tells_pure.after_note _
  · exact m.tells_pure

theorem tells_silence (m : Monitor π) : m.Tells m.silence := by
  refine (m.tells_enter_with _ _).bind (tells_command_bind rfl fun p refusal => ?_)
  cases refusal with
  | none => exact tells_pure _
  | some e => exact (tells_pure _).after_note _

end Monitor

end AlarmClock
