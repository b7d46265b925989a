import AlarmClock.Proofs.Countdown
import AlarmClock.Proofs.Monitor
import AlarmClock.Proofs.Schedule.NextInstance

/-! The grace countdown of a monitor. Every alarm arms it anew; whatever ends the wait for the
player takes it away. Main statement: as long as the grace periods end within the calendar it
runs exactly while an alarm is expected, and until the grace period after the last alarm. -/

namespace AlarmClock.Monitor

variable {π : Type}

/-! ### Runs -/

/-- What can happen to a monitor. -/
inductive Incident (π : Type) where
  | alarm (a : Alarm)
  | failure (e : PlayerError)
  | playback (s : PlaybackState)
  | player (e : PlayerEvent)
  | look
  | stop
  | silence
  /-- The player is another one from now on, for instance one that refuses other commands. -/
  | playerBecomes (p : π)

/-- The clock of an alarm. -/
def Incident.alarmClock? (now : DateTime) : Incident π → Option DateTime
  | alarm _ => some now
  | _ => none

/-- The clocks at which alarms come, in order. -/
def alarmClocks : List (DateTime × Incident π) → List DateTime
  | [] => []
  | (now, x) :: xs => (x.alarmClock? now).toList ++ alarmClocks xs

section

variable [Player π]

def step (m : Monitor π) (now : DateTime) : Incident π → Act (Monitor π)
  | .alarm a => m.alarmTriggered now a
  | .failure e => m.playerFailed e
  | .playback s => m.playbackChanged s
  | .player e => m.playerEvent e
  | .look => m.poll now
  | .stop => m.stop
  | .silence => m.silence
  | .playerBecomes p => pure { m with player := p }

/-- What happens in order, each at a clock of its own. -/
def run (m : Monitor π) : List (DateTime × Incident π) → Act (Monitor π)
  | [] => pure m
  | (now, x) :: xs => do (← m.step now x).run xs

end

/-! ### One step -/

/-- What a step can do to the wait for the player: an alarm begins it, something ends it, or it goes on as before. -/
inductive Waits (m : Monitor π) (now : DateTime) (x : Incident π) (n : Monitor π) : Prop where
  | begins (hx : x.alarmClock? now = some now) (hstate : n.state = .expecting)
      (hcount : n.countdown = Countdown.arm now m.grace)
  | ends (hstate : n.state ≠ .expecting) (hcount : n.countdown.deadline = none)
  | goesOn (hx : x.alarmClock? now = none) (hstate : n.state = .expecting ↔ m.state = .expecting)
      (hcount : n.countdown = m.countdown)

variable [Player π]

theorem waits_fallBack (m : Monitor π) (now : DateTime) (x : Incident π) : m.Waits now x m.fallBack.value := by
  refine .ends ?_ ?_
  · rw [state_fallBack]
    exact nofun
  · rw [countdown_fallBack]
    rfl

theorem waits_alarmTriggered (m : Monitor π) (now : DateTime) (a : Alarm) :
    m.Waits now (.alarm a) (m.alarmTriggered now a).value := by
  simp only [alarmTriggered, Act.value_bind]
  split
  · -- the player takes the alarm
    exact .begins rfl (by simp [command]) (by simp [command])
  · refine .ends ?_ ?_
    · simp
    · simp [Countdown.cancel]

theorem waits_playerFailed (m : Monitor π) (now : DateTime) (e : PlayerError) {x : Incident π}
    (hx : x.alarmClock? now = none) : m.Waits now x (m.playerFailed e).value := by
  unfold playerFailed
  split
  · exact m.waits_fallBack now x
  · exact m.waits_fallBack now x
  · exact .goesOn hx Iff.rfl rfl
  · exact .goesOn hx Iff.rfl rfl

omit [Player π] in
theorem waits_playbackChanged (m : Monitor π) (now : DateTime) (s : PlaybackState) {x : Incident π}
    (hx : x.alarmClock? now = none) : m.Waits now x (m.playbackChanged s).value := by
  unfold playbackChanged
  split
  · refine .ends ?_ ?_
    · simp
    · simp [Countdown.cancel]
  · rename_i hactive
    refine .goesOn hx ?_ ?_
    · simp [hactive]
    · simp
  · exact .goesOn hx Iff.rfl rfl

omit [Player π] in
theorem waits_poll (m : Monitor π) (now : DateTime) : m.Waits now .look (m.poll now).value := by
  cases hdue : m.countdown.isDue now with
  | false =>
    rw [poll_of_not_isDue hdue]
    exact .goesOn rfl Iff.rfl rfl
  | true =>
    refine .ends ?_ ?_
    · by_cases hs : m.state = .expecting
      · rw [state_poll_of_isDue hs hdue]
        exact nofun
      · rwa [state_poll_of_ne_expecting hs]
    · have hpoll : (m.poll now).value.countdown = m.countdown.cancel := by
        unfold poll
        simp only [Countdown.poll, hdue, if_true]
        split <;> simp
      rw [hpoll]
      rfl

omit [Player π] in
theorem waits_stop (m : Monitor π) (now : DateTime) : m.Waits now .stop m.stop.value := by
  refine .ends ?_ ?_
  · simp [stop]
  · simp [stop, Countdown.cancel]

theorem waits_silence (m : Monitor π) (now : DateTime) : m.Waits now .silence m.silence.value := by
  refine .ends ?_ ?_
  · rw [state_silence]
    exact nofun
  · simp only [silence, stop, Act.value_bind]
    split <;> simp [command, Countdown.cancel]

theorem waits_step (m : Monitor π) (now : DateTime) (x : Incident π) : m.Waits now x (m.step now x).value := by
  cases x with
  | alarm a => exact m.waits_alarmTriggered now a
  | failure e => exact m.waits_playerFailed now e rfl
  | playback s => exact m.waits_playbackChanged now s rfl
  | player e =>
    cases e with
    | changed s => exact m.waits_playbackChanged now s rfl
    | failed e => exact m.waits_playerFailed now e rfl
  | look => exact m.waits_poll now
  | stop => exact m.waits_stop now
  | silence => exact m.waits_silence now
  | playerBecomes p => exact .goesOn rfl Iff.rfl rfl

/-- The grace period is set once and for all. -/
theorem grace_step (m : Monitor π) (now : DateTime) (x : Incident π) : (m.step now x).value.grace = m.grace := by
  have hfailed : ∀ e, (m.playerFailed e).value.grace = m.grace := by
    intro e
    unfold playerFailed
    split <;> simp
  have hchanged : ∀ s, (m.playbackChanged s).value.grace = m.grace := by
    intro s
    unfold playbackChanged
    split <;> simp
  cases x with
  | alarm a =>
    simp only [step, alarmTriggered, Act.value_bind]
    split <;> simp [command]
  | failure e => exact hfailed e
  | playback s => exact hchanged s
  | player e =>
    cases e with
    | changed s => exact hchanged s
    | failed e => exact hfailed e
  | look =>
    simp only [step, poll]
    split <;> simp
  | stop => simp [step, stop]
  | silence =>
    simp only [step, silence, stop, Act.value_bind]
    split <;> simp [command]
  | playerBecomes p => rfl

/-! ### All steps -/

/-- While it expects an alarm a monitor counts down from the last one, and otherwise not at all. -/
structure CountsFrom (m : Monitor π) (grace : Span) (last : Option DateTime) : Prop where
  grace_eq : m.grace = grace
  expecting : m.state = .expecting →
    ∃ t i, last = some t ∧ t.add? grace.orZero = some i ∧ m.countdown.deadline = some i
  resting : m.state ≠ .expecting → m.countdown.deadline = none

theorem CountsFrom.step {m : Monitor π} {grace : Span} {last : Option DateTime} (h : m.CountsFrom grace last)
    (now : DateTime) (x : Incident π) (hfits : ∀ t, x.alarmClock? now = some t → (t.add? grace.orZero).isSome) :
    (m.step now x).value.CountsFrom grace ((x.alarmClock? now).or last) := by
  refine ⟨(m.grace_step now x).trans h.grace_eq, ?_, ?_⟩
  · intro hs
    cases m.waits_step now x with
    | begins hx hstate hcount =>
      obtain ⟨i, hi⟩ := Option.isSome_iff_exists.1 (hfits now hx)
      refine ⟨now, i, by rw [hx]; rfl, hi, ?_⟩
      rw [hcount, h.grace_eq]
      exact hi
    | ends hstate hcount => exact absurd hs hstate
    | goesOn hx hstate hcount =>
      rw [hx, hcount]
      exact h.expecting (hstate.1 hs)
  · intro hs
    cases m.waits_step now x with
    | begins hx hstate hcount => exact absurd hstate hs
    | ends hstate hcount => exact hcount
    | goesOn hx hstate hcount =>
      rw [hcount]
      exact h.resting fun hm => hs (hstate.2 hm)

theorem CountsFrom.run {m : Monitor π} {grace : Span} {last : Option DateTime} (h : m.CountsFrom grace last)
    {xs : List (DateTime × Incident π)} (hfits : ∀ t ∈ alarmClocks xs, (t.add? grace.orZero).isSome) :
    (m.run xs).value.CountsFrom grace ((alarmClocks xs).getLast?.or last) := by
  induction xs generalizing m last with
  | nil => exact h
  | cons x xs ih =>
    obtain ⟨now, x⟩ := x
    obtain ⟨hx, hxs⟩ := List.forall_mem_append.1 hfits
    rw [alarmClocks, getLast?_toList_append]
    exact ih (h.step now x fun t ht => hx t (Option.mem_toList.2 ht)) hxs

/-- Whatever happens to a monitor, at whatever clocks and with whatever player, its countdown is active exactly while
an alarm is expected, and then until the grace period after the last alarm, if the grace periods end within the
calendar. A grace period that leads back counts as none. -/
theorem counts_down_iff_expecting (player : π) (grace : Span) (fallback : Url) (xs : List (DateTime × Incident π))
    (hfits : ∀ t ∈ alarmClocks xs, (t.add? grace.orZero).isSome) :
    let m := ((start player grace fallback).run xs).value
    (m.countdown.isActive = true ↔ m.state = .expecting) ∧
      (m.state = .expecting → ∃ t i, (alarmClocks xs).getLast? = some t ∧ t.add? grace.orZero = some i ∧
        m.countdown.deadline = some i) := by
  intro m
  have hstart : (start player grace fallback).CountsFrom grace none := ⟨rfl, nofun, fun _ => rfl⟩
  have hm : m.CountsFrom grace (alarmClocks xs).getLast? := by
    have hrun := hstart.run hfits
    rwa [Option.or_none] at hrun
  refine ⟨⟨fun hactive => ?_, fun hs => ?_⟩, hm.expecting⟩
  · by_cases hs : m.state = .expecting
    · exact hs
    · rw [Countdown.isActive, hm.resting hs] at hactive
      cases hactive
  · obtain ⟨t, i, -, -, hi⟩ := hm.expecting hs
    rw [Countdown.isActive, hi]
    rfl

/-- Two alarms five minutes apart, the second while the first still waits for its player: the wait is for the second. -/
theorem counts_down_from_second_alarm :
    let xs := [(wednesday 525, .alarm (everyDay 1 525)), (wednesday 525, .playback .paused),
      (wednesday 530, .alarm (everyDay 2 530))]
    let grace := Span.ofSeconds 20 (by decide)
    let m := ((start ({} : RecordingPlayer) grace (everyDay 0 0).media).run xs).value
    m.state = .expecting ∧ m.countdown.isActive = true ∧ m.countdown.deadline = (wednesday 530).add? grace := by
  intro xs grace m
  have hstate : m.state = .expecting := by decide +kernel
  obtain ⟨hactive, hdeadline⟩ := counts_down_iff_expecting ({} : RecordingPlayer) grace (everyDay 0 0).media xs
    (by decide +kernel)
  obtain ⟨t, i, ht, hi, hd⟩ := hdeadline hstate
  have hlast : t = wednesday 530 := (Option.some.inj ht).symm
  subst hlast
  exact ⟨hstate, hactive.2 hstate, hd.trans hi.symm⟩

end AlarmClock.Monitor
