import AlarmClock.Proofs.Countdown
import AlarmClock.Proofs.Media.Player
import AlarmClock.Proofs.Store.Announcing
import AlarmClock.SleepTimer

/-! What the operations of a sleep timer do to its countdown and its activity. -/

namespace AlarmClock

namespace SleepTimer

variable {π : Type} [Player π]

theorem within_start (now : DateTime) (s : Span) (a : Activity) {kind : Command → Prop} :
    ∀ f ∈ (start now s a).effects, f.Within π kind := by
  intro f hf
  rw [List.mem_singleton.1 hf]
  trivial

theorem within_alarmTriggered (now : DateTime) (a : Alarm) {kind : Command → Prop} :
    ∀ f ∈ (alarmTriggered now a).effects, f.Within π kind :=
  Act.forall_mem_effects_bind.2 ⟨within_note _, within_start _ _ _⟩

theorem within_playbackChanged (t : SleepTimer) (now : DateTime) (timeout : Span) (s : PlaybackState)
    {kind : Command → Prop} : ∀ f ∈ (t.playbackChanged now timeout s).effects, f.Within π kind := by
  unfold playbackChanged
  split
  · exact within_start _ _ _
  · exact within_pure _

omit [Player π] in
/-- Playback does not touch the countdown of an alarm. -/
theorem playbackChanged_of_alarm {t : SleepTimer} (h : t.activity = .alarm) (now : DateTime) (timeout : Span)
    (s : PlaybackState) : t.playbackChanged now timeout s = pure t := by
  rw [playbackChanged, if_neg (by simp [h])]

/-! ### Looking at the clock -/

theorem commands_poll (t : SleepTimer) (now : DateTime) : (t.poll now).commands = [] := by
  unfold poll
  split
  · simp [publish]
  · split <;> simp [publish]

theorem sleepElapsed_mem_events_poll {t : SleepTimer} {now : DateTime} (h : t.countdown.isDue now = true) :
    .sleepElapsed ∈ (t.poll now).events := by
  simp [poll, h]

theorem countdown_poll_of_not_isDue {t : SleepTimer} {now : DateTime} (h : t.countdown.isDue now = false) :
    (t.poll now).value.countdown = t.countdown := by
  unfold poll
  rw [if_neg (by simp [h])]
  split <;> rfl

theorem activity_poll_of_isDue {t : SleepTimer} {now : DateTime} (h : t.countdown.isDue now = true) :
    (t.poll now).value.activity = .idle := by
  unfold poll
  rw [if_pos h]
  rfl

theorem activity_poll_of_not_isDue {t : SleepTimer} {now : DateTime} (h : t.countdown.isDue now = false) :
    (t.poll now).value.activity = t.activity := by
  unfold poll
  rw [if_neg (by simp [h])]
  split <;> rfl

/-- The events of a look at the clock are the elapse, if it is due, and the minutes that are left. -/
theorem mem_events_poll {t : SleepTimer} {now : DateTime} {e : Event} (h : e ∈ (t.poll now).events) :
    (e = .sleepElapsed ∧ t.countdown.isDue now = true) ∨ ∃ n, e = .remainingChanged n := by
  unfold poll at h
  split at h
  · rename_i hdue
    simp [publish] at h
    rcases h with rfl | rfl
    · exact .inl ⟨rfl, hdue⟩
    · exact .inr ⟨_, rfl⟩
  · split at h
    · simp [publish] at h
      exact .inr ⟨_, h⟩
    · cases h

/-! ### Another timeout -/

omit [Player π] in
/-- A timeout that the store refuses leaves store and timer as they were; one that it takes, the timer takes over. -/
theorem setTimeout_cases (t : SleepTimer) (s : Store) (now : DateTime) (timeout : Span) :
    (∃ e, (s.setSleepTimeout timeout).value.result = .error e ∧ (t.setTimeout s now timeout).value = ⟨.error e, t, s⟩ ∧
      (t.setTimeout s now timeout).events = []) ∨
    ∃ u, (s.setSleepTimeout timeout).value = ⟨.ok (), u⟩ ∧
      (t.setTimeout s now timeout).value = ⟨.ok (), (t.timeoutChanged now timeout).value, u⟩ ∧
      (t.setTimeout s now timeout).events = (t.timeoutChanged now timeout).events := by
  have hquiet := s.events_setSleepTimeout timeout
  cases hstored : (s.setSleepTimeout timeout).value with
  | mk result u =>
    cases result with
    | error e =>
      have hsame : (s.setSleepTimeout timeout).value.state = s :=
        (Store.unchanged_of_error (c := .sleepTimeout timeout) (congrArg Attempt.result hstored)).1
      rw [hstored] at hsame
      exact .inl ⟨e, rfl, by simp [setTimeout, hstored, hsame], by simp [setTimeout, hstored, hquiet]⟩
    | ok _ => exact .inr ⟨u, rfl, by simp [setTimeout, hstored], by simp [setTimeout, hstored, hquiet]⟩

end SleepTimer

end AlarmClock
