import AlarmClock.Proofs.Store.Change

/-! What a store announces. An operation either leaves the alarms as they were, refused or not,
or announces that they have changed, as long as the store announces at all. -/

namespace AlarmClock.Store

/-- What an operation leaves of a store announces as before, and alarms that are other ones were announced. -/
def Announced (s : Store) (x : Act (Attempt Unit Store)) : Prop :=
  x.value.state.announces = s.announces ∧
    (s.announces = true → x.value.state.alarms = s.alarms ∨ .alarmsChanged ∈ x.events)

/-- A change that is refused, kept or none of the alarms leaves them as they were; every other one is announced. -/
theorem announced_perform (s : Store) (c : Change) : s.Announced (c.perform s) := by
  rcases s.refused_or_declined_or_committed c with h | h | h
  · rw [Announced, h.state_eq]
    exact ⟨rfl, fun _ => .inl rfl⟩
  · rw [Announced, h.value_eq]
    exact ⟨rfl, fun _ => .inl rfl⟩
  · obtain ⟨d, hd, hvalue⟩ := h.value_eq
    rw [Announced, hvalue, h.events_eq]
    refine ⟨rfl, fun hann => ?_⟩
    cases hc : c.ofAlarms with
    | false => exact .inl (hd.alarms_eq hc)
    | true =>
      right
      simp [announcement, hann, hc]

/-- Another sleep timeout leaves the alarms as they were. -/
theorem alarms_setSleepTimeout (s : Store) (timeout : Span) :
    (s.setSleepTimeout timeout).value.state.alarms = s.alarms := by
  change (s.after (.sleepTimeout timeout)).alarms = s.alarms
  rcases s.after_cases (.sleepTimeout timeout) with h | ⟨d, hd, h⟩
  · rw [h]
  · rw [h]
    exact hd.alarms_eq rfl

/-- It is not announced. -/
theorem events_setSleepTimeout (s : Store) (timeout : Span) : (s.setSleepTimeout timeout).events = [] := by
  change ((Change.sleepTimeout timeout).perform s).events = []
  rcases s.refused_or_declined_or_committed (.sleepTimeout timeout) with h | h | h
  · exact h.events_eq
  · exact h.events_eq
  · rw [h.events_eq, announcement]
    simp [Change.ofAlarms]

end AlarmClock.Store
