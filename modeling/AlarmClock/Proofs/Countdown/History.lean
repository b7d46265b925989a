import AlarmClock.Proofs.Countdown
import AlarmClock.Proofs.Schedule.NextInstance
import Mathlib.Data.List.Induction

/-! The history of a countdown. Each arming puts its own deadline in the place of the last one; what cancels
it or finds it elapsed takes the deadline away. Main statement: a look at the clock finds a countdown elapsed
exactly if an arming is pending whose end has come, and this happens once at most before the next arming. -/

namespace AlarmClock.Countdown

/-! ### Touches and what is recorded of them -/

/-- What can be done to a countdown. -/
inductive Touch where
  | arm (s : Span)
  | armUntil (i : DateTime)
  | cancel
  | poll
  deriving DecidableEq

namespace Touch

def isArming : Touch → Bool
  | arm _ => true
  | armUntil _ => true
  | cancel => false
  | poll => false

/-- The instant at which an arming ends: now if it leads back, and none if it leads out of the calendar. -/
def ending (now : DateTime) : Touch → Option DateTime
  | arm s => if s ≤ Span.zero then some now else now.add? s
  | armUntil i => some (DateTime.latest i now)
  | cancel => none
  | poll => none

end Touch

/-- The countdown after a touch, and whether it has been found elapsed. -/
def step (c : Countdown) (now : DateTime) : Touch → Countdown × Bool
  | .arm s => (Countdown.arm now s, false)
  | .armUntil i => (Countdown.armUntil now i, false)
  | .cancel => (c.cancel, false)
  | .poll => c.poll now

/-- The countdown after touches in order, each at a clock of its own. -/
def run (c : Countdown) (hs : List (DateTime × Touch)) : Countdown := hs.foldl (fun c h => (c.step h.1 h.2).1) c

/-- What is recorded of a touch: its clock, the touch, and whether the countdown was found elapsed. -/
structure Entry where
  clock : DateTime
  touch : Touch
  elapsed : Bool
  deriving DecidableEq

/-- What is recorded of touches in order. -/
def log (c : Countdown) : List (DateTime × Touch) → List Entry
  | [] => []
  | (now, x) :: hs => ⟨now, x, (c.step now x).2⟩ :: (c.step now x).1.log hs

@[simp] theorem run_nil (c : Countdown) : c.run [] = c := rfl

theorem run_cons (c : Countdown) (now : DateTime) (x : Touch) (hs : List (DateTime × Touch)) :
    c.run ((now, x) :: hs) = (c.step now x).1.run hs := rfl

theorem run_concat (c : Countdown) (hs : List (DateTime × Touch)) (now : DateTime) (x : Touch) :
    c.run (hs ++ [(now, x)]) = ((c.run hs).step now x).1 := by
  simp [run]

theorem log_concat (c : Countdown) (hs : List (DateTime × Touch)) (now : DateTime) (x : Touch) :
    c.log (hs ++ [(now, x)]) = c.log hs ++ [⟨now, x, ((c.run hs).step now x).2⟩] := by
  induction hs generalizing c with
  | nil => rfl
  | cons h hs ih =>
    obtain ⟨t, y⟩ := h
    rw [List.cons_append, log, log, List.cons_append, ih, run_cons]

/-! ### The pending arming -/

/-- An arming is the last one, and behind it are only looks that did not find the countdown elapsed. -/
def Pending (es : List Entry) (t : DateTime) (x : Touch) : Prop :=
  x.isArming = true ∧ ∃ before behind, es = before ++ ⟨t, x, false⟩ :: behind ∧
    ∀ e ∈ behind, e.touch = .poll ∧ e.elapsed = false

theorem not_pending_nil (t : DateTime) (x : Touch) : ¬ Pending [] t x := by
  rintro ⟨-, before, behind, h, -⟩
  simp at h

/-- One more entry is the pending arming itself, or else a look that leaves it pending. -/
theorem pending_concat {es : List Entry} {e : Entry} {t : DateTime} {x : Touch} :
    Pending (es ++ [e]) t x ↔ (x.isArming = true ∧ e = ⟨t, x, false⟩) ∨
      (Pending es t x ∧ e.touch = .poll ∧ e.elapsed = false) := by
  constructor
  · rintro ⟨hx, before, behind, heq, hbehind⟩
    rcases List.eq_nil_or_concat behind with rfl | ⟨front, last, rfl⟩
    · exact .inl ⟨hx, (List.append_inj' heq rfl).2 |> List.singleton_inj.1⟩
    · rw [List.concat_eq_append] at heq hbehind
      rw [← List.cons_append, ← List.append_assoc] at heq
      obtain ⟨hes, he⟩ := List.append_inj' heq rfl
      obtain rfl := List.singleton_inj.1 he
      rw [List.forall_mem_append] at hbehind
      exact .inr ⟨⟨hx, before, front, hes, hbehind.1⟩, hbehind.2 e List.mem_cons_self⟩
  · rintro (⟨hx, rfl⟩ | ⟨⟨hx, before, behind, rfl, hbehind⟩, he⟩)
    · exact ⟨hx, es, [], rfl, List.forall_mem_nil _⟩
    · refine ⟨hx, before, behind ++ [e], by simp, ?_⟩
      rw [List.forall_mem_append]
      exact ⟨hbehind, by simpa using he⟩

theorem pending_concat_of_isArming {es : List Entry} {e : Entry} (he : e.touch.isArming = true) {t : DateTime}
    {x : Touch} : Pending (es ++ [e]) t x ↔ e = ⟨t, x, false⟩ := by
  rw [pending_concat]
  constructor
  · rintro (⟨-, h⟩ | ⟨-, hpoll, -⟩)
    · exact h
    · rw [hpoll] at he
      cases he
  · rintro rfl
    exact .inl ⟨he, rfl⟩

theorem pending_concat_of_not_isArming {es : List Entry} {e : Entry} (he : e.touch.isArming = false) {t : DateTime}
    {x : Touch} : Pending (es ++ [e]) t x ↔ Pending es t x ∧ e.touch = .poll ∧ e.elapsed = false := by
  rw [pending_concat]
  refine or_iff_right ?_
  rintro ⟨hx, rfl⟩
  exact Bool.false_ne_true (he.symm.trans hx)

/-! ### One touch -/

theorem deadline_step_of_isArming {x : Touch} (hx : x.isArming = true) (c : Countdown) (now : DateTime) :
    (c.step now x).1.deadline = x.ending now := by
  cases x with
  | arm s =>
    show now.add? s.orZero = if s ≤ Span.zero then some now else now.add? s
    unfold Span.orZero
    split
    · exact now.add?_zero
    · rfl
  | armUntil i => rfl
  | cancel => cases hx
  | poll => cases hx

/-- An arming leaves nothing of the countdown as it was. -/
theorem step_of_isArming {x : Touch} (hx : x.isArming = true) (c d : Countdown) (now : DateTime) :
    c.step now x = d.step now x := by
  cases x with
  | arm s => rfl
  | armUntil i => rfl
  | cancel => cases hx
  | poll => cases hx

theorem elapsed_step_of_isArming {x : Touch} (hx : x.isArming = true) (c : Countdown) (now : DateTime) :
    (c.step now x).2 = false := by
  cases x with
  | arm s => rfl
  | armUntil i => rfl
  | cancel => cases hx
  | poll => cases hx

theorem elapsed_step_iff {c : Countdown} {now : DateTime} {x : Touch} :
    (c.step now x).2 = true ↔ x = .poll ∧ c.isDue now = true := by
  cases x <;> simp [step]

/-- A touch that is no arming keeps the deadline if it is a look that does not find the countdown elapsed, and else
takes it away. -/
theorem deadline_step {x : Touch} (hx : x.isArming = false) (c : Countdown) (now : DateTime) :
    (c.step now x).1.deadline = if x = .poll ∧ (c.step now x).2 = false then c.deadline else none := by
  cases x with
  | arm s => cases hx
  | armUntil i => cases hx
  | cancel => simp [step, cancel]
  | poll =>
    simp only [step, poll]
    split
    · rfl
    · rfl

/-! ### All touches -/

/-- The deadline is the end of the pending arming. -/
theorem deadline_run_eq_some_iff (hs : List (DateTime × Touch)) (d : DateTime) :
    (idle.run hs).deadline = some d ↔ ∃ t x, Pending (idle.log hs) t x ∧ x.ending t = some d := by
  induction hs using List.reverseRecOn generalizing d with
  | nil => simp [log, not_pending_nil, idle]
  | append_singleton hs h ih =>
    obtain ⟨now, y⟩ := h
    rw [run_concat, log_concat]
    cases hy : y.isArming with
    | true =>
      simp only [pending_concat_of_isArming (e := ⟨_, y, _⟩) hy, deadline_step_of_isArming hy,
        elapsed_step_of_isArming hy, Entry.mk.injEq, and_true]
      constructor
      · exact fun hd => ⟨now, y, ⟨rfl, rfl⟩, hd⟩
      · rintro ⟨t, x, ⟨rfl, rfl⟩, hd⟩
        exact hd
    | false =>
      simp only [pending_concat_of_not_isArming (e := ⟨_, y, _⟩) hy, deadline_step hy]
      split
      · rename_i hlook
        -- the arming stays pending, and so does its end
        simp only [ih, iff_true_intro hlook, and_true]
      · rename_i hlook
        simp only [hlook, and_false, false_and, exists_false, reduceCtorEq]

/-- A countdown without a deadline is not found elapsed until it is armed. -/
theorem not_elapsed_of_deadline_eq_none {c : Countdown} (hc : c.deadline = none) {ks : List (DateTime × Touch)}
    (hks : ∀ k ∈ ks, k.2.isArming = false) : ∀ e ∈ c.log ks, e.elapsed = false := by
  induction ks generalizing c with
  | nil => exact List.forall_mem_nil _
  | cons k ks ih =>
    obtain ⟨hk, hks⟩ := List.forall_mem_cons.1 hks
    refine List.forall_mem_cons.2 ⟨?_, ih ?_ hks⟩
    · show (c.step k.1 k.2).2 = false
      rw [← Bool.not_eq_true, elapsed_step_iff, isDue_iff, hc]
      simp
    · rw [deadline_step hk, hc]
      split <;> rfl

/-- Before it is armed again a countdown is found elapsed once at most. -/
theorem countP_elapsed_le (c : Countdown) {ks : List (DateTime × Touch)} (hks : ∀ k ∈ ks, k.2.isArming = false) :
    (c.log ks).countP (·.elapsed) ≤ 1 := by
  induction ks generalizing c with
  | nil => exact Nat.zero_le 1
  | cons k ks ih =>
    obtain ⟨hk, hks⟩ := List.forall_mem_cons.1 hks
    rw [log, List.countP_cons]
    cases helapsed : (c.step k.1 k.2).2 with
    | false => simpa using ih _ hks
    | true =>
      have hnone : (c.step k.1 k.2).1.deadline = none := by
        rw [deadline_step hk, if_neg (by simp [helapsed])]
      have hrest : ((c.step k.1 k.2).1.log ks).countP (·.elapsed) = 0 := by
        rw [List.countP_eq_zero]
        intro e he
        simp [not_elapsed_of_deadline_eq_none hnone hks e he]
      rw [hrest]
      simp

/-- Whatever has been done to a countdown, at whatever clocks: a look finds it elapsed exactly if the last arming, with
only looks behind it that did not, has an end and that has come; an arming leaves nothing of the earlier ones; and up to
the next arming one look at most finds it elapsed, and none behind a cancellation. -/
theorem elapses_once_per_arming (hs : List (DateTime × Touch)) :
    (∀ now, ((idle.run hs).poll now).2 = true ↔
      ∃ t x d, Pending (idle.log hs) t x ∧ x.ending t = some d ∧ d ≤ now) ∧
    (∀ now x, x.isArming = true → idle.run (hs ++ [(now, x)]) = idle.run [(now, x)]) ∧
    ∀ ks : List (DateTime × Touch), (∀ k ∈ ks, k.2.isArming = false) →
      ((idle.run hs).log ks).countP (·.elapsed) ≤ 1 ∧
        ∀ now, ∀ e ∈ (idle.run (hs ++ [(now, .cancel)])).log ks, e.elapsed = false := by
  refine ⟨fun now => ?_, fun now x hx => ?_, fun ks hks => ⟨countP_elapsed_le _ hks, fun now => ?_⟩⟩
  · rw [snd_poll, isDue_iff]
    simp only [deadline_run_eq_some_iff]
    constructor
    · rintro ⟨d, ⟨t, x, hp, hd⟩, hnow⟩
      exact ⟨t, x, d, hp, hd, hnow⟩
    · rintro ⟨t, x, d, hp, hd, hnow⟩
      exact ⟨d, ⟨t, x, hp, hd⟩, hnow⟩
  · rw [run_concat, step_of_isArming hx (idle.run hs) idle]
    rfl
  · refine not_elapsed_of_deadline_eq_none ?_ hks
    rw [run_concat]
    rfl

/-- Armed until 08:45 and at 08:40 for ten minutes, a countdown is found elapsed at 08:50 and not at 08:45, nor twice. -/
theorem elapses_once_of_rearmed :
    let hs : List (DateTime × Touch) := [(wednesday 480, .armUntil (wednesday 525)),
      (wednesday 520, .arm (Span.minutes 10 (by decide))), (wednesday 525, .poll)]
    let ks : List (DateTime × Touch) := [(wednesday 530, .poll), (wednesday 500, .poll), (wednesday 540, .poll)]
    (∀ k ∈ ks, k.2.isArming = false) ∧ ((idle.run hs).poll (wednesday 530)).2 = true ∧
      ((idle.run hs).log ks).countP (·.elapsed) ≤ 1 := by
  intro hs ks
  have hks : ∀ k ∈ ks, k.2.isArming = false := by decide
  obtain ⟨helapses, -, honce⟩ := elapses_once_per_arming hs
  have hpending : Pending (idle.log hs) (wednesday 520) (.arm (Span.minutes 10 (by decide))) :=
    ⟨rfl, [_], [_], rfl, by decide⟩
  have hend : Touch.ending (wednesday 520) (.arm (Span.minutes 10 (by decide))) = some (wednesday 530) := by decide
  exact ⟨hks, (helapses _).2 ⟨_, _, _, hpending, hend, Int.le_refl _⟩, (honce ks hks).1⟩

end AlarmClock.Countdown
