import AlarmClock.Proofs.Schedule.NextInstance
import Mathlib.Data.List.Find

/-! The upcoming alarm. Next instances are in a preorder in which what has none comes last, and of the
alarms that go off soonest the one that stands first in the list is upcoming. Main statements: the upcoming
alarm and its instant are told by the next instances alone, and equally by when the alarms go off. -/

namespace AlarmClock

/-! ### The order of next instances -/

theorem isLE_compareInstances {i j : Option DateTime} :
    (compareInstances i j).isLE = true ↔ ∀ m, j = some m → ∃ k, i = some k ∧ k ≤ m := by
  rcases i with - | i <;> rcases j with - | j
  · simp [compareInstances]
  · simp [compareInstances]
  · simp [compareInstances]
  · simp [compareInstances, DateTime.le_def, Int.isLE_compare]

instance : Std.TransCmp compareInstances where
  eq_swap := by
    rintro (_ | i) (_ | j)
    · rfl
    · rfl
    · rfl
    · exact @Std.OrientedCmp.eq_swap Int compare _ _ _
  isLE_trans := by
    intro i j k hij hjk
    rw [isLE_compareInstances] at hij hjk ⊢
    intro n hn
    obtain ⟨m, hm, hmn⟩ := hjk n hn
    obtain ⟨l, hl, hlm⟩ := hij m hm
    exact ⟨l, hl, Int.le_trans hlm hmn⟩

theorem compareInstances_none_right (i : Option DateTime) :
    compareInstances i none = if i.isSome then .lt else .eq := by
  cases i <;> rfl

namespace Alarm

theorem compareNext_self (a : Alarm) (now : DateTime) : a.compareNext a now = .eq :=
  @Std.ReflCmp.compare_self _ compareInstances _ _

theorem compareNext_swap (a b : Alarm) (now : DateTime) : b.compareNext a now = (a.compareNext b now).swap :=
  @Std.OrientedCmp.eq_swap _ compareInstances _ _ _

theorem compareNext_trans {a b c : Alarm} {now : DateTime} (hab : (a.compareNext b now).isLE = true)
    (hbc : (b.compareNext c now).isLE = true) : (a.compareNext c now).isLE = true :=
  @Std.TransCmp.isLE_trans _ compareInstances _ _ _ _ hab hbc

theorem compareNext_of_eq_none (a : Alarm) {b : Alarm} {now : DateTime} (h : b.nextInstance now = none) :
    a.compareNext b now = if (a.nextInstance now).isSome then .lt else .eq := by
  rw [compareNext, h, compareInstances_none_right]

instance (now : DateTime) : Std.TransCmp fun a b : Alarm => a.compareNext b now where
  eq_swap := compareNext_swap _ _ now
  isLE_trans := compareNext_trans

theorem firesBefore_eq_true {a b : Alarm} {now : DateTime} :
    a.firesBefore b now = true ↔ a.compareNext b now = .lt := by
  rw [firesBefore, decide_eq_true_eq]

/-- Exactly what is not behind an alarm does not have it fire before. -/
theorem not_firesBefore_iff {a b : Alarm} {now : DateTime} :
    ¬ a.firesBefore b now = true ↔ (b.compareNext a now).isLE = true := by
  rw [firesBefore_eq_true, ← Ordering.isGE_iff_ne_lt]
  exact @Std.OrientedCmp.isGE_iff_isLE _ (fun a b : Alarm => a.compareNext b now) _ a b

theorem firesBefore_iff {a b : Alarm} {now : DateTime} :
    a.firesBefore b now = true ↔
      ∃ i, a.nextInstance now = some i ∧ ∀ j, b.nextInstance now = some j → i < j := by
  unfold firesBefore compareNext
  cases a.nextInstance now with
  | none => cases b.nextInstance now <;> simp [compareInstances]
  | some i =>
    cases b.nextInstance now with
    | none => simp [compareInstances]
    | some j => simp [compareInstances, DateTime.lt_def, Int.compare_eq_lt]

theorem firesBefore_trans {a b c : Alarm} {now : DateTime} (hab : a.firesBefore b now = true)
    (hbc : b.firesBefore c now = true) : a.firesBefore c now = true := by
  rw [firesBefore_eq_true] at hab hbc ⊢
  exact @Std.TransCmp.lt_trans _ (fun a b : Alarm => a.compareNext b now) _ _ _ _ hab hbc

/-- What fires before an alarm fires before everything that does not. -/
theorem firesBefore_of_not_firesBefore {a b c : Alarm} {now : DateTime} (hab : a.firesBefore b now = true)
    (hcb : ¬ c.firesBefore b now = true) : a.firesBefore c now = true := by
  rw [firesBefore_eq_true] at hab ⊢
  rw [not_firesBefore_iff] at hcb
  exact @Std.TransCmp.lt_of_lt_of_isLE _ (fun a b : Alarm => a.compareNext b now) _ _ _ _ hab hcb

end Alarm

/-! ### The fold over the alarms -/

/-- The fold keeps an alarm that goes off before all in front of it, and before which none behind it does. -/
theorem exists_append_foldl_sooner (now : DateTime) (as : List Alarm) (a : Alarm) :
    ∃ before after, a :: as = before ++ as.foldl (Alarm.sooner now) a :: after ∧
      (∀ c ∈ before, (as.foldl (Alarm.sooner now) a).firesBefore c now = true) ∧
      ∀ c ∈ after, ¬ c.firesBefore (as.foldl (Alarm.sooner now) a) now = true := by
  induction as generalizing a with
  | nil => exact ⟨[], [], rfl, by simp, by simp⟩
  | cons c cs ih =>
    rw [List.foldl_cons]
    by_cases hc : c.firesBefore a now = true
    · rw [show Alarm.sooner now a c = c by rw [Alarm.sooner, if_pos hc]]
      obtain ⟨before, after, heq, hbefore, hafter⟩ := ih c
      refine ⟨a :: before, after, by rw [heq]; rfl, List.forall_mem_cons.2 ⟨?_, hbefore⟩, hafter⟩
      cases before with
      | nil => rw [← (List.cons.inj heq).1]; exact hc
      | cons b bs =>
        rw [List.cons_append] at heq
        rw [← (List.cons.inj heq).1] at hbefore
        exact Alarm.firesBefore_trans (hbefore c List.mem_cons_self) hc
    · rw [show Alarm.sooner now a c = a by rw [Alarm.sooner, if_neg hc]]
      obtain ⟨before, after, heq, hbefore, hafter⟩ := ih a
      cases before with
      | nil =>
        obtain ⟨ha, rfl⟩ := List.cons.inj heq
        refine ⟨[], c :: cs, by rw [← ha]; rfl, by simp, List.forall_mem_cons.2 ⟨?_, hafter⟩⟩
        rw [← ha]; exact hc
      | cons b bs =>
        rw [List.cons_append] at heq
        obtain ⟨rfl, hcs⟩ := List.cons.inj heq
        have ha := hbefore a List.mem_cons_self
        refine ⟨a :: c :: bs, after, by rw [List.cons_append, List.cons_append, ← hcs], ?_, hafter⟩
        refine List.forall_mem_cons.2 ⟨ha, List.forall_mem_cons.2 ⟨?_, fun x hx => ?_⟩⟩
        · exact Alarm.firesBefore_of_not_firesBefore ha hc
        · exact hbefore x (List.mem_cons_of_mem a hx)

/-! ### The upcoming alarm -/

/-- The upcoming alarm is the first in the list of those that go off at the soonest instant. -/
theorem find?_of_upcoming? {alarms : List Alarm} {now i : DateTime} {a : Alarm}
    (h : upcoming? alarms now = some (a, i)) :
    alarms.find? (fun b => b.nextInstance now = some i) = some a ∧
      ∀ b ∈ alarms, ∀ j, b.nextInstance now = some j → i ≤ j := by
  unfold upcoming? at h
  obtain ⟨b, hb, hbi⟩ := Option.bind_eq_some_iff.1 h
  obtain ⟨i', hi, hpair⟩ := Option.map_eq_some_iff.1 hbi
  cases hpair
  cases alarms with
  | nil => cases hb
  | cons c cs =>
    obtain ⟨before, after, heq, hbefore, hafter⟩ := exists_append_foldl_sooner now cs c
    rw [soonest?, Option.some.injEq] at hb
    rw [hb] at heq hbefore hafter
    rw [heq]
    constructor
    · rw [List.find?_eq_some_iff_append]
      refine ⟨by simpa using hi, before, after, rfl, fun x hx => ?_⟩
      obtain ⟨k, hk, hlt⟩ := Alarm.firesBefore_iff.1 (hbefore x hx)
      rw [hi] at hk
      cases hk
      simp only [Bool.not_eq_true', decide_eq_false_iff_not]
      intro hx'
      exact absurd (hlt i hx') (Int.lt_irrefl _)
    · intro x hx j hj
      rcases List.mem_append.1 hx with hx | hx
      · obtain ⟨k, hk, hlt⟩ := Alarm.firesBefore_iff.1 (hbefore x hx)
        rw [hi] at hk
        cases hk
        exact Int.le_of_lt (hlt j hj)
      · rcases List.mem_cons.1 hx with rfl | hx
        · rw [hi] at hj
          cases hj
          exact Int.le_refl _
        · have hnot := hafter x hx
          rw [Alarm.firesBefore_iff] at hnot
          by_cases hlt : j < i
          · exact absurd ⟨j, hj, fun k hk => by rw [hi] at hk; cases hk; exact hlt⟩ hnot
          · exact Int.not_lt.1 hlt

theorem nextInstance_eq_none_of_upcoming? {alarms : List Alarm} {now : DateTime}
    (h : upcoming? alarms now = none) {b : Alarm} (hb : b ∈ alarms) : b.nextInstance now = none := by
  cases alarms with
  | nil => cases hb
  | cons c cs =>
    obtain ⟨before, after, heq, hbefore, hafter⟩ := exists_append_foldl_sooner now cs c
    have hnone : (cs.foldl (Alarm.sooner now) c).nextInstance now = none := by
      simpa [upcoming?, soonest?] using h
    rw [heq] at hb
    rcases List.mem_append.1 hb with hb | hb
    · obtain ⟨k, hk, -⟩ := Alarm.firesBefore_iff.1 (hbefore b hb)
      rw [hnone] at hk
      cases hk
    · rcases List.mem_cons.1 hb with rfl | hb
      · exact hnone
      · cases hn : b.nextInstance now with
        | none => rfl
        | some j =>
          refine absurd (Alarm.firesBefore_iff.2 ⟨j, hn, fun k hk => ?_⟩) (hafter b hb)
          rw [hnone] at hk
          cases hk

theorem upcoming?_eq_none_iff {alarms : List Alarm} {now : DateTime} :
    upcoming? alarms now = none ↔ ∀ b ∈ alarms, b.nextInstance now = none := by
  constructor
  · exact fun h b hb => nextInstance_eq_none_of_upcoming? h hb
  · intro h
    cases hu : upcoming? alarms now with
    | none => rfl
    | some x =>
      have hfind := (find?_of_upcoming? hu).1
      have hmem := h x.1 (List.mem_of_find?_eq_some hfind)
      have hsome := List.find?_some hfind
      simp [hmem] at hsome

theorem upcoming?_eq_some_iff {alarms : List Alarm} {now i : DateTime} {a : Alarm} :
    upcoming? alarms now = some (a, i) ↔
      alarms.find? (fun b => b.nextInstance now = some i) = some a ∧
        ∀ b ∈ alarms, ∀ j, b.nextInstance now = some j → i ≤ j := by
  constructor
  · exact find?_of_upcoming?
  · rintro ⟨hfind, hleast⟩
    have hai : a.nextInstance now = some i := by simpa using List.find?_some hfind
    cases hu : upcoming? alarms now with
    | none =>
      rw [upcoming?_eq_none_iff] at hu
      rw [hu a (List.mem_of_find?_eq_some hfind)] at hai
      cases hai
    | some x =>
      obtain ⟨b, k⟩ := x
      obtain ⟨hfind', hleast'⟩ := find?_of_upcoming? hu
      have hbk : b.nextInstance now = some k := by simpa using List.find?_some hfind'
      have hik : i = k := DateTime.le_antisymm (hleast b (List.mem_of_find?_eq_some hfind') k hbk)
        (hleast' a (List.mem_of_find?_eq_some hfind) i hai)
      subst hik
      rw [hfind] at hfind'
      cases hfind'
      rfl

/-- The instant of the upcoming alarm is the least next instance of all. -/
theorem map_snd_upcoming?_eq_some_iff {alarms : List Alarm} {now i : DateTime} :
    (upcoming? alarms now).map Prod.snd = some i ↔
      (∃ a ∈ alarms, a.nextInstance now = some i) ∧ ∀ b ∈ alarms, ∀ j, b.nextInstance now = some j → i ≤ j := by
  constructor
  · intro h
    obtain ⟨⟨a, k⟩, hu, rfl⟩ := Option.map_eq_some_iff.1 h
    obtain ⟨hfind, hleast⟩ := find?_of_upcoming? hu
    exact ⟨⟨a, List.mem_of_find?_eq_some hfind, by simpa using List.find?_some hfind⟩, hleast⟩
  · rintro ⟨⟨a, ha, hai⟩, hleast⟩
    obtain ⟨b, hb⟩ := Option.isSome_iff_exists.1
      ((List.find?_isSome (p := fun b : Alarm => decide (b.nextInstance now = some i))).2 ⟨a, ha, by simpa using hai⟩)
    rw [upcoming?_eq_some_iff.2 ⟨hb, hleast⟩]
    rfl

theorem map_snd_upcoming?_of_perm {alarms others : List Alarm} {now : DateTime} (h : alarms.Perm others) :
    (upcoming? others now).map Prod.snd = (upcoming? alarms now).map Prod.snd := by
  refine Option.ext fun i => ?_
  simp only [map_snd_upcoming?_eq_some_iff, h.mem_iff]

/-- Of the alarms with the least next instance the first in the list is upcoming, and none is exactly if none has a
next instance; so the order of the list does not matter for the instant. The comparison behind this is a total
preorder in which an alarm without a next instance is last. -/
theorem upcoming?_first_of_soonest (alarms : List Alarm) (now : DateTime) :
    (upcoming? alarms now = none ↔ ∀ b ∈ alarms, b.nextInstance now = none) ∧
    (∀ a i, upcoming? alarms now = some (a, i) ↔
      alarms.find? (fun b => b.nextInstance now = some i) = some a ∧
        ∀ b ∈ alarms, ∀ j, b.nextInstance now = some j → i ≤ j) ∧
    (∀ others, alarms.Perm others → (upcoming? others now).map Prod.snd = (upcoming? alarms now).map Prod.snd) ∧
    ∀ a b c : Alarm,
      a.compareNext a now = .eq ∧
      b.compareNext a now = (a.compareNext b now).swap ∧
      ((a.compareNext b now).isLE → (b.compareNext c now).isLE → (a.compareNext c now).isLE) ∧
      (b.nextInstance now = none →
        a.compareNext b now = if (a.nextInstance now).isSome then .lt else .eq) := by
  refine ⟨upcoming?_eq_none_iff, fun a i => upcoming?_eq_some_iff, fun others h => map_snd_upcoming?_of_perm h, ?_⟩
  intro a b c
  exact ⟨a.compareNext_self now, a.compareNext_swap b now, Alarm.compareNext_trans, a.compareNext_of_eq_none⟩

/-- Two of three alarms go off at 08:45: the first of them is upcoming, and back to front it is the same instant. -/
theorem upcoming?_of_two_level :
    upcoming? [everyDay 3 570, everyDay 1 525, everyDay 2 525] (wednesday 480) =
        some (everyDay 1 525, wednesday 525) ∧
      (upcoming? [everyDay 2 525, everyDay 1 525, everyDay 3 570] (wednesday 480)).map Prod.snd =
        some (wednesday 525) := by
  obtain ⟨-, hsome, hperm, -⟩ :=
    upcoming?_first_of_soonest [everyDay 3 570, everyDay 1 525, everyDay 2 525] (wednesday 480)
  have hfirst := (hsome (everyDay 1 525) (wednesday 525)).2 (by decide)
  have hlevel := hperm _ (List.reverse_perm _).symm
  rw [hfirst] at hlevel
  exact ⟨hfirst, hlevel⟩

/-! ### In terms of when alarms go off -/

/-- Some alarm of a list goes off at an instant. -/
def GoesOff (alarms : List Alarm) (i : DateTime) : Prop := ∃ a ∈ alarms, a.GoesOffAt i

theorem goesOff_of_upcoming? {alarms : List Alarm} {now i : DateTime} {a : Alarm}
    (h : upcoming? alarms now = some (a, i)) :
    now ≤ i ∧ alarms.find? (fun b => b.GoesOffAt i) = some a ∧ ∀ j, GoesOff alarms j → now ≤ j → i ≤ j := by
  obtain ⟨hfind, hleast⟩ := find?_of_upcoming? h
  have hai : a.nextInstance now = some i := by simpa using List.find?_some hfind
  have hnow : now ≤ i := (Alarm.goesOffAt_nextInstance hai).2.1
  have hmin : ∀ b ∈ alarms, ∀ j, b.GoesOffAt j → now ≤ j → i ≤ j := by
    intro b hb j hj hnj
    cases hn : b.nextInstance now with
    | none => exact absurd hnj (Alarm.not_goesOffAt_of_nextInstance_eq_none hn hj)
    | some k => exact Int.le_trans (hleast b hb k hn) ((Alarm.goesOffAt_nextInstance hn).2.2 j hj hnj)
  refine ⟨hnow, ?_, fun j ⟨b, hb, hj⟩ hnj => hmin b hb j hj hnj⟩
  rw [← hfind]
  refine List.find?_congr fun b hb => ?_
  rw [decide_eq_decide, Alarm.nextInstance_eq_some_iff]
  exact ⟨fun hi => ⟨hi, hnow, hmin b hb⟩, fun hi => hi.1⟩

theorem not_goesOff_of_upcoming?_eq_none {alarms : List Alarm} {now j : DateTime}
    (h : upcoming? alarms now = none) (hj : GoesOff alarms j) : ¬ now ≤ j := by
  obtain ⟨b, hb, hbj⟩ := hj
  exact Alarm.not_goesOffAt_of_nextInstance_eq_none (upcoming?_eq_none_iff.1 h b hb) hbj

theorem upcoming?_eq_some_iff_goesOff {alarms : List Alarm} {now i : DateTime} {a : Alarm} :
    upcoming? alarms now = some (a, i) ↔
      now ≤ i ∧ alarms.find? (fun b => b.GoesOffAt i) = some a ∧ ∀ j, GoesOff alarms j → now ≤ j → i ≤ j := by
  constructor
  · exact goesOff_of_upcoming?
  · rintro ⟨hnow, hfind, hleast⟩
    have hi : GoesOff alarms i :=
      ⟨a, List.mem_of_find?_eq_some hfind, by simpa using List.find?_some hfind⟩
    cases hu : upcoming? alarms now with
    | none => exact absurd hnow (not_goesOff_of_upcoming?_eq_none hu hi)
    | some x =>
      obtain ⟨b, k⟩ := x
      obtain ⟨hk, hfind', hleast'⟩ := goesOff_of_upcoming? hu
      have hkoff : GoesOff alarms k :=
        ⟨b, List.mem_of_find?_eq_some hfind', by simpa using List.find?_some hfind'⟩
      obtain rfl : i = k := DateTime.le_antisymm (hleast k hkoff hk) (hleast' i hi hnow)
      rw [hfind, Option.some.injEq] at hfind'
      rw [hfind']

theorem upcoming?_eq_none_iff_goesOff {alarms : List Alarm} {now : DateTime} :
    upcoming? alarms now = none ↔ ∀ j, GoesOff alarms j → ¬ now ≤ j := by
  constructor
  · exact fun h j hj => not_goesOff_of_upcoming?_eq_none h hj
  · intro h
    cases hu : upcoming? alarms now with
    | none => rfl
    | some x =>
      obtain ⟨hnow, hfind, -⟩ := goesOff_of_upcoming? hu
      exact absurd hnow (h x.2 ⟨x.1, List.mem_of_find?_eq_some hfind, by simpa using List.find?_some hfind⟩)

/-! ### As time passes -/

/-- Until its instant comes the same alarm is upcoming. -/
theorem upcoming?_of_le {alarms : List Alarm} {t t' i : DateTime} {a : Alarm}
    (h : upcoming? alarms t = some (a, i)) (htt : t ≤ t') (hti : t' ≤ i) : upcoming? alarms t' = some (a, i) := by
  rw [upcoming?_eq_some_iff_goesOff] at h ⊢
  obtain ⟨-, hfind, hleast⟩ := h
  exact ⟨hti, hfind, fun j hj htj => hleast j hj (Int.le_trans htt htj)⟩

theorem upcoming?_eq_none_of_le {alarms : List Alarm} {t t' : DateTime} (h : upcoming? alarms t = none)
    (htt : t ≤ t') : upcoming? alarms t' = none := by
  rw [upcoming?_eq_none_iff_goesOff] at h ⊢
  exact fun j hj htj => h j hj (Int.le_trans htt htj)

end AlarmClock
