import AlarmClock.Text.Blank
import AlarmClock.Text.Numeral
import AlarmClock.Text.Split

/-! Texts that are written are found again: digits have no blanks among them, a numeral has
no zero in front, and parts put together with a separator come apart as they were. -/

namespace AlarmClock.Text

/-! ### Numerals -/

theorem isBlank_of_isDigit {c : Char} (h : isDigit c = true) : isBlank c = false := by
  simp only [isDigit, Bool.and_eq_true, decide_eq_true_eq] at h
  simp only [isBlank, Bool.or_eq_false_iff, Bool.and_eq_false_iff, decide_eq_false_iff_not, beq_eq_false_iff_ne]
  omega

/-- Only the numeral of zero starts with one. -/
theorem eq_zero_of_numeral_eq_cons {n : Nat} {s : List Char} (h : numeral n = '0' :: s) : n = 0 := by
  induction n using Nat.strongRecOn generalizing s with
  | ind n ih =>
    by_cases hn : n < 10
    · rw [numeral_of_lt hn] at h
      have hd := congrArg digitValue (List.cons.inj h).1
      rw [digitValue_digitChar hn] at hd
      exact hd
    · rw [numeral_of_le (by omega)] at h
      obtain ⟨c, r, hc⟩ := List.exists_cons_of_ne_nil (numeral_ne_nil (n / 10))
      rw [hc, List.cons_append] at h
      rw [(List.cons.inj h).1] at hc
      have := ih (n / 10) (by omega) hc
      omega

theorem isDigit_of_mem_padded {width n : Nat} {c : Char} (h : c ∈ padded width n) : isDigit c = true := by
  rcases List.mem_append.1 h with h | h
  · rw [(List.mem_replicate.1 h).2]
    decide
  · exact isDigit_of_mem_numeral h

/-- Zeros in front of a numeral count for nothing. -/
theorem value_padded (width n : Nat) : value (padded width n) = n := by
  rw [padded]
  induction width - (numeral n).length with
  | zero => exact value_numeral n
  | succ k ih =>
    rw [List.replicate_succ, List.cons_append]
    exact ih

theorem padded_injective {width m n : Nat} (h : padded width m = padded width n) : m = n := by
  rw [← value_padded width m, h, value_padded]

theorem length_numeral_le {n k : Nat} (h : n < 10 ^ (k + 1)) : (numeral n).length ≤ k + 1 := by
  induction k generalizing n with
  | zero =>
    have hn : n < 10 := by simpa using h
    rw [numeral_of_lt hn]
    exact Nat.le_refl 1
  | succ k ih =>
    by_cases hn : n < 10
    · rw [numeral_of_lt hn, List.length_singleton]
      omega
    · rw [numeral_of_le (by omega), List.length_append, List.length_singleton]
      exact Nat.succ_le_succ (ih (by rw [Nat.pow_succ] at h; omega))

/-- A number that fits into a width fills it. -/
theorem length_padded {n k : Nat} (h : n < 10 ^ (k + 1)) : (padded (k + 1) n).length = k + 1 := by
  have := length_numeral_le h
  rw [padded, List.length_append, List.length_replicate]
  omega

theorem padded_ne_nil (width n : Nat) : padded width n ≠ [] :=
  List.append_ne_nil_of_right_ne_nil _ (numeral_ne_nil n)

/-- Two numbers below a hundred, what stands between them and what stands behind come apart again. -/
theorem padded_append_inj {m m' n n' : Nat} {mark : Char} {r r' : List Char}
    (h : padded 2 m ++ mark :: padded 2 n ++ r = padded 2 m' ++ mark :: padded 2 n' ++ r') (hm : m < 100)
    (hm' : m' < 100) (hn : n < 100) (hn' : n' < 100) : m = m' ∧ n = n' ∧ r = r' := by
  rw [List.append_assoc, List.append_assoc] at h
  obtain ⟨hfirst, hrest⟩ := List.append_inj h (by rw [length_padded hm, length_padded hm'])
  rw [List.cons_append, List.cons_append] at hrest
  obtain ⟨hsecond, hend⟩ := List.append_inj (List.cons.inj hrest).2
    (by rw [length_padded hn, length_padded hn'])
  exact ⟨padded_injective hfirst, padded_injective hsecond, hend⟩

/-! ### Blanks -/

theorem skipBlanks_eq_self {s : List Char} (h : ∀ c ∈ s, isBlank c = false) : skipBlanks s = s := by
  cases s with
  | nil => rfl
  | cons c s => exact skipBlanks_cons_of_not_isBlank s (h c List.mem_cons_self)

theorem trim_eq_self {s : List Char} (h : ∀ c ∈ s, isBlank c = false) : trim s = s := by
  have hrev : ∀ c ∈ s.reverse, isBlank c = false := fun c hc => h c (List.mem_reverse.1 hc)
  rw [trim, skipBlanks_eq_self h, skipBlanks_eq_self hrev, List.reverse_reverse]

/-! ### Parts -/

theorem parts_of_notMem {p : Char → Bool} {s : List Char} (h : ∀ c ∈ s, p c = false) : parts p s = [s] := by
  induction s with
  | nil => rfl
  | cons c s ih =>
    obtain ⟨hc, hs⟩ := List.forall_mem_cons.1 h
    simp [parts, ih hs, hc]

theorem parts_append_cons {p : Char → Bool} {s : List Char} {d : Char} (h : ∀ c ∈ s, p c = false) (hd : p d = true)
    (r : List Char) : parts p (s ++ d :: r) = s :: parts p r := by
  obtain ⟨w, ws, hr⟩ := List.exists_cons_of_ne_nil (parts_ne_nil p r)
  induction s with
  | nil => simp [parts, hr, hd]
  | cons c s ih =>
    obtain ⟨hc, hs⟩ := List.forall_mem_cons.1 h
    simp [parts, ih hs, hc]

/-- Parts in which the separator does not stand come apart as they were put together. -/
theorem parts_intercalate {d : Char} {ws : List (List Char)} (hne : ws ≠ []) (h : ∀ w ∈ ws, d ∉ w) :
    parts (· = d) ([d].intercalate ws) = ws := by
  have hfree : ∀ w ∈ ws, ∀ c ∈ w, decide (c = d) = false := by
    intro w hw c hc
    rw [decide_eq_false_iff_not]
    rintro rfl
    exact h w hw hc
  clear h
  induction ws with
  | nil => exact absurd rfl hne
  | cons w ws ih =>
    obtain ⟨hw, hws⟩ := List.forall_mem_cons.1 hfree
    cases ws with
    | nil => rw [List.intercalate_singleton, parts_of_notMem hw]
    | cons v vs =>
      rw [List.intercalate_cons_cons, List.append_assoc, List.singleton_append,
        parts_append_cons hw (decide_eq_true rfl), ih (List.cons_ne_nil v vs) hws]

theorem eq_or_mem_flatten_of_mem_intercalate {c d : Char} {ws : List (List Char)} (h : c ∈ [d].intercalate ws) :
    c = d ∨ c ∈ ws.flatten := by
  induction ws with
  | nil => exact .inr h
  | cons w ws ih =>
    cases ws with
    | nil =>
      rw [List.intercalate_singleton] at h
      exact .inr (by simpa using h)
    | cons v vs =>
      rw [List.intercalate_cons_cons, List.append_assoc, List.singleton_append, List.mem_append,
        List.mem_cons] at h
      rw [List.flatten_cons, List.mem_append]
      rcases h with h | h | h
      · exact .inr (.inl h)
      · exact .inl h
      · exact (ih h).imp_right .inr

end AlarmClock.Text
