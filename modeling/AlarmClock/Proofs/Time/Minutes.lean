import AlarmClock.Proofs.Time.Pieces
import AlarmClock.Time.Span

/-! Minutes. A minute of the day is read from its written form. The whole minutes of a span
give its part in minutes, which is the span itself for a number of minutes and no other. -/

namespace AlarmClock

open Text

/-! ### Minutes of the day -/

/-- A minute of the day is read from its written form. -/
theorem DayMinute.read_chars (m : DayMinute) : DayMinute.read (String.ofList m.chars) = .ok m := by
  have hindex := m.index_lt
  have hhour : m.hour < 24 := by rw [hour]; omega
  have hminute : m.minute < 60 := by rw [minute]; omega
  have htrim : trim m.chars = m.chars := by
    refine trim_eq_self fun c hc => ?_
    rcases List.mem_append.1 hc with hc | hc
    · exact isBlank_of_isDigit (isDigit_of_mem_padded hc)
    · rcases List.mem_cons.1 hc with rfl | hc
      · decide
      · exact isBlank_of_isDigit (isDigit_of_mem_padded hc)
  have hread : readPieces minutePieces {} m.chars = .ok { hour := m.hour, minute := m.minute } := by
    have hh := readPieces_padded (f := .hour) (by decide) (n := m.hour) (by simp only [TimeField.range]; omega)
    have hm := readPieces_padded (f := .minute) (by decide) (n := m.minute) (by simp only [TimeField.range]; omega)
    rw [minutePieces, chars, hh, readPieces_mark, ← List.append_nil (padded 2 m.minute), hm]
    rfl
  have hsum : m.hour * 60 + m.minute = m.index := by
    rw [hour, minute]
    omega
  rw [DayMinute.read, String.toList_ofList, htrim, hread]
  simp only [hhour, hminute, and_self, dif_pos, hsum]

/-! ### Spans of minutes -/

/-- Division towards zero, by the sign of what is divided. -/
theorem tdiv_cases (n d : Int) : (0 ≤ n ∧ n.tdiv d = n / d) ∨ (n ≤ 0 ∧ n.tdiv d = -(-n / d)) := by
  rcases Int.le_total 0 n with h | h
  · exact .inl ⟨h, Int.tdiv_eq_ediv_of_nonneg h⟩
  · refine .inr ⟨h, ?_⟩
    rw [← Int.tdiv_eq_ediv_of_nonneg (by omega), Int.neg_tdiv, Int.neg_neg]

namespace Span

/-- A positive number of whole minutes. -/
def IsMinutes (s : Span) : Prop := ∃ n : Int, 0 < n ∧ s.nanos = n * 60000000000

theorem wholeMinutes_of_nanos_eq {s : Span} {n : Int} (h : s.nanos = n * 60000000000) : s.wholeMinutes = n := by
  rw [wholeMinutes, h, Int.mul_tdiv_cancel _ (by decide)]

theorem ofMinutes?_eq_some {n : Int} {s : Span} : ofMinutes? n = some s ↔ s.nanos = n * 60000000000 := by
  unfold ofMinutes? ofNanos?
  constructor
  · intro h
    split at h
    · cases h; rfl
    · cases h
  · intro h
    rw [dif_pos ⟨h ▸ s.lower, h ▸ s.upper⟩]
    exact congrArg some (ext_nanos h.symm)

theorem IsMinutes.wholeMinutes_pos {s : Span} (h : s.IsMinutes) : 0 < s.wholeMinutes := by
  obtain ⟨n, hn, hs⟩ := h
  rwa [wholeMinutes_of_nanos_eq hs]

theorem IsMinutes.ofMinutes?_wholeMinutes {s : Span} (h : s.IsMinutes) : ofMinutes? s.wholeMinutes = some s := by
  obtain ⟨n, hn, hs⟩ := h
  rw [wholeMinutes_of_nanos_eq hs, ofMinutes?_eq_some, hs]

theorem isMinutes_of_ofMinutes? {n : Int} {s : Span} (hn : 0 < n) (h : ofMinutes? n = some s) : s.IsMinutes :=
  ⟨n, hn, ofMinutes?_eq_some.1 h⟩

theorem wholeMinutes_bounds (s : Span) : -2 ^ 63 ≤ s.wholeMinutes ∧ s.wholeMinutes < 2 ^ 63 := by
  have hlow := s.lower
  have hhigh := s.upper
  have habs : s.wholeMinutes.natAbs = s.nanos.natAbs / 60000000000 := Int.natAbs_tdiv _ _
  unfold spanLimit at hlow hhigh
  omega

theorem wholeMinutes_cases (s : Span) :
    (0 ≤ s.nanos ∧ s.wholeMinutes = s.nanos / 60000000000) ∨
      (s.nanos ≤ 0 ∧ s.wholeMinutes = -(-s.nanos / 60000000000)) := tdiv_cases s.nanos 60000000000

theorem wholeMinutes_within (s : Span) :
    -spanLimit ≤ s.wholeMinutes * 60000000000 ∧ s.wholeMinutes * 60000000000 ≤ spanLimit := by
  have hlow := s.lower
  have hhigh := s.upper
  unfold spanLimit at hlow hhigh ⊢
  rcases s.wholeMinutes_cases with ⟨hsign, h⟩ | ⟨hsign, h⟩ <;> omega

/-- The whole minutes of a span, as a span. -/
def cutToMinutes (s : Span) : Span := ⟨s.wholeMinutes * 60000000000, s.wholeMinutes_within.1, s.wholeMinutes_within.2⟩

theorem ofMinutes?_wholeMinutes (s : Span) : ofMinutes? s.wholeMinutes = some s.cutToMinutes :=
  ofMinutes?_eq_some.2 rfl

theorem wholeMinutes_pos_iff {s : Span} : 0 < s.wholeMinutes ↔ minutes 1 (by decide) ≤ s := by
  change _ ↔ (1 : Int) * 60000000000 ≤ s.nanos
  rcases s.wholeMinutes_cases with ⟨hsign, h⟩ | ⟨hsign, h⟩ <;> omega

theorem cutToMinutes_eq_self_iff {s : Span} (hs : minutes 1 (by decide) ≤ s) : s.cutToMinutes = s ↔ s.IsMinutes := by
  constructor
  · intro h
    exact ⟨s.wholeMinutes, wholeMinutes_pos_iff.2 hs, congrArg nanos h.symm⟩
  · rintro ⟨n, hn, h⟩
    exact ext_nanos ((congrArg (· * 60000000000) (wholeMinutes_of_nanos_eq h)).trans h.symm)

end Span

end AlarmClock
