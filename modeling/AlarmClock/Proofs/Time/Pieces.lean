import AlarmClock.Proofs.Text.Written
import AlarmClock.Time.Printer
import AlarmClock.Time.Reader

/-! The pieces of written times. A number is read from its digits, with zeros in front of it or without, and a year
from its sign and digits; what stands behind them is left as it is. -/

namespace AlarmClock

open Text

/-! ### Digits -/

/-- Digits come off a text as a whole if the width is their number, or if there is none and no digit follows. -/
theorem splitDigits_append {width : Option Nat} {ds r : List Char} (hds : ∀ c ∈ ds, isDigit c = true)
    (hr : width = some ds.length ∨ width = none ∧ r.takeWhile isDigit = []) :
    splitDigits width (ds ++ r) = (ds, r) := by
  have htake : ((ds ++ r).take (width.getD (ds ++ r).length)).takeWhile isDigit = ds := by
    rcases hr with rfl | ⟨rfl, hr⟩
    · rw [Option.getD_some, List.take_left, ← List.append_nil ds, List.takeWhile_append_of_pos hds, List.takeWhile_nil]
    · rw [Option.getD_none, List.take_length, List.takeWhile_append_of_pos hds, hr, List.append_nil]
  rw [splitDigits, htake, List.drop_left]

theorem readCount_padded {size n : Nat} (hn : n < 2 ^ 63) {width : Option Nat} {r : List Char}
    (hr : width = some (padded size n).length ∨ width = none ∧ r.takeWhile isDigit = []) :
    readCount width (padded size n ++ r) = .ok (n, r) := by
  have hne := padded_ne_nil size n
  rw [readCount, if_neg (List.append_ne_nil_of_left_ne_nil hne r),
    splitDigits_append (fun c hc => isDigit_of_mem_padded hc) hr]
  dsimp only
  rw [if_neg hne, value_padded, if_neg (by omega)]

theorem padded_eq_cons (size n : Nat) : ∃ c s, padded size n = c :: s ∧ isDigit c = true := by
  obtain ⟨c, s, h⟩ := List.exists_cons_of_ne_nil (padded_ne_nil size n)
  exact ⟨c, s, h, isDigit_of_mem_padded (h ▸ List.mem_cons_self)⟩

/-! ### Numbers -/

/-- A number below a hundred is read from its two digits. -/
theorem TimeField.readNumber_padded {f : TimeField} (hf : f ≠ .year) {n : Nat} (hn : n < 100) (r : List Char) :
    f.readNumber (padded 2 n ++ r) = .ok ((n : Int), r) := by
  have hcount : readCount (some 2) (padded 2 n ++ r) = .ok (n, r) :=
    readCount_padded (by omega) (.inl (by rw [length_padded hn]))
  have hskip : skipBlanks (padded 2 n ++ r) = padded 2 n ++ r := by
    obtain ⟨c, s, hcons, hc⟩ := padded_eq_cons 2 n
    rw [hcons]
    exact skipBlanks_cons_of_not_isBlank _ (isBlank_of_isDigit hc)
  unfold readNumber
  rw [hskip]
  split
  · exact absurd rfl hf
  · exact absurd rfl hf
  · exact absurd rfl hf
  · rw [hcount]
    rfl

theorem TimeField.readNumber_year_minus (r : List Char) :
    TimeField.year.readNumber ('-' :: r) = (readCount none r).map fun (n, r) => (-(n : Int), r) := by
  unfold readNumber
  rw [skipBlanks_cons_of_not_isBlank _ (by decide)]
  rfl

theorem TimeField.readNumber_year_plus (r : List Char) :
    TimeField.year.readNumber ('+' :: r) = (readCount none r).map fun (n, r) => ((n : Int), r) := by
  unfold readNumber
  rw [skipBlanks_cons_of_not_isBlank _ (by decide)]
  rfl

/-- Without a sign a year has four digits at most. -/
theorem TimeField.readNumber_year_of_isDigit {d : Char} (hd : isDigit d = true) (r : List Char) :
    TimeField.year.readNumber (d :: r) = (readCount (some 4) (d :: r)).map fun (n, r) => ((n : Int), r) := by
  unfold readNumber
  rw [skipBlanks_cons_of_not_isBlank _ (isBlank_of_isDigit hd)]
  split
  · rename_i heq
    rw [(List.cons.inj heq).1] at hd
    cases hd
  · rename_i heq
    rw [(List.cons.inj heq).1] at hd
    cases hd
  · rfl
  · rename_i hyear _ _
    exact absurd rfl hyear

/-- A year is read from its sign, if it has one, and its digits; a mark behind it keeps them from going on. -/
theorem TimeField.readNumber_yearChars {y : Int} (hy : y.natAbs < 2 ^ 63) {c : Char} (hc : isDigit c = false)
    (r : List Char) : TimeField.year.readNumber (yearChars y ++ c :: r) = .ok (y, c :: r) := by
  have hend : (c :: r).takeWhile isDigit = [] := by rw [List.takeWhile_cons, if_neg (by simp [hc])]
  have hsigned : readCount none (padded 4 y.natAbs ++ c :: r) = .ok (y.natAbs, c :: r) :=
    readCount_padded hy (.inr ⟨rfl, hend⟩)
  rw [yearChars]
  by_cases hfour : 0 ≤ y ∧ y ≤ 9999
  · have hfit : y.toNat < 10 ^ (3 + 1) := by omega
    have hcount : readCount (some 4) (padded 4 y.toNat ++ c :: r) = .ok (y.toNat, c :: r) :=
      readCount_padded (by omega) (.inl (by rw [length_padded hfit]))
    obtain ⟨d, s, hcons, hd⟩ := padded_eq_cons 4 y.toNat
    rw [if_pos hfour]
    rw [hcons, List.cons_append] at hcount ⊢
    rw [readNumber_year_of_isDigit hd, hcount]
    simp only [Except.map, Int.toNat_of_nonneg hfour.1]
  · rw [if_neg hfour, List.cons_append]
    by_cases hneg : y < 0
    · have habs : -(y.natAbs : Int) = y := by omega
      rw [if_pos hneg, readNumber_year_minus, hsigned]
      simp only [Except.map, habs]
    · have habs : (y.natAbs : Int) = y := by omega
      rw [if_neg hneg, readNumber_year_plus, hsigned]
      simp only [Except.map, habs]

/-! ### Pieces -/

theorem readPieces_padded {f : TimeField} (hf : f ≠ .year) {n : Nat} (hn : f.range.1 ≤ n ∧ n ≤ f.range.2)
    (ps : List TimePiece) (fs : TimeFields) (r : List Char) :
    readPieces (.number f :: ps) fs (padded 2 n ++ r) = readPieces ps (fs.set f n) r := by
  have hlt : n < 100 := by
    cases f with
    | year => exact absurd rfl hf
    | month | day | hour | minute | second => simp only [TimeField.range] at hn; omega
  rw [readPieces, TimePiece.read, TimeField.readNumber_padded hf hlt]
  simp only [if_pos hn]

theorem readPieces_yearChars {y : Int} (hy : -2147483648 ≤ y ∧ y ≤ 2147483647) {c : Char} (hc : isDigit c = false)
    (ps : List TimePiece) (fs : TimeFields) (r : List Char) :
    readPieces (.number .year :: ps) fs (yearChars y ++ c :: r) = readPieces ps (fs.set .year y) (c :: r) := by
  rw [readPieces, TimePiece.read, TimeField.readNumber_yearChars (by omega) hc]
  simp only [TimeField.range, hy, and_self, if_true]

theorem readPieces_mark (c : Char) (ps : List TimePiece) (fs : TimeFields) (r : List Char) :
    readPieces (.mark c :: ps) fs (c :: r) = readPieces ps fs r := by
  rw [readPieces, TimePiece.read]
  simp only [if_true]

end AlarmClock
