/-! Blank characters, and texts with the blanks at both ends removed. Main
statement: a text whose first and last characters are not blank survives
trimming, whatever blanks stand around it. -/

namespace AlarmClock.Text

/-- The characters with the Unicode property White_Space. -/
def isBlank (c : Char) : Bool :=
  let n := c.toNat
  (9 ≤ n && n ≤ 13) || n == 0x20 || n == 0x85 || n == 0xA0 || n == 0x1680 || (0x2000 ≤ n && n ≤ 0x200A) ||
    n == 0x2028 || n == 0x2029 || n == 0x202F || n == 0x205F || n == 0x3000

/-- The text from its first character that is not blank. -/
def skipBlanks (s : List Char) : List Char := s.dropWhile isBlank

/-- The text without the blanks at its two ends. -/
def trim (s : List Char) : List Char := (skipBlanks (skipBlanks s).reverse).reverse

theorem skipBlanks_cons_of_not_isBlank {c : Char} (s : List Char) (h : isBlank c = false) :
    skipBlanks (c :: s) = c :: s := by
  simp [skipBlanks, h]

theorem skipBlanks_append {b : List Char} (s : List Char) (hb : ∀ c ∈ b, isBlank c = true) :
    skipBlanks (b ++ s) = skipBlanks s := by
  induction b with
  | nil => rfl
  | cons c r ih =>
    have hc := hb c (by simp)
    have hr := ih (fun d hd => hb d (by simp [hd]))
    simpa [skipBlanks, hc] using hr

theorem length_skipBlanks_le (s : List Char) : (skipBlanks s).length ≤ s.length :=
  (List.dropWhile_suffix _).length_le

/-- Blanks around a text that neither starts nor ends with one are what trimming removes. -/
theorem trim_append {b s e : List Char} (hb : ∀ c ∈ b, isBlank c = true) (he : ∀ c ∈ e, isBlank c = true)
    (hs : skipBlanks s = s) (hr : skipBlanks s.reverse = s.reverse) : trim (b ++ s ++ e) = s := by
  have hrev : ∀ c ∈ e.reverse, isBlank c = true := fun c hc => he c (by simpa using hc)
  cases s with
  | nil =>
    have hall : skipBlanks (b ++ [] ++ e) = [] := by
      rw [List.append_nil, skipBlanks_append e hb, ← List.append_nil e, skipBlanks_append [] he]; rfl
    rw [trim, hall]; rfl
  | cons c r =>
    have hfirst : skipBlanks (b ++ (c :: r) ++ e) = c :: r ++ e := by
      have hc : isBlank c = false := by
        cases hc : isBlank c with
        | false => rfl
        | true =>
          have := congrArg List.length hs
          have hle := length_skipBlanks_le r
          simp only [skipBlanks, List.dropWhile_cons, hc, if_true, List.length_cons] at this
          simp only [skipBlanks] at hle
          omega
      rw [List.append_assoc, skipBlanks_append _ hb]
      exact skipBlanks_cons_of_not_isBlank _ hc
    rw [trim, hfirst, List.reverse_append, skipBlanks_append _ hrev, hr, List.reverse_reverse]

end AlarmClock.Text
