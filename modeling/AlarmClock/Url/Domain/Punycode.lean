/-! Labels of domain names in ASCII: the ASCII characters of a label, and behind them
the places of the others as numbers whose digits have changing weights. -/

namespace AlarmClock.Domain

/-- The digit for a number below 36. -/
def punyDigit (d : Nat) : Char := if d < 26 then Char.ofNat (97 + d) else Char.ofNat (22 + d)

def punyValue? (c : Char) : Option Nat :=
  let n := c.toNat
  if 97 ≤ n ∧ n ≤ 122 then some (n - 97)
  else if 65 ≤ n ∧ n ≤ 90 then some (n - 65)
  else if 48 ≤ n ∧ n ≤ 57 then some (n - 22)
  else none

/-- The least digit that does not end a number, at a place counted in steps of 36. -/
def threshold (place bias : Nat) : Nat :=
  if place ≤ bias then 1 else if bias + 26 ≤ place then 26 else place - bias

theorem threshold_bounds (place bias : Nat) : 1 ≤ threshold place bias ∧ threshold place bias ≤ 26 := by
  unfold threshold
  split
  · omega
  · split <;> omega

/-- The bias for a number that has been scaled down so far. -/
def biasOf (delta places : Nat) : Nat :=
  if 455 < delta then biasOf (delta / 35) (places + 36) else places + 36 * delta / (delta + 38)
termination_by delta
decreasing_by omega

/-- The bias after a number, for a text that now has `length` characters. -/
def nextBias (delta length : Nat) (isFirst : Bool) : Nat :=
  let d := if isFirst then delta / 700 else delta / 2
  biasOf (d + d / length) 0

/-! ### Writing -/

/-- The digits of a number from a place on. -/
def punyNumber (bias place n : Nat) : List Char :=
  let t := threshold place bias
  if n < t then [punyDigit n]
  else punyDigit (t + (n - t) % (36 - t)) :: punyNumber bias (place + 36) ((n - t) / (36 - t))
termination_by n
decreasing_by
  have h := threshold_bounds place bias
  have : (n - threshold place bias) / (36 - threshold place bias) ≤ n - threshold place bias := Nat.div_le_self _ _
  omega

/-- Writing under way: the text, the steps since the last character that was put in, the bias, and the number
of characters put in. -/
structure Encoding where
  out : List Char
  steps : Nat
  bias : Nat
  count : Nat

/-- One character passed while those with code `m` are put in. -/
def Encoding.pass (basic m : Nat) (e : Encoding) (c : Char) : Encoding :=
  if c.toNat < m then { e with steps := e.steps + 1 }
  else if c.toNat = m then
    ⟨e.out ++ punyNumber e.bias 36 e.steps, 0, nextBias e.steps (e.count + 1) (e.count = basic), e.count + 1⟩
  else e

/-- Puts in the characters with the codes of a rising list; all codes below `n` are in. -/
def encodeCodes (label : List Char) (basic : Nat) : List Nat → Nat → Encoding → Encoding
  | [], _, e => e
  | m :: ms, n, e =>
    let e := label.foldl (Encoding.pass basic m) { e with steps := e.steps + (m - n) * (e.count + 1) }
    encodeCodes label basic ms (m + 1) { e with steps := e.steps + 1 }

/-- A label in ASCII. -/
def punyEncode (label : List Char) : List Char :=
  let basic := label.filter (·.toNat < 0x80)
  let codes := ((label.filter (0x80 ≤ ·.toNat)).map Char.toNat).mergeSort.eraseReps
  let e := encodeCodes label basic.length codes 0x80 ⟨[], 0, 72, basic.length⟩
  basic ++ (if basic = [] then [] else ['-']) ++ e.out

/-! ### Reading -/

/-- The number at the front of a text, added to `n`, and the rest. -/
def punyNumber? (bias place weight n : Nat) : List Char → Option (Nat × List Char)
  | [] => none
  | c :: r =>
    match punyValue? c with
    | none => none
    | some d =>
      let t := threshold place bias
      if d < t then some (n + d * weight, r)
      else punyNumber? bias (place + 36) (weight * (36 - t)) (n + d * weight) r

theorem length_of_punyNumber? {bias place weight n : Nat} {s : List Char} {m : Nat} {r : List Char}
    (h : punyNumber? bias place weight n s = some (m, r)) : r.length < s.length := by
  induction s generalizing place weight n with
  | nil => simp [punyNumber?] at h
  | cons c s ih =>
    rw [punyNumber?] at h
    split at h
    · cases h
    · simp only at h
      split at h
      · cases h; simp
      · have := ih h; simp; omega

/-- Puts a character into a text for each number left: `code` is that of the last one, `i` its place. -/
def decodeCodes (bias code i : Nat) (out : List Char) (s : List Char) : Option (List Char) :=
  match s with
  | [] => some out
  | c :: r =>
    match _h : punyNumber? bias 36 1 i (c :: r) with
    | none => none
    | some (n, q) =>
      let length := out.length + 1
      let code := code + n / length
      if Nat.isValidChar code then
        decodeCodes (nextBias (n - i) length (i = 0)) code (n % length + 1)
          (out.insertIdx (n % length) (Char.ofNat code)) q
      else none
termination_by s.length
decreasing_by exact length_of_punyNumber? _h

/-- The label that an ASCII text writes. What stands before the last hyphen are its ASCII characters. -/
def punyDecode? (s : List Char) : Option (List Char) :=
  let tail := (s.reverse.takeWhile (· ≠ '-')).reverse
  let basic := s.take (s.length - tail.length - 1)
  if basic = [] then decodeCodes 72 0x80 0 [] s else decodeCodes 72 0x80 0 basic tail

end AlarmClock.Domain
