import AlarmClock.Text.CombiningClass
import AlarmClock.Text.Decomposition

/-! The composed form of a text: every character is taken apart, marks are put into
the order of their classes, and what composes is put together again. -/

namespace AlarmClock.Text

/-! ### Syllables of the Korean script, which compose by arithmetic -/

def syllableBase : Nat := 0xAC00
def leadBase : Nat := 0x1100
def vowelBase : Nat := 0x1161
def tailBase : Nat := 0x11A7

/-- The letters of a syllable. -/
def splitSyllable? (code : Nat) : Option (List Nat) :=
  if syllableBase ≤ code ∧ code < syllableBase + 11172 then
    let n := code - syllableBase
    let letters := [leadBase + n / 588, vowelBase + n % 588 / 28]
    some (if n % 28 = 0 then letters else letters ++ [tailBase + n % 28])
  else none

/-- The syllable of two letters, or of a syllable without a tail and one. -/
def joinSyllable? (a b : Nat) : Option Nat :=
  if leadBase ≤ a ∧ a < leadBase + 19 ∧ vowelBase ≤ b ∧ b < vowelBase + 21 then
    some (syllableBase + ((a - leadBase) * 21 + (b - vowelBase)) * 28)
  else if syllableBase ≤ a ∧ a < syllableBase + 11172 ∧ (a - syllableBase) % 28 = 0 ∧ tailBase < b ∧
      b < tailBase + 28 then
    some (a + (b - tailBase))
  else none

/-! ### Taking apart and putting together -/

/-- A code point taken apart, at most `depth` times at its front. -/
def decompose : Nat → Nat → List Nat
  | 0, code => [code]
  | depth + 1, code =>
    match splitSyllable? code with
    | some letters => letters
    | none =>
      match CodeRange.find? compositeRanges code with
      | some r => decompose depth r.value.1 ++ [r.value.2]
      | none =>
        match CodeRange.find? otherDecompositions code with
        | some r => r.value
        | none => [code]

/-- The most times that a character of Unicode comes apart at its front. -/
def decompositionDepth : Nat := 4

/-- A code point put behind a reversed text: a mark goes back past marks of higher classes. -/
def pushOrdered (code : Nat) : List Nat → List Nat
  | [] => [code]
  | d :: r =>
    if 0 < combiningClass code ∧ combiningClass code < combiningClass d then d :: pushOrdered code r
    else code :: d :: r

/-- The composite of two code points. -/
def compose? (a b : Nat) : Option Nat :=
  match joinSyllable? a b with
  | some c => some c
  | none => (composites.find? fun c => c.base = a ∧ c.mark = b).map (·.code)

/-- Composition under way: the text that is finished, in reverse, and the last character that marks attach
to with the marks behind it that did not compose, in reverse. -/
structure Composing where
  done : List Nat := []
  base : Option Nat := none
  marks : List Nat := []

/-- A mark of the same or a higher class, or any mark before a character of class zero, keeps it from the base. -/
def Composing.push (s : Composing) (code : Nat) : Composing :=
  let k := combiningClass code
  match s.base with
  | none => if k = 0 then { s with base := some code } else { s with done := code :: s.done }
  | some b =>
    let blocked := match s.marks with
      | [] => false
      | m :: _ => k ≤ combiningClass m
    match (if blocked then none else compose? b code) with
    | some c => { s with base := some c }
    | none =>
      if k = 0 then ⟨s.marks ++ b :: s.done, some code, []⟩
      else { s with marks := code :: s.marks }

/-- The text of a composition that has come to its end. -/
def Composing.text (s : Composing) : List Nat :=
  match s.base with
  | none => s.done.reverse
  | some b => (s.marks ++ b :: s.done).reverse

/-- The composed form of a text. -/
def composed (s : List Char) : List Char :=
  if s.all (·.toNat < 0x80) then s
  else
    let apart := s.flatMap fun c => decompose decompositionDepth c.toNat
    let ordered := (apart.foldl (fun r c => pushOrdered c r) []).reverse
    ((ordered.foldl Composing.push {}).text).map Char.ofNat

end AlarmClock.Text
