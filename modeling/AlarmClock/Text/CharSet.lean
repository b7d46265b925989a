/-! Sets of characters as ranges of code points in rising order that do not touch. -/

namespace AlarmClock.Text

structure CharSet where
  ranges : List (Nat × Nat)
  deriving DecidableEq, Repr

namespace CharSet

/-- Whether a range holds a code point. -/
def within (n : Nat) (r : Nat × Nat) : Bool := r.1 ≤ n && n ≤ r.2

def contains (s : CharSet) (c : Char) : Bool := s.ranges.any (within c.toNat)

/-- Ranges in rising order, those that overlap or touch made one. -/
def joined : List (Nat × Nat) → List (Nat × Nat)
  | a :: b :: r =>
    if b.1 ≤ a.2 + 1 then joined ((a.1, max a.2 b.2) :: r) else a :: joined (b :: r)
  | rs => rs
termination_by rs => rs.length

def ofRanges (rs : List (Nat × Nat)) : CharSet := ⟨joined (rs.mergeSort fun a b => a.1 ≤ b.1)⟩

def single (c : Char) : CharSet := ⟨[(c.toNat, c.toNat)]⟩

def isEmpty (s : CharSet) : Bool := s.ranges.isEmpty

/-- Whether no member is above a code point. -/
def isUpTo (s : CharSet) (top : Nat) : Bool := s.ranges.all (·.2 ≤ top)

def union (s t : CharSet) : CharSet := ofRanges (s.ranges ++ t.ranges)

def meet (s t : CharSet) : CharSet :=
  ofRanges ((s.ranges.flatMap fun a => t.ranges.map fun b => (max a.1 b.1, min a.2 b.2)).filter fun r => r.1 ≤ r.2)

/-- The ranges between rising ranges, from a code point up to the top. -/
def gaps (top start : Nat) : List (Nat × Nat) → List (Nat × Nat)
  | [] => if start ≤ top then [(start, top)] else []
  | a :: r => (if start < a.1 then [(start, a.1 - 1)] else []) ++ gaps top (a.2 + 1) r

/-- What a set leaves out of the code points up to the top. -/
def complement (top : Nat) (s : CharSet) : CharSet := ⟨gaps top 0 s.ranges⟩

def minus (top : Nat) (s t : CharSet) : CharSet := s.meet (t.complement top)

/-- What is in one of the sets but not in both. -/
def either (top : Nat) (s t : CharSet) : CharSet := (s.minus top t).union (t.minus top s)

/-- The set with both cases of its ASCII letters. -/
def withAsciiCases (s : CharSet) : CharSet :=
  let upper := (s.meet ⟨[(65, 90)]⟩).ranges.map fun r => (r.1 + 32, r.2 + 32)
  let lower := (s.meet ⟨[(97, 122)]⟩).ranges.map fun r => (r.1 - 32, r.2 - 32)
  ofRanges (s.ranges ++ upper ++ lower)

end CharSet

end AlarmClock.Text
