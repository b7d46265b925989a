import AlarmClock.Power

/-! Numbers of 64-bit binary floating point as exact products of a significand and
a power of two. Products and quotients are rounded to the nearest such number,
halves to the even significand. -/

namespace AlarmClock

/-- A finite number that is not negative: `significand * 2 ^ exponent`, with a significand below 2^53 that
is at least 2^52 unless the exponent is the least one, -1074. -/
structure Magnitude where
  significand : Nat
  exponent : Int
  deriving DecidableEq, Repr

/-- A finite number with a sign; zero has two. -/
structure Binary64 where
  negative : Bool
  magnitude : Magnitude
  deriving DecidableEq, Repr

namespace Magnitude

def zero : Magnitude := ⟨0, -1074⟩

instance : Inhabited Magnitude := ⟨zero⟩

/-- The quotient of two naturals rounded to the nearest natural, halves to the even one. -/
def nearestQuotient (num den : Nat) : Nat :=
  let q := num / den
  let r := num % den
  if 2 * r < den then q else if den < 2 * r then q + 1 else q + q % 2

/-- The nearest number to `num / den`, unless that is too large. -/
def ofRatio? (num den : Nat) : Option Magnitude :=
  if num = 0 ∨ den = 0 then some zero
  else
    let guess : Int := (num.log2 : Int) - den.log2 - 52
    let exact : Int := if num * 2 ^ (-guess).toNat < 2 ^ 52 * (den * 2 ^ guess.toNat) then guess - 1 else guess
    let e : Int := if exact < -1074 then -1074 else exact
    let m := nearestQuotient (num * 2 ^ (-e).toNat) (den * 2 ^ e.toNat)
    let (m, e) := if m = 2 ^ 53 then (2 ^ 52, e + 1) else (m, e)
    if 971 < e then none else some ⟨m, e⟩

/-- The product rounded to the nearest number. -/
def mul? (a b : Magnitude) : Option Magnitude :=
  let e := a.exponent + b.exponent
  ofRatio? (a.significand * b.significand * 2 ^ e.toNat) (2 ^ (-e).toNat)

/-- The quotient rounded to the nearest number. -/
def div? (a b : Magnitude) : Option Magnitude :=
  let e := a.exponent - b.exponent
  ofRatio? (a.significand * 2 ^ e.toNat) (b.significand * 2 ^ (-e).toNat)

/-- The nearest number to a power of ten. -/
def powerOfTen? (k : Nat) : Option Magnitude := ofRatio? (10 ^ k) 1

/-- A number scaled by `10 ^ k`: one rounded product or quotient moves at most `step` places, and more
places to the right take several quotients. Nothing where the result is too large. -/
def scaleBy? (step : Nat) (h : 0 < step) (a : Magnitude) (k : Int) : Option Magnitude :=
  if k.natAbs ≤ step then
    (powerOfTen? k.natAbs).bind fun p => if 0 ≤ k then a.mul? p else a.div? p
  else if a.significand = 0 then some a
  else if 0 ≤ k then none
  else
    match (powerOfTen? step).bind a.div? with
    | none => none
    | some b => scaleBy? step h b (k + step)
termination_by k.natAbs

/-- A number scaled by a power of ten, up to 308 places at a time. -/
def scale? (a : Magnitude) (k : Int) : Option Magnitude := scaleBy? 308 (by decide) a k

end Magnitude

end AlarmClock
