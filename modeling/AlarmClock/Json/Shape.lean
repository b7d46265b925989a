import AlarmClock.Json.Failure
import AlarmClock.Json.Value

/-! Values of an expected kind. Where another kind stands, the failure names both. -/

namespace AlarmClock.Json

/-- What a value looks like from outside. -/
def found : Json → Found
  | .null => .null
  | .bool b => .bool b
  | .int n => .int n
  | .float f => .float f
  | .str s => .str s
  | .arr _ => .sequence
  | .obj _ => .map

def string (v : Json) : Except ShapeError String :=
  match v with
  | .str s => .ok s
  | v => .error (.wrongType v.found "a string")

def boolean (v : Json) : Except ShapeError Bool :=
  match v with
  | .bool b => .ok b
  | v => .error (.wrongType v.found "a boolean")

/-- A whole number of 64 bits with a sign, or nothing. -/
def int64? (v : Json) : Except ShapeError (Option Int) :=
  match v with
  | .null => .ok none
  | .int n => if n < 2 ^ 63 then .ok (some n) else .error (.wrongValue (.int n) "i64")
  | v => .error (.wrongType v.found "i64")

end AlarmClock.Json
