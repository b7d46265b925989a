import AlarmClock.Decimal.Binary64

/-! JSON values. Whole numbers keep their exact value, the other numbers are
floating point; the fields of an object stand in the order of their keys, each
key once. -/

namespace AlarmClock

inductive Json where
  | null
  | bool (b : Bool)
  | int (n : Int)
  | float (f : Binary64)
  | str (s : String)
  | arr (items : List Json)
  | obj (fields : List (String × Json))

namespace Json

instance : Inhabited Json := ⟨null⟩

/-- The fields with one more at its place in the order of keys; it replaces one of the same key. -/
def insertField (key : String) (v : Json) : List (String × Json) → List (String × Json)
  | [] => [(key, v)]
  | (k, w) :: r =>
    if key < k then (key, v) :: (k, w) :: r
    else if key = k then (key, v) :: r
    else (k, w) :: insertField key v r

/-- The value of a field of an object. -/
def field? (key : String) : Json → Option Json
  | obj fields => fields.lookup key
  | _ => none

end Json

end AlarmClock
