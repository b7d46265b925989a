import AlarmClock.Json.Lexeme
import AlarmClock.Json.Value

/-! Reading JSON text. Lists and objects are read item by item with a reader for one
item or one field, so the same loops serve values of any shape and values that
are only skipped. Values that are kept nest at most as deep as asked for. -/

namespace AlarmClock.Json

/-! ### Loops -/

/-- Items behind the first one, up to the closing bracket. An item that takes no text ends the list. -/
def moreItems {α : Type} (item : List Char → Result α) (s : List Char) : Result (List α) :=
  match skipSpace s with
  | [] => failOn .endInList []
  | ']' :: r => .ok ([], r)
  | ',' :: r =>
    match skipSpace r with
    | [] => failOn .endInValue []
    | ']' :: q => failOn .trailingComma (']' :: q)
    | q =>
      match item q with
      | .error f => .error f
      | .ok (a, q) =>
        if _ : q.length < s.length then
          match moreItems item q with
          | .error f => .error f
          | .ok (as, q) => .ok (a :: as, q)
        else failOn .noListEnd q
  | r => failOn .noListEnd r
termination_by s.length

/-- The items of a list behind its opening bracket. -/
def readItems {α : Type} (item : List Char → Result α) (s : List Char) : Result (List α) :=
  match skipSpace s with
  | [] => failOn .endInList []
  | ']' :: r => .ok ([], r)
  | r =>
    match item r with
    | .error f => .error f
    | .ok (a, q) =>
      match moreItems item q with
      | .error f => .error f
      | .ok (as, q) => .ok (a :: as, q)

/-- The rest behind the colon of a field. -/
def readColon (s : List Char) : Except Failure (List Char) :=
  match skipSpace s with
  | [] => failOn .endInObject []
  | ':' :: r => .ok r
  | r => failOn .noColon r

/-- Fields behind the first one, up to the closing brace. A field that takes no text ends the object. -/
def moreFields {σ : Type} (field : σ → String → List Char → Result σ) (st : σ) (s : List Char) : Result σ :=
  match skipSpace s with
  | [] => failOn .endInObject []
  | '\x7d' :: r => .ok (st, r)
  | ',' :: r =>
    match skipSpace r with
    | [] => failOn .endInValue []
    | '\x7d' :: q => failOn .trailingComma ('\x7d' :: q)
    | '"' :: q =>
      match readString q with
      | .error f => .error f
      | .ok (key, q) =>
        match field st key q with
        | .error f => .error f
        | .ok (st, q) => if _ : q.length < s.length then moreFields field st q else failOn .noObjectEnd q
    | q => failOn .keyNotString q
  | r => failOn .noObjectEnd r
termination_by s.length

/-- The fields of an object behind its opening brace, each put into a state from behind its key. -/
def readFields {σ : Type} (field : σ → String → List Char → Result σ) (st : σ) (s : List Char) : Result σ :=
  match skipSpace s with
  | [] => failOn .endInObject []
  | '\x7d' :: r => .ok (st, r)
  | '"' :: r =>
    match readString r with
    | .error f => .error f
    | .ok (key, q) =>
      match field st key q with
      | .error f => .error f
      | .ok (st, q) => moreFields field st q
  | r => failOn .keyNotString r

/-! ### Values -/

def Number.toJson : Number → Json
  | .int n => .int n
  | .float f => .float f

/-- A word behind its first letter, as the value it stands for. -/
def readConstant (word : List Char) (v : Json) (s : List Char) : Result Json :=
  match readWord word s with
  | .error f => .error f
  | .ok r => .ok (v, r)

/-- A number behind its sign, as a value. -/
def readNumberValue (negative : Bool) (s : List Char) : Result Json :=
  match readNumber negative s with
  | .error f => .error f
  | .ok (n, r) => .ok (n.toJson, r)

/-- A value whose lists and objects nest at most `depth` deep. Of fields with the same key the last counts. -/
def readValue (depth : Nat) (s : List Char) : Result Json :=
  match skipSpace s with
  | [] => failOn .endInValue []
  | 'n' :: r => readConstant ['u', 'l', 'l'] .null r
  | 't' :: r => readConstant ['r', 'u', 'e'] (.bool true) r
  | 'f' :: r => readConstant ['a', 'l', 's', 'e'] (.bool false) r
  | '-' :: r => readNumberValue true r
  | '"' :: r =>
    match readString r with
    | .error f => .error f
    | .ok (t, r) => .ok (.str t, r)
  | '[' :: r =>
    match depth with
    | 0 => failOn .tooDeep ('[' :: r)
    | depth + 1 =>
      match readItems (readValue depth) r with
      | .error f => .error f
      | .ok (vs, r) => .ok (.arr vs, r)
  | '\x7b' :: r =>
    match depth with
    | 0 => failOn .tooDeep ('\x7b' :: r)
    | depth + 1 =>
      let field := fun fields key s =>
        match readColon s with
        | .error f => .error f
        | .ok r =>
          match readValue depth r with
          | .error f => .error f
          | .ok (v, r) => .ok (insertField key v fields, r)
      match readFields field [] r with
      | .error f => .error f
      | .ok (fields, r) => .ok (.obj fields, r)
  | c :: r => if Text.isDigit c then readNumberValue false (c :: r) else failOn .noValue (c :: r)

/-- A text has ended but for blanks. -/
def readEnd (s : List Char) : Except Failure Unit :=
  match skipSpace s with
  | [] => .ok ()
  | r => failOn .trailingCharacters r

/-- A whole text as one value, nested at most 127 deep. -/
def read (text : String) : Except Failure Json :=
  match readValue 127 text.toList with
  | .error f => .error f
  | .ok (v, r) =>
    match readEnd r with
    | .error f => .error f
    | .ok _ => .ok v

/-! ### Values that nobody looks at -/

/-- What is due next in a value that is skipped. -/
inductive Due where
  | value | key | separator
  deriving DecidableEq

/-- One step through a value that is skipped, within the brackets that are open. -/
def skipStep (due : Due) (brackets : List Char) (s : List Char) : Except Failure (Due × List Char × List Char) :=
  match due with
  | .value =>
    match skipSpace s with
    | [] => failOn .endInValue []
    | 'n' :: r => (readWord ['u', 'l', 'l'] r).map fun r => (.separator, brackets, r)
    | 't' :: r => (readWord ['r', 'u', 'e'] r).map fun r => (.separator, brackets, r)
    | 'f' :: r => (readWord ['a', 'l', 's', 'e'] r).map fun r => (.separator, brackets, r)
    | '-' :: r => (skipNumber r).map fun r => (.separator, brackets, r)
    | '"' :: r => (skipString r).map fun r => (.separator, brackets, r)
    | '[' :: r =>
      match skipSpace r with
      | [] => failOn .endInList []
      | ']' :: q => .ok (.separator, brackets, q)
      | q => .ok (.value, '[' :: brackets, q)
    | '\x7b' :: r =>
      match skipSpace r with
      | [] => failOn .endInObject []
      | '\x7d' :: q => .ok (.separator, brackets, q)
      | q => .ok (.key, '\x7b' :: brackets, q)
    | c :: r =>
      if Text.isDigit c then (skipNumber (c :: r)).map fun r => (.separator, brackets, r)
      else failOn .noValue (c :: r)
  | .key =>
    match skipSpace s with
    | [] => failOn .endInObject []
    | '"' :: r =>
      match skipString r with
      | .error f => .error f
      | .ok r => (readColon r).map fun r => (.value, brackets, r)
    | r => failOn .keyNotString r
  | .separator =>
    match brackets, skipSpace s with
    | '[' :: _, [] => failOn .endInList []
    | _, [] => failOn .endInObject []
    | '[' :: _, ',' :: r => .ok (.value, brackets, r)
    | _, ',' :: r => .ok (.key, brackets, r)
    | '[' :: outer, ']' :: r => .ok (.separator, outer, r)
    | '[' :: _, r => failOn .noListEnd r
    | _ :: outer, '\x7d' :: r => .ok (.separator, outer, r)
    | _, r => failOn .noObjectEnd r

/-- The rest behind what is due and all brackets that are open. A step that takes no text ends it. -/
def skipFrom (due : Due) (brackets : List Char) (s : List Char) : Except Failure (List Char) :=
  if due = .separator ∧ brackets = [] then .ok s
  else
    match skipStep due brackets s with
    | .error f => .error f
    | .ok (due, brackets, r) => if _ : r.length < s.length then skipFrom due brackets r else .ok r
termination_by s.length

/-- The rest behind a value, however deep it nests and however large its numbers are. -/
def skipValue (s : List Char) : Except Failure (List Char) := skipFrom .value [] s

/-! ### Values of an expected shape -/

/-- A value that stands where another one is expected. Lists and objects are not read. -/
def readMismatch {α : Type} (expected : String) (s : List Char) : Except Failure α :=
  let wrong (found : Found) (rest : List Char) : Except Failure α :=
    failAt (.shape (.wrongType found expected)) rest
  let number (negative : Bool) (r : List Char) : Except Failure α :=
    match readNumber negative r with
    | .error f => .error f
    | .ok (.int n, r) => wrong (.int n) r
    | .ok (.float x, r) => wrong (.float x) r
  let word (letters : List Char) (found : Found) (r : List Char) : Except Failure α :=
    match readWord letters r with
    | .error f => .error f
    | .ok r => wrong found r
  match s with
  | 'n' :: r => word ['u', 'l', 'l'] .null r
  | 't' :: r => word ['r', 'u', 'e'] (.bool true) r
  | 'f' :: r => word ['a', 'l', 's', 'e'] (.bool false) r
  | '-' :: r => number true r
  | '"' :: r =>
    match readString r with
    | .error f => .error f
    | .ok (t, r) => wrong (.str t) r
  | '[' :: r => wrong .sequence ('[' :: r)
  | '\x7b' :: r => wrong .map ('\x7b' :: r)
  | c :: r => if Text.isDigit c then number false (c :: r) else failOn .noValue (c :: r)
  | [] => failOn .noValue []

/-- A whole number of 64 bits with a sign. -/
def readInt64 (s : List Char) : Result Int :=
  let number (negative : Bool) (r : List Char) : Result Int :=
    match readNumber negative r with
    | .error f => .error f
    | .ok (.int n, r) =>
      if n < 2 ^ 63 then .ok (n, r) else failAt (.shape (.wrongValue (.int n) "i64")) r
    | .ok (.float x, r) => failAt (.shape (.wrongType (.float x) "i64")) r
  match skipSpace s with
  | [] => failOn .endInValue []
  | '-' :: r => number true r
  | c :: r => if Text.isDigit c then number false (c :: r) else readMismatch "i64" (c :: r)

/-- A list of values that nest at most `depth` deep. -/
def readValues (depth : Nat) (s : List Char) : Result (List Json) :=
  match skipSpace s with
  | [] => failOn .endInValue []
  | '[' :: r => readItems (readValue depth) r
  | r => readMismatch "a sequence" r

end AlarmClock.Json
