import AlarmClock.Json.Failure

/-! The indivisible parts of JSON text: blanks, words, strings and numbers. Each
reader takes its part from the front of a text and gives the rest. -/

namespace AlarmClock.Json

open Text

def isSpace (c : Char) : Bool := c = ' ' || c = '\n' || c = '\t' || c = '\r'

/-- The text behind the blanks at its front. -/
def skipSpace (s : List Char) : List Char := s.dropWhile isSpace

/-- The rest behind the letters of a word. -/
def readWord : List Char → List Char → Except Failure (List Char)
  | [], s => .ok s
  | _ :: _, [] => failAt .endInValue []
  | c :: w, d :: s => if c = d then readWord w s else failOn .noWord (d :: s)

/-! ### Strings -/

/-- The number of four hexadecimal digits. -/
def readHex (s : List Char) : Result Nat :=
  let bad : Result Nat := if 4 ≤ byteLength s then .error ⟨.badEscape, s, 4⟩ else failAt .endInString []
  match s with
  | a :: b :: c :: d :: r =>
    match hexValue? a, hexValue? b, hexValue? c, hexValue? d with
    | some a, some b, some c, some d => .ok (((a * 16 + b) * 16 + c) * 16 + d, r)
    | _, _, _, _ => bad
  | _ => bad

/-- The character of a code in four hexadecimal digits; the two halves of a surrogate pair make one character. -/
def readCode (s : List Char) : Result Char :=
  match readHex s with
  | .error f => .error f
  | .ok (n, r) =>
    if 0xDC00 ≤ n ∧ n ≤ 0xDFFF then failAt .loneSurrogate r
    else if n < 0xD800 ∨ 0xDBFF < n then .ok (Char.ofNat n, r)
    else
      match r with
      | [] => failAt .endInString []
      | '\\' :: [] => failAt .endInString []
      | '\\' :: 'u' :: r =>
        match readHex r with
        | .error f => .error f
        | .ok (m, r) =>
          if m < 0xDC00 ∨ 0xDFFF < m then failAt .loneSurrogate r
          else .ok (Char.ofNat (0x10000 + (n - 0xD800) * 0x400 + (m - 0xDC00)), r)
      | '\\' :: r => failOn .hexEscapeEnd r
      | r => failOn .hexEscapeEnd r

/-- The character behind a backslash. -/
def readEscape : List Char → Result Char
  | [] => failAt .endInString []
  | '"' :: r => .ok ('"', r)
  | '\\' :: r => .ok ('\\', r)
  | '/' :: r => .ok ('/', r)
  | 'b' :: r => .ok (Char.ofNat 8, r)
  | 'f' :: r => .ok (Char.ofNat 12, r)
  | 'n' :: r => .ok ('\n', r)
  | 'r' :: r => .ok ('\r', r)
  | 't' :: r => .ok ('\t', r)
  | 'u' :: r => readCode r
  | r => failOn .badEscape r

/-- The characters of a string up to its closing quote. An escape that takes no text ends it. -/
def readChars (s : List Char) : Result (List Char) :=
  match s with
  | [] => failAt .endInString []
  | '"' :: r => .ok ([], r)
  | '\\' :: r =>
    match readEscape r with
    | .error f => .error f
    | .ok (c, q) =>
      if _ : q.length < r.length then
        match readChars q with
        | .error f => .error f
        | .ok (cs, q) => .ok (c :: cs, q)
      else failAt .endInString q
  | c :: r =>
    if c.toNat < 32 then failOn .controlCharacter (c :: r)
    else
      match readChars r with
      | .error f => .error f
      | .ok (cs, q) => .ok (c :: cs, q)
termination_by s.length

/-- A string behind its opening quote. -/
def readString (s : List Char) : Result String :=
  match readChars s with
  | .error f => .error f
  | .ok (cs, r) => .ok (String.ofList cs, r)

/-- The rest behind an escape that nobody looks at: any four hexadecimal digits will do. -/
def skipEscape : List Char → Except Failure (List Char)
  | [] => failAt .endInString []
  | 'u' :: r =>
    match readHex r with
    | .error f => .error f
    | .ok (_, r) => .ok r
  | c :: r => if c ∈ ['"', '\\', '/', 'b', 'f', 'n', 'r', 't'] then .ok r else failOn .badEscape (c :: r)

/-- The rest behind the closing quote of a string that nobody looks at. -/
def skipString (s : List Char) : Except Failure (List Char) :=
  match s with
  | [] => failAt .endInString []
  | '"' :: r => .ok r
  | '\\' :: r =>
    match skipEscape r with
    | .error f => .error f
    | .ok q => if _ : q.length < r.length then skipString q else failAt .endInString q
  | c :: r => if c.toNat < 32 then failAt .controlCharacter (c :: r) else skipString r
termination_by s.length

/-! ### Numbers -/

/-- A number: a whole one that fits 64 bits is exact. -/
inductive Number where
  | int (n : Int)
  | float (f : Binary64)

/-- Digits put behind a number below 2^64 as long as it stays so, and how many were put there. -/
def pushDigits (n : Nat) : List Char → Nat × Nat
  | [] => (n, 0)
  | c :: r =>
    let m := n * 10 + digitValue c
    if 2 ^ 64 ≤ m then (n, 0)
    else
      let (k, used) := pushDigits m r
      (k, used + 1)

/-- The number `n * 10 ^ e` with a sign, in front of the rest. -/
def scaled (negative : Bool) (n : Nat) (e : Int) (rest : List Char) : Result Number :=
  match (Magnitude.ofRatio? n 1).bind (·.scale? e) with
  | none => failAt .numberTooLarge rest
  | some m => .ok (.float ⟨negative, m⟩, rest)

/-- The digits of an exponent up to the one that takes it past 31 bits, the exponent, and the rest. -/
def exponentDigits (n : Nat) : List Char → Nat × List Char
  | [] => (n, [])
  | c :: r =>
    if isDigit c then
      let m := n * 10 + digitValue c
      if 2 ^ 31 ≤ m then (m, r) else exponentDigits m r
    else (n, c :: r)

/-- The exponent behind an `e`, added to the places of the number in front of it. -/
def readExponent (negative : Bool) (n : Nat) (places : Int) (s : List Char) : Result Number :=
  let (down, s) := match s with
    | '+' :: r => (false, r)
    | '-' :: r => (true, r)
    | r => (false, r)
  match s with
  | [] => failAt .endInValue []
  | c :: _ =>
    if isDigit c then
      let (e, r) := exponentDigits 0 s
      if 2 ^ 31 ≤ e then
        if n ≠ 0 ∧ !down then failAt .numberTooLarge r
        else .ok (.float ⟨negative, .zero⟩, r.dropWhile isDigit)
      else scaled negative n (if down then places - e else places + e) r
    else failOn .badNumber s

/-- The rest of a number behind its point. -/
def readFraction (negative : Bool) (n : Nat) (places : Int) (s : List Char) : Result Number :=
  let digits := s.takeWhile isDigit
  let rest := s.dropWhile isDigit
  if digits = [] then failOn (if rest = [] then .endInValue else .badNumber) rest
  else
    let (n, used) := pushDigits n digits
    match rest with
    | 'e' :: r => readExponent negative n (places - used) r
    | 'E' :: r => readExponent negative n (places - used) r
    | r => scaled negative n (places - used) r

/-- A number behind its sign. -/
def readNumber (negative : Bool) (s : List Char) : Result Number :=
  let digits := s.takeWhile isDigit
  let rest := s.dropWhile isDigit
  match s with
  | [] => failAt .endInValue []
  | c :: r =>
    if c = '0' ∧ digits ≠ ['0'] then failOn .badNumber r
    else if digits = [] then failOn .badNumber s
    else
      let (n, used) := pushDigits 0 digits
      let places : Int := digits.length - used
      match rest with
      | '.' :: r => readFraction negative n places r
      | 'e' :: r => readExponent negative n places r
      | 'E' :: r => readExponent negative n places r
      | r =>
        if places = 0 ∧ !negative then .ok (.int n, r)
        else if places = 0 ∧ n ≠ 0 ∧ n ≤ 2 ^ 63 then .ok (.int (-n), r)
        else scaled negative n places r

/-- The rest behind the exponent of a number that nobody looks at. -/
def skipExponent (s : List Char) : Except Failure (List Char) :=
  let s := match s with
    | '+' :: r => r
    | '-' :: r => r
    | r => r
  match s with
  | [] => failAt .badNumber []
  | c :: r => if isDigit c then .ok (r.dropWhile isDigit) else failOn .badNumber (c :: r)

/-- The rest behind a number that nobody looks at, from behind its sign. -/
def skipNumber (s : List Char) : Except Failure (List Char) :=
  let digits := s.takeWhile isDigit
  let rest := s.dropWhile isDigit
  match s with
  | [] => failAt .badNumber []
  | c :: r =>
    if c = '0' ∧ digits ≠ ['0'] then failOn .badNumber r
    else if digits = [] then failOn .badNumber s
    else
      match rest with
      | 'e' :: r => skipExponent r
      | 'E' :: r => skipExponent r
      | '.' :: r =>
        if r.takeWhile isDigit = [] then failOn .badNumber r
        else
          match r.dropWhile isDigit with
          | 'e' :: r => skipExponent r
          | 'E' :: r => skipExponent r
          | r => .ok r
      | r => .ok r

end AlarmClock.Json
