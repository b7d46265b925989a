import AlarmClock.Url.Basic
import AlarmClock.Url.Domain.Name
import AlarmClock.Url.Path

/-! Reading addresses. Seven things can be wrong with a text; whatever else stands in it
is encoded or mapped. The well-known schemes read backslashes as slashes and need a
host, except for files, which do without. -/

namespace AlarmClock

open Text

/-- Why a text is not an address. -/
inductive UrlError where
  | emptyHost | badDomain | badPort | badFourNumbers | badEightNumbers | badHostCharacter | noScheme
  deriving DecidableEq, Repr

def UrlError.message : UrlError → String
  | emptyHost => "empty host"
  | badDomain => "invalid international domain name"
  | badPort => "invalid port number"
  | badFourNumbers => "invalid IPv4 address"
  | badEightNumbers => "invalid IPv6 address"
  | badHostCharacter => "invalid domain character"
  | noScheme => "relative URL without a base"

namespace Url

/-! ### Schemes -/

/-- What a scheme says about the rest of an address. -/
inductive SchemeKind where
  | file
  | wellKnown (port : Nat)
  | other
  deriving DecidableEq, Repr

def SchemeKind.isSpecial : SchemeKind → Bool
  | other => false
  | _ => true

def SchemeKind.port? : SchemeKind → Option Nat
  | wellKnown n => some n
  | _ => none

def schemeKind (scheme : List Char) : SchemeKind :=
  if scheme = "file".toList then .file
  else if scheme = "http".toList ∨ scheme = "ws".toList then .wellKnown 80
  else if scheme = "https".toList ∨ scheme = "wss".toList then .wellKnown 443
  else if scheme = "ftp".toList then .wellKnown 21
  else .other

def inScheme (c : Char) : Bool := isLetter c || isDigit c || c = '+' || c = '-' || c = '.'

/-- The scheme in lower case, and the text behind its colon. -/
def readScheme? (s : List Char) : Option (List Char × List Char) :=
  let counts (c : Char) : Bool := inScheme c || isBreak c
  match unbroken (s.takeWhile counts), s.dropWhile counts with
  | c :: cs, ':' :: r => if isLetter c then some ((c :: cs).map Char.toLower, r) else none
  | _, _ => none

/-! ### Hosts -/

/-- An address of eight numbers behind its opening bracket. -/
def readBracketed (s : List Char) : Except UrlError Host :=
  match s.getLast?, readEight? s.dropLast with
  | some ']', some ns => .ok (.eight ns)
  | _, _ => .error .badEightNumbers

/-- The host of a well-known scheme: a domain name, which may be the spelling of an address. -/
def readSpecialHost (s : List Char) : Except UrlError Host :=
  match s with
  | '[' :: r => readBracketed r
  | s =>
    match (readUtf8? (decodeBytes s)).bind Domain.toAscii? with
    | none => .error .badDomain
    | some [] => .error .emptyHost
    | some name =>
      if endsInNumber name then
        match readFour? name with
        | none => .error .badFourNumbers
        | some n => .ok (.four n)
      else .ok (.name name)

/-- The characters that no host holds. -/
def notInHost (c : Char) : Bool :=
  c.toNat = 0 || c ∈ ['\t', '\n', '\r', ' ', '#', '/', ':', '<', '>', '?', '@', '[', '\\', ']', '^', '|']

/-- The host of any other scheme, which may be empty. -/
def readOtherHost (s : List Char) : Except UrlError Host :=
  match s with
  | '[' :: r => readBracketed r
  | s => if s.any notInHost then .error .badHostCharacter else .ok (.name (encode isControl s))

/-- The characters up to the end of a host: a colon outside brackets or a character that ends the authority. -/
def splitHost (isSpecial inBrackets : Bool) : List Char → List Char × List Char
  | [] => ([], [])
  | c :: r =>
    if (c = ':' && !inBrackets) || (c = '\\' && isSpecial) || c ∈ ['/', '?', '#'] then ([], c :: r)
    else
      let (host, rest) := splitHost isSpecial (if c = '[' then true else if c = ']' then false else inBrackets) r
      (c :: host, rest)

/-- The port behind a colon, and the rest. A port that goes without saying is left out. -/
def readPort (kind : SchemeKind) (s : List Char) : Except UrlError (Option Nat × List Char) :=
  let digits := s.takeWhile isDigit
  let rest := s.dropWhile isDigit
  let ends : Bool := match rest with
    | [] => true
    | c :: _ => c ∈ ['/', '\\', '?', '#']
  if 65535 < value digits ∨ !ends then .error .badPort
  else .ok (if digits = [] ∨ kind.port? = some (value digits) then none else some (value digits), rest)

/-! ### Authorities -/

/-- Whether a character ends an authority. -/
def endsAuthority (isSpecial : Bool) (c : Char) : Bool := c ∈ ['/', '?', '#'] || (isSpecial && c = '\\')

/-- The text in front of the last `@` of an authority, if there is one, and the text behind it. -/
def splitUser (isSpecial : Bool) (s : List Char) : Option (List Char) × List Char :=
  let inside := s.takeWhile fun c => !endsAuthority isSpecial c
  let behind := (inside.reverse.takeWhile (· ≠ '@')).reverse
  let user := inside.take (inside.length - behind.length - 1)
  if '@' ∈ inside then (some user, s.drop (user.length + 1)) else (none, s)

/-- User and password of the text in front of an `@`. -/
def readUser (s : List Char) : List Char × List Char :=
  (encode inUserInfo (s.takeWhile (· ≠ ':')), encode inUserInfo ((s.dropWhile (· ≠ ':')).drop 1))

/-- An authority behind its two slashes, and the rest. -/
def readAuthority (kind : SchemeKind) (s : List Char) : Except UrlError (Authority × List Char) :=
  let (before, s) := splitUser kind.isSpecial s
  let ends : Bool := match s with
    | [] => false
    | c :: _ => endsAuthority kind.isSpecial c
  if before = some [] ∧ ends then .error .emptyHost
  else
    let (user, password) := readUser (before.getD [])
    let (hostText, rest) := splitHost kind.isSpecial false s
    if hostText = [] ∧ kind.isSpecial then .error .emptyHost
    else
      match if kind.isSpecial then readSpecialHost hostText else readOtherHost hostText with
      | .error e => .error e
      | .ok host =>
        match rest with
        | ':' :: r =>
          if host = .name [] then .error .emptyHost
          else (readPort kind r).map fun (port, rest) => (⟨user, password, host, port⟩, rest)
        | rest =>
          if host = .name [] ∧ (user ≠ [] ∨ password ≠ []) then .error .emptyHost
          else .ok (⟨user, password, host, none⟩, rest)

/-! ### Whole addresses -/

/-- The characters in front of a query or fragment, and the rest. -/
def splitPath (s : List Char) : List Char × List Char :=
  (s.takeWhile fun c => c ≠ '?' ∧ c ≠ '#', s.dropWhile fun c => c ≠ '?' ∧ c ≠ '#')

/-- An address of which query and fragment are left to read. -/
def withRest (scheme : List Char) (isSpecial : Bool) (authority : Option Authority) (path : Path) (s : List Char) :
    Url where
  scheme := scheme
  authority := authority
  path := path
  query := match s with
    | '?' :: r => some (encode (if isSpecial then inSpecialQuery else inQuery) (r.takeWhile (· ≠ '#')))
    | _ => none
  fragment := match s.dropWhile (· ≠ '#') with
    | _ :: r => some (encode inFragment r)
    | [] => none

def isSlash (c : Char) : Bool := c = '/' || c = '\\'

/-- The text behind a slash, if one is the next character that counts. -/
def behindSlash? (isSpecial : Bool) : List Char → Option (List Char)
  | [] => none
  | c :: r =>
    if isBreak c then behindSlash? isSpecial r
    else if c = '/' || (isSpecial && c = '\\') then some r else none

def dropSlash (isSpecial : Bool) (s : List Char) : List Char := (behindSlash? isSpecial s).getD s

/-- The address of a file with a host; without one the name is empty. -/
def fileUrl (host : Host) (s : List Char) : Url :=
  let (pathText, rest) := splitPath s
  let (ss, hasDrive) := readPath true true pathText
  withRest "file".toList true (some ⟨[], [], if hasDrive then .name [] else host, none⟩) (.segments ss)
    (unbroken rest)

/-- The address of a file behind its scheme. Breaks are left in the text, because its path tells them apart. Where
two slashes stand but no host, the next slash ends an empty first segment. -/
def readFile (s : List Char) : Except UrlError Url :=
  match (behindSlash? true s).bind (behindSlash? true) with
  | none => .ok (fileUrl (.name []) (dropSlash true s))
  | some r =>
    let hostText := unbroken (r.takeWhile fun c => !endsAuthority true c)
    let rest := r.dropWhile fun c => !endsAuthority true c
    if isDrive hostText then .ok (fileUrl (.name []) r)
    else if hostText = [] then .ok (fileUrl (.name []) rest)
    else
      (readSpecialHost hostText).map fun host =>
        if host = .name "localhost".toList then fileUrl (.name []) rest else fileUrl host (dropSlash true rest)

/-- An address with an authority, from behind the two slashes. -/
def readHierarchy (scheme : List Char) (kind : SchemeKind) (s : List Char) : Except UrlError Url :=
  match readAuthority kind s with
  | .error e => .error e
  | .ok (authority, rest) =>
    let (pathText, rest) := splitPath rest
    let path :=
      if pathText = [] ∧ !kind.isSpecial then []
      else (readPath false kind.isSpecial (dropSlash kind.isSpecial pathText)).1
    .ok (withRest scheme kind.isSpecial (some authority) (.segments path) rest)

/-- An address of a scheme that is not well known, from behind the scheme. -/
def readOther (scheme : List Char) (s : List Char) : Except UrlError Url :=
  match s with
  | '/' :: '/' :: r => readHierarchy scheme .other r
  | '/' :: r =>
    let (pathText, rest) := splitPath r
    .ok (withRest scheme false none (.segments (readPath false false pathText).1) rest)
  | s =>
    let (pathText, rest) := splitPath s
    .ok (withRest scheme false none (.bare (encode isControl pathText)) rest)

/-- The text without blanks and controls at its ends. -/
def trimmed (s : List Char) : List Char :=
  let outer (c : Char) : Bool := c.toNat ≤ 0x20
  ((s.dropWhile outer).reverse.dropWhile outer).reverse

/-- The address that a text writes. -/
def read (text : String) : Except UrlError Url :=
  match readScheme? (trimmed text.toList) with
  | none => .error .noScheme
  | some (scheme, r) =>
    match schemeKind scheme with
    | .file => readFile r
    | .wellKnown n => readHierarchy scheme (.wellKnown n) ((unbroken r).dropWhile isSlash)
    | .other => readOther scheme (unbroken r)

end Url

end AlarmClock
