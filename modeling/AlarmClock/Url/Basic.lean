import AlarmClock.Url.Address

/-! Addresses of media: a scheme, an authority with user, host and port, a path, a query
and a fragment, of which only the scheme and the path have to be there. All parts are
held as they are written, so the text of an address only puts them together. -/

namespace AlarmClock

namespace Url

/-- A host by its name or by its number. An address without a host has the empty name. -/
inductive Host where
  | name (s : List Char)
  | four (n : Nat)
  | eight (ns : List Nat)
  deriving DecidableEq

def Host.chars : Host → List Char
  | name s => s
  | four n => fourChars n
  | eight ns => '[' :: eightChars ns ++ [']']

/-- User, host and port. A user or password that is not given is empty. -/
structure Authority where
  user : List Char
  password : List Char
  host : Host
  port : Option Nat
  deriving DecidableEq

def Authority.chars (a : Authority) : List Char :=
  a.user ++ (if a.password = [] then [] else ':' :: a.password) ++
    (if a.user = [] ∧ a.password = [] then [] else ['@']) ++ a.host.chars ++
    match a.port with
    | none => []
    | some n => ':' :: Text.numeral n

/-- A path of segments, each behind a slash, or a text without structure. -/
inductive Path where
  | bare (s : List Char)
  | segments (ss : List (List Char))
  deriving DecidableEq

def Path.chars : Path → List Char
  | bare s => s
  | segments ss => ss.flatMap ('/' :: ·)

/-- Whether a path would read as an authority if none stood in front of it. -/
def Path.looksLikeAuthority : Path → Bool
  | segments ([] :: _ :: _) => true
  | _ => false

end Url

structure Url where
  scheme : List Char
  authority : Option Url.Authority
  path : Url.Path
  query : Option (List Char)
  fragment : Option (List Char)
  deriving DecidableEq

namespace Url

/-- What stands between scheme and path. -/
def authorityChars (u : Url) : List Char :=
  match u.authority with
  | some a => '/' :: '/' :: a.chars
  | none => if u.path.looksLikeAuthority then ['/', '.'] else []

def chars (u : Url) : List Char :=
  u.scheme ++ ':' :: u.authorityChars ++ u.path.chars ++
    (match u.query with
    | none => []
    | some q => '?' :: q) ++
    match u.fragment with
    | none => []
    | some f => '#' :: f

def text (u : Url) : String := String.ofList u.chars

instance : ToString Url := ⟨text⟩

end Url

end AlarmClock
