import AlarmClock.Event

/-! A queue of events between any number of senders and one reader. Once the reader has
gone, what is sent is lost and nothing can be read. -/

namespace AlarmClock

structure Channel where
  waiting : List Event := []
  isOpen : Bool := true
  deriving DecidableEq

namespace Channel

/-- The channel with one more event behind those that wait, if somebody reads. -/
def send (c : Channel) (e : Event) : Channel := if c.isOpen then { c with waiting := c.waiting ++ [e] } else c

/-- The first event that waits, taken out. -/
def next (c : Channel) : Option Event × Channel :=
  match c.waiting with
  | [] => (none, c)
  | e :: es => (some e, { c with waiting := es })

/-- All events that wait, taken out. -/
def drain (c : Channel) : List Event × Channel := (c.waiting, { c with waiting := [] })

/-- The channel without its reader; what waited is lost. -/
def close (_ : Channel) : Channel := { waiting := [], isOpen := false }

end Channel

end AlarmClock
