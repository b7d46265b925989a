import AlarmClock.Effect

/-! Players. A player answers every command at once, and may report one change of state
with its answer; everything else it has to say comes later. -/

namespace AlarmClock

/-- A player after a command: whether it refused, what it logged, and the change that it reports. -/
structure Reply (π : Type) where
  player : π
  refusal : Option PlayerError := none
  notices : List Notice := []
  report : Option PlaybackState := none

class Player (π : Type) where
  perform : π → Command → Reply π

variable {π : Type}

/-- The effects of a command: the command, what the player logs, and the change that it reports. -/
def Reply.effects (c : Command) (r : Reply π) : List Effect :=
  .command c :: r.notices.map .notice ++
    match r.report with
    | none => []
    | some s => [.event (.player (.changed s))]

/-- Gives a command to a player, which may refuse it. -/
def give [Player π] (p : π) (c : Command) : Act (π × Option PlayerError) :=
  let r := Player.perform p c
  ⟨(r.player, r.refusal), r.effects c⟩

/-- Gives commands to a player up to the first one that it refuses. -/
def giveAll [Player π] (p : π) : List Command → Act (π × Option PlayerError)
  | [] => pure (p, none)
  | c :: cs => do
    let (p, refusal) ← give p c
    match refusal with
    | some e => pure (p, some e)
    | none => giveAll p cs

end AlarmClock
