import AlarmClock.Media.Player

/-! A player that keeps the commands it accepts. It can be told to refuse some, and it
reports nothing of its own accord. -/

namespace AlarmClock

structure RecordingPlayer where
  refused : List String := []
  accepted : List Command := []
  deriving DecidableEq

namespace RecordingPlayer

def perform (p : RecordingPlayer) (c : Command) : Reply RecordingPlayer :=
  if c.word ∈ p.refused then { player := p, refusal := some (.backend (c.word ++ " rejected")) }
  else { player := { p with accepted := p.accepted ++ [c] } }

instance : Player RecordingPlayer := ⟨perform⟩

end RecordingPlayer

end AlarmClock
