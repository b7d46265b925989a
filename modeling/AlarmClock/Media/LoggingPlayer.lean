import AlarmClock.Media.Player

/-! A player for devices without sound: it logs every command and reports playing and
stopping as soon as it is told to. -/

namespace AlarmClock

structure LoggingPlayer where
  volume : Nat := 0
  source : Option String := none
  deriving DecidableEq

namespace LoggingPlayer

def perform (p : LoggingPlayer) : Command → Reply LoggingPlayer
  | .setMedia u => { player := { p with source := some u.text }, notices := [.playerMedia u] }
  | .setPlaylist l =>
    match l.items with
    | [] => { player := p, refusal := some (.resource "empty playlist") }
    | u :: _ =>
      { player := { p with source := some u.text }, notices := [.playerPlaylist l.items.length l.looped] }
  | .setVolume n => { player := { p with volume := n }, notices := [.playerVolume n] }
  | .play =>
    match p.source with
    | none => { player := p, refusal := some (.resource "nothing to play") }
    | some s => { player := p, notices := [.playerPlays s p.volume], report := some .playing }
  | .stop => { player := p, notices := [.playerStops], report := some .stopped }

instance : Player LoggingPlayer := ⟨perform⟩

end LoggingPlayer

end AlarmClock
