import AlarmClock.Countdown
import AlarmClock.Media.Player

/-! The monitor watches over an alarm that has gone off. If the player refuses or fails
it plays the fallback; if nothing is heard of the player within the grace period, the
alarm counts as delivered. The grace countdown runs while an alarm is expected. -/

namespace AlarmClock

structure Monitor (π : Type) where
  player : π
  countdown : Countdown := Countdown.idle
  grace : Span
  fallback : Playlist
  state : MonitorState := .idle

namespace Monitor

variable {π : Type}

/-- A monitor at rest, with the one medium of its fallback. -/
def start (player : π) (grace : Span) (fallback : Url) : Monitor π :=
  { player := player, grace := grace, fallback := Playlist.loop [fallback] }

/-- The volume of the fallback. -/
def fallbackVolume : Nat := 50

/-- Enters a state, and tells so if it is another one. -/
def enter (m : Monitor π) (s : MonitorState) : Act (Monitor π) :=
  if s = m.state then pure m
  else do
    emit (.monitorChanged s)
    pure { m with state := s }

/-- The commands that start an alarm. -/
def alarmCommands (a : Alarm) : List Command := [.setMedia a.media, .setVolume a.volume.level, .play]

/-- The commands that start the fallback. -/
def fallbackCommands (m : Monitor π) : List Command := [.setPlaylist m.fallback, .setVolume fallbackVolume, .play]

variable [Player π]

/-- Gives commands to the player up to the first one that it refuses. -/
def command (m : Monitor π) (cs : List Command) : Act (Monitor π × Option PlayerError) := do
  let (p, refusal) ← giveAll m.player cs
  pure ({ m with player := p }, refusal)

/-- Plays the fallback. -/
def fallBack (m : Monitor π) : Act (Monitor π) := do
  let m ← enter { m with countdown := m.countdown.cancel } .fallback
  let (m, refusal) ← m.command m.fallbackCommands
  match refusal with
  | none => pure m
  | some e =>
    note (.fallbackRefused e)
    pure m

/-- Starts an alarm. -/
def alarmTriggered (m : Monitor π) (now : DateTime) (a : Alarm) : Act (Monitor π) := do
  note (.supervising a.id a.media)
  let m ← m.enter .expecting
  let (m, refusal) ← command { m with countdown := Countdown.arm now m.grace } (alarmCommands a)
  match refusal with
  | none => pure m
  | some e =>
    note (.mediaRefused e)
    m.fallBack

/-- The player has failed: an alarm gives way to the fallback. -/
def playerFailed (m : Monitor π) (e : PlayerError) : Act (Monitor π) :=
  match m.state with
  | .expecting | .active => do
    note (.playerFailed m.state e)
    m.fallBack
  | .fallback => do
    note (.fallbackFailed e)
    pure m
  | .idle => pure m

omit [Player π] in
/-- The player has changed its state: playing confirms an alarm, stopping ends one. -/
def playbackChanged (m : Monitor π) (s : PlaybackState) : Act (Monitor π) :=
  match m.state, s with
  | .expecting, .playing => enter { m with countdown := m.countdown.cancel } .active
  | .active, .stopped => m.enter .idle
  | _, _ => pure m

def playerEvent (m : Monitor π) : PlayerEvent → Act (Monitor π)
  | .changed s => m.playbackChanged s
  | .failed e => m.playerFailed e

omit [Player π] in
/-- Looks at the clock: after the grace period an alarm that is still expected counts as delivered. -/
def poll (m : Monitor π) (now : DateTime) : Act (Monitor π) :=
  let (countdown, due) := m.countdown.poll now
  let m := { m with countdown := countdown }
  if due && m.state = .expecting then m.enter .idle else pure m

omit [Player π] in
/-- Ends the watch. -/
def stop (m : Monitor π) : Act (Monitor π) := enter { m with countdown := m.countdown.cancel } .idle

/-- Ends the watch and stops the player. -/
def silence (m : Monitor π) : Act (Monitor π) := do
  let m ← m.stop
  let (m, refusal) ← m.command [.stop]
  match refusal with
  | none => pure m
  | some e =>
    note (.stopRefused e)
    pure m

end Monitor

end AlarmClock
