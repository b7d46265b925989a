import AlarmClock.Alarm.Basic

/-! What is said between the clock and its player: commands on the one side, changes of
state and failures on the other. -/

namespace AlarmClock

inductive PlaybackState where
  | stopped | playing | paused
  deriving DecidableEq, Repr

/-- What can be wrong with playback, with the words of the player. -/
inductive PlayerError where
  | resource (text : String)
  | format (text : String)
  | network (text : String)
  | accessDenied (text : String)
  | backend (text : String)
  deriving DecidableEq, Repr

def PlayerError.message : PlayerError → String
  | resource s => "media resource could not be resolved: " ++ s
  | format s => "media format not supported: " ++ s
  | network s => "network error: " ++ s
  | accessDenied s => "access denied: " ++ s
  | backend s => "player backend unavailable: " ++ s

/-- What a player reports of its own accord. -/
inductive PlayerEvent where
  | changed (s : PlaybackState)
  | failed (e : PlayerError)
  deriving DecidableEq, Repr

structure Playlist where
  items : List Url
  looped : Bool
  deriving DecidableEq

/-- A list of media that starts over at its end. -/
def Playlist.loop (items : List Url) : Playlist := ⟨items, true⟩

/-- What a player can be told. -/
inductive Command where
  | setMedia (u : Url)
  | setPlaylist (p : Playlist)
  | setVolume (level : Nat)
  | play
  | stop
  deriving DecidableEq

/-- The word for a command without what it carries. -/
def Command.word : Command → String
  | setMedia _ => "set_media"
  | setPlaylist _ => "set_playlist"
  | setVolume _ => "set_volume"
  | play => "play"
  | stop => "stop"

end AlarmClock
