import AlarmClock.Proofs.Monitor.Grace

/-! The fallback of a monitor. It begins with the playlist, which nothing else asks for. Main
statement: it is started exactly when the player refuses a command of an alarm or fails
while the monitor minds one, at most once for each alarm, and only another alarm, a stop
or silence ends it. -/

namespace AlarmClock

/-- Whether a command sets a playlist. -/
def Command.isPlaylist : Command → Bool
  | .setPlaylist _ => true
  | _ => false

namespace Monitor

variable {π : Type}

/-- An alarm is expected or plays. -/
def Minds (m : Monitor π) : Prop := m.state = .active ∨ m.state = .expecting

instance (m : Monitor π) : Decidable m.Minds := inferInstanceAs (Decidable (_ ∨ _))

/-- What ends a fallback: another alarm, a stop, or silence. -/
def Incident.EndsFallback : Incident π → Prop
  | .alarm _ => True
  | .stop => True
  | .silence => True
  | _ => False

theorem value_enter (m : Monitor π) (s : MonitorState) : (m.enter s).value = { m with state := s } := by
  unfold enter
  split
  · rename_i h
    rw [h]
    rfl
  · rfl

theorem commands_enter (m : Monitor π) (s : MonitorState) : (m.enter s).commands = [] := by
  unfold enter
  split <;> rfl

variable [Player π]

/-- What an alarm needs the fallback for: the player refuses one of its commands, or fails while it is minded. -/
def Fails (m : Monitor π) : Incident π → Prop
  | .alarm a => ¬ Accepts m.player (alarmCommands a)
  | .failure _ => m.Minds
  | .player (.failed _) => m.Minds
  | _ => False

/-! ### How the fallback starts -/

/-- Effects in which a player is first given other commands, if any, then the monitor enters the fallback, and then
the player is given the commands of the fallback up to the first one that it refuses. -/
def FallsBack (p : π) (fallback : Playlist) (effects : List Effect) : Prop :=
  ∃ before after, effects = before ++ .event (.monitorChanged .fallback) :: after ∧
    (∀ l, .command (.setPlaylist l) ∉ before) ∧
    CutAtRefusal (playerAfter p (before.filterMap Effect.command?))
      [.setPlaylist fallback, .setVolume 50, .play] (after.filterMap Effect.command?)

/-- Effects in which neither the fallback is entered nor a playlist is set. -/
def StaysOff (effects : List Effect) : Prop :=
  .event (.monitorChanged .fallback) ∉ effects ∧ ∀ l, .command (.setPlaylist l) ∉ effects

theorem FallsBack.append_left {p q : π} {fallback : Playlist} {front effects : List Effect}
    (h : FallsBack q fallback effects) (hq : q = playerAfter p (front.filterMap Effect.command?))
    (hfront : ∀ l, .command (.setPlaylist l) ∉ front) : FallsBack p fallback (front ++ effects) := by
  obtain ⟨before, after, rfl, hbefore, hcut⟩ := h
  subst hq
  refine ⟨front ++ before, after, (List.append_assoc _ _ _).symm, fun l hl => ?_, ?_⟩
  · exact (List.mem_append.1 hl).elim (hfront l) (hbefore l)
  · rw [List.filterMap_append, playerAfter, List.foldl_append]
    exact hcut

theorem staysOff_append {front effects : List Effect} (hfront : StaysOff front) (heffects : StaysOff effects) :
    StaysOff (front ++ effects) :=
  ⟨fun h => (List.mem_append.1 h).elim hfront.1 heffects.1,
    fun l h => (List.mem_append.1 h).elim (hfront.2 l) (heffects.2 l)⟩

theorem staysOff_nil : StaysOff [] := ⟨List.not_mem_nil, fun _ => List.not_mem_nil⟩

theorem staysOff_note (n : Notice) : StaysOff (note n).effects := by
  simp [StaysOff, note]

omit [Player π] in
theorem staysOff_enter (m : Monitor π) {s : MonitorState} (hs : s ≠ .fallback) : StaysOff (m.enter s).effects := by
  unfold enter
  split
  · exact staysOff_nil
  · simp [StaysOff, emit, hs.symm]

/-- Commands that set no playlist. -/
theorem staysOff_giveAll (p : π) {cs : List Command} (hcs : ∀ l, .setPlaylist l ∉ cs) :
    StaysOff (giveAll p cs).effects := by
  refine ⟨fun h => ?_, fun l h => ?_⟩
  · obtain ⟨s, hs⟩ := exists_of_mem_events_giveAll (Act.mem_events.2 h)
    cases hs
  · exact hcs l ((giveAll_cut p cs).1.front.subset (Act.mem_commands.2 h))

/-- The fallback is entered, its commands are given, and at most a notice is left of it. -/
theorem effects_fallBack {m : Monitor π} (h : m.state ≠ .fallback) :
    ∃ ns : List Notice, m.fallBack.effects =
      .event (.monitorChanged .fallback) :: ((giveAll m.player m.fallbackCommands).effects ++ ns.map .notice) := by
  have henter : (enter { m with countdown := m.countdown.cancel } .fallback).effects =
      [.event (.monitorChanged .fallback)] := by
    rw [enter, if_neg (Ne.symm h)]
    rfl
  rw [fallBack, Act.effects_bind, henter, value_enter, Act.effects_bind, command, Act.effects_bind, Act.value_bind,
    Act.effects_pure, List.append_nil]
  dsimp only
  split
  · exact ⟨[], rfl⟩
  · rename_i e _
    exact ⟨[.fallbackRefused e], rfl⟩

theorem fallsBack_fallBack {m : Monitor π} (h : m.state ≠ .fallback) :
    FallsBack m.player m.fallback m.fallBack.effects := by
  obtain ⟨ns, hns⟩ := effects_fallBack h
  have hnotices : (ns.map Effect.notice).filterMap Effect.command? = [] := by simp [Effect.command?]
  refine ⟨[], _, hns, fun _ => List.not_mem_nil, ?_⟩
  rw [List.filterMap_append, hnotices, List.append_nil]
  exact (giveAll_cut m.player m.fallbackCommands).1

/-! ### One step -/

/-- What an incident comes to: the fallback is started from its beginning, or neither entered nor started. -/
inductive Answers (m : Monitor π) (x : Incident π) (y : Act (Monitor π)) : Prop where
  | fallsBack (hfails : m.Fails x) (heffects : FallsBack m.player m.fallback y.effects)
      (hstate : y.value.state = .fallback)
  | staysOff (hfails : ¬ m.Fails x) (heffects : StaysOff y.effects)
      (hstate : y.value.state = .fallback ↔ m.state = .fallback ∧ ¬ x.EndsFallback)
      (hminds : (∀ a, x ≠ .alarm a) → y.value.Minds → m.Minds)

/-- The monitor once it has given the commands of an alarm. -/
def offering (m : Monitor π) (now : DateTime) (a : Alarm) : Monitor π :=
  { m with
    player := (giveAll m.player (alarmCommands a)).value.1
    countdown := Countdown.arm now m.grace
    state := .expecting }

/-- The effects of an alarm up to the last command that it gives. -/
def offer (m : Monitor π) (a : Alarm) : List Effect :=
  (note (.supervising a.id a.media)).effects ++
    ((m.enter .expecting).effects ++ (giveAll m.player (alarmCommands a)).effects)

theorem staysOff_offer (m : Monitor π) (a : Alarm) : StaysOff (m.offer a) := by
  refine staysOff_append (staysOff_note _) (staysOff_append (m.staysOff_enter nofun) (staysOff_giveAll _ ?_))
  simp [alarmCommands]

/-- The fallback of a refused alarm finds the player as the commands of the alarm have left it. -/
theorem player_offering (m : Monitor π) (now : DateTime) (a : Alarm) (e : PlayerError) :
    (m.offering now a).player =
      playerAfter m.player ((m.offer a ++ (note (.mediaRefused e)).effects).filterMap Effect.command?) := by
  have hcommands : (m.offer a ++ (note (.mediaRefused e)).effects).filterMap Effect.command? =
      (giveAll m.player (alarmCommands a)).commands := by
    have henter : (m.enter .expecting).effects.filterMap Effect.command? = [] := m.commands_enter _
    rw [offer, List.filterMap_append, List.filterMap_append, List.filterMap_append, henter]
    exact List.append_nil _
  rw [hcommands]
  exact (giveAll_cut m.player (alarmCommands a)).2.2

theorem alarmTriggered_of_accepts {m : Monitor π} {a : Alarm} (h : Accepts m.player (alarmCommands a))
    (now : DateTime) :
    (m.alarmTriggered now a).effects = m.offer a ∧ (m.alarmTriggered now a).value = m.offering now a := by
  have hnone := (giveAll_cut m.player (alarmCommands a)).2.1.2 h
  constructor
  · simp [alarmTriggered, command, value_enter, hnone, offer]
  · simp [alarmTriggered, command, value_enter, hnone, offering]

theorem alarmTriggered_of_refuses {m : Monitor π} {a : Alarm} (h : ¬ Accepts m.player (alarmCommands a))
    (now : DateTime) :
    ∃ e, (m.alarmTriggered now a).effects =
        m.offer a ++ ((note (.mediaRefused e)).effects ++ (m.offering now a).fallBack.effects) ∧
      (m.alarmTriggered now a).value = (m.offering now a).fallBack.value := by
  obtain ⟨e, he⟩ := Option.ne_none_iff_exists'.1 fun hnone => h ((giveAll_cut m.player (alarmCommands a)).2.1.1 hnone)
  refine ⟨e, ?_, ?_⟩
  · simp [alarmTriggered, command, value_enter, he, offer, offering]
  · simp [alarmTriggered, command, value_enter, he, offering]

theorem answers_alarmTriggered (m : Monitor π) (now : DateTime) (a : Alarm) :
    m.Answers (.alarm a) (m.alarmTriggered now a) := by
  by_cases h : Accepts m.player (alarmCommands a)
  · obtain ⟨heffects, hvalue⟩ := alarmTriggered_of_accepts h now
    refine .staysOff (not_not_intro h) (heffects ▸ m.staysOff_offer a) ?_ fun hx => absurd rfl (hx a)
    simp [hvalue, offering, Incident.EndsFallback]
  · obtain ⟨e, heffects, hvalue⟩ := alarmTriggered_of_refuses h now
    refine .fallsBack h ?_ ?_
    · rw [heffects, ← List.append_assoc]
      refine (fallsBack_fallBack (m := m.offering now a) nofun).append_left (m.player_offering now a e) ?_
      exact (staysOff_append (m.staysOff_offer a) (staysOff_note _)).2
    · simp [hvalue]

theorem answers_playerFailed (m : Monitor π) (e : PlayerError) {x : Incident π} (hx : m.Fails x ↔ m.Minds)
    (hends : ¬ x.EndsFallback) : m.Answers x (m.playerFailed e) := by
  by_cases hminds : m.Minds
  · have hne : m.state ≠ .fallback := by
      rcases hminds with h | h <;> rw [h] <;> exact nofun
    rw [playerFailed_of_minding hminds]
    refine .fallsBack (hx.2 hminds) ?_ (by simp)
    exact (fallsBack_fallBack hne).append_left rfl (by simp [note])
  · have hstays : StaysOff (m.playerFailed e).effects ∧ (m.playerFailed e).value = m := by
      unfold playerFailed
      split
      · rename_i h
        exact absurd (.inr h) hminds
      · rename_i h
        exact absurd (.inl h) hminds
      · exact ⟨staysOff_append (staysOff_note _) staysOff_nil, rfl⟩
      · exact ⟨staysOff_nil, rfl⟩
    refine .staysOff (fun h => hminds (hx.1 h)) hstays.1 ?_ fun _ h => ?_
    · rw [hstays.2]
      exact (and_iff_left hends).symm
    · rwa [hstays.2] at h

omit [Player π] in
theorem minds_playbackChanged {m : Monitor π} {s : PlaybackState} (h : (m.playbackChanged s).value.Minds) :
    m.Minds := by
  unfold playbackChanged at h
  split at h
  · exact .inr ‹_›
  · exact .inl ‹_›
  · exact h

theorem answers_playbackChanged (m : Monitor π) (s : PlaybackState) {x : Incident π} (hx : ¬ m.Fails x)
    (hends : ¬ x.EndsFallback) : m.Answers x (m.playbackChanged s) := by
  have hstays : StaysOff (m.playbackChanged s).effects := by
    unfold playbackChanged
    split
    · exact staysOff_enter _ nofun
    · exact staysOff_enter _ nofun
    · exact staysOff_nil
  refine .staysOff hx hstays ?_ fun _ h => minds_playbackChanged h
  rw [state_playbackChanged_eq_fallback_iff]
  exact (and_iff_left hends).symm

theorem answers_poll (m : Monitor π) (now : DateTime) : m.Answers .look (m.poll now) := by
  have hstays : StaysOff (m.poll now).effects := by
    unfold poll
    dsimp only
    split
    · exact staysOff_enter _ nofun
    · exact staysOff_nil
  by_cases hs : m.state = .expecting
  · refine .staysOff id hstays ?_ fun _ _ => .inr hs
    rcases m.state_poll now with h | h <;> simp [h, hs]
  · have hstate := state_poll_of_ne_expecting hs now
    refine .staysOff id hstays ?_ fun _ h => ?_
    · rw [hstate]
      exact (and_iff_left id).symm
    · rwa [Minds, hstate] at h

theorem answers_stop (m : Monitor π) : m.Answers .stop m.stop := by
  refine .staysOff id (staysOff_enter _ nofun) ?_ ?_
  · simp [stop, Incident.EndsFallback]
  · simp [stop, Minds]

theorem answers_silence (m : Monitor π) : m.Answers .silence m.silence := by
  have hstays : StaysOff m.silence.effects := by
    refine ⟨fun h => ?_, fun l h => nomatch m.within_silence _ h⟩
    rcases mem_events_silence (Act.mem_events.2 h) with h | ⟨s, h⟩ <;> cases h
  refine .staysOff id hstays ?_ fun _ h => ?_
  · simp [Incident.EndsFallback]
  · simp [Minds] at h

theorem answers_step (m : Monitor π) (now : DateTime) (x : Incident π) : m.Answers x (m.step now x) := by
  cases x with
  | alarm a => exact m.answers_alarmTriggered now a
  | failure e => exact m.answers_playerFailed e Iff.rfl id
  | playback s => exact m.answers_playbackChanged s id id
  | player e =>
    cases e with
    | changed s => exact m.answers_playbackChanged s id id
    | failed e => exact m.answers_playerFailed e Iff.rfl id
  | look => exact m.answers_poll now
  | stop => exact m.answers_stop
  | silence => exact m.answers_silence
  | playerBecomes p => exact .staysOff id staysOff_nil (and_iff_left id).symm fun _ h => h

/-! ### All steps -/

theorem fallback_fallBack (m : Monitor π) : m.fallBack.value.fallback = m.fallback := by
  simp only [fallBack, Act.value_bind]
  split <;> simp [command, fallback_enter]

/-- The fallback is set once and for all. -/
theorem fallback_step (m : Monitor π) (now : DateTime) (x : Incident π) :
    (m.step now x).value.fallback = m.fallback := by
  have hfailed : ∀ e, (m.playerFailed e).value.fallback = m.fallback := by
    intro e
    unfold playerFailed
    split <;> simp [fallback_fallBack]
  have hchanged : ∀ s, (m.playbackChanged s).value.fallback = m.fallback := by
    intro s
    unfold playbackChanged
    split <;> simp [fallback_enter]
  cases x with
  | alarm a =>
    simp only [step, alarmTriggered, Act.value_bind]
    split <;> simp [command, fallback_fallBack, fallback_enter]
  | failure e => exact hfailed e
  | playback s => exact hchanged s
  | player e =>
    cases e with
    | changed s => exact hchanged s
    | failed e => exact hfailed e
  | look => exact m.fallback_poll now
  | stop => exact fallback_enter _ _
  | silence =>
    simp only [step, silence, stop, Act.value_bind]
    split <;> simp [command, fallback_enter]
  | playerBecomes p => rfl

theorem fallback_run (m : Monitor π) (xs : List (DateTime × Incident π)) : (m.run xs).value.fallback = m.fallback := by
  induction xs generalizing m with
  | nil => rfl
  | cons x xs ih => exact (ih _).trans (m.fallback_step x.1 x.2)

/-- How many fallbacks may still come without another alarm. -/
def chances (m : Monitor π) : Nat := if m.Minds then 1 else 0

omit [Player π] in
theorem chances_le_one (m : Monitor π) : m.chances ≤ 1 := by
  rw [chances]
  split
  · exact Nat.le_refl 1
  · exact Nat.zero_le 1

omit [Player π] in
theorem chances_le {m m' : Monitor π} (h : m'.Minds → m.Minds) : m'.chances ≤ m.chances := by
  by_cases hm : m'.Minds
  · have hchance' : m'.chances = 1 := if_pos hm
    have hchance : m.chances = 1 := if_pos (h hm)
    omega
  · have hnone : m'.chances = 0 := if_neg hm
    omega

omit [Player π] in
theorem chances_of_fallback {m : Monitor π} (h : m.state = .fallback) : m.chances = 0 := by
  rw [chances, if_neg]
  rintro (hs | hs) <;> rw [h] at hs <;> cases hs

/-- The fallback is entered, and its playlist is asked for. -/
theorem FallsBack.mem {p : π} {l : Playlist} {effects : List Effect} (h : FallsBack p l effects) :
    .event (.monitorChanged .fallback) ∈ effects ∧ .command (.setPlaylist l) ∈ effects := by
  obtain ⟨before, after, rfl, -, hcut⟩ := h
  obtain ⟨rest, hrest, -⟩ := hcut.exists_eq_cons
  refine ⟨List.mem_append_right _ List.mem_cons_self, List.mem_append_right _ (List.mem_cons_of_mem _ ?_)⟩
  have hmem : Command.setPlaylist l ∈ after.filterMap Effect.command? := by
    rw [hrest]
    exact List.mem_cons_self
  exact (Act.mem_commands (x := ⟨(), after⟩)).1 hmem

theorem count_of_fallsBack {p : π} {l : Playlist} {y : Act (Monitor π)} (h : FallsBack p l y.effects) :
    y.commands.countP Command.isPlaylist = 1 := by
  obtain ⟨before, after, heq, hbefore, hcut⟩ := h
  obtain ⟨rest, hrest, hprefix⟩ := hcut.exists_eq_cons
  have hnone : (before.filterMap Effect.command?).countP Command.isPlaylist = 0 := by
    refine List.countP_eq_zero.2 fun c hc hplaylist => ?_
    cases c with
    | setPlaylist l => exact hbefore l ((Act.mem_commands (x := ⟨(), before⟩)).1 hc)
    | _ => cases hplaylist
  have hothers : rest.countP Command.isPlaylist = 0 := by
    refine List.countP_eq_zero.2 fun c hc => ?_
    have hmem := hprefix.subset hc
    simp only [List.mem_cons, List.not_mem_nil, or_false] at hmem
    rcases hmem with rfl | rfl <;> exact Bool.false_ne_true
  rw [Act.commands, heq, List.filterMap_append, List.countP_append, hnone, List.filterMap_cons]
  simp only [Effect.command?]
  rw [hrest, List.countP_cons, hothers]
  rfl

omit [Player π] in
theorem count_of_staysOff {y : Act (Monitor π)} (h : StaysOff y.effects) :
    y.commands.countP Command.isPlaylist = 0 := by
  refine List.countP_eq_zero.2 fun c hc hplaylist => ?_
  cases c with
  | setPlaylist l => exact h.2 l (Act.mem_commands.1 hc)
  | _ => cases hplaylist

/-- An alarm starts the fallback, or leaves at most a chance for it. -/
theorem count_alarm_le (m : Monitor π) (now : DateTime) (a : Alarm) :
    (m.step now (.alarm a)).commands.countP Command.isPlaylist + (m.step now (.alarm a)).value.chances ≤ 1 := by
  cases m.answers_step now (.alarm a) with
  | fallsBack _ heffects hstate =>
    have hone := count_of_fallsBack heffects
    have hspent := chances_of_fallback hstate
    omega
  | staysOff _ heffects _ _ =>
    have hzero := count_of_staysOff heffects
    have hleft := (m.step now (.alarm a)).value.chances_le_one
    omega

/-- Whatever else happens, the fallback takes the chance that there was. -/
theorem count_step_le (m : Monitor π) (now : DateTime) {x : Incident π} (hx : ∀ a, x ≠ .alarm a) :
    (m.step now x).commands.countP Command.isPlaylist + (m.step now x).value.chances ≤ m.chances := by
  cases m.answers_step now x with
  | fallsBack hfails heffects hstate =>
    have hminds : m.Minds := by
      unfold Fails at hfails
      split at hfails
      · exact absurd rfl (hx _)
      · exact hfails
      · exact hfails
      · exact hfails.elim
    have hone := count_of_fallsBack heffects
    have hspent := chances_of_fallback hstate
    have hchance : m.chances = 1 := if_pos hminds
    omega
  | staysOff _ heffects _ hminds =>
    have hzero := count_of_staysOff heffects
    have hleft := chances_le (hminds hx)
    omega

theorem count_run_le (m : Monitor π) {xs : List (DateTime × Incident π)} (hxs : ∀ x ∈ xs, ∀ a, x.2 ≠ .alarm a) :
    (m.run xs).commands.countP Command.isPlaylist ≤ m.chances := by
  induction xs generalizing m with
  | nil => exact Nat.zero_le _
  | cons x xs ih =>
    obtain ⟨hx, hxs⟩ := List.forall_mem_cons.1 hxs
    have hstep := m.count_step_le x.1 hx
    have hrun := ih (m.step x.1 x.2).value hxs
    rw [run, Act.commands_bind, List.countP_append]
    omega

/-- Whatever happens to a monitor, with whatever player: a step enters the fallback exactly if the player refuses a
command of an alarm, or fails while one is minded; then, and only then, it starts the fallback from its beginning; the
fallback goes on until another alarm, a stop or silence; and from one alarm to the next it is started at most once. -/
theorem falls_back_once_per_alarm (player : π) (grace : Span) (medium : Url) (xs : List (DateTime × Incident π)) :
    let m := ((start player grace medium).run xs).value
    (∀ now x, let y := m.step now x
      (.monitorChanged .fallback ∈ y.events ↔ m.Fails x) ∧
        ((∃ l, .setPlaylist l ∈ y.commands) ↔ m.Fails x) ∧
        (m.Fails x → FallsBack m.player (.loop [medium]) y.effects) ∧
        (y.value.state = .fallback ↔ m.Fails x ∨ m.state = .fallback ∧ ¬ x.EndsFallback)) ∧
      ∀ now a between, (∀ x ∈ between, ∀ b, x.2 ≠ .alarm b) →
        (m.run ((now, .alarm a) :: between)).commands.countP Command.isPlaylist ≤ 1 := by
  intro m
  have hloop : m.fallback = .loop [medium] := fallback_run _ xs
  refine ⟨?_, ?_⟩
  · intro now x y
    cases m.answers_step now x with
    | fallsBack hfails heffects hstate =>
      obtain ⟨hevent, hcommand⟩ := heffects.mem
      exact ⟨iff_of_true (Act.mem_events.2 hevent) hfails, iff_of_true ⟨_, Act.mem_commands.2 hcommand⟩ hfails,
        fun _ => hloop ▸ heffects, iff_of_true hstate (.inl hfails)⟩
    | staysOff hfails heffects hstate _ =>
      refine ⟨iff_of_false (fun h => heffects.1 (Act.mem_events.1 h)) hfails, iff_of_false ?_ hfails,
        fun h => absurd h hfails, hstate.trans (or_iff_right hfails).symm⟩
      exact fun ⟨l, hl⟩ => heffects.2 l (Act.mem_commands.1 hl)
  · intro now a between hbetween
    have halarm := m.count_alarm_le now a
    have hrun := count_run_le (m.step now (.alarm a)).value hbetween
    rw [run, Act.commands_bind, List.countP_append]
    omega

/-- A player that takes no volume refuses an alarm that finds it in the fallback; the fallback starts anew and goes no
further than its volume, and what fails afterwards does not start it again. -/
theorem falls_back_once_of_fixed_volume :
    let player : RecordingPlayer := { refused := ["set_volume"] }
    let bell := (everyDay 0 0).media
    let m := ((start player Span.second bell).run [(wednesday 500, .alarm (everyDay 2 500))]).value
    m.state = .fallback ∧ m.Fails (.alarm (everyDay 1 525)) ∧
      FallsBack m.player (.loop [bell]) (m.step (wednesday 525) (.alarm (everyDay 1 525))).effects ∧
      (m.run [(wednesday 525, .alarm (everyDay 1 525)), (wednesday 526, .failure (.network "gone")),
        (wednesday 527, .playback .stopped)]).commands.countP Command.isPlaylist ≤ 1 := by
  intro player bell m
  have hstate : m.state = .fallback := by decide +kernel
  have hfails : m.Fails (.alarm (everyDay 1 525)) := by
    show ¬ Accepts m.player (alarmCommands (everyDay 1 525))
    decide +kernel
  obtain ⟨hsteps, honce⟩ := falls_back_once_per_alarm player Span.second bell
    [(wednesday 500, .alarm (everyDay 2 500))]
  refine ⟨hstate, hfails, (hsteps _ _).2.2.1 hfails, honce _ _ _ ?_⟩
  simp

end Monitor

end AlarmClock
