import AlarmClock.Media.LoggingPlayer
import AlarmClock.Media.RecordingPlayer

/-! What comes of the commands that a player is given. Besides the commands themselves
there are only notices and the changes of state that the player reports with its
answers. A steady player reports that it has stopped only if it is told to stop. -/

namespace AlarmClock

variable {π : Type} [Player π]

/-- What can come of commands of one kind: these commands, what the player reports on them, and news of
the parts of a device. -/
def Effect.Within (π : Type) [Player π] (kind : Command → Prop) : Effect → Prop
  | .notice _ => True
  | .command c => kind c
  | .event (.upcomingChanged _) => True
  | .event (.monitorChanged _) => True
  | .event (.remainingChanged _) => True
  | .event (.player (.changed s)) => ∃ (p : π) (c : Command), kind c ∧ (Player.perform p c).report = some s
  | .event _ => False

theorem Effect.Within.mono {kind kind' : Command → Prop} (h : ∀ c, kind c → kind' c) {f : Effect}
    (hf : f.Within π kind) : f.Within π kind' := by
  unfold Within at hf ⊢
  split at hf
  · trivial
  · exact h _ hf
  · trivial
  · trivial
  · trivial
  · obtain ⟨p, c, hc, hr⟩ := hf
    exact ⟨p, c, h c hc, hr⟩
  · exact hf.elim

omit [Player π] in
@[simp] theorem Act.forall_mem_effects_bind {α β : Type} {x : Act α} {g : α → Act β} {q : Effect → Prop} :
    (∀ f ∈ (x >>= g).effects, q f) ↔ (∀ f ∈ x.effects, q f) ∧ ∀ f ∈ (g x.value).effects, q f := by
  rw [Act.effects_bind, List.forall_mem_append]

theorem within_pure {α : Type} {kind : Command → Prop} (a : α) :
    ∀ f ∈ (pure a : Act α).effects, f.Within π kind := fun _ hf => nomatch hf

theorem within_note {kind : Command → Prop} (n : Notice) : ∀ f ∈ (note n).effects, f.Within π kind := by
  intro f hf
  rw [List.mem_singleton.1 hf]
  trivial

theorem within_give {kind : Command → Prop} {c : Command} (p : π) (hc : kind c) :
    ∀ f ∈ (give p c).effects, f.Within π kind := by
  intro f hf
  rw [give, Reply.effects] at hf
  rcases List.mem_append.1 hf with hf | hf
  · rcases List.mem_cons.1 hf with rfl | hf
    · exact hc
    · obtain ⟨n, -, rfl⟩ := List.mem_map.1 hf
      trivial
  · split at hf
    · cases hf
    · rename_i s hs
      rw [List.mem_singleton.1 hf]
      exact ⟨p, c, hc, hs⟩

theorem within_giveAll {kind : Command → Prop} {cs : List Command} (h : ∀ c ∈ cs, kind c) (p : π) :
    ∀ f ∈ (giveAll p cs).effects, f.Within π kind := by
  induction cs generalizing p with
  | nil => intro f hf; cases hf
  | cons c cs ih =>
    obtain ⟨hc, hcs⟩ := List.forall_mem_cons.1 h
    rw [giveAll, Act.forall_mem_effects_bind]
    refine ⟨within_give p hc, ?_⟩
    split
    rename_i q refusal hq
    cases refusal with
    | none => exact ih hcs q
    | some e => exact within_pure _

/-! ### Steady players -/

/-- A player that reports that it has stopped only in answer to the command to stop. -/
class SteadyPlayer (π : Type) [Player π] : Prop where
  report_ne_stopped : ∀ (p : π) (c : Command), c ≠ .stop → (Player.perform p c).report ≠ some .stopped

instance : SteadyPlayer LoggingPlayer where
  report_ne_stopped p c hc := by
    cases c with
    | setMedia u => exact nofun
    | setPlaylist l =>
      simp only [Player.perform, LoggingPlayer.perform]
      split <;> exact nofun
    | setVolume n => exact nofun
    | play =>
      simp only [Player.perform, LoggingPlayer.perform]
      split <;> exact nofun
    | stop => exact absurd rfl hc

/-- Whatever it refuses. -/
instance : SteadyPlayer RecordingPlayer where
  report_ne_stopped p c _ := by
    simp only [Player.perform, RecordingPlayer.perform]
    split <;> exact nofun

/-! ### Direct players -/

/-- Commands that set a player up and then have it play. -/
inductive Starts : List Command → Prop where
  | play : Starts [.play]
  | cons {c : Command} {cs : List Command} (hplay : c ≠ .play) (hstop : c ≠ .stop) (h : Starts cs) : Starts (c :: cs)

/-- A player that reports with its answer only that it does what it was told and does not refuse: to play, or
to stop. -/
class DirectPlayer (π : Type) [Player π] : Prop where
  report_eq : ∀ (p : π) (c : Command) (s : PlaybackState), (Player.perform p c).report = some s →
    (Player.perform p c).refusal = none ∧ (c = .play ∧ s = .playing ∨ c = .stop ∧ s = .stopped)

instance : DirectPlayer LoggingPlayer where
  report_eq p c s h := by
    cases c with
    | setMedia u => cases h
    | setPlaylist l =>
      simp only [Player.perform, LoggingPlayer.perform] at h
      split at h <;> cases h
    | setVolume n => cases h
    | play =>
      cases hsource : p.source with
      | none => simp [Player.perform, LoggingPlayer.perform, hsource] at h
      | some u => simpa [Player.perform, LoggingPlayer.perform, hsource, eq_comm] using h
    | stop =>
      cases h
      exact ⟨rfl, .inr ⟨rfl, rfl⟩⟩

/-- Whatever it refuses. -/
instance : DirectPlayer RecordingPlayer where
  report_eq p c s h := by
    simp only [Player.perform, RecordingPlayer.perform] at h
    split at h <;> cases h

/-- All that is sent on a command is the change that the player reports. -/
theorem events_give (p : π) (c : Command) :
    (give p c).events = ((Player.perform p c).report.map fun s => Event.player (.changed s)).toList := by
  have hnotices : ∀ ns : List Notice, (ns.map Effect.notice).filterMap Effect.event? = [] := by simp [Effect.event?]
  rw [give, Act.events, Reply.effects, List.filterMap_append, List.filterMap_cons, hnotices]
  cases (Player.perform p c).report <;> rfl

/-- Commands send nothing but what the player has changed to. -/
theorem exists_of_mem_events_giveAll {p : π} {cs : List Command} {e : Event} (h : e ∈ (giveAll p cs).events) :
    ∃ s, e = .player (.changed s) := by
  induction cs generalizing p with
  | nil => cases h
  | cons c cs ih =>
    rw [giveAll, Act.events_bind, List.mem_append] at h
    rcases h with h | h
    · rw [events_give, Option.mem_toList] at h
      obtain ⟨s, -, rfl⟩ := Option.map_eq_some_iff.1 h
      exact ⟨s, rfl⟩
    · split at h
      rename_i q refusal hq
      cases refusal with
      | none => exact ih h
      | some e => cases h

theorem giveAll_singleton (p : π) (c : Command) : giveAll p [c] = give p c := by
  rw [giveAll]
  refine Eq.trans (congrArg _ (funext fun x => ?_)) (bind_pure _)
  obtain ⟨q, refusal⟩ := x
  cases refusal <;> rfl

/-! ### Commands up to a refusal -/

/-- The player takes all commands, one after another. -/
def Accepts (p : π) : List Command → Prop
  | [] => True
  | c :: cs => (Player.perform p c).refusal = none ∧ Accepts (Player.perform p c).player cs

instance decidableAccepts (p : π) : (cs : List Command) → Decidable (Accepts p cs)
  | [] => inferInstanceAs (Decidable True)
  | c :: cs =>
    have := decidableAccepts (Player.perform p c).player cs
    inferInstanceAs (Decidable (_ ∧ _))

/-- The player that commands leave, whatever it answers. -/
def playerAfter (p : π) (cs : List Command) : π := cs.foldl (fun p c => (Player.perform p c).player) p

/-- Commands of which a player is given those in front, up to the first one that it refuses. -/
structure CutAtRefusal (p : π) (asked given : List Command) : Prop where
  front : given <+: asked
  accepted : Accepts p given.dropLast
  whole_or_refused : given = asked ∨ ¬ Accepts p given

theorem CutAtRefusal.cons {p : π} {c : Command} {asked given : List Command} (hc : (Player.perform p c).refusal = none)
    (h : CutAtRefusal (Player.perform p c).player asked given) : CutAtRefusal p (c :: asked) (c :: given) := by
  refine ⟨(List.prefix_cons_inj c).2 h.front, ?_, ?_⟩
  · cases given with
    | nil => trivial
    | cons d given => exact ⟨hc, h.accepted⟩
  · rcases h.whole_or_refused with hwhole | hrefused
    · exact .inl (congrArg (c :: ·) hwhole)
    · exact .inr fun haccepts => hrefused haccepts.2

/-- The first command is given, whatever the player says to it. -/
theorem CutAtRefusal.exists_eq_cons {p : π} {c : Command} {asked given : List Command}
    (h : CutAtRefusal p (c :: asked) given) : ∃ rest, given = c :: rest ∧ rest <+: asked := by
  cases given with
  | nil => exact h.whole_or_refused.elim nofun fun hrefused => (hrefused trivial).elim
  | cons d rest =>
    obtain ⟨rfl, hrest⟩ := List.cons_prefix_cons.1 h.front
    exact ⟨rest, rfl, hrest⟩

theorem commands_give (p : π) (c : Command) : (give p c).commands = [c] := by
  have hnotices : ∀ ns : List Notice, (ns.map Effect.notice).filterMap Effect.command? = [] := by simp [Effect.command?]
  rw [give, Act.commands, Reply.effects, List.filterMap_append, List.filterMap_cons, hnotices]
  cases (Player.perform p c).report <;> rfl

/-- What is given of commands is what the player takes of them and the first one that it refuses; it is answered for
by the player that this leaves. -/
theorem giveAll_cut (p : π) (cs : List Command) :
    CutAtRefusal p cs (giveAll p cs).commands ∧ ((giveAll p cs).value.2 = none ↔ Accepts p cs) ∧
      (giveAll p cs).value.1 = playerAfter p (giveAll p cs).commands := by
  induction cs generalizing p with
  | nil => exact ⟨⟨List.prefix_rfl, trivial, .inl rfl⟩, iff_of_true rfl trivial, rfl⟩
  | cons c cs ih =>
    rw [giveAll, Act.commands_bind, commands_give, Act.value_bind]
    cases hc : (Player.perform p c).refusal with
    | some e =>
      have hgive : (give p c).value = ((Player.perform p c).player, some e) := by rw [give, hc]
      have hrefused : ∀ ds, ¬ Accepts p (c :: ds) := fun ds h => by
        rw [Accepts, hc] at h
        cases h.1
      rw [hgive]
      exact ⟨⟨⟨cs, rfl⟩, trivial, .inr (hrefused [])⟩, iff_of_false nofun (hrefused cs), rfl⟩
    | none =>
      have hgive : (give p c).value = ((Player.perform p c).player, none) := by rw [give, hc]
      obtain ⟨hcut, hnone, hplayer⟩ := ih (Player.perform p c).player
      rw [hgive]
      exact ⟨hcut.cons hc, by rw [Accepts, hc]; simpa using hnone, hplayer⟩

variable [DirectPlayer π]

/-- On a command a direct player sends nothing, or it does not refuse it and sends that it does as it was told. -/
theorem events_give_cases (p : π) (c : Command) :
    (give p c).events = [] ∨ (give p c).value.2 = none ∧
      (c = .play ∧ (give p c).events = [.player (.changed .playing)] ∨
        c = .stop ∧ (give p c).events = [.player (.changed .stopped)]) := by
  rw [events_give]
  cases hreport : (Player.perform p c).report with
  | none => exact .inl rfl
  | some s =>
    obtain ⟨hnone, hcs⟩ := DirectPlayer.report_eq p c s hreport
    refine .inr ⟨hnone, hcs.imp ?_ ?_⟩
    all_goals
      rintro ⟨rfl, rfl⟩
      exact ⟨rfl, rfl⟩

/-- Commands that start something bring no news, or else none of them is refused and the news is that the player
plays. -/
theorem events_giveAll_of_starts {cs : List Command} (h : Starts cs) (p : π) :
    (giveAll p cs).events = [] ∨
      (giveAll p cs).value.2 = none ∧ (giveAll p cs).events = [.player (.changed .playing)] := by
  induction h generalizing p with
  | play =>
    rw [giveAll_singleton]
    rcases events_give_cases p .play with hnil | ⟨hnone, ⟨-, hplaying⟩ | ⟨hstop, -⟩⟩
    · exact .inl hnil
    · exact .inr ⟨hnone, hplaying⟩
    · cases hstop
  | @cons c cs hplay hstop _ ih =>
    have hnil : (give p c).events = [] :=
      (events_give_cases p c).resolve_right fun hc => hc.2.elim (fun hc => hplay hc.1) fun hc => hstop hc.1
    rw [giveAll, Act.events_bind, hnil, List.nil_append, Act.value_bind]
    split
    rename_i q refusal hq
    cases refusal with
    | some e => exact .inl rfl
    | none => exact ih q

end AlarmClock
