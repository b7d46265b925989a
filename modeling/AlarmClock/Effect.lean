import AlarmClock.Notice

/-! Values with what was done on the way to them: events sent, notices logged and commands
given to the player, in order. Main statement: doing one thing after another does
what the first does and then what the second does. -/

namespace AlarmClock

inductive Effect where
  | event (e : Event)
  | notice (n : Notice)
  | command (c : Command)

namespace Effect

def event? : Effect → Option Event
  | event e => some e
  | _ => none

def notice? : Effect → Option Notice
  | notice n => some n
  | _ => none

def command? : Effect → Option Command
  | command c => some c
  | _ => none

end Effect

/-- A value and the effects that came with it. -/
structure Act (α : Type) where
  value : α
  effects : List Effect := []

namespace Act

variable {α β : Type}

instance : Monad Act where
  pure a := ⟨a, []⟩
  bind x f := ⟨(f x.value).value, x.effects ++ (f x.value).effects⟩

@[simp] theorem value_pure (a : α) : (pure a : Act α).value = a := rfl

@[simp] theorem effects_pure (a : α) : (pure a : Act α).effects = [] := rfl

@[simp] theorem value_bind (x : Act α) (f : α → Act β) : (x >>= f).value = (f x.value).value := rfl

@[simp] theorem effects_bind (x : Act α) (f : α → Act β) :
    (x >>= f).effects = x.effects ++ (f x.value).effects := rfl

@[simp] theorem value_map (f : α → β) (x : Act α) : (f <$> x).value = f x.value := rfl

@[simp] theorem effects_map (f : α → β) (x : Act α) : (f <$> x).effects = x.effects := by
  show x.effects ++ [] = x.effects
  exact List.append_nil _

theorem map_eq (f : α → β) (x : Act α) : f <$> x = ⟨f x.value, x.effects⟩ := congrArg (mk _) (effects_map f x)

instance : LawfulMonad Act := LawfulMonad.mk' Act
  (fun x => by show Act.mk _ (x.effects ++ []) = x; rw [List.append_nil]; rfl)
  (fun _ _ => rfl)
  (fun _ _ _ => congrArg (Act.mk _) (List.append_assoc _ _ _))

/-- The events among the effects. -/
def events (x : Act α) : List Event := x.effects.filterMap Effect.event?

/-- The notices among the effects. -/
def notices (x : Act α) : List Notice := x.effects.filterMap Effect.notice?

/-- The commands among the effects. -/
def commands (x : Act α) : List Command := x.effects.filterMap Effect.command?

@[simp] theorem events_pure (a : α) : (pure a : Act α).events = [] := rfl

@[simp] theorem events_map (f : α → β) (x : Act α) : (f <$> x).events = x.events := by
  simp [events]

@[simp] theorem events_bind (x : Act α) (f : α → Act β) : (x >>= f).events = x.events ++ (f x.value).events := by
  simp [events]

@[simp] theorem commands_pure (a : α) : (pure a : Act α).commands = [] := rfl

@[simp] theorem commands_map (f : α → β) (x : Act α) : (f <$> x).commands = x.commands := by
  simp [commands]

@[simp] theorem commands_bind (x : Act α) (f : α → Act β) :
    (x >>= f).commands = x.commands ++ (f x.value).commands := by
  simp [commands]

theorem mem_events {x : Act α} {e : Event} : e ∈ x.events ↔ .event e ∈ x.effects := by
  rw [events, List.mem_filterMap]
  refine ⟨?_, fun h => ⟨_, h, rfl⟩⟩
  rintro ⟨f, hf, he⟩
  cases f with
  | event _ => cases he; exact hf
  | notice _ => cases he
  | command _ => cases he

theorem mem_commands {x : Act α} {c : Command} : c ∈ x.commands ↔ .command c ∈ x.effects := by
  rw [commands, List.mem_filterMap]
  refine ⟨?_, fun h => ⟨_, h, rfl⟩⟩
  rintro ⟨f, hf, hc⟩
  cases f with
  | command _ => cases hc; exact hf
  | notice _ => cases hc
  | event _ => cases hc

end Act

/-- Sends an event. -/
def emit (e : Event) : Act Unit := ⟨(), [.event e]⟩

/-- Logs a notice. -/
def note (n : Notice) : Act Unit := ⟨(), [.notice n]⟩

@[simp] theorem events_emit (e : Event) : (emit e).events = [e] := rfl

@[simp] theorem events_note (n : Notice) : (note n).events = [] := rfl

@[simp] theorem commands_emit (e : Event) : (emit e).commands = [] := rfl

@[simp] theorem commands_note (n : Notice) : (note n).commands = [] := rfl

end AlarmClock
