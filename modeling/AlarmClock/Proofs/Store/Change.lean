import AlarmClock.Store.Basic

/-! Changes of a store. A document bars a change, keeps what it has because an edit says that
it changed nothing, or is made into another one. Main statements: the store that a refused
change leaves is the one that was asked, and one that is not refused has the new document
in memory and in its file and has announced it. -/

namespace AlarmClock

/-! ### The first alarm with an identifier -/

/-- An alarm with what stands before and behind it, the first one with an identifier. -/
structure FirstWith (id : Uuid) (as before : List Alarm) (a : Alarm) (behind : List Alarm) : Prop where
  eq_append : as = before ++ a :: behind
  id_eq : a.id = id
  before_ne : ∀ b ∈ before, b.id ≠ id

namespace FirstWith

variable {id : Uuid} {as before behind : List Alarm} {a : Alarm}

theorem find?_eq (h : FirstWith id as before a behind) : as.find? (·.id = id) = some a := by
  rw [h.eq_append, List.find?_append, List.find?_eq_none.2 (by simpa using h.before_ne)]
  simp [h.id_eq]

theorem eraseP_eq (h : FirstWith id as before a behind) : as.eraseP (·.id = id) = before ++ behind := by
  rw [h.eq_append, List.eraseP_append_right _ (by simpa using h.before_ne)]
  simp [h.id_eq]

theorem replaceFirst_eq (h : FirstWith id as before a behind) (b : Alarm) :
    Document.replaceFirst id b as = before ++ b :: behind := by
  obtain ⟨rfl, hid, hbefore⟩ := h
  induction before with
  | nil => rw [List.nil_append, Document.replaceFirst, if_pos hid, List.nil_append]
  | cons c before ih =>
    obtain ⟨hc, hcs⟩ := List.forall_mem_cons.1 hbefore
    rw [List.cons_append, Document.replaceFirst, if_neg hc, ih hcs, List.cons_append]

theorem mem_ids (h : FirstWith id as before a behind) : id ∈ as.map Alarm.id := by
  rw [h.eq_append, ← h.id_eq]
  exact List.mem_map_of_mem (List.mem_append_right _ List.mem_cons_self)

theorem of_mem_ids (h : id ∈ as.map Alarm.id) : ∃ before a behind, FirstWith id as before a behind := by
  induction as with
  | nil => cases h
  | cons b as ih =>
    by_cases hb : b.id = id
    · exact ⟨[], b, as, rfl, hb, List.forall_mem_nil _⟩
    · rw [List.map_cons, List.mem_cons] at h
      obtain ⟨before, a, behind, rfl, hid, hbefore⟩ := ih (h.resolve_left (Ne.symm hb))
      exact ⟨b :: before, a, behind, rfl, hid, List.forall_mem_cons.2 ⟨hb, hbefore⟩⟩

end FirstWith

namespace Document

theorem hasAlarm_iff {d : Document} {id : Uuid} : d.hasAlarm id = true ↔ id ∈ d.alarms.map Alarm.id := by
  simp [hasAlarm, List.any_eq_true, List.mem_map]

theorem find?_eq_none_iff {d : Document} {id : Uuid} : d.find? id = none ↔ id ∉ d.alarms.map Alarm.id := by
  simp [find?, List.find?_eq_none, List.mem_map]

end Document

/-! ### Changes -/

/-- A change that a store is asked for. -/
inductive Change where
  | add (a : Alarm)
  | delete (id : Uuid)
  | update (id : Uuid) (edit : Alarm → Alarm × Bool)
  | sleepTimeout (timeout : Span)

namespace Change

/-- A store that is asked for a change. -/
def perform (s : Store) : Change → Act (Attempt Unit Store)
  | add a => s.add a
  | delete id => s.delete id
  | update id edit => s.update id edit
  | sleepTimeout timeout => s.setSleepTimeout timeout

/-- Whether a change is one of the alarms, and as such announced. -/
def ofAlarms : Change → Bool
  | sleepTimeout _ => false
  | _ => true

/-- A document bars a change, for a reason. -/
def Barred (d : Document) : Change → StoreError → Prop
  | add a, e => a.id ∈ d.alarms.map Alarm.id ∧ e = .alreadyExists a.id
  | delete id, e => id ∉ d.alarms.map Alarm.id ∧ e = .notFound id
  | update id _, e => id ∉ d.alarms.map Alarm.id ∧ e = .notFound id
  | sleepTimeout timeout, e => timeout ≤ Span.zero ∧ e = .badTimeout timeout.wholeMinutes

/-- The edit of an alarm says that it changed nothing. -/
def Kept (d : Document) : Change → Prop
  | update id edit => ∃ before a behind, FirstWith id d.alarms before a behind ∧ (edit a).2 = false
  | _ => False

/-- A change makes another document of a document. -/
def Makes (d : Document) : Change → Document → Prop
  | add a, e => a.id ∉ d.alarms.map Alarm.id ∧ e = { d with alarms := d.alarms ++ [a] }
  | delete id, e =>
    ∃ before a behind, FirstWith id d.alarms before a behind ∧ e = { d with alarms := before ++ behind }
  | update id edit, e =>
    ∃ before a behind, FirstWith id d.alarms before a behind ∧ (edit a).2 = true ∧
      e = { d with alarms := before ++ (edit a).1 :: behind }
  | sleepTimeout timeout, e => Span.zero < timeout ∧ e = { d with sleepTimeout := timeout }

theorem barred_or_kept_or_makes (d : Document) (c : Change) :
    (∃ e, c.Barred d e) ∨ c.Kept d ∨ ∃ e, c.Makes d e := by
  cases c with
  | add a =>
    by_cases h : a.id ∈ d.alarms.map Alarm.id
    · exact .inl ⟨_, h, rfl⟩
    · exact .inr (.inr ⟨_, h, rfl⟩)
  | delete id =>
    by_cases h : id ∈ d.alarms.map Alarm.id
    · obtain ⟨before, a, behind, hfirst⟩ := FirstWith.of_mem_ids h
      exact .inr (.inr ⟨_, before, a, behind, hfirst, rfl⟩)
    · exact .inl ⟨_, h, rfl⟩
  | update id edit =>
    by_cases h : id ∈ d.alarms.map Alarm.id
    · obtain ⟨before, a, behind, hfirst⟩ := FirstWith.of_mem_ids h
      cases hedit : (edit a).2 with
      | false => exact .inr (.inl ⟨before, a, behind, hfirst, hedit⟩)
      | true => exact .inr (.inr ⟨_, before, a, behind, hfirst, hedit, rfl⟩)
    · exact .inl ⟨_, h, rfl⟩
  | sleepTimeout timeout =>
    by_cases h : timeout ≤ Span.zero
    · exact .inl ⟨_, h, rfl⟩
    · exact .inr (.inr ⟨_, Int.not_le.1 h, rfl⟩)

theorem Makes.not_kept {d e : Document} {c : Change} (h : c.Makes d e) : ¬ c.Kept d := by
  cases c with
  | update id edit =>
    rintro ⟨_, a, _, hkept, hfalse⟩
    obtain ⟨_, b, _, hfirst, htrue, -⟩ := h
    have hab := hkept.find?_eq.symm.trans hfirst.find?_eq
    cases hab
    rw [hfalse] at htrue
    cases htrue
  | add _ | delete _ | sleepTimeout _ => exact id

theorem Makes.alarms_eq {d e : Document} {c : Change} (h : c.Makes d e) (hc : c.ofAlarms = false) :
    e.alarms = d.alarms := by
  cases c with
  | sleepTimeout timeout =>
    obtain ⟨-, rfl⟩ := h
    rfl
  | add _ | delete _ | update _ _ => cases hc

end Change

namespace Store

/-! ### Writing -/

/-- The store once a document is written. -/
def written (s : Store) (d : Document) : Store :=
  { s with document := d, file := s.file.map fun f => { f with content := .text d.text } }

/-- Behind the store is no file, or one that can be written. -/
def Writable (s : Store) : Prop :=
  ∀ f e, s.file = some f → f.content = .unreadable e → e.isLasting = false

theorem write_of_writable {s : Store} (h : s.Writable) (d : Document) : s.write d = ⟨.ok (), s.written d⟩ := by
  rw [write, written]
  cases hf : s.file with
  | none => rfl
  | some f =>
    cases hc : f.content with
    | text t => simp [ConfigFile.save, FileContent.write?, hc]
    | unreadable e => simp [ConfigFile.save, FileContent.write?, hc, h f e hf hc]

/-- A store either can be written, or writing fails with whatever document and leaves the store as it was. -/
theorem writable_or_barred (s : Store) :
    s.Writable ∨ ∃ f, s.file = some f ∧ ∀ d, s.write d = ⟨.error (.notWritten f.path), s⟩ := by
  cases hf : s.file with
  | none => exact .inl fun f e h => by rw [hf] at h; cases h
  | some f =>
    by_cases h : ∃ e, f.content = .unreadable e ∧ e.isLasting = true
    · obtain ⟨e, hc, he⟩ := h
      refine .inr ⟨f, rfl, fun d => ?_⟩
      have hsave : f.save d = ⟨.error (.notWritten f.path), f⟩ := by
        simp [ConfigFile.save, FileContent.write?, hc, he]
      rw [write, hf]
      simp only [hsave, ← hf]
    · refine .inl fun g e hg hc => ?_
      rw [hf] at hg
      cases hg
      exact eq_false_of_ne_true fun he => h ⟨e, hc, he⟩

/-! ### What a change does -/

variable {s : Store} {c : Change}

/-- What a store sends once a change is written. -/
def announcement (s : Store) (c : Change) : List Event :=
  if c.ofAlarms = true ∧ s.announces = true then [.alarmsChanged] else []

/-- The store that a change leaves, refused or not. -/
def after (s : Store) (c : Change) : Store := (c.perform s).value.state

/-- A copy that was changed is written, and announced only behind that. -/
theorem apply_of_changed {ofAlarms : Bool} {edit : Document → Act (Attempt Bool Document)} {d : Document}
    (hedit : (edit s.document).value = ⟨.ok true, d⟩) (hquiet : (edit s.document).events = []) :
    (s.apply ofAlarms edit).value = s.write d ∧
      (s.apply ofAlarms edit).events =
        if (s.write d).result.isOk then if ofAlarms = true ∧ s.announces = true then [.alarmsChanged] else []
        else [] := by
  simp only [apply, Act.value_bind, Act.events_bind, hedit, hquiet, List.nil_append]
  cases hwritten : s.write d with
  | mk result state =>
    cases result with
    | error e => exact ⟨rfl, rfl⟩
    | ok _ => by_cases hsent : ofAlarms = true ∧ s.announces = true <;> simp [hsent, Except.isOk, Except.toBool]

theorem perform_of_barred {e : StoreError} (h : c.Barred s.document e) :
    (c.perform s).value = ⟨.error e, s⟩ ∧ (c.perform s).events = [] := by
  cases c with
  | add a =>
    obtain ⟨ha, rfl⟩ := h
    simp [Change.perform, add, apply, Document.tryInsert, Document.hasAlarm_iff.2 ha]
  | delete id =>
    obtain ⟨hid, rfl⟩ := h
    rw [← Document.hasAlarm_iff] at hid
    simp [Change.perform, delete, apply, Document.tryRemove, hid]
  | update id edit =>
    obtain ⟨hid, rfl⟩ := h
    simp [Change.perform, update, apply, Document.tryEdit, Document.find?_eq_none_iff.2 hid]
  | sleepTimeout timeout =>
    obtain ⟨hle, rfl⟩ := h
    simp [Change.perform, setSleepTimeout, hle]

theorem perform_of_kept (h : c.Kept s.document) :
    (c.perform s).value = ⟨.ok (), s⟩ ∧ (c.perform s).events = [] := by
  cases c with
  | update id edit =>
    obtain ⟨_, a, _, hfirst, hedit⟩ := h
    have hfind : s.document.find? id = some a := hfirst.find?_eq
    simp [Change.perform, update, apply, Document.tryEdit, hfind, hedit]
  | add _ | delete _ | sleepTimeout _ => exact h.elim

/-- A change that makes another document is refused only if that cannot be written, and else is written and
announced. -/
theorem perform_of_makes {d : Document} (h : c.Makes s.document d) :
    (c.perform s).value = s.write d ∧
      (c.perform s).events = if (s.write d).result.isOk then s.announcement c else [] := by
  cases c with
  | add a =>
    obtain ⟨ha, rfl⟩ := h
    rw [← Document.hasAlarm_iff] at ha
    exact apply_of_changed (by simp [Document.tryInsert, ha, Document.insert]) (by simp [Document.tryInsert, ha])
  | delete id =>
    obtain ⟨_, a, _, hfirst, rfl⟩ := h
    have hid := Document.hasAlarm_iff.2 hfirst.mem_ids
    exact apply_of_changed (by simp [Document.tryRemove, hid, Document.remove, hfirst.eraseP_eq])
      (by simp [Document.tryRemove, hid])
  | update id edit =>
    obtain ⟨_, a, _, hfirst, hedit, rfl⟩ := h
    have hfind : s.document.find? id = some a := hfirst.find?_eq
    exact apply_of_changed (by simp [Document.tryEdit, hfind, hedit, Document.replace, hfirst.replaceFirst_eq])
      (by simp [Document.tryEdit, hfind])
  | sleepTimeout timeout =>
    obtain ⟨hlt, rfl⟩ := h
    have hpositive : ¬ timeout ≤ Span.zero := Int.not_le.2 hlt
    rw [Change.perform, setSleepTimeout, if_neg hpositive]
    exact apply_of_changed rfl rfl

/-- A change is refused by the document, or by the file after the new document is made. -/
theorem perform_eq_error_iff {e : StoreError} :
    (c.perform s).value.result = .error e ↔
      c.Barred s.document e ∨
        ¬ s.Writable ∧ (∃ d, c.Makes s.document d) ∧ ∃ f, s.file = some f ∧ e = .notWritten f.path := by
  constructor
  · intro h
    rcases c.barred_or_kept_or_makes s.document with ⟨b, hb⟩ | hk | ⟨d, hd⟩
    · rw [(perform_of_barred hb).1] at h
      cases h
      exact .inl hb
    · rw [(perform_of_kept hk).1] at h
      cases h
    · rw [(perform_of_makes hd).1] at h
      by_cases hw : s.Writable
      · rw [write_of_writable hw] at h
        cases h
      · obtain ⟨f, hf, hbarred⟩ := s.writable_or_barred.resolve_left hw
        rw [hbarred] at h
        cases h
        exact .inr ⟨hw, ⟨d, hd⟩, f, hf, rfl⟩
  · rintro (hb | ⟨hw, ⟨d, hd⟩, f, hf, rfl⟩)
    · rw [(perform_of_barred hb).1]
    · obtain ⟨g, hg, hbarred⟩ := s.writable_or_barred.resolve_left hw
      rw [hf] at hg
      cases hg
      rw [(perform_of_makes hd).1, hbarred]

/-- What is refused leaves the store as it was, also where the file refuses a copy that was edited, and sends
nothing. -/
theorem unchanged_of_error {e : StoreError} (h : (c.perform s).value.result = .error e) :
    s.after c = s ∧ (c.perform s).events = [] := by
  rw [after]
  rcases c.barred_or_kept_or_makes s.document with ⟨b, hb⟩ | hk | ⟨d, hd⟩
  · obtain ⟨hvalue, hevents⟩ := perform_of_barred hb
    rw [hvalue]
    exact ⟨rfl, hevents⟩
  · rw [(perform_of_kept hk).1] at h
    cases h
  · obtain ⟨hvalue, hevents⟩ := perform_of_makes hd
    rw [hvalue] at h ⊢
    rcases s.writable_or_barred with hw | ⟨f, -, hbarred⟩
    · rw [write_of_writable hw] at h
      cases h
    · rw [hbarred] at hevents ⊢
      exact ⟨rfl, hevents⟩

/-- A change that is not refused keeps the store or has it written. -/
theorem perform_eq_ok_iff {t : Store} :
    (c.perform s).value = ⟨.ok (), t⟩ ↔
      c.Kept s.document ∧ t = s ∨ s.Writable ∧ ∃ d, c.Makes s.document d ∧ t = s.written d := by
  constructor
  · intro h
    rcases c.barred_or_kept_or_makes s.document with ⟨b, hb⟩ | hk | ⟨d, hd⟩
    · rw [(perform_of_barred hb).1] at h
      cases h
    · rw [(perform_of_kept hk).1] at h
      cases h
      exact .inl ⟨hk, rfl⟩
    · rw [(perform_of_makes hd).1] at h
      rcases s.writable_or_barred with hw | ⟨f, -, hbarred⟩
      · rw [write_of_writable hw] at h
        cases h
        exact .inr ⟨hw, d, hd, rfl⟩
      · rw [hbarred] at h
        cases h
  · rintro (⟨hk, rfl⟩ | ⟨hw, d, hd, rfl⟩)
    · exact (perform_of_kept hk).1
    · rw [(perform_of_makes hd).1, write_of_writable hw]

theorem after_cases (s : Store) (c : Change) :
    s.after c = s ∨ ∃ d, c.Makes s.document d ∧ s.after c = s.written d := by
  cases h : (c.perform s).value with
  | mk result t =>
    cases result with
    | error e => exact .inl (unchanged_of_error (by rw [h])).1
    | ok _ =>
      rw [after, h]
      exact (perform_eq_ok_iff.1 h).imp And.right And.right

/-! ### How a change ends -/

/-- The change was refused, by the document or because the file cannot be written. The store that it leaves is the
one that was asked, and nothing was sent. -/
structure Refused (s : Store) (c : Change) : Prop where
  result_eq : ∃ e, (c.perform s).value.result = .error e ∧
    (c.Barred s.document e ∨ ¬ s.Writable ∧ ∃ f, s.file = some f ∧ e = .notWritten f.path)
  state_eq : (c.perform s).value.state = s
  events_eq : (c.perform s).events = []

/-- The edit said that it changed nothing, and nothing is kept of it. -/
structure Declined (s : Store) (c : Change) : Prop where
  kept : c.Kept s.document
  value_eq : (c.perform s).value = ⟨.ok (), s⟩
  events_eq : (c.perform s).events = []

/-- The store has the document that was to be made, so has its file, and a change of the alarms was announced once. -/
structure Committed (s : Store) (c : Change) : Prop where
  value_eq : ∃ d, c.Makes s.document d ∧ (c.perform s).value = ⟨.ok (), s.written d⟩
  events_eq : (c.perform s).events = s.announcement c

theorem refused_of_error {e : StoreError} (h : (c.perform s).value.result = .error e) : s.Refused c :=
  ⟨⟨e, h, (perform_eq_error_iff.1 h).imp_right fun hf => ⟨hf.1, hf.2.2⟩⟩, (unchanged_of_error h).1,
    (unchanged_of_error h).2⟩

theorem refused_or_declined_or_committed (s : Store) (c : Change) : s.Refused c ∨ s.Declined c ∨ s.Committed c := by
  rcases c.barred_or_kept_or_makes s.document with ⟨e, hb⟩ | hk | ⟨d, hd⟩
  · exact .inl (refused_of_error (perform_eq_error_iff.2 (.inl hb)))
  · exact .inr (.inl ⟨hk, (perform_of_kept hk).1, (perform_of_kept hk).2⟩)
  · by_cases hw : s.Writable
    · have hwrite := write_of_writable hw d
      obtain ⟨hvalue, hevents⟩ := perform_of_makes hd
      rw [hwrite] at hvalue hevents
      exact .inr (.inr ⟨⟨d, hd, hvalue⟩, hevents⟩)
    · obtain ⟨f, hf, -⟩ := s.writable_or_barred.resolve_left hw
      exact .inl (refused_of_error (perform_eq_error_iff.2 (.inr ⟨hw, ⟨d, hd⟩, f, hf, rfl⟩)))

theorem Refused.not_declined (h : s.Refused c) : ¬ s.Declined c := by
  intro hd
  obtain ⟨e, he, -⟩ := h.result_eq
  rw [hd.value_eq] at he
  cases he

theorem Refused.not_committed (h : s.Refused c) : ¬ s.Committed c := by
  intro hc
  obtain ⟨e, he, -⟩ := h.result_eq
  obtain ⟨d, -, hd⟩ := hc.value_eq
  rw [hd] at he
  cases he

theorem Declined.not_committed (h : s.Declined c) : ¬ s.Committed c := by
  intro hc
  obtain ⟨d, hd, -⟩ := hc.value_eq
  exact hd.not_kept h.kept

end Store

end AlarmClock
