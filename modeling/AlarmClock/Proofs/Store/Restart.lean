import AlarmClock.Proofs.Store.OrderedMap

/-! What survives a restart. A store behind a file writes every change, in whole minutes; it
is loaded again as it was exactly when its timeouts are positive numbers of minutes,
which neither the store nor the setters of an alarm ask for. -/

namespace AlarmClock

/-! ### Minutes -/

theorem Span.isMinutes_iff {s : Span} : s.IsMinutes ↔ 0 < s.nanos ∧ 60000000000 ∣ s.nanos := by
  constructor
  · rintro ⟨n, hn, hs⟩
    exact ⟨by omega, by omega⟩
  · rintro ⟨hpositive, n, hn⟩
    exact ⟨n, by omega, by omega⟩

instance (s : Span) : Decidable s.IsMinutes := decidable_of_iff _ Span.isMinutes_iff.symm

theorem Change.Makes.alarmTimeout_eq {c : Change} {d e : Document} (h : c.Makes d e) :
    e.alarmTimeout = d.alarmTimeout := by
  cases c with
  | add a =>
    obtain ⟨-, rfl⟩ := h
    rfl
  | delete id =>
    obtain ⟨_, _, _, -, rfl⟩ := h
    rfl
  | update id edit =>
    obtain ⟨_, _, _, -, -, rfl⟩ := h
    rfl
  | sleepTimeout timeout =>
    obtain ⟨-, rfl⟩ := h
    rfl

namespace Store

/-! ### Loading -/

theorem load_eq_ok {f : ConfigFile} {s : Store} (h : (load f).value = .ok s) :
    s.file = some f ∧ ∃ text, (Document.read text).value = .ok s.document := by
  unfold load at h
  split at h
  · cases h
  · rename_i text _
    rw [Act.value_bind] at h
    cases hread : (Document.read text).value with
    | error e =>
      rw [hread] at h
      cases h
    | ok d =>
      rw [hread] at h
      cases h
      exact ⟨rfl, text, hread⟩

theorem load_of_read {text : String} {d : Document} (h : (Document.read text).value = .ok d) (path : String) :
    (load ⟨path, .text text⟩).value = .ok { document := d, file := some ⟨path, .text text⟩ } := by
  unfold load
  rw [FileContent.read]
  dsimp only
  rw [Act.value_bind, h]
  rfl

/-- Loading the file behind a store gives its document. -/
def Survives (s : Store) : Prop :=
  ∃ f t, s.file = some f ∧ (load f).value = .ok t ∧ t.document = s.document

/-- What is loaded has timeouts in minutes, and so has what survives. -/
theorem Survives.inMinutes {s : Store} (h : s.Survives) : s.document.InMinutes := by
  obtain ⟨f, t, -, hload, hdoc⟩ := h
  obtain ⟨-, text, hread⟩ := load_eq_ok hload
  exact hdoc ▸ Document.inMinutes_of_read hread

theorem survives_written {s : Store} {f : ConfigFile} (hf : s.file = some f) {d : Document} (hd : d.InMinutes)
    (hids : (d.alarms.map Alarm.id).Nodup) (hmedia : ∀ a ∈ d.alarms, a.media.Rereads) : (s.written d).Survives := by
  have hread : (Document.read d.text).value = .ok d := by rw [hd.read_text hids hmedia]; rfl
  exact ⟨_, _, by rw [written, hf]; rfl, load_of_read hread f.path, rfl⟩

/-! ### Runs of changes -/

/-- The store after changes in order. -/
def changed (s : Store) (cs : List Change) : Store := cs.foldl after s

/-- A store with a file, an alarm timeout in minutes, and no identifier twice. -/
structure OnFile (s : Store) : Prop where
  file_eq : ∃ f, s.file = some f
  alarmTimeout : s.document.alarmTimeout.IsMinutes
  nodup_ids : (s.alarms.map Alarm.id).Nodup

theorem onFile_of_load {f : ConfigFile} {s : Store} (h : (load f).value = .ok s) : s.OnFile := by
  obtain ⟨hf, text, hread⟩ := load_eq_ok h
  exact ⟨⟨f, hf⟩, (Document.inMinutes_of_read hread).alarmTimeout, Document.nodup_of_read hread⟩

theorem OnFile.written {s : Store} {c : Change} {d : Document} (h : s.OnFile) (hd : c.Makes s.document d)
    (hc : c.BySetters) : (s.written d).OnFile := by
  obtain ⟨f, hf⟩ := h.file_eq
  exact ⟨⟨_, by rw [Store.written, hf]; rfl⟩, hd.alarmTimeout_eq ▸ h.alarmTimeout, hd.nodup hc h.nodup_ids⟩

theorem OnFile.changed {s : Store} {cs : List Change} (h : s.OnFile) (hset : ∀ c ∈ cs, c.BySetters) :
    (s.changed cs).OnFile := by
  induction cs generalizing s with
  | nil => exact h
  | cons c cs ih =>
    obtain ⟨hc, hset⟩ := List.forall_mem_cons.1 hset
    refine ih ?_ hset
    rcases s.after_cases c with ha | ⟨d, hd, ha⟩
    · rw [ha]
      exact h
    · rw [ha]
      exact h.written hd hc

/-! ### What survives -/

/-- Of a store that was loaded and changed by the setters, and whose last change was written, the file gives it
back exactly when the sleep timeout and the timeouts of all alarms are positive numbers of minutes. -/
theorem survives_iff {f : ConfigFile} {s t : Store} (cs : List Change) (c : Change)
    (hload : (load f).value = .ok s) (hset : ∀ b ∈ cs, b.BySetters) (hc : c.BySetters)
    (hdone : (c.perform (s.changed cs)).value = ⟨.ok (), t⟩)
    (hkept : ¬ c.Kept (s.changed cs).document) (hmedia : ∀ a ∈ t.alarms, a.media.Rereads) :
    t.Survives ↔ t.document.sleepTimeout.IsMinutes ∧ ∀ a ∈ t.alarms, a.timeout.IsMinutes := by
  have hfile := (onFile_of_load hload).changed hset
  obtain ⟨g, hg⟩ := hfile.file_eq
  rcases perform_eq_ok_iff.1 hdone with ⟨hk, -⟩ | ⟨-, d, hd, rfl⟩
  · exact absurd hk hkept
  · have hwritten := hfile.written hd hc
    constructor
    · intro h
      exact ⟨h.inMinutes.sleepTimeout, h.inMinutes.alarms⟩
    · rintro ⟨hsleep, halarms⟩
      exact survives_written hg ⟨hwritten.alarmTimeout, hsleep, halarms⟩ hwritten.nodup_ids hmedia

/-- Half a minute is taken as a sleep timeout, written as no minutes, and refused at the next start. -/
theorem half_minute_lost :
    ∃ s t, (load ⟨"clock.json", .text "\x7b\x7d"⟩).value = .ok s ∧
      (s.setSleepTimeout (Span.ofSeconds 30 (by decide))).value = ⟨.ok (), t⟩ ∧ ¬ t.Survives := by
  have hread : (Document.read "\x7b\x7d").value = .ok default := toOption_eq_some_iff.1 (by decide +kernel)
  refine ⟨_, _, load_of_read hread "clock.json", rfl, fun h => ?_⟩
  exact absurd h.inMinutes.sleepTimeout (by decide)

theorem ninety_minutes_survive :
    ∃ s t, (load ⟨"clock.json", .text Document.lenientText⟩).value = .ok s ∧ s.alarms.length = 1 ∧
      (s.setSleepTimeout (Span.minutes 90 (by decide))).value = ⟨.ok (), t⟩ ∧ t.Survives := by
  have hread : ((Document.read Document.lenientText).value.toOption.map fun d =>
      decide (d.alarms.length = 1 ∧ ∀ a ∈ d.alarms, a.media.Rereads ∧ a.timeout.IsMinutes)) = some true := by
    decide +kernel
  obtain ⟨d, hd, hfacts⟩ := Option.map_eq_some_iff.1 hread
  obtain ⟨hlength, halarms⟩ := of_decide_eq_true hfacts
  have hload := load_of_read (toOption_eq_some_iff.1 hd) "clock.json"
  have hninety : (Span.minutes 90 (by decide)).IsMinutes := by decide
  refine ⟨_, _, hload, hlength, rfl, ?_⟩
  refine (survives_iff [] (.sleepTimeout (Span.minutes 90 (by decide))) hload (List.forall_mem_nil _) trivial rfl id
    fun a ha => ?_).2 ⟨hninety, fun a ha => (halarms a ha).2⟩
  exact (halarms a ha).1

end Store

end AlarmClock
