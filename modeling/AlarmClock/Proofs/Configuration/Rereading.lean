import AlarmClock.Configuration.Printer
import AlarmClock.Configuration.Reader
import AlarmClock.Proofs.Alarm.Entry
import AlarmClock.Proofs.Json.Values

/-! Configurations written and read again. Every document that is read has timeouts in whole
minutes and no identifier twice, and of such a document what is written is read back,
without a notice, as that document. -/

namespace AlarmClock

open Json

/-! ### The top level -/

namespace RawDocument

theorem takes_readInto {α : Type} {read : List Char → Result α} (put : α → RawDocument) {s : List Char} {a : α}
    (hblank : ∀ r, read (' ' :: r) = read r) (h : Takes read s a) :
    Takes (readInto read put) (':' :: ' ' :: s) (put a) := by
  intro r hr
  rw [List.cons_append, List.cons_append, readInto, readColon_cons]
  simp only [hblank, h r hr]

theorem takes_minutes (put : Int → RawDocument) (s : Span) (n : Nat) :
    Takes (readInto readInt64 put) (':' :: ' ' :: pretty n (.int s.wholeMinutes)) (put s.wholeMinutes) :=
  takes_readInto put readInt64_blank fun _ hr => readInt64_signed s.wholeMinutes_bounds.1 s.wholeMinutes_bounds.2 hr

end RawDocument

theorem Alarm.plain_toJson (a : Alarm) : Plain RawDocument.entryDepth a.toJson := by
  have hlevel := a.volume.level_le
  have hbounds := a.timeout.wholeMinutes_bounds
  have hkeys : ["alarmTimeout", "enabled", "id", "period", "time", "url", "volume"].Pairwise (· < ·) := by decide
  refine .obj hkeys fun f hf => ?_
  simp only [List.mem_cons, List.not_mem_nil, or_false] at hf
  rcases hf with rfl | rfl | rfl | rfl | rfl | rfl | rfl
  · exact .int _ ⟨hbounds.1, by omega⟩
  · exact .bool _ _
  · exact .str _ _
  · exact .str _ _
  · exact .str _ _
  · exact .str _ _
  · exact .int _ ⟨by omega, by omega⟩

/-- The fields of a document as they are written. -/
def Document.raw (d : Document) : RawDocument :=
  ⟨some d.alarmTimeout.wholeMinutes, some d.sleepTimeout.wholeMinutes, some (d.alarms.map Alarm.toJson)⟩

/-- What is written of a document is read as its fields. -/
theorem Document.rawRead_text (d : Document) : RawDocument.read d.text = .ok d.raw := by
  have halarms : Takes (readValues RawDocument.entryDepth) (pretty 1 (.arr (d.alarms.map Alarm.toJson)))
      (d.alarms.map Alarm.toJson) := by
    refine readValues_pretty (fun v hv => ?_) 1
    obtain ⟨a, -, rfl⟩ := List.mem_map.1 hv
    exact a.plain_toJson
  have hputs : Puts RawDocument.readField 1 {} [("AlarmTimeout", .int d.alarmTimeout.wholeMinutes),
      ("Alarms", .arr (d.alarms.map Alarm.toJson)), ("SleepTimeout", .int d.sleepTimeout.wholeMinutes)] d.raw :=
    .cons (RawDocument.takes_minutes _ _ 1) <|
      .cons (RawDocument.takes_readInto _ (readValues_blank _) halarms) <|
        .cons (RawDocument.takes_minutes _ _ 1) (.nil _)
  obtain ⟨s, hs, hread⟩ := readFields_pretty hputs
  rw [RawDocument.read, text, toJson, String.toList_ofList, hs, List.cons_append, skipSpace_cons (by decide)]
  simp only [hread]
  rfl

/-! ### Timeouts -/

theorem timeoutMinutes_wholeMinutes {s : Span} (h : s.IsMinutes) (key : String) :
    timeoutMinutes key s.wholeMinutes = .ok s := by
  have := h.wholeMinutes_pos
  rw [timeoutMinutes, if_neg (by omega), h.ofMinutes?_wholeMinutes]

theorem isMinutes_of_timeoutMinutes {key : String} {n : Int} {s : Span} (h : timeoutMinutes key n = .ok s) :
    s.IsMinutes := by
  unfold timeoutMinutes at h
  split at h
  · cases h
  · split at h
    · cases h
    · cases h
      rename_i hn _ hs
      exact Span.isMinutes_of_ofMinutes? (by omega) hs

/-! ### Entries -/

theorem Alarm.nodup_ids_concat {as : List Alarm} {a : Alarm} (h : (as.map Alarm.id).Nodup)
    (ha : a.id ∉ as.map Alarm.id) : ((as ++ [a]).map Alarm.id).Nodup := by
  rw [List.map_append, List.map_singleton, List.nodup_append]
  refine ⟨h, List.pairwise_singleton _ _, fun id hid b hb => ?_⟩
  rintro rfl
  exact ha (List.mem_singleton.1 hb ▸ hid)

section Entries

variable {defaultTimeout : Span}

theorem readEntries_of_refused {v : Json} {e : EntryError} (h : Alarm.ofJson defaultTimeout v = .error e)
    (known : List Alarm) (index : Nat) (vs : List Json) :
    readEntries defaultTimeout known index (v :: vs) =
      note (.entryRefused index e) >>= fun _ => readEntries defaultTimeout known (index + 1) vs := by
  rw [readEntries, h]

theorem readEntries_of_repeated {v : Json} {a : Alarm} {known : List Alarm} (h : Alarm.ofJson defaultTimeout v = .ok a)
    (ha : a.id ∈ known.map Alarm.id) (index : Nat) (vs : List Json) :
    readEntries defaultTimeout known index (v :: vs) =
      note (.entryRepeated index a.id) >>= fun _ => readEntries defaultTimeout known (index + 1) vs := by
  obtain ⟨b, hb, hid⟩ := List.mem_map.1 ha
  rw [readEntries, h]
  exact if_pos (List.any_eq_true.2 ⟨b, hb, decide_eq_true hid⟩)

theorem readEntries_of_new {v : Json} {a : Alarm} {known : List Alarm} (h : Alarm.ofJson defaultTimeout v = .ok a)
    (ha : a.id ∉ known.map Alarm.id) (index : Nat) (vs : List Json) :
    readEntries defaultTimeout known index (v :: vs) =
      readEntries defaultTimeout (known ++ [a]) (index + 1) vs := by
  rw [readEntries, h]
  refine if_neg fun hany => ha ?_
  obtain ⟨b, hb, hid⟩ := List.any_eq_true.1 hany
  exact List.mem_map.2 ⟨b, hb, of_decide_eq_true hid⟩

/-- What holds of the alarms known at first, and is kept by one that is read and has a new identifier,
holds of all alarms that are read. -/
theorem readEntries_induction {P : List Alarm → Prop}
    (hstep : ∀ known v a, P known → Alarm.ofJson defaultTimeout v = .ok a → a.id ∉ known.map Alarm.id →
      P (known ++ [a]))
    {known : List Alarm} (hknown : P known) (index : Nat) (vs : List Json) :
    P (readEntries defaultTimeout known index vs).value := by
  induction vs generalizing known index with
  | nil => exact hknown
  | cons v vs ih =>
    cases h : Alarm.ofJson defaultTimeout v with
    | error e =>
      rw [readEntries_of_refused h, Act.value_bind]
      exact ih hknown _
    | ok a =>
      by_cases ha : a.id ∈ known.map Alarm.id
      · rw [readEntries_of_repeated h ha, Act.value_bind]
        exact ih hknown _
      · rw [readEntries_of_new h ha]
        exact ih (hstep known v a hknown h ha) _

/-- Alarms that are written are read behind those already known, with no notice. -/
theorem readEntries_toJson (known : List Alarm) {as : List Alarm} (hids : ((known ++ as).map Alarm.id).Nodup)
    (htimeout : ∀ a ∈ as, a.timeout.IsMinutes) (hmedia : ∀ a ∈ as, a.media.Rereads) (index : Nat) :
    readEntries defaultTimeout known index (as.map Alarm.toJson) = pure (known ++ as) := by
  induction as generalizing known index with
  | nil => rw [List.append_nil, List.map_nil, readEntries]
  | cons a as ih =>
    obtain ⟨hta, htas⟩ := List.forall_mem_cons.1 htimeout
    obtain ⟨hma, hmas⟩ := List.forall_mem_cons.1 hmedia
    have hnew : a.id ∉ known.map Alarm.id := by
      rw [List.map_append, List.nodup_append] at hids
      exact fun h => hids.2.2 a.id h a.id (List.mem_map_of_mem List.mem_cons_self) rfl
    rw [List.append_cons] at hids ⊢
    rw [List.map_cons, readEntries_of_new (Alarm.ofJson_toJson defaultTimeout hta hma) hnew]
    exact ih _ hids htas hmas _

end Entries

/-! ### Documents -/

namespace Document

/-- The timeouts of a document are numbers of minutes. -/
structure InMinutes (d : Document) : Prop where
  alarmTimeout : d.alarmTimeout.IsMinutes
  sleepTimeout : d.sleepTimeout.IsMinutes
  alarms : ∀ a ∈ d.alarms, a.timeout.IsMinutes

theorem ofRaw_eq_ok {raw : RawDocument} {d : Document} (h : (ofRaw raw).value = .ok d) :
    timeoutMinutes "AlarmTimeout" (raw.alarmTimeout.getD defaultAlarmMinutes) = .ok d.alarmTimeout ∧
      timeoutMinutes "SleepTimeout" (raw.sleepTimeout.getD defaultSleepMinutes) = .ok d.sleepTimeout ∧
        d.alarms = (readEntries d.alarmTimeout [] 0 (raw.alarms.getD [])).value := by
  unfold ofRaw at h
  split at h
  · cases h
  · split at h
    · cases h
    · cases h
      exact ⟨‹_›, ‹_›, rfl⟩

theorem read_eq_ok {t : String} {d : Document} (h : (read t).value = .ok d) :
    ∃ raw, RawDocument.read t = .ok raw ∧ (ofRaw raw).value = .ok d := by
  unfold read at h
  split at h
  · cases h
  · exact ⟨_, ‹_›, h⟩

/-- A document that is read has timeouts in whole minutes. -/
theorem inMinutes_of_read {t : String} {d : Document} (h : (read t).value = .ok d) : d.InMinutes := by
  obtain ⟨raw, -, hraw⟩ := read_eq_ok h
  obtain ⟨halarm, hsleep, hentries⟩ := ofRaw_eq_ok hraw
  have hdefault := isMinutes_of_timeoutMinutes halarm
  refine ⟨hdefault, isMinutes_of_timeoutMinutes hsleep, ?_⟩
  rw [hentries]
  refine readEntries_induction (P := fun as => ∀ a ∈ as, a.timeout.IsMinutes) ?_ (List.forall_mem_nil _) _ _
  intro known v a hknown hv _ b hb
  rcases List.mem_append.1 hb with hb | hb
  · exact hknown b hb
  · rw [List.mem_singleton.1 hb]
    exact Alarm.isMinutes_of_ofJson hdefault hv

/-- In a document that is read no identifier stands twice. -/
theorem nodup_of_read {t : String} {d : Document} (h : (read t).value = .ok d) : (d.alarms.map Alarm.id).Nodup := by
  obtain ⟨raw, -, hraw⟩ := read_eq_ok h
  rw [(ofRaw_eq_ok hraw).2.2]
  have hnil : (([] : List Alarm).map Alarm.id).Nodup := List.nodup_nil
  refine readEntries_induction (P := fun as => (as.map Alarm.id).Nodup) ?_ hnil _ _
  intro known v a hknown _ ha
  exact Alarm.nodup_ids_concat hknown ha

/-- A document in whole minutes is read back from what is written of it. -/
theorem InMinutes.read_text {d : Document} (h : d.InMinutes) (hids : (d.alarms.map Alarm.id).Nodup)
    (hmedia : ∀ a ∈ d.alarms, a.media.Rereads) : Document.read d.text = pure (.ok d) := by
  have hentries : readEntries d.alarmTimeout [] 0 (d.alarms.map Alarm.toJson) = pure d.alarms :=
    readEntries_toJson [] hids h.alarms hmedia 0
  rw [Document.read, d.rawRead_text]
  simp only [ofRaw, raw, Option.getD_some, timeoutMinutes_wholeMinutes h.alarmTimeout,
    timeoutMinutes_wholeMinutes h.sleepTimeout, hentries]
  rfl

/-- Writing a document that was read, and reading that, gives the document again without a notice. -/
theorem read_text_of_read {t : String} {d : Document} (h : (read t).value = .ok d)
    (hmedia : ∀ a ∈ d.alarms, a.media.Rereads) : read d.text = pure (.ok d) :=
  (inMinutes_of_read h).read_text (nodup_of_read h) hmedia

/-- A configuration that is not written as this library writes one: an entry in list form with a loud volume and
blanks, one that is no alarm, and no timeouts. -/
def lenientText : String :=
  "\x7b\"Alarms\": [[\"11111111111111111111111111111111\", \" DAILY\", \"8:45 \", \"FILE:///bell\", true, 250]" ++
    ", null]\x7d"

theorem read_text_of_lenientText :
    ∃ d, (read lenientText).value = .ok d ∧ (∀ a ∈ d.alarms, a.media.Rereads) ∧
      d.alarms.map (·.volume.level) = [100] ∧ read d.text = pure (.ok d) := by
  have hread : ((read lenientText).value.toOption.map fun d =>
      decide ((∀ a ∈ d.alarms, a.media.Rereads) ∧ d.alarms.map (·.volume.level) = [100])) = some true := by
    decide +kernel
  obtain ⟨d, hd, hfacts⟩ := Option.map_eq_some_iff.1 hread
  obtain ⟨hmedia, hlevel⟩ := of_decide_eq_true hfacts
  have hd := toOption_eq_some_iff.1 hd
  exact ⟨d, hd, hmedia, hlevel, read_text_of_read hd hmedia⟩

end Document

end AlarmClock
