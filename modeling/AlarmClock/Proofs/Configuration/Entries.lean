import AlarmClock.Proofs.Configuration.Fields
import AlarmClock.Proofs.Configuration.Rereading

/-! What becomes of each entry of a configuration. An entry is an alarm, or it is a notice if
it is refused or an entry before it was read with its identifier. Nothing else counts:
entries that are notices can be taken out, and the fields can stand in any order. -/

namespace AlarmClock

open Json

/-! ### Verdicts -/

/-- The identifier that an entry is read with. -/
def Alarm.readId? (defaultTimeout : Span) (v : Json) : Option Uuid :=
  (ofJson defaultTimeout v).toOption.map Alarm.id

/-- One of the entries is read with the identifier. -/
def Taken (defaultTimeout : Span) (before : List Json) (id : Uuid) : Prop :=
  ∃ v ∈ before, Alarm.readId? defaultTimeout v = some id

instance (defaultTimeout : Span) (before : List Json) (id : Uuid) : Decidable (Taken defaultTimeout before id) :=
  inferInstanceAs (Decidable (∃ v ∈ before, Alarm.readId? defaultTimeout v = some id))

/-- What becomes of an entry behind others: an alarm, or a notice with its place. -/
def verdict (defaultTimeout : Span) (before : List Json) (v : Json) : Except Notice Alarm :=
  match Alarm.ofJson defaultTimeout v with
  | .error e => .error (.entryRefused before.length e)
  | .ok a => if Taken defaultTimeout before a.id then .error (.entryRepeated before.length a.id) else .ok a

/-- What becomes of each of some entries that stand behind others. -/
def verdicts (defaultTimeout : Span) (before : List Json) : List Json → List (Except Notice Alarm)
  | [] => []
  | v :: vs => verdict defaultTimeout before v :: verdicts defaultTimeout (before ++ [v]) vs

/-- The alarms among verdicts. -/
def alarmsOf (xs : List (Except Notice Alarm)) : List Alarm := xs.filterMap Except.toOption

theorem alarmsOf_cons (x : Except Notice Alarm) (xs : List (Except Notice Alarm)) :
    alarmsOf (x :: xs) = x.toOption.toList ++ alarmsOf xs := by
  cases x <;> rfl

/-- The notices among verdicts. -/
def noticesOf (xs : List (Except Notice Alarm)) : List Notice :=
  xs.filterMap fun x => match x with
    | .error n => some n
    | .ok _ => none

section Verdicts

variable {defaultTimeout : Span} {before : List Json} {v : Json}

theorem taken_concat {id : Uuid} : Taken defaultTimeout (before ++ [v]) id ↔
    Taken defaultTimeout before id ∨ Alarm.readId? defaultTimeout v = some id := by
  simp only [Taken, List.mem_append, List.mem_singleton, or_and_right, exists_or, exists_eq_left]

theorem readId?_of_refused {e : EntryError} (h : Alarm.ofJson defaultTimeout v = .error e) :
    Alarm.readId? defaultTimeout v = none := by
  rw [Alarm.readId?, h]
  rfl

theorem readId?_of_read {a : Alarm} (h : Alarm.ofJson defaultTimeout v = .ok a) :
    Alarm.readId? defaultTimeout v = some a.id := by
  rw [Alarm.readId?, h]
  rfl

theorem verdict_of_refused {e : EntryError} (h : Alarm.ofJson defaultTimeout v = .error e) :
    verdict defaultTimeout before v = .error (.entryRefused before.length e) := by
  rw [verdict, h]

theorem verdict_of_taken {a : Alarm} (h : Alarm.ofJson defaultTimeout v = .ok a)
    (ha : Taken defaultTimeout before a.id) :
    verdict defaultTimeout before v = .error (.entryRepeated before.length a.id) := by
  rw [verdict, h]
  exact if_pos ha

theorem verdict_of_not_taken {a : Alarm} (h : Alarm.ofJson defaultTimeout v = .ok a)
    (ha : ¬Taken defaultTimeout before a.id) : verdict defaultTimeout before v = .ok a := by
  rw [verdict, h]
  exact if_neg ha

/-- An entry is refused, is read with an identifier that is taken, or is read as an alarm of its own. -/
theorem verdict_cases (defaultTimeout : Span) (before : List Json) (v : Json) :
    (∃ e, Alarm.ofJson defaultTimeout v = .error e ∧
        verdict defaultTimeout before v = .error (.entryRefused before.length e)) ∨
      (∃ a, Alarm.ofJson defaultTimeout v = .ok a ∧ Taken defaultTimeout before a.id ∧
        verdict defaultTimeout before v = .error (.entryRepeated before.length a.id)) ∨
      ∃ a, Alarm.ofJson defaultTimeout v = .ok a ∧ ¬Taken defaultTimeout before a.id ∧
        verdict defaultTimeout before v = .ok a := by
  cases h : Alarm.ofJson defaultTimeout v with
  | error e => exact .inl ⟨e, rfl, verdict_of_refused h⟩
  | ok a =>
    by_cases ha : Taken defaultTimeout before a.id
    · exact .inr (.inl ⟨a, rfl, ha, verdict_of_taken h ha⟩)
    · exact .inr (.inr ⟨a, rfl, ha, verdict_of_not_taken h ha⟩)

theorem ofJson_of_verdict {a : Alarm} (h : verdict defaultTimeout before v = .ok a) :
    Alarm.ofJson defaultTimeout v = .ok a := by
  obtain ⟨e, -, hv⟩ | ⟨b, -, -, hv⟩ | ⟨b, hread, -, hv⟩ := verdict_cases defaultTimeout before v
  · cases hv.symm.trans h
  · cases hv.symm.trans h
  · cases hv.symm.trans h
    exact hread

/-- An entry that is a notice takes no identifier. -/
theorem taken_concat_of_notice {n : Notice} (h : verdict defaultTimeout before v = .error n) {id : Uuid} :
    Taken defaultTimeout (before ++ [v]) id ↔ Taken defaultTimeout before id := by
  rw [taken_concat]
  refine or_iff_left_of_imp fun hid => ?_
  obtain ⟨e, hread, -⟩ | ⟨a, hread, ha, -⟩ | ⟨a, -, -, hv⟩ := verdict_cases defaultTimeout before v
  · cases (readId?_of_refused hread).symm.trans hid
  · exact Option.some.inj ((readId?_of_read hread).symm.trans hid) ▸ ha
  · cases hv.symm.trans h

/-- The identifiers taken are those of the alarms. -/
theorem taken_append (before vs : List Json) {id : Uuid} : Taken defaultTimeout (before ++ vs) id ↔
    Taken defaultTimeout before id ∨ id ∈ (alarmsOf (verdicts defaultTimeout before vs)).map Alarm.id := by
  induction vs generalizing before with
  | nil =>
    rw [List.append_nil, verdicts, alarmsOf, List.filterMap_nil, List.map_nil]
    exact (or_iff_left List.not_mem_nil).symm
  | cons v vs ih =>
    rw [List.append_cons, ih, verdicts, alarmsOf_cons, List.map_append, List.mem_append, ← or_assoc]
    refine or_congr_left ?_
    cases hverdict : verdict defaultTimeout before v with
    | error n => exact (taken_concat_of_notice hverdict).trans (or_iff_left List.not_mem_nil).symm
    | ok a =>
      rw [taken_concat, readId?_of_read (ofJson_of_verdict hverdict), Option.some_inj, eq_comm]
      exact or_congr_right List.mem_singleton.symm

/-- A notice about an entry is a warning that names the place of the entry. -/
theorem warns_of_verdict {n : Notice} (h : verdict defaultTimeout before v = .error n) :
    n.severity = .warn ∧ ∃ reason, n.text = s!"skipping alarm #{before.length}: " ++ reason := by
  obtain ⟨e, -, hv⟩ | ⟨a, -, -, hv⟩ | ⟨a, -, -, hv⟩ := verdict_cases defaultTimeout before v
  · cases hv.symm.trans h
    exact ⟨rfl, e.message, rfl⟩
  · cases hv.symm.trans h
    have htext : (Notice.entryRepeated before.length a.id).text =
        s!"skipping alarm #{before.length}: duplicate alarm id {a.id}" := rfl
    have hsplit : toString ": duplicate alarm id " = toString ": " ++ toString "duplicate alarm id " := rfl
    refine ⟨rfl, s!"duplicate alarm id {a.id}", ?_⟩
    rw [htext, hsplit]
    simp only [String.append_assoc]
  · cases hv.symm.trans h

end Verdicts

/-! ### Reading by verdicts -/

/-- The alarms and notices of entries are those of their verdicts, when the identifiers known are those taken. -/
theorem readEntries_eq (defaultTimeout : Span) {before : List Json} {known : List Alarm}
    (hknown : ∀ id, id ∈ known.map Alarm.id ↔ Taken defaultTimeout before id) (vs : List Json) :
    readEntries defaultTimeout known before.length vs =
      ⟨known ++ alarmsOf (verdicts defaultTimeout before vs),
        (noticesOf (verdicts defaultTimeout before vs)).map .notice⟩ := by
  induction vs generalizing before known with
  | nil => rw [readEntries, verdicts, alarmsOf, List.filterMap_nil, List.append_nil]; rfl
  | cons v vs ih =>
    have hlength : before.length + 1 = (before ++ [v]).length := by rw [List.length_append, List.length_singleton]
    obtain ⟨e, hread, hv⟩ | ⟨a, hread, ha, hv⟩ | ⟨a, hread, ha, hv⟩ := verdict_cases defaultTimeout before v
    · rw [readEntries_of_refused hread, hlength, ih fun id => (hknown id).trans (taken_concat_of_notice hv).symm,
        verdicts, hv]
      rfl
    · rw [readEntries_of_repeated hread ((hknown _).2 ha), hlength,
        ih fun id => (hknown id).trans (taken_concat_of_notice hv).symm, verdicts, hv]
      rfl
    · have hmore (id : Uuid) : id ∈ (known ++ [a]).map Alarm.id ↔ Taken defaultTimeout (before ++ [v]) id := by
        rw [List.map_append, List.mem_append, hknown, taken_concat, readId?_of_read hread, Option.some_inj,
          List.map_singleton, List.mem_singleton, eq_comm (a := id)]
      rw [readEntries_of_new hread (mt (hknown _).1 ha), hlength, ih hmore, verdicts, hv, List.append_assoc]
      rfl

/-! ### Entries that are taken out -/

/-- Some entries behind others, with and without some that are notices. -/
inductive Thinned (defaultTimeout : Span) : List Json → List Json → List Json → Prop where
  | nil (before : List Json) : Thinned defaultTimeout before [] []
  | keep {before vs ws : List Json} {v : Json} :
    Thinned defaultTimeout (before ++ [v]) vs ws → Thinned defaultTimeout before (v :: vs) (v :: ws)
  | drop {before vs ws : List Json} {v : Json} {n : Notice} : verdict defaultTimeout before v = .error n →
    Thinned defaultTimeout (before ++ [v]) vs ws → Thinned defaultTimeout before (v :: vs) ws

section Thinned

variable {defaultTimeout : Span} {before before' : List Json} {v : Json}

/-- The alarm of an entry depends on the identifiers that are taken. -/
theorem toOption_verdict (hsame : ∀ id, Taken defaultTimeout before id ↔ Taken defaultTimeout before' id) (v : Json) :
    (verdict defaultTimeout before v).toOption = (verdict defaultTimeout before' v).toOption := by
  cases hread : Alarm.ofJson defaultTimeout v with
  | error e => rw [verdict_of_refused hread, verdict_of_refused hread]; rfl
  | ok a =>
    by_cases ha : Taken defaultTimeout before a.id
    · rw [verdict_of_taken hread ha, verdict_of_taken hread ((hsame _).1 ha)]
      rfl
    · rw [verdict_of_not_taken hread ha, verdict_of_not_taken hread (mt (hsame _).2 ha)]

/-- Entries without some that are notices give the same alarms, where the same identifiers are taken. -/
theorem Thinned.alarmsOf_verdicts {vs ws : List Json} (h : Thinned defaultTimeout before vs ws)
    (hsame : ∀ id, Taken defaultTimeout before id ↔ Taken defaultTimeout before' id) :
    alarmsOf (verdicts defaultTimeout before vs) = alarmsOf (verdicts defaultTimeout before' ws) := by
  induction h generalizing before' with
  | nil => rfl
  | @keep before vs ws v _ ih =>
    have hsame' (id : Uuid) : Taken defaultTimeout (before ++ [v]) id ↔ Taken defaultTimeout (before' ++ [v]) id := by
      rw [taken_concat, taken_concat, hsame]
    rw [verdicts, verdicts, alarmsOf_cons, alarmsOf_cons, toOption_verdict hsame, ih hsame']
  | drop hnotice _ ih =>
    rw [verdicts, hnotice]
    exact ih fun id => (taken_concat_of_notice hnotice).trans (hsame id)

end Thinned

/-! ### Documents -/

namespace RawDocument

/-- The entries of a configuration, none if it does not name them. -/
def entries (raw : RawDocument) : List Json := raw.alarms.getD []

/-- The timeouts of a configuration are valid and are these. -/
def HasTimeouts (raw : RawDocument) (alarmTimeout sleepTimeout : Span) : Prop :=
  timeoutMinutes "AlarmTimeout" (raw.alarmTimeout.getD Document.defaultAlarmMinutes) = .ok alarmTimeout ∧
    timeoutMinutes "SleepTimeout" (raw.sleepTimeout.getD Document.defaultSleepMinutes) = .ok sleepTimeout

/-- A field without blanks around it is known by reading it. -/
theorem exists_isField {q : List Char} (h : ((readString q).toOption.bind fun x =>
    (readField {} x.1 x.2).toOption.map Prod.snd) = some []) : ∃ u, IsField ('"' :: q) u := by
  obtain ⟨⟨key, s⟩, hkey, h⟩ := Option.bind_eq_some_iff.1 h
  obtain ⟨⟨u, r⟩, hfield, rfl⟩ := Option.map_eq_some_iff.1 h
  have hfield : IsField ([] ++ '"' :: (q ++ [])) u :=
    .mk nofun nofun (toOption_eq_some_iff.1 hkey) (toOption_eq_some_iff.1 hfield)
  rw [List.append_nil] at hfield
  exact ⟨u, hfield⟩

end RawDocument

namespace Document

theorem read_eq {text : String} {raw : RawDocument} {alarmTimeout sleepTimeout : Span}
    (hraw : RawDocument.read text = .ok raw) (htimeouts : raw.HasTimeouts alarmTimeout sleepTimeout) :
    read text = ⟨.ok ⟨alarmTimeout, sleepTimeout, alarmsOf (verdicts alarmTimeout [] raw.entries)⟩,
      (noticesOf (verdicts alarmTimeout [] raw.entries)).map .notice⟩ := by
  have hnone (id : Uuid) : id ∈ ([] : List Alarm).map Alarm.id ↔ Taken alarmTimeout [] id :=
    ⟨nofun, fun ⟨v, hv, _⟩ => nomatch hv⟩
  have hentries := readEntries_eq alarmTimeout hnone raw.entries
  rw [List.length_nil, List.nil_append, RawDocument.entries] at hentries
  rw [read, hraw, RawDocument.entries]
  simp only [ofRaw, htimeouts.1, htimeouts.2, hentries]
  exact congrArg (Act.mk _) (List.append_nil _)

/-- What is read is what the verdicts on the entries say, with no identifier twice. An identifier
is taken by an alarm and by nothing else, and what is no alarm is a warning with its place. Taking
out or putting in entries that are notices does not change the document. And a configuration that
is not a list and names any of its fields is an object of fields, whose order changes nothing. -/
theorem reads_each_entry {text : String} {raw : RawDocument} {alarmTimeout sleepTimeout : Span}
    (hraw : RawDocument.read text = .ok raw) (htimeouts : raw.HasTimeouts alarmTimeout sleepTimeout) :
    read text = ⟨.ok ⟨alarmTimeout, sleepTimeout, alarmsOf (verdicts alarmTimeout [] raw.entries)⟩,
        (noticesOf (verdicts alarmTimeout [] raw.entries)).map .notice⟩ ∧
      ((alarmsOf (verdicts alarmTimeout [] raw.entries)).map Alarm.id).Nodup ∧
      (∀ before v behind, raw.entries = before ++ v :: behind →
        (∀ id, Taken alarmTimeout before id ↔ id ∈ (alarmsOf (verdicts alarmTimeout [] before)).map Alarm.id) ∧
          ∀ n, verdict alarmTimeout before v = .error n →
            n.severity = .warn ∧ ∃ reason, n.text = s!"skipping alarm #{before.length}: " ++ reason) ∧
      (∀ text' raw', RawDocument.read text' = .ok raw' → raw'.HasTimeouts alarmTimeout sleepTimeout →
        Thinned alarmTimeout [] raw.entries raw'.entries ∨ Thinned alarmTimeout [] raw'.entries raw.entries →
          (read text').value = (read text).value) ∧
      ((∃ s, skipSpace text.toList = '[' :: s) ∨ raw = {} ∨
        ∃ lead ms tail, RawDocument.SplitsInto text lead ms tail) ∧
      ∀ lead ms ms' tail, RawDocument.SplitsInto text lead ms tail → ms.Perm ms' →
        read (String.ofList (lead ++ RawDocument.objectText ms' ++ tail)) = read text := by
  have hread := read_eq hraw htimeouts
  have hvalue : (read text).value = .ok _ := congrArg Act.value hread
  refine ⟨hread, nodup_of_read hvalue, fun before v behind _ => ⟨fun id => ?_, fun n hn => warns_of_verdict hn⟩,
    fun text' raw' hraw' htimeouts' hthinned => ?_, RawDocument.read_cases hraw,
    fun lead ms ms' tail hsplits hperm => ?_⟩
  · exact (taken_append [] before).trans (or_iff_right fun ⟨v, hv, _⟩ => nomatch hv)
  · rw [read_eq hraw' htimeouts', hread]
    rcases hthinned with h | h
    · rw [h.alarmsOf_verdicts fun _ => Iff.rfl]
    · rw [h.alarmsOf_verdicts fun _ => Iff.rfl]
  · rw [hread, read_eq (RawDocument.read_perm hsplits hperm hraw) htimeouts]

/-- An entry with one digit for its identifier, in list form. -/
def entryText (digit : Char) (url time : String) : List Char :=
  "[\"".toList ++ List.replicate 32 digit ++ "\",\"daily\",\"".toList ++ time.toList ++ "\",\"".toList ++ url.toList ++
    "\"]".toList

/-- No entry at all, one with a bad address, and two more with the identifier of that one. -/
def mixedFields : List (List Char) :=
  ["\"Alarms\":[".toList ++ [','].intercalate ["0".toList, entryText '1' "b" "8:45", entryText '1' "a:b" "8:45",
    entryText '1' "a:b" "9:00"] ++ [']'], "\"AlarmTimeout\":45".toList]

theorem reads_each_entry_of_mixture :
    ∃ raw alarmTimeout sleepTimeout, RawDocument.read (String.ofList (RawDocument.objectText mixedFields)) = .ok raw ∧
      raw.HasTimeouts alarmTimeout sleepTimeout ∧
      (verdicts alarmTimeout [] raw.entries).map (·.toOption.map (·.time.index)) = [none, none, some 525, none] ∧
      (read (String.ofList (RawDocument.objectText mixedFields))).value =
        .ok ⟨alarmTimeout, sleepTimeout, alarmsOf (verdicts alarmTimeout [] raw.entries)⟩ ∧
      read (String.ofList (RawDocument.objectText mixedFields.reverse)) =
        read (String.ofList (RawDocument.objectText mixedFields)) := by
  have hread : ((RawDocument.read (String.ofList (RawDocument.objectText mixedFields))).toOption.map fun raw =>
      decide (raw.alarmTimeout = some 45 ∧ raw.sleepTimeout = none ∧
        (verdicts (Span.minutes 45 (by decide)) [] raw.entries).map (·.toOption.map (·.time.index)) =
          [none, none, some 525, none])) = some true := by
    decide +kernel
  obtain ⟨raw, hraw, hfacts⟩ := Option.map_eq_some_iff.1 hread
  obtain ⟨halarm, hsleep, hverdicts⟩ := of_decide_eq_true hfacts
  have hraw := toOption_eq_some_iff.1 hraw
  have htimeouts : raw.HasTimeouts (Span.minutes 45 (by decide)) (Span.minutes 60 (by decide)) := by
    rw [RawDocument.HasTimeouts, halarm, hsleep]
    exact ⟨toOption_eq_some_iff.1 (by decide +kernel), toOption_eq_some_iff.1 (by decide +kernel)⟩
  have hsplits : RawDocument.SplitsInto (String.ofList (RawDocument.objectText mixedFields)) [] mixedFields [] := by
    refine ⟨blank_nil, List.forall_mem_cons.2 ⟨?_, List.forall_mem_singleton.2 ?_⟩, ?_⟩
    · exact RawDocument.exists_isField (by decide +kernel)
    · exact RawDocument.exists_isField (by decide +kernel)
    · rw [List.nil_append, List.append_nil]
  obtain ⟨hall, -, -, -, -, horder⟩ := reads_each_entry hraw htimeouts
  refine ⟨raw, _, _, hraw, htimeouts, hverdicts, congrArg Act.value hall, ?_⟩
  have hswapped := horder [] _ _ [] hsplits (List.reverse_perm mixedFields).symm
  rwa [List.nil_append, List.append_nil] at hswapped

end Document

end AlarmClock
