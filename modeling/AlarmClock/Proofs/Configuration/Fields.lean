import AlarmClock.Configuration.Reader
import AlarmClock.Proofs.Json.Front.Values

/-! The fields of a configuration in any order. A field says the same wherever it stands, and a
field that is to stand once is read wherever no other of its name is before it. Main
statements: what is read as an object is an object of fields, and it is read as the same
configuration in every order of them. -/

namespace AlarmClock

open Json

namespace RawDocument

/-! ### Fields side by side -/

/-- No field is in both. -/
structure Apart (d u : RawDocument) : Prop where
  alarmTimeout : d.alarmTimeout = none ∨ u.alarmTimeout = none
  sleepTimeout : d.sleepTimeout = none ∨ u.sleepTimeout = none
  alarms : d.alarms = none ∨ u.alarms = none

/-- The fields of both. -/
def join (d u : RawDocument) : RawDocument :=
  ⟨d.alarmTimeout.or u.alarmTimeout, d.sleepTimeout.or u.sleepTimeout, d.alarms.or u.alarms⟩

theorem or_comm_of_none {α : Type} {x y : Option α} (h : x = none ∨ y = none) : x.or y = y.or x := by
  rcases h with rfl | rfl <;> rw [Option.none_or, Option.or_none]

theorem apart_empty (d : RawDocument) : d.Apart {} := ⟨.inr rfl, .inr rfl, .inr rfl⟩

theorem join_empty (d : RawDocument) : d.join {} = d := by
  cases d
  simp only [join, Option.or_none]

variable {d d' u v : RawDocument}

theorem Apart.symm (h : d.Apart u) : u.Apart d := ⟨h.alarmTimeout.symm, h.sleepTimeout.symm, h.alarms.symm⟩

theorem apart_join : (d.join u).Apart v ↔ d.Apart v ∧ u.Apart v := by
  have hor {α : Type} {x y z : Option α} : x.or y = none ∨ z = none ↔ (x = none ∨ z = none) ∧ (y = none ∨ z = none) := by
    rw [Option.or_eq_none_iff, and_or_right]
  constructor
  · rintro ⟨ha, hs, hv⟩
    exact ⟨⟨(hor.1 ha).1, (hor.1 hs).1, (hor.1 hv).1⟩, ⟨(hor.1 ha).2, (hor.1 hs).2, (hor.1 hv).2⟩⟩
  · rintro ⟨⟨ha, hs, hv⟩, ⟨ha', hs', hv'⟩⟩
    exact ⟨hor.2 ⟨ha, ha'⟩, hor.2 ⟨hs, hs'⟩, hor.2 ⟨hv, hv'⟩⟩

theorem join_right_comm (h : u.Apart v) : (d.join u).join v = (d.join v).join u := by
  simp only [join, Option.or_assoc, or_comm_of_none h.alarmTimeout, or_comm_of_none h.sleepTimeout,
    or_comm_of_none h.alarms]

/-! ### A field among others -/

section Frame

variable {key : String} {s r : List Char}

theorem readInto_eq_ok {α : Type} {read : List Char → Result α} {put : α → RawDocument} :
    readInto read put s = .ok (d, r) ↔ ∃ q a, readColon s = .ok q ∧ read q = .ok (a, r) ∧ put a = d := by
  unfold readInto
  cases readColon s with
  | error f => simp
  | ok q =>
    cases hread : read q with
    | error f => simp [hread]
    | ok x =>
      obtain ⟨a, r'⟩ := x
      simp only [hread, Except.ok.injEq, Prod.mk.injEq]
      constructor
      · rintro ⟨hput, rfl⟩
        exact ⟨q, a, rfl, hread, hput⟩
      · rintro ⟨q', a', rfl, hread', hput⟩
        cases hread.symm.trans hread'
        exact ⟨hput, rfl⟩

/-- A field that is to stand once is put with those that are there, unless it is among them. -/
theorem readInto_join {α : Type} {read : List Char → Result α} {put alone : α → RawDocument} {there : Option α}
    (hapart : ∀ a, d.Apart (alone a) ↔ there = none) (hput : there = none → ∀ a, d.join (alone a) = put a) :
    (if there.isSome then repeated key s else readInto read put s) = .ok (d', r) ↔
      ∃ u, readInto read alone s = .ok (u, r) ∧ d.Apart u ∧ d.join u = d' := by
  cases there with
  | some _ =>
    refine ⟨nofun, ?_⟩
    rintro ⟨u, hu, hfree, -⟩
    obtain ⟨q, a, -, -, rfl⟩ := readInto_eq_ok.1 hu
    cases (hapart a).1 hfree
  | none =>
    rw [if_neg (by simp), readInto_eq_ok]
    constructor
    · rintro ⟨q, a, hcolon, hread, rfl⟩
      exact ⟨alone a, readInto_eq_ok.2 ⟨q, a, hcolon, hread, rfl⟩, (hapart a).2 rfl, hput rfl a⟩
    · rintro ⟨u, hu, -, rfl⟩
      obtain ⟨q, a, hcolon, hread, rfl⟩ := readInto_eq_ok.1 hu
      exact ⟨q, a, hcolon, hread, (hput rfl a).symm⟩

theorem or_some_eq_none {α : Type} {x : Option α} {a : α} : x = none ∨ some a = none ↔ x = none :=
  or_iff_left nofun

/-- Reading a field into others is reading it alone and putting it with them. -/
theorem readField_eq_ok : readField d key s = .ok (d', r) ↔
    ∃ u, readField {} key s = .ok (u, r) ∧ d.Apart u ∧ d.join u = d' := by
  unfold readField
  split
  · refine readInto_join (fun n => ⟨fun h => or_some_eq_none.1 h.alarmTimeout, fun h => ?_⟩) fun h n => ?_
    · exact ⟨.inl h, .inr rfl, .inr rfl⟩
    · simp only [join, h, Option.none_or, Option.or_none]
  split
  · refine readInto_join (fun n => ⟨fun h => or_some_eq_none.1 h.sleepTimeout, fun h => ?_⟩) fun h n => ?_
    · exact ⟨.inr rfl, .inl h, .inr rfl⟩
    · simp only [join, h, Option.none_or, Option.or_none]
  split
  · refine readInto_join (fun vs => ⟨fun h => or_some_eq_none.1 h.alarms, fun h => ?_⟩) fun h vs => ?_
    · exact ⟨.inr rfl, .inr rfl, .inl h⟩
    · simp only [join, h, Option.none_or, Option.or_none]
  -- A field of another name is passed over.
  cases readColon s with
  | error f => exact ⟨nofun, nofun⟩
  | ok q =>
    dsimp only
    cases skipValue q with
    | error f => exact ⟨nofun, nofun⟩
    | ok q' =>
      constructor
      · rintro ⟨⟩
        exact ⟨{}, rfl, d.apart_empty, d.join_empty⟩
      · rintro ⟨u, ⟨⟩, -, rfl⟩
        rw [d.join_empty]
        rfl

end Frame

/-! ### A field in front of others -/

theorem readInto_fronts {α : Type} {read : List Char → Result α} (hread : Fronts read) (put : α → RawDocument) :
    Fronts (readInto read put) := by
  intro d s r h
  obtain ⟨q, a, hcolon, ha, rfl⟩ := readInto_eq_ok.1 h
  obtain ⟨b, rfl, hb⟩ := readColon_front hcolon
  obtain ⟨p, rfl, htakes⟩ := hread.exists_takes ha
  refine ⟨b ++ p, by rw [List.append_assoc], fun t ht => ?_⟩
  rw [List.append_assoc]
  exact readInto_eq_ok.2 ⟨p ++ t, a, hb _, htakes t ht, rfl⟩

/-- A field that is to stand once is taken from the front of a text if it is not there yet. -/
theorem once_fronts {there : Bool} {key : String} {read : List Char → Result RawDocument}
    (hread : Fronts read) : Fronts fun s => if there then repeated key s else read s := by
  cases there with
  | true =>
    intro d s r h
    cases h
  | false => exact hread

/-- The rest behind a field that is passed over. -/
def passField (d : RawDocument) (s : List Char) : Result RawDocument :=
  match readColon s with
  | .error f => .error f
  | .ok r => (skipValue r).map fun r => (d, r)

theorem passField_fronts (d : RawDocument) : Fronts (passField d) := by
  intro d' s r h
  cases hcolon : readColon s with
  | error f =>
    rw [passField, hcolon] at h
    cases h
  | ok q =>
    rw [passField, hcolon] at h
    dsimp only at h
    cases hskip : skipValue q with
    | error f =>
      rw [hskip] at h
      cases h
    | ok q' =>
      rw [hskip] at h
      cases h
      obtain ⟨b, rfl, hb⟩ := readColon_front hcolon
      obtain ⟨p, rfl, hp⟩ := skipValue_fromFront hskip
      refine ⟨b ++ p, by rw [List.append_assoc], fun t ht => ?_⟩
      rw [List.append_assoc, passField, hb]
      simp only [hp t ht]
      rfl

theorem readField_fronts (d : RawDocument) (key : String) : Fronts (readField d key) := by
  unfold readField
  split
  · exact once_fronts (readInto_fronts readInt64_fronts _)
  split
  · exact once_fronts (readInto_fronts readInt64_fronts _)
  split
  · exact once_fronts (readInto_fronts (readValues_fronts _) _)
  · exact passField_fronts d

/-- A text of one field, which says `u`: a key in quotes and a value up to its end, with blanks around them. -/
inductive IsField : List Char → RawDocument → Prop where
  | mk {lead q s trail : List Char} {key : String} {u : RawDocument} : Blank lead → Blank trail →
    readString q = .ok (key, s) → readField {} key s = .ok (u, []) → IsField (lead ++ '"' :: (q ++ trail)) u

/-- More fields up to the closing brace, and what stands behind it. -/
def fieldsEnd (ms : List (List Char)) (tail : List Char) : List Char := ms.flatMap (',' :: ·) ++ '\x7d' :: tail

theorem endsNumber_fieldsEnd (ms : List (List Char)) (tail : List Char) : EndsNumber (fieldsEnd ms tail) := by
  cases ms <;> exact endsNumber_cons (by decide) (by decide) (by decide) (by decide) _

/-- A field in front of something is read there if it is apart from those that are there. -/
theorem readField_behind {key : String} {s r : List Char} {u : RawDocument} (h : readField {} key s = .ok (u, []))
    (hr : EndsNumber r) (d : RawDocument) :
    (d.Apart u → readField d key (s ++ r) = .ok (d.join u, r)) ∧
      (¬d.Apart u → ∃ f, readField d key (s ++ r) = .error f) := by
  obtain ⟨p, hp, htakes⟩ := (readField_fronts {} key).exists_takes h
  have halone : readField {} key (s ++ r) = .ok (u, r) := by
    rw [hp, List.append_nil]
    exact htakes r hr
  refine ⟨fun hapart => readField_eq_ok.2 ⟨u, halone, hapart, rfl⟩, fun hapart => ?_⟩
  cases hread : readField d key (s ++ r) with
  | error f => exact ⟨f, rfl⟩
  | ok x =>
    obtain ⟨u', hu', hapart', -⟩ := readField_eq_ok.1 hread
    cases halone.symm.trans hu'
    exact absurd hapart' hapart

section Field

variable {m : List Char} {u : RawDocument}

/-- A field first or behind blanks and a comma: what it says is put with what is there, and blanks are left. -/
theorem IsField.exists_trail (hm : IsField m u) : ∃ trail, Blank trail ∧ ∀ {d : RawDocument} {r : List Char}
    {x : RawDocument × List Char}, EndsNumber r →
      (readFields readField d (m ++ r) = .ok x ↔ d.Apart u ∧ moreFields readField (d.join u) (trail ++ r) = .ok x) ∧
      ∀ b, Blank b → (moreFields readField d (b ++ ',' :: (m ++ r)) = .ok x ↔
        d.Apart u ∧ moreFields readField (d.join u) (trail ++ r) = .ok x) := by
  obtain ⟨hlead, htrail, hkey, hfield⟩ := hm
  rename_i lead q s trail key
  refine ⟨trail, htrail, fun {d r x} hr => ?_⟩
  have hfront : skipSpace (lead ++ '"' :: (q ++ trail) ++ r) = '"' :: (q ++ (trail ++ r)) := by
    rw [List.append_assoc, List.cons_append, List.append_assoc, skipSpace_blank hlead (by decide)]
  have hkey : readString (q ++ (trail ++ r)) = .ok (key, s ++ (trail ++ r)) := by
    obtain ⟨k, rfl, hk⟩ := readString_front hkey
    rw [List.append_assoc, hk]
  obtain ⟨hgood, hbad⟩ := readField_behind hfield (endsNumber_blank htrail hr) d
  by_cases hapart : d.Apart u
  · have hgood := hgood hapart
    refine ⟨?_, fun b hb => ?_⟩
    · rw [readFields_of_field hfront hkey hgood, and_iff_right hapart]
    · have hcomma := skipSpace_blank hb (show isSpace ',' = false by decide) (lead ++ '"' :: (q ++ trail) ++ r)
      rw [moreFields_of_comma hcomma hfront hkey hgood (by simp; omega), and_iff_right hapart]
  · obtain ⟨f, hbad⟩ := hbad hapart
    refine ⟨⟨fun h => ?_, fun h => absurd h.1 hapart⟩, fun b hb => ⟨fun h => ?_, fun h => absurd h.1 hapart⟩⟩
    · rw [readFields, hfront] at h
      simp only [hkey, hbad] at h
      cases h
    · rw [moreFields, skipSpace_blank hb (by decide)] at h
      simp only [hfront, hkey, hbad] at h
      cases h

end Field

/-! ### Fields in another order -/

theorem fieldsEnd_nil (tail : List Char) : fieldsEnd [] tail = '\x7d' :: tail := rfl

theorem fieldsEnd_cons (m : List Char) (ms : List (List Char)) (tail : List Char) :
    fieldsEnd (m :: ms) tail = ',' :: (m ++ fieldsEnd ms tail) := by
  rw [fieldsEnd, fieldsEnd, List.flatMap_cons, List.append_assoc]
  rfl

/-- Blanks in front of more fields are passed over. -/
theorem moreFields_blank {ms : List (List Char)} (hms : ∀ m ∈ ms, ∃ u, IsField m u) {b : List Char} (hb : Blank b)
    {d : RawDocument} {tail : List Char} {x : RawDocument × List Char} :
    moreFields readField d (b ++ fieldsEnd ms tail) = .ok x ↔ moreFields readField d (fieldsEnd ms tail) = .ok x := by
  cases ms with
  | nil =>
    rw [fieldsEnd_nil, moreFields_of_brace readField d (skipSpace_blank hb (by decide) tail),
      moreFields_of_brace readField d (skipSpace_cons (by decide) tail)]
  | cons m ms =>
    obtain ⟨u, hm⟩ := hms m List.mem_cons_self
    obtain ⟨trail, -, hstep⟩ := hm.exists_trail
    rw [fieldsEnd_cons, (hstep (endsNumber_fieldsEnd ms tail)).2 b hb]
    exact ((hstep (endsNumber_fieldsEnd ms tail)).2 [] blank_nil).symm

section Step

variable {m : List Char} {u : RawDocument} {ms : List (List Char)} {tail : List Char} {d : RawDocument}
  {x : RawDocument × List Char}

theorem readFields_cons (hm : IsField m u) (hms : ∀ m ∈ ms, ∃ u, IsField m u) :
    readFields readField d (m ++ fieldsEnd ms tail) = .ok x ↔
      d.Apart u ∧ moreFields readField (d.join u) (fieldsEnd ms tail) = .ok x := by
  obtain ⟨trail, htrail, hstep⟩ := hm.exists_trail
  rw [(hstep (endsNumber_fieldsEnd ms tail)).1, moreFields_blank hms htrail]

theorem moreFields_cons (hm : IsField m u) (hms : ∀ m ∈ ms, ∃ u, IsField m u) :
    moreFields readField d (fieldsEnd (m :: ms) tail) = .ok x ↔
      d.Apart u ∧ moreFields readField (d.join u) (fieldsEnd ms tail) = .ok x := by
  obtain ⟨trail, htrail, hstep⟩ := hm.exists_trail
  rw [← moreFields_blank hms htrail, fieldsEnd_cons]
  exact (hstep (endsNumber_fieldsEnd ms tail)).2 [] blank_nil

end Step

/-- Fields are read as the same in another order. -/
theorem moreFields_perm {ms ms' : List (List Char)} (h : ms.Perm ms') (hms : ∀ m ∈ ms, ∃ u, IsField m u)
    {tail : List Char} {x : RawDocument × List Char} {d : RawDocument}
    (hread : moreFields readField d (fieldsEnd ms tail) = .ok x) :
    moreFields readField d (fieldsEnd ms' tail) = .ok x := by
  induction h generalizing d with
  | nil => exact hread
  | cons m hperm ih =>
    obtain ⟨⟨u, hm⟩, hms⟩ := List.forall_mem_cons.1 hms
    obtain ⟨hapart, hread⟩ := (moreFields_cons hm hms).1 hread
    exact (moreFields_cons hm fun m hm => hms m (hperm.mem_iff.2 hm)).2 ⟨hapart, ih hms hread⟩
  | swap m m' ms =>
    obtain ⟨⟨u, hm⟩, hms'⟩ := List.forall_mem_cons.1 hms
    obtain ⟨⟨u', hm'⟩, hms⟩ := List.forall_mem_cons.1 hms'
    obtain ⟨hapart, hread⟩ := (moreFields_cons hm hms').1 hread
    obtain ⟨hapart', hread⟩ := (moreFields_cons hm' hms).1 hread
    obtain ⟨hdu, huu⟩ := apart_join.1 hapart'
    rw [join_right_comm huu] at hread
    refine (moreFields_cons hm' (List.forall_mem_cons.2 ⟨⟨u, hm⟩, hms⟩)).2 ⟨hdu, ?_⟩
    exact (moreFields_cons hm hms).2 ⟨apart_join.2 ⟨hapart, huu.symm⟩, hread⟩
  | trans hperm _ ih ih' => exact ih' (fun m hm => hms m (hperm.mem_iff.2 hm)) (ih hms hread)

/-- An object of fields. -/
def objectText (ms : List (List Char)) : List Char := '\x7b' :: [','].intercalate ms ++ ['\x7d']

theorem objectText_cons (m : List Char) (ms : List (List Char)) (tail : List Char) :
    objectText (m :: ms) ++ tail = '\x7b' :: (m ++ fieldsEnd ms tail) := by
  have hjoin : ∀ m, [','].intercalate (m :: ms) = m ++ ms.flatMap (',' :: ·) := by
    induction ms with
    | nil => intro m; simp [List.intercalate]
    | cons m' ms ih =>
      intro m
      rw [List.flatMap_cons, List.cons_append, ← ih]
      simp [List.intercalate]
  simp [objectText, fieldsEnd, hjoin]

/-- The fields of an object are read as the same in another order. -/
theorem readFields_perm {ms ms' : List (List Char)} (h : ms.Perm ms') (hms : ∀ m ∈ ms, ∃ u, IsField m u)
    {s tail : List Char} {x : RawDocument × List Char} (hs : objectText ms ++ tail = '\x7b' :: s)
    (hread : readFields readField {} s = .ok x) :
    ∃ s', objectText ms' ++ tail = '\x7b' :: s' ∧ readFields readField {} s' = .ok x := by
  have hms' : ∀ m ∈ ms', ∃ u, IsField m u := fun m hm => hms m (h.mem_iff.2 hm)
  cases ms with
  | nil =>
    obtain rfl := h.nil_eq
    exact ⟨s, hs, hread⟩
  | cons m ms =>
    cases ms' with
    | nil => cases h.symm.nil_eq
    | cons m' ms' =>
      obtain ⟨⟨u, hm⟩, hrest⟩ := List.forall_mem_cons.1 hms
      obtain ⟨⟨u', hm'⟩, hrest'⟩ := List.forall_mem_cons.1 hms'
      rw [objectText_cons] at hs
      cases hs
      -- The first field is read as one behind a comma is.
      have hmore := moreFields_perm h hms ((moreFields_cons hm hrest).2 ((readFields_cons hm hrest).1 hread))
      exact ⟨_, objectText_cons m' ms' tail, (readFields_cons hm' hrest').2 ((moreFields_cons hm' hrest').1 hmore)⟩

/-! ### Every object is one of fields -/

/-- What a field is taken from, with the blanks around it. -/
theorem isField_of_read {lead trail q s r : List Char} {key : String} {d d' : RawDocument} (hlead : Blank lead)
    (htrail : Blank trail) (hkey : readString q = .ok (key, s)) (hread : readField d key s = .ok (d', r)) :
    ∃ p, q = p ++ r ∧ ∃ u, IsField (lead ++ '"' :: (p ++ trail)) u := by
  obtain ⟨u, halone, -, -⟩ := readField_eq_ok.1 hread
  obtain ⟨k, rfl, hk⟩ := readString_front hkey
  obtain ⟨p, rfl, htakes⟩ := (readField_fronts {} key).exists_takes halone
  have hfield := htakes [] endsNumber_nil
  rw [List.append_nil] at hfield
  exact ⟨k ++ p, (List.append_assoc _ _ _).symm, u, .mk hlead htrail (hk p) hfield⟩

/-- More fields are fields each behind a comma, up to the closing brace. -/
theorem exists_fieldsEnd {d x : RawDocument} {s r : List Char} (h : moreFields readField d s = .ok (x, r)) :
    ∃ b ms, Blank b ∧ (∀ m ∈ ms, ∃ u, IsField m u) ∧ s = b ++ fieldsEnd ms r := by
  fun_induction moreFields readField d s with
  | case1 => cases h
  | case2 d s q hs =>
    cases h
    obtain ⟨b, hb, rfl, -⟩ := skipSpace_front hs
    exact ⟨b, [], hb, List.forall_mem_nil _, rfl⟩
  | case3 => cases h
  | case4 => cases h
  | case5 => cases h
  | case6 => cases h
  | case7 d s q hs q' hq key q'' hkey d' r' hread hlt ih =>
    obtain ⟨b, hb, rfl, -⟩ := skipSpace_front hs
    obtain ⟨lead, hlead, rfl, -⟩ := skipSpace_front hq
    obtain ⟨trail, ms, htrail, hms, rfl⟩ := ih h
    obtain ⟨p, rfl, hm⟩ := isField_of_read hlead htrail hkey hread
    refine ⟨b, (lead ++ '"' :: (p ++ trail)) :: ms, hb, List.forall_mem_cons.2 ⟨hm, hms⟩, ?_⟩
    simp only [fieldsEnd_cons, List.append_assoc, List.cons_append]
  | case8 => cases h
  | case9 => cases h
  | case10 => cases h

/-- An object has no field, or is one of fields. -/
theorem exists_objectText {x : RawDocument} {s r : List Char} (h : readFields readField {} s = .ok (x, r)) :
    x = {} ∨ ∃ ms, (∀ m ∈ ms, ∃ u, IsField m u) ∧ '\x7b' :: s = objectText ms ++ r := by
  rw [readFields.eq_def] at h
  split at h
  · cases h
  · cases h
    exact .inl rfl
  · rename_i q hs
    refine .inr ?_
    cases hkey : readString q with
    | error f =>
      rw [hkey] at h
      cases h
    | ok y =>
      rw [hkey] at h
      dsimp only at h
      cases hread : readField {} y.1 y.2 with
      | error f =>
        rw [hread] at h
        cases h
      | ok z =>
        rw [hread] at h
        obtain ⟨lead, hlead, rfl, -⟩ := skipSpace_front hs
        obtain ⟨trail, ms, htrail, hms, hz⟩ := exists_fieldsEnd h
        obtain ⟨p, rfl, hm⟩ := isField_of_read hlead htrail hkey hread
        refine ⟨(lead ++ '"' :: (p ++ trail)) :: ms, List.forall_mem_cons.2 ⟨hm, hms⟩, ?_⟩
        rw [objectText_cons, hz]
        simp only [List.append_assoc, List.cons_append]
  · cases h

/-- A text is an object of fields, with blanks in front of it and something behind it. -/
structure SplitsInto (text : String) (lead : List Char) (ms : List (List Char)) (tail : List Char) : Prop where
  blank_lead : Blank lead
  isField : ∀ m ∈ ms, ∃ u, IsField m u
  text_eq : text = String.ofList (lead ++ objectText ms ++ tail)

theorem read_of_brace {text : String} {s : List Char} (h : skipSpace text.toList = '\x7b' :: s) :
    read text = match readFields readField {} s with
      | .error f => .error f
      | .ok (d, r) => (readEnd r).map fun _ => d := by
  rw [read, h]
  rfl

/-- What is read is a list, has none of the fields, or is an object of fields. -/
theorem read_cases {text : String} {raw : RawDocument} (hread : read text = .ok raw) :
    (∃ s, skipSpace text.toList = '[' :: s) ∨ raw = {} ∨ ∃ lead ms tail, SplitsInto text lead ms tail := by
  rw [read] at hread
  split at hread
  · cases hread
  rename_i d r htop
  split at htop
  · cases htop
  · exact .inl ⟨_, ‹_›⟩
  · rename_i s hs
    refine .inr ?_
    cases hend : readEnd r with
    | error f =>
      rw [hend] at hread
      cases hread
    | ok _ =>
      rw [hend] at hread
      cases hread
      obtain hnone | ⟨ms, hms, hobject⟩ := exists_objectText htop
      · exact .inl hnone
      · obtain ⟨lead, hlead, htext, -⟩ := skipSpace_front hs
        refine .inr ⟨lead, ms, r, hlead, hms, ?_⟩
        rw [List.append_assoc, ← hobject, ← htext, String.ofList_toList]
  · exact absurd htop (readMismatch_ne_ok _ _ _)

/-- An object is read as the same configuration in every order of its fields. -/
theorem read_perm {text : String} {lead tail : List Char} {ms ms' : List (List Char)} {raw : RawDocument}
    (htext : SplitsInto text lead ms tail) (h : ms.Perm ms') (hread : read text = .ok raw) :
    read (String.ofList (lead ++ objectText ms' ++ tail)) = .ok raw := by
  obtain ⟨hlead, hms, rfl⟩ := htext
  have hbrace (ms : List (List Char)) {s : List Char} (hs : objectText ms ++ tail = '\x7b' :: s) :
      skipSpace (String.ofList (lead ++ objectText ms ++ tail)).toList = '\x7b' :: s := by
    rw [String.toList_ofList, List.append_assoc, hs, skipSpace_blank hlead (by decide)]
  obtain ⟨s, hs⟩ : ∃ s, objectText ms ++ tail = '\x7b' :: s := ⟨_, rfl⟩
  rw [read_of_brace (hbrace ms hs)] at hread
  cases hfields : readFields readField {} s with
  | error f =>
    rw [hfields] at hread
    cases hread
  | ok x =>
    rw [hfields] at hread
    obtain ⟨s', hs', hfields'⟩ := readFields_perm h hms hs hfields
    rw [read_of_brace (hbrace ms' hs'), hfields']
    exact hread

end RawDocument

end AlarmClock
