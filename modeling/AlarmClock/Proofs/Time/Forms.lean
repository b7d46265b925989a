import AlarmClock.Proofs.Time.Civil
import AlarmClock.Proofs.Time.Pieces

/-! The three written forms of a date-time. Each is read back as the instant that was written, whatever blanks
stand around it. Main statement: a text has one of the forms at most, as they part at the character
behind the date or behind the minute, so what is read does not depend on their order. -/

namespace AlarmClock

open Text

/-! ### Reading what is written -/

theorem readPieces_dateChars (d : Date) (ps : List TimePiece) (r : List Char) :
    readPieces (datePieces ++ ps) {} (d.chars ++ r) =
      readPieces ps { year := d.civil.year, month := d.civil.month, day := d.civil.day } r := by
  have hyear := d.year_bounds
  have hmonth := d.month_bounds
  have hday := d.dayOfMonth_bounds
  rw [Date.chars, List.append_assoc, List.cons_append, List.append_assoc, List.cons_append]
  have hm := readPieces_padded (f := .month) (by decide) (n := d.civil.month) (by simp only [TimeField.range]; omega)
  have hd := readPieces_padded (f := .day) (by decide) (n := d.civil.day) (by simp only [TimeField.range]; omega)
  change readPieces (.number .year :: .mark '-' :: .number .month :: .mark '-' :: .number .day :: ps) {} _ = _
  rw [readPieces_yearChars (by omega) (by decide), readPieces_mark, hm, readPieces_mark, hd]
  rfl

namespace TimeOfDay

/-- A time of day without a fraction of a second is told by its hour, minute and second, also in a leap second. -/
theorem ofParts?_parts {t : TimeOfDay} (h : t.fraction = 0) : ofParts? t.hour t.minute t.secondOfMinute = some t := by
  have hsecond := t.second_lt
  have hnano := t.nano_lt
  have hleap := t.leap
  have hhour := t.hour_lt
  have hminute := t.minute_lt
  rw [fraction] at h
  unfold ofParts?
  by_cases hl : 1000000000 ≤ t.nano
  · have hsixty : t.secondOfMinute = 60 := by simp [secondOfMinute, isLeap, hl, hleap hl]
    rw [dif_neg (by omega), dif_pos ⟨hhour, hminute, hsixty⟩]
    refine congrArg some (rank_injective ?_)
    have := hleap hl
    simp only [rank, hour, minute]
    omega
  · have hplain : t.secondOfMinute = t.second % 60 := by simp [secondOfMinute, isLeap, hl]
    rw [dif_pos ⟨hhour, hminute, by omega⟩]
    refine congrArg some (rank_injective ?_)
    simp only [rank, hour, minute, hplain]
    omega

end TimeOfDay

theorem readPieces_minuteChars (t : TimeOfDay) (ps : List TimePiece) (fs : TimeFields) (r : List Char) :
    readPieces (minutePieces ++ ps) fs (t.minuteChars ++ r) =
      readPieces ps { fs with hour := t.hour, minute := t.minute } r := by
  have hhour := t.hour_lt
  have hminute := t.minute_lt
  rw [TimeOfDay.minuteChars, List.append_assoc, List.cons_append]
  have hh := readPieces_padded (f := .hour) (by decide) (n := t.hour) (by simp only [TimeField.range]; omega)
  have hm := readPieces_padded (f := .minute) (by decide) (n := t.minute) (by simp only [TimeField.range]; omega)
  change readPieces (.number .hour :: .mark ':' :: .number .minute :: ps) fs _ = _
  rw [hh, readPieces_mark, hm]
  rfl

theorem readPieces_secondChars (t : TimeOfDay) (fs : TimeFields) :
    readPieces secondPieces fs t.secondChars =
      .ok { fs with hour := t.hour, minute := t.minute, second := t.secondOfMinute } := by
  have hsecond := t.secondOfMinute_le
  have hs := readPieces_padded (f := .second) (by decide) (n := t.secondOfMinute) (by simp only [TimeField.range]; omega)
  rw [secondPieces, TimeOfDay.secondChars, readPieces_minuteChars, readPieces_mark,
    ← List.append_nil (padded 2 t.secondOfMinute), hs]
  rfl

namespace DateTime

variable {a : DateTime}

/-- The numbers of an instant name it. -/
theorem dateTime?_fields (h : a.time.fraction = 0) :
    TimeFields.dateTime? ⟨a.date.civil.year, a.date.civil.month, a.date.civil.day, a.time.hour, a.time.minute,
      a.time.secondOfMinute⟩ = some a := by
  rw [TimeFields.dateTime?]
  dsimp only
  rw [Date.date?_civil, TimeOfDay.ofParts?_parts h]

theorem readForm_isoForm (h : a.time.fraction = 0) : readForm isoForm (a.secondChars 'T') = .ok a := by
  rw [readForm, isoForm, secondChars, readPieces_dateChars, readPieces_mark, readPieces_secondChars]
  dsimp only
  rw [dateTime?_fields h]

theorem readForm_blankForm (h : a.time.fraction = 0) : readForm blankForm (a.secondChars ' ') = .ok a := by
  have hskip : skipBlanks (' ' :: a.time.secondChars) = a.time.secondChars := by
    obtain ⟨c, s, hcons, hc⟩ := padded_eq_cons 2 a.time.hour
    rw [TimeOfDay.secondChars, TimeOfDay.minuteChars, hcons]
    exact skipBlanks_cons_of_not_isBlank _ (isBlank_of_isDigit hc)
  have hblanks (fs : TimeFields) : readPieces (.blanks :: secondPieces) fs (' ' :: a.time.secondChars) =
      readPieces secondPieces fs a.time.secondChars := by
    simp only [readPieces, TimePiece.read, hskip]
  rw [readForm, blankForm, secondChars, readPieces_dateChars, hblanks, readPieces_secondChars]
  dsimp only
  rw [dateTime?_fields h]

theorem readForm_shortForm (h : a.time.fraction = 0) (hzero : a.time.secondOfMinute = 0) :
    readForm shortForm (a.minuteChars 'T') = .ok a := by
  have hread (fs : TimeFields) : readPieces minutePieces fs a.time.minuteChars =
      .ok { fs with hour := a.time.hour, minute := a.time.minute } := by
    have := readPieces_minuteChars a.time [] fs []
    rwa [List.append_nil, List.append_nil, readPieces] at this
  have hfields := dateTime?_fields h
  rw [hzero] at hfields
  rw [readForm, shortForm, minuteChars, readPieces_dateChars, readPieces_mark, hread]
  dsimp only
  rw [hfields]

end DateTime

/-! ### Forms exclude each other -/

/-- What stands behind the pieces that two forms share is read by the rest of either. -/
theorem exists_rest_of_readPieces {ps qs : List TimePiece} {fs gs : TimeFields} {s : List Char}
    (h : readPieces (ps ++ qs) fs s = .ok gs) :
    ∃ hs r, ∀ qs', readPieces (ps ++ qs') fs s = readPieces qs' hs r := by
  induction ps generalizing fs s with
  | nil => exact ⟨fs, s, fun _ => rfl⟩
  | cons p ps ih =>
    rw [List.cons_append, readPieces] at h
    cases hp : p.read fs s with
    | error e =>
      rw [hp] at h
      cases h
    | ok x =>
      rw [hp] at h
      obtain ⟨hs, r, hrest⟩ := ih h
      refine ⟨hs, r, fun qs' => ?_⟩
      rw [List.cons_append, readPieces, hp]
      exact hrest qs'

theorem exists_cons_of_readPieces_mark {c : Char} {ps : List TimePiece} {fs gs : TimeFields} {s : List Char}
    (h : readPieces (.mark c :: ps) fs s = .ok gs) : ∃ r, s = c :: r := by
  cases s with
  | nil => cases h
  | cons d r =>
    by_cases hd : d = c
    · exact ⟨r, by rw [hd]⟩
    · simp [readPieces, TimePiece.read, hd] at h

/-- Blanks and a number cannot begin with a letter. -/
theorem readPieces_blanks_of_T (ps : List TimePiece) (fs : TimeFields) (r : List Char) :
    readPieces (.blanks :: .number .hour :: ps) fs ('T' :: r) = .error .invalid := by
  have hskip : skipBlanks ('T' :: r) = 'T' :: r := skipBlanks_cons_of_not_isBlank _ (by decide)
  have hcount : readCount (some 2) ('T' :: r) = .error .invalid := by
    have hdigits : (splitDigits (some 2) ('T' :: r)).1 = [] := by
      simp [splitDigits, show isDigit 'T' = false by decide]
    rw [readCount, if_neg (List.cons_ne_nil _ _)]
    simp only [hdigits, if_true]
  have hnumber : TimeField.hour.readNumber ('T' :: r) = .error .invalid := by
    unfold TimeField.readNumber
    rw [hskip]
    exact congrArg (Except.map _) hcount
  simp only [readPieces, TimePiece.read, hskip, hnumber]

/-- Behind the date one form needs a letter, and another one a number. -/
theorem blankForm_ne_ok_of_isoFront {ps : List TimePiece} {s : List Char} {fs gs : TimeFields}
    (h : readPieces (datePieces ++ .mark 'T' :: ps) {} s = .ok fs) : readPieces blankForm {} s ≠ .ok gs := by
  obtain ⟨hs, r, hrest⟩ := exists_rest_of_readPieces h
  rw [hrest] at h
  obtain ⟨r, rfl⟩ := exists_cons_of_readPieces_mark h
  rw [blankForm, hrest, secondPieces, minutePieces, List.cons_append, readPieces_blanks_of_T]
  exact nofun

/-- Behind the minute one form needs a mark, and another one the end. -/
theorem shortForm_ne_ok_of_isoForm {s : List Char} {fs gs : TimeFields} (h : readPieces isoForm {} s = .ok fs) :
    readPieces shortForm {} s ≠ .ok gs := by
  have hiso : isoForm = (datePieces ++ .mark 'T' :: minutePieces) ++ [.mark ':', .number .second] := rfl
  have hshort : shortForm = (datePieces ++ .mark 'T' :: minutePieces) ++ [] := rfl
  rw [hiso] at h
  obtain ⟨hs, r, hrest⟩ := exists_rest_of_readPieces h
  rw [hrest] at h
  obtain ⟨r, rfl⟩ := exists_cons_of_readPieces_mark h
  rw [hshort, hrest, readPieces]
  intro h
  cases h

/-- The forms of a date-time, in the order in which they are tried. -/
def dateTimeForms : List (List TimePiece) := [isoForm, blankForm, shortForm]

theorem exists_readPieces_of_readForm {f : List TimePiece} {s : List Char} {a : DateTime} (h : readForm f s = .ok a) :
    ∃ fs, readPieces f {} s = .ok fs := by
  unfold readForm at h
  split at h
  · cases h
  · exact ⟨_, ‹_›⟩

/-- A text has one form at most. -/
theorem form_eq_of_readForm {f g : List TimePiece} (hf : f ∈ dateTimeForms) (hg : g ∈ dateTimeForms) {s : List Char}
    {a b : DateTime} (ha : readForm f s = .ok a) (hb : readForm g s = .ok b) : f = g := by
  obtain ⟨fs, hfs⟩ := exists_readPieces_of_readForm ha
  obtain ⟨gs, hgs⟩ := exists_readPieces_of_readForm hb
  simp only [dateTimeForms, List.mem_cons, List.not_mem_nil, or_false] at hf hg
  rcases hf with rfl | rfl | rfl <;> rcases hg with rfl | rfl | rfl
  · rfl
  · exact absurd hgs (blankForm_ne_ok_of_isoFront hfs)
  · exact absurd hgs (shortForm_ne_ok_of_isoForm hfs)
  · exact absurd hfs (blankForm_ne_ok_of_isoFront hgs)
  · rfl
  · exact absurd hfs (blankForm_ne_ok_of_isoFront hgs)
  · exact absurd hfs (shortForm_ne_ok_of_isoForm hgs)
  · exact absurd hgs (blankForm_ne_ok_of_isoFront hfs)
  · rfl

/-! ### Any order -/

/-- A text as a date-time of the first of some forms that it has; where it has none, the last one says why. -/
def readAny : List (List TimePiece) → List Char → Except TimeError DateTime
  | [], _ => .error .invalid
  | [f], s => readForm f s
  | f :: g :: fs, s =>
    match readForm f s with
    | .ok a => .ok a
    | .error _ => readAny (g :: fs) s

theorem DateTime.read_eq_readAny (text : String) : read text = readAny dateTimeForms (trim text.toList) := rfl

theorem readAny_cons_of_ok {f : List TimePiece} {s : List Char} {a : DateTime} (h : readForm f s = .ok a)
    (fs : List (List TimePiece)) : readAny (f :: fs) s = .ok a := by
  cases fs with
  | nil => exact h
  | cons g fs => rw [readAny, h]

theorem readAny_cons_of_error {f : List TimePiece} {s : List Char} {e : TimeError} (h : readForm f s = .error e)
    {fs : List (List TimePiece)} (hfs : fs ≠ []) : readAny (f :: fs) s = readAny fs s := by
  cases fs with
  | nil => exact absurd rfl hfs
  | cons g fs => rw [readAny, h]

/-- Of forms that exclude each other it does not matter which is tried first. -/
theorem readAny_eq_ok_iff {fs : List (List TimePiece)} {s : List Char}
    (hfs : ∀ f ∈ fs, ∀ g ∈ fs, ∀ a b, readForm f s = .ok a → readForm g s = .ok b → f = g) {a : DateTime} :
    readAny fs s = .ok a ↔ ∃ f ∈ fs, readForm f s = .ok a := by
  induction fs with
  | nil => exact iff_of_false nofun (by simp)
  | cons f fs ih =>
    have ih := ih fun g hg h hh => hfs g (List.mem_cons_of_mem _ hg) h (List.mem_cons_of_mem _ hh)
    simp only [List.mem_cons, exists_eq_or_imp]
    cases hf : readForm f s with
    | ok b =>
      rw [readAny_cons_of_ok hf]
      constructor
      · exact .inl
      · rintro (h | ⟨g, hg, h⟩)
        · exact h
        · rw [← hfs f List.mem_cons_self g (List.mem_cons_of_mem _ hg) b a hf h, hf] at h
          exact h
    | error e =>
      by_cases hnil : fs = []
      · subst hnil
        rw [readAny, hf]
        simp
      · rw [readAny_cons_of_error hf hnil, ih]
        exact (or_iff_right nofun).symm

/-! ### Blanks around a text -/

theorem yearChars_eq_cons (y : Int) : ∃ c s, yearChars y = c :: s ∧ isBlank c = false := by
  rw [yearChars]
  split
  · obtain ⟨c, s, h, hc⟩ := padded_eq_cons 4 y.toNat
    exact ⟨c, s, h, isBlank_of_isDigit hc⟩
  · refine ⟨_, _, rfl, ?_⟩
    split <;> decide

/-- A date with anything behind it that ends in a number keeps its characters when blanks around it are removed. -/
theorem trim_dateChars {before behind : List Char} (hbefore : ∀ c ∈ before, isBlank c = true)
    (hbehind : ∀ c ∈ behind, isBlank c = true) (d : Date) (between : List Char) (n : Nat) :
    trim (before ++ (d.chars ++ (between ++ padded 2 n)) ++ behind) = d.chars ++ (between ++ padded 2 n) := by
  refine trim_append hbefore hbehind ?_ ?_
  · obtain ⟨c, s, h, hc⟩ := yearChars_eq_cons d.civil.year
    rw [Date.chars, h]
    exact skipBlanks_cons_of_not_isBlank _ hc
  · obtain ⟨front, c, h⟩ := (List.eq_nil_or_concat (padded 2 n)).resolve_left (padded_ne_nil 2 n)
    have hc : isDigit c = true := isDigit_of_mem_padded (show c ∈ padded 2 n by simp [h])
    rw [h, List.concat_eq_append]
    simp only [List.reverse_append, List.reverse_singleton, List.append_assoc, List.singleton_append]
    exact skipBlanks_cons_of_not_isBlank _ (isBlank_of_isDigit hc)

namespace DateTime

/-- A text that has one of the forms is read. -/
theorem read_eq_ok_iff {text : String} {a : DateTime} :
    read text = .ok a ↔ ∃ f ∈ dateTimeForms, readForm f (trim text.toList) = .ok a := by
  rw [read_eq_readAny]
  exact readAny_eq_ok_iff fun f hf g hg _ _ ha hb => form_eq_of_readForm hf hg ha hb

/-- Every instant without a fraction of a second is read back from what is written of it, to the second with a letter or
a blank behind the date, or to the minute if its seconds are zero, whatever blanks stand around it. No text has two of
the forms, and in whatever order they are tried the same texts are read as the same instants. -/
theorem reads_back_in_any_order :
    (∀ (a : DateTime) (before behind : List Char), a.time.fraction = 0 → (∀ c ∈ before, isBlank c = true) →
      (∀ c ∈ behind, isBlank c = true) →
        read (String.ofList (before ++ a.secondChars 'T' ++ behind)) = .ok a ∧
        read (String.ofList (before ++ a.secondChars ' ' ++ behind)) = .ok a ∧
        (a.time.secondOfMinute = 0 → read (String.ofList (before ++ a.minuteChars 'T' ++ behind)) = .ok a)) ∧
    (∀ (s : List Char) (a b : DateTime), ∀ f ∈ dateTimeForms, ∀ g ∈ dateTimeForms,
      readForm f s = .ok a → readForm g s = .ok b → f = g) ∧
    ∀ (order : List (List TimePiece)) (text : String) (a : DateTime), order.Perm dateTimeForms →
      (readAny order (trim text.toList) = .ok a ↔ read text = .ok a) := by
  refine ⟨fun a before behind hfraction hbefore hbehind => ?_, fun s a b f hf g hg => form_eq_of_readForm hf hg,
    fun order text a horder => ?_⟩
  · have hsecond (mark : Char) : trim (before ++ a.secondChars mark ++ behind) = a.secondChars mark := by
      have := trim_dateChars hbefore hbehind a.date (mark :: a.time.minuteChars ++ [':']) a.time.secondOfMinute
      simpa [secondChars, TimeOfDay.secondChars] using this
    have hminute : trim (before ++ a.minuteChars 'T' ++ behind) = a.minuteChars 'T' := by
      have := trim_dateChars hbefore hbehind a.date ('T' :: padded 2 a.time.hour ++ [':']) a.time.minute
      simpa [minuteChars, TimeOfDay.minuteChars] using this
    simp only [read_eq_ok_iff, String.toList_ofList, hsecond, hminute]
    refine ⟨⟨isoForm, by simp [dateTimeForms], readForm_isoForm hfraction⟩,
      ⟨blankForm, by simp [dateTimeForms], readForm_blankForm hfraction⟩,
      fun hzero => ⟨shortForm, by simp [dateTimeForms], readForm_shortForm hfraction hzero⟩⟩
  · rw [read_eq_ok_iff, readAny_eq_ok_iff fun f hf g hg _ _ ha hb =>
      form_eq_of_readForm (horder.mem_iff.1 hf) (horder.mem_iff.1 hg) ha hb]
    simp only [horder.mem_iff]

/-- The leap second of the first day is read between blanks, and has no letter behind its date; trying the forms the
other way round finds it as well. -/
theorem reads_back_leap_second :
    let a : DateTime := ⟨Date.first, ⟨86399, 1000000000, by decide, by decide, by decide⟩⟩
    let text := " \t-262143-01-01 23:59:60\n"
    read text = .ok a ∧ (∀ b, readForm isoForm (trim text.toList) ≠ .ok b) ∧
      readAny dateTimeForms.reverse (trim text.toList) = .ok a := by
  intro a text
  have htext : text = String.ofList ([' ', '\t'] ++ a.secondChars ' ' ++ ['\n']) := by decide +kernel
  obtain ⟨hreads, hone, horder⟩ := reads_back_in_any_order
  have hread : read text = .ok a := by
    have hbefore : ∀ c ∈ [' ', '\t'], isBlank c = true :=
      List.forall_mem_cons.2 ⟨rfl, List.forall_mem_singleton.2 rfl⟩
    have hbehind : ∀ c ∈ ['\n'], isBlank c = true := List.forall_mem_singleton.2 rfl
    rw [htext]
    exact (hreads a [' ', '\t'] ['\n'] (by decide) hbefore hbehind).2.1
  have htrim : trim text.toList = a.secondChars ' ' := by decide +kernel
  have hblank : readForm blankForm (trim text.toList) = .ok a := by
    rw [htrim]
    exact readForm_blankForm (by decide)
  refine ⟨hread, fun b hb => ?_, (horder _ text a (List.reverse_perm _)).2 hread⟩
  have hsame := hone _ b a isoForm (by simp [dateTimeForms]) blankForm (by simp [dateTimeForms]) hb hblank
  exact absurd hsame (by decide)

end DateTime

end AlarmClock
