import AlarmClock.Proofs.Json.Front.Lexeme
import AlarmClock.Proofs.Json.Values

/-! Values are taken from the front of a text, and so are lists and objects, whatever reads
their items and fields, if only that takes them from the front. A value that is skipped is
taken step by step, where each step looks at most at the next character. -/

namespace AlarmClock.Json

open Text

/-! ### Lists and objects -/

theorem readColon_front {s r : List Char} (h : readColon s = .ok r) :
    ∃ p, s = p ++ r ∧ ∀ t, readColon (p ++ t) = .ok t := by
  rw [readColon.eq_def] at h
  split at h
  · cases h
  · rename_i hs
    cases h
    obtain ⟨b, -, rfl, hb⟩ := skipSpace_front hs
    refine ⟨b ++ [':'], by rw [List.append_assoc]; rfl, fun t => ?_⟩
    rw [List.append_assoc, List.cons_append, readColon, hb]
    rfl
  · cases h

/-- A reader that takes each of its values from the front of a text. -/
def Fronts {α : Type} (read : List Char → Result α) : Prop := ∀ a, FromFront (fun r => (a, r)) read

variable {α σ : Type}

theorem Fronts.exists_takes {read : List Char → Result α} (h : Fronts read) {s r : List Char} {a : α}
    (hread : read s = .ok (a, r)) : ∃ p, s = p ++ r ∧ Takes read p a :=
  h a hread

/-- A comma or a closing bracket behind blanks ends a number. -/
theorem endsNumber_of_skipSpace {s r : List Char} {c : Char} (h : skipSpace s = c :: r)
    (hc : c = ',' ∨ c = ']' ∨ c = '\x7d') : EndsNumber s := by
  obtain ⟨b, hblank, rfl, -⟩ := skipSpace_front h
  refine endsNumber_blank hblank ?_
  rcases hc with rfl | rfl | rfl <;> exact endsNumber_cons (by decide) (by decide) (by decide) (by decide) _

theorem endsNumber_of_moreItems {item : List Char → Result α} {s : List Char} {x : List α × List Char}
    (h : moreItems item s = .ok x) : EndsNumber s := by
  rw [moreItems.eq_def] at h
  split at h
  · cases h
  · exact endsNumber_of_skipSpace ‹_› (by decide)
  · exact endsNumber_of_skipSpace ‹_› (by decide)
  · cases h

theorem endsNumber_of_moreFields {field : σ → String → List Char → Result σ} {st : σ} {s : List Char}
    {x : σ × List Char} (h : moreFields field st s = .ok x) : EndsNumber s := by
  rw [moreFields.eq_def] at h
  split at h
  · cases h
  · exact endsNumber_of_skipSpace ‹_› (by decide)
  · exact endsNumber_of_skipSpace ‹_› (by decide)
  · cases h

/-- An item in front of more items starts as the text does that both are taken from. -/
theorem exists_cons_of_takes {item : List Char → Result α} {p p' q r : List Char} {c : Char} {as : List α}
    (h : c :: q = p ++ (p' ++ r)) (hp' : Takes (moreItems item) p' as) : ∃ w, ∀ t, p ++ (p' ++ t) = c :: (w ++ t) := by
  cases p with
  | cons d p =>
    obtain ⟨rfl, -⟩ := List.cons.inj h
    exact ⟨p ++ p', fun t => by rw [List.cons_append, List.append_assoc]⟩
  | nil =>
    cases p' with
    | cons d p' =>
      cases h
      exact ⟨p', fun t => rfl⟩
    | nil =>
      have hnone := hp' [] endsNumber_nil
      rw [moreItems] at hnone
      cases hnone

theorem moreItems_fronts {item : List Char → Result α} (hitem : Fronts item) : Fronts (moreItems item) := by
  intro as s r h
  fun_induction moreItems item s generalizing as r with
  | case1 => cases h
  | case2 s q hs =>
    cases h
    obtain ⟨b, -, rfl, hb⟩ := skipSpace_front hs
    refine ⟨b ++ [']'], by rw [List.append_assoc]; rfl, fun t _ => ?_⟩
    rw [List.append_assoc]
    exact moreItems_of_bracket item (hb t)
  | case3 => cases h
  | case4 => cases h
  | case5 => cases h
  | case6 => cases h
  | case7 s q hs a r' hlt as' r'' hmore hnil hclose hread ih =>
    cases h
    cases hq : skipSpace q with
    | nil => exact absurd hq hnil
    | cons c q' =>
      have hc : c ≠ ']' := by
        rintro rfl
        exact hclose q' hq
      rw [hq] at hread
      obtain ⟨b, -, rfl, hb⟩ := skipSpace_front hs
      obtain ⟨b', -, rfl, hb'⟩ := skipSpace_front hq
      obtain ⟨p, hp, htakes⟩ := hitem.exists_takes hread
      obtain ⟨p', rfl, htakes'⟩ := ih as' hmore
      obtain ⟨w, hw⟩ := exists_cons_of_takes hp htakes'
      refine ⟨b ++ ',' :: (b' ++ c :: w), ?_, fun t ht => ?_⟩
      · rw [hp, hw, List.append_assoc, List.cons_append, List.append_assoc, List.cons_append]
      · have hends := endsNumber_of_moreItems (htakes' t ht)
        have hlength := congrArg List.length (hw t)
        rw [List.append_assoc, List.cons_append, List.append_assoc, List.cons_append,
          moreItems_of_comma (hb _) (hb' _) hc (hw t ▸ htakes _ hends)
            (by simp at hlength ⊢; omega), htakes' t ht]
        rfl
  | case8 => cases h
  | case9 => cases h

theorem readItems_fronts {item : List Char → Result α} (hitem : Fronts item) : Fronts (readItems item) := by
  intro as s r h
  rw [readItems.eq_def] at h
  split at h
  · cases h
  · rename_i hs
    cases h
    obtain ⟨b, -, rfl, hb⟩ := skipSpace_front hs
    refine ⟨b ++ [']'], by rw [List.append_assoc]; rfl, fun t _ => ?_⟩
    rw [List.append_assoc, List.cons_append, readItems, hb]
    rfl
  · rename_i hnil hclose
    cases hs : skipSpace s with
    | nil => exact absurd hs hnil
    | cons c q =>
      have hc : c ≠ ']' := by
        rintro rfl
        exact hclose q hs
      rw [hs] at h
      cases hread : item (c :: q) with
      | error f =>
        rw [hread] at h
        cases h
      | ok x =>
        rw [hread] at h
        dsimp only at h
        cases hmore : moreItems item x.2 with
        | error f =>
          rw [hmore] at h
          cases h
        | ok y =>
          rw [hmore] at h
          cases h
          obtain ⟨b, -, rfl, hb⟩ := skipSpace_front hs
          obtain ⟨p, hp, htakes⟩ := hitem.exists_takes hread
          obtain ⟨p', hp', htakes'⟩ := (moreItems_fronts hitem).exists_takes hmore
          rw [hp'] at hp
          obtain ⟨w, hw⟩ := exists_cons_of_takes hp htakes'
          refine ⟨b ++ c :: w, by rw [hp, hw, List.append_assoc, List.cons_append], fun t ht => ?_⟩
          have hends := endsNumber_of_moreItems (htakes' t ht)
          rw [List.append_assoc, List.cons_append,
            readItems_of_item (hb _) hc (hw t ▸ htakes _ hends), htakes' t ht]
          rfl

section Fields

variable {field : σ → String → List Char → Result σ} (hfield : ∀ st key, Fronts (field st key))

include hfield

theorem moreFields_fronts (st : σ) : Fronts (moreFields field st) := by
  intro st' s r h
  fun_induction moreFields field st s with
  | case1 => cases h
  | case2 st s q hs =>
    cases h
    obtain ⟨b, -, rfl, hb⟩ := skipSpace_front hs
    refine ⟨b ++ ['\x7d'], by rw [List.append_assoc]; rfl, fun t _ => ?_⟩
    rw [List.append_assoc]
    exact moreFields_of_brace field _ (hb t)
  | case3 => cases h
  | case4 => cases h
  | case5 => cases h
  | case6 => cases h
  | case7 st s q hs q' hq key q'' hkey st₁ r' hread hlt ih =>
    obtain ⟨b, -, rfl, hb⟩ := skipSpace_front hs
    obtain ⟨b', -, rfl, hb'⟩ := skipSpace_front hq
    obtain ⟨k, rfl, hk⟩ := readString_front hkey
    obtain ⟨p, rfl, htakes⟩ := (hfield st key).exists_takes hread
    obtain ⟨p', rfl, htakes'⟩ := ih h
    refine ⟨b ++ ',' :: (b' ++ '"' :: (k ++ (p ++ p'))), by simp only [List.append_assoc, List.cons_append],
      fun t ht => ?_⟩
    have hends := endsNumber_of_moreFields (htakes' t ht)
    simp only [List.append_assoc, List.cons_append]
    rw [moreFields_of_comma (hb _) (hb' _) (hk _) (htakes _ hends) (by simp; omega)]
    exact htakes' t ht
  | case8 => cases h
  | case9 => cases h
  | case10 => cases h

theorem readFields_fronts (st : σ) : Fronts (readFields field st) := by
  intro st' s r h
  rw [readFields.eq_def] at h
  split at h
  · cases h
  · rename_i hs
    cases h
    obtain ⟨b, -, rfl, hb⟩ := skipSpace_front hs
    refine ⟨b ++ ['\x7d'], by rw [List.append_assoc]; rfl, fun t _ => ?_⟩
    rw [List.append_assoc, List.cons_append, readFields, hb]
    rfl
  · rename_i q hs
    cases hkey : readString q with
    | error f =>
      rw [hkey] at h
      cases h
    | ok x =>
      rw [hkey] at h
      dsimp only at h
      cases hread : field st x.1 x.2 with
      | error f =>
        rw [hread] at h
        cases h
      | ok y =>
        rw [hread] at h
        obtain ⟨b, -, rfl, hb⟩ := skipSpace_front hs
        obtain ⟨k, rfl, hk⟩ := readString_front hkey
        obtain ⟨p, hp, htakes⟩ := (hfield _ _).exists_takes hread
        obtain ⟨p', hp', htakes'⟩ := (moreFields_fronts hfield y.1).exists_takes h
        refine ⟨b ++ '"' :: (k ++ (p ++ p')), by simp only [hp, hp', List.append_assoc, List.cons_append],
          fun t ht => ?_⟩
        have hends := endsNumber_of_moreFields (htakes' t ht)
        simp only [List.append_assoc, List.cons_append]
        rw [readFields_of_field (hb _) (hk _) (htakes _ hends)]
        exact htakes' t ht
  · cases h

end Fields

/-! ### Values -/

theorem readNumberValue_fronts (negative : Bool) : Fronts (readNumberValue negative) := by
  intro v s r h
  rw [readNumberValue] at h
  split at h
  · cases h
  · rename_i x _ hread
    cases h
    obtain ⟨p, rfl, hp⟩ := readNumber_fromFront negative x hread
    refine ⟨p, rfl, fun t ht => ?_⟩
    rw [readNumberValue, hp t ht]

theorem readConstant_fronts (word : List Char) (v : Json) : Fronts (readConstant word v) := by
  intro v' s r h
  rw [readConstant] at h
  split at h
  · cases h
  · rename_i hread
    cases h
    obtain ⟨rfl, hword⟩ := readWord_front hread
    refine ⟨word, rfl, fun t _ => ?_⟩
    rw [readConstant, hword]

theorem readFieldInto_fronts {depth : Nat} (hvalue : Fronts (readValue depth)) (fields : List (String × Json))
    (key : String) : Fronts (readFieldInto depth fields key) := by
  intro fields' s r h
  rw [readFieldInto] at h
  split at h
  · cases h
  · rename_i hcolon
    split at h
    · cases h
    · rename_i hread
      cases h
      obtain ⟨b, rfl, hb⟩ := readColon_front hcolon
      obtain ⟨p, rfl, htakes⟩ := hvalue.exists_takes hread
      refine ⟨b ++ p, by rw [List.append_assoc], fun t ht => ?_⟩
      rw [List.append_assoc, readFieldInto, hb]
      simp only [htakes t ht]

theorem readValue_of_skipSpace {s q : List Char} {c : Char} (h : skipSpace s = c :: q) (depth : Nat) :
    readValue depth s = readValue depth (c :: q) := by
  unfold readValue
  rw [skipSpace_cons (isSpace_of_skipSpace h), h]

/-- A value is taken from the front of a text that starts with its first character. -/
theorem readValue_cons_front {depth : Nat} (hless : ∀ d < depth, Fronts (readValue d)) {c : Char}
    (hc : isSpace c = false) {q r : List Char} {v : Json} (h : readValue depth (c :: q) = .ok (v, r)) :
    ∃ p, q = p ++ r ∧ ∀ t, EndsNumber t → readValue depth (c :: (p ++ t)) = .ok (v, t) := by
  rw [readValue.eq_def, skipSpace_cons hc] at h
  -- In order: the three words, a negative number, a string, a list, an object, and any other number.
  split at h <;> rename_i heq <;> cases heq
  · obtain ⟨p, rfl, htakes⟩ := (readConstant_fronts _ _).exists_takes h
    refine ⟨p, rfl, fun t ht => ?_⟩
    rw [readValue, skipSpace_cons (by decide)]
    exact htakes t ht
  · obtain ⟨p, rfl, htakes⟩ := (readConstant_fronts _ _).exists_takes h
    refine ⟨p, rfl, fun t ht => ?_⟩
    rw [readValue, skipSpace_cons (by decide)]
    exact htakes t ht
  · obtain ⟨p, rfl, htakes⟩ := (readConstant_fronts _ _).exists_takes h
    refine ⟨p, rfl, fun t ht => ?_⟩
    rw [readValue, skipSpace_cons (by decide)]
    exact htakes t ht
  · obtain ⟨p, rfl, htakes⟩ := (readNumberValue_fronts true).exists_takes h
    refine ⟨p, rfl, fun t ht => ?_⟩
    rw [readValue, skipSpace_cons (by decide)]
    exact htakes t ht
  · split at h
    · cases h
    · rename_i hread
      cases h
      obtain ⟨p, rfl, hp⟩ := readString_front hread
      refine ⟨p, rfl, fun t _ => ?_⟩
      rw [readValue, skipSpace_cons (by decide)]
      simp only [hp]
  · split at h
    · cases h
    · rename_i depth
      split at h
      · cases h
      · rename_i hread
        cases h
        obtain ⟨p, rfl, htakes⟩ := (readItems_fronts (hless depth (Nat.lt_succ_self _))).exists_takes hread
        refine ⟨p, rfl, fun t ht => ?_⟩
        rw [readValue_bracket, htakes t ht]
        rfl
  · split at h
    · cases h
    · rename_i depth
      dsimp only at h
      split at h
      · cases h
      · rename_i fields _ hread
        have hfield := readFieldInto_fronts (hless depth (Nat.lt_succ_self _))
        have hread : readFields (readFieldInto depth) [] _ = .ok (fields, _) := hread
        cases h
        obtain ⟨p, rfl, htakes⟩ := (readFields_fronts hfield []).exists_takes hread
        refine ⟨p, rfl, fun t ht => ?_⟩
        rw [readValue_brace, htakes t ht]
        rfl
  · split at h
    · rename_i hdigit
      obtain ⟨p, rfl, hp⟩ := (readNumberValue_fronts false v).cons (by rintro x ⟨⟩) c h
      refine ⟨p, rfl, fun t ht => ?_⟩
      rw [readValue_of_isDigit hdigit]
      exact hp t ht
    · cases h

theorem readValue_fronts (depth : Nat) : Fronts (readValue depth) := by
  induction depth using Nat.strongRecOn with
  | ind depth ih =>
    intro v s r h
    cases hs : skipSpace s with
    | nil =>
      rw [readValue.eq_def, hs] at h
      cases h
    | cons c q =>
      rw [readValue_of_skipSpace hs] at h
      obtain ⟨b, -, rfl, hb⟩ := skipSpace_front hs
      obtain ⟨p, rfl, hp⟩ := readValue_cons_front ih (isSpace_of_skipSpace hs) h
      refine ⟨b ++ c :: p, by rw [List.append_assoc, List.cons_append], fun t ht => ?_⟩
      rw [List.append_assoc, List.cons_append, readValue_of_skipSpace (hb _)]
      exact hp t ht

/-! ### Values of an expected shape -/

theorem readMismatch_ne_ok {α : Type} (expected : String) (s : List Char) (x : α) : readMismatch expected s ≠ .ok x := by
  unfold readMismatch
  grind [failAt, failOn]

/-- A whole number of 64 bits behind its sign. -/
def readSigned (negative : Bool) (s : List Char) : Result Int :=
  match readNumber negative s with
  | .error f => .error f
  | .ok (.int n, r) => if n < 2 ^ 63 then .ok (n, r) else failAt (.shape (.wrongValue (.int n) "i64")) r
  | .ok (.float x, r) => failAt (.shape (.wrongType (.float x) "i64")) r

theorem readSigned_fronts (negative : Bool) : Fronts (readSigned negative) := by
  intro n s r h
  rw [readSigned] at h
  split at h
  · cases h
  · rename_i hread
    split at h
    · rename_i hlt
      cases h
      obtain ⟨p, rfl, hp⟩ := readNumber_fromFront negative _ hread
      refine ⟨p, rfl, fun t ht => ?_⟩
      rw [readSigned, hp t ht]
      exact if_pos hlt
    · cases h
  · cases h

theorem readInt64_of_minus {s q : List Char} (h : skipSpace s = '-' :: q) : readInt64 s = readSigned true q := by
  rw [readInt64, h]
  rfl

theorem readInt64_of_digit {s q : List Char} {c : Char} (h : skipSpace s = c :: q) (hc : isDigit c = true) :
    readInt64 s = readSigned false (c :: q) := by
  rw [readInt64, h]
  split
  · cases ‹_›
  · rename_i heq
    cases heq
    exact absurd hc (by decide)
  · rename_i heq
    cases heq
    exact if_pos hc

theorem readInt64_fronts : Fronts readInt64 := by
  intro n s r h
  cases hs : skipSpace s with
  | nil =>
    rw [readInt64, hs] at h
    cases h
  | cons c q =>
    obtain ⟨b, -, rfl, hb⟩ := skipSpace_front hs
    by_cases hminus : c = '-'
    · subst hminus
      rw [readInt64_of_minus hs] at h
      obtain ⟨p, rfl, htakes⟩ := (readSigned_fronts true).exists_takes h
      refine ⟨b ++ '-' :: p, by rw [List.append_assoc, List.cons_append], fun t ht => ?_⟩
      rw [List.append_assoc, List.cons_append, readInt64_of_minus (hb _)]
      exact htakes t ht
    by_cases hdigit : isDigit c = true
    · rw [readInt64_of_digit hs hdigit] at h
      obtain ⟨p, rfl, htakes⟩ := (readSigned_fronts false n).cons (by rintro x ⟨⟩) c h
      refine ⟨b ++ c :: p, by rw [List.append_assoc, List.cons_append], fun t ht => ?_⟩
      rw [List.append_assoc, List.cons_append, readInt64_of_digit (hb _) hdigit]
      exact htakes t ht
    · rw [readInt64, hs] at h
      split at h <;> rename_i heq <;> cases heq
      · exact absurd rfl hminus
      · rw [if_neg hdigit] at h
        exact absurd h (readMismatch_ne_ok _ _ _)

theorem readValues_fronts (depth : Nat) : Fronts (readValues depth) := by
  intro vs s r h
  rw [readValues.eq_def] at h
  split at h
  · cases h
  · rename_i hs
    obtain ⟨b, -, rfl, hb⟩ := skipSpace_front hs
    obtain ⟨p, rfl, htakes⟩ := (readItems_fronts (readValue_fronts depth)).exists_takes h
    refine ⟨b ++ '[' :: p, by rw [List.append_assoc, List.cons_append], fun t ht => ?_⟩
    rw [List.append_assoc, List.cons_append, readValues, hb]
    exact htakes t ht
  · exact absurd h (readMismatch_ne_ok _ _ _)

/-! ### Values that nobody looks at -/

theorem readWord_fromFront (w : List Char) : FromFront (fun r => r) (readWord w) := by
  intro s r h
  obtain ⟨rfl, hw⟩ := readWord_front h
  exact ⟨w, rfl, fun t _ => hw t⟩

theorem skipString_fromFront : FromFront (fun r => r) skipString := by
  intro s r h
  obtain ⟨p, rfl, hp⟩ := skipString_front h
  exact ⟨p, rfl, fun t _ => hp t⟩

/-- What may stand behind a step: behind a whole value what does not carry on a number, and otherwise what starts as the
text that the step was taken from goes on. -/
def Follows (due : Due) (r t : List Char) : Prop :=
  (due = .separator → EndsNumber t) ∧ (due ≠ .separator → t.head? = r.head?)

/-- A step takes something from the front of its text, and takes it from the front of any text that may follow. -/
def StepsFrom (due : Due) (brackets s : List Char) (due' : Due) (brackets' r : List Char) : Prop :=
  ∃ p, p ≠ [] ∧ s = p ++ r ∧ ∀ t, Follows due' r t → skipStep due brackets (p ++ t) = .ok (due', brackets', t)

theorem stepsFrom_of_skip {skip : List Char → Except Failure (List Char)} (hskip : FromFront (fun r => r) skip)
    {due due' : Due} {brackets brackets' b q r : List Char} {c : Char}
    (hstep : ∀ t, skipStep due brackets (b ++ c :: t) = (skip t).map fun r => (.separator, brackets, r))
    (h : (skip q).map (fun r => (.separator, brackets, r)) = .ok (due', brackets', r)) :
    StepsFrom due brackets (b ++ c :: q) due' brackets' r := by
  cases hq : skip q with
  | error f =>
    rw [hq] at h
    cases h
  | ok r' =>
    rw [hq] at h
    cases h
    obtain ⟨p, rfl, hp⟩ := hskip hq
    refine ⟨b ++ c :: p, by simp, by simp, fun t ht => ?_⟩
    rw [List.append_assoc, List.cons_append, hstep, hp t (ht.1 rfl)]
    rfl

theorem skipStep_of_isDigit {c : Char} {s q : List Char} (hs : skipSpace s = c :: q) (hc : isDigit c = true)
    (brackets : List Char) : skipStep .value brackets s =
      (skipNumber (c :: q)).map fun r => (.separator, brackets, r) := by
  rw [skipStep, hs]
  split <;> rename_i heq <;> cases heq
  case h_9 => exact if_pos hc
  all_goals exact absurd hc (by decide)

/-- The step behind an opening bracket, which looks whether it closes at once. -/
def openStep (close : Char) (inside : Due) (cause : Cause) (brackets inner s : List Char) :
    Except Failure (Due × List Char × List Char) :=
  match skipSpace s with
  | [] => failOn cause []
  | d :: q => if d = close then .ok (.separator, brackets, q) else .ok (inside, inner, d :: q)

theorem stepsFrom_of_open {close : Char} {inside : Due} {cause : Cause} {brackets inner b : List Char} {c : Char}
    (hstep : ∀ t, skipStep .value brackets (b ++ c :: t) = openStep close inside cause brackets inner t)
    (hinside : inside ≠ .separator)
    {due : Due} {brackets' q r : List Char} (h : skipStep .value brackets (b ++ c :: q) = .ok (due, brackets', r)) :
    StepsFrom .value brackets (b ++ c :: q) due brackets' r := by
  rw [hstep, openStep] at h
  split at h
  · cases h
  rename_i d q' hq
  obtain ⟨b', -, rfl, hb'⟩ := skipSpace_front hq
  split at h
  · rename_i hclose
    cases h
    refine ⟨b ++ c :: (b' ++ [d]), by simp, by simp, fun t _ => ?_⟩
    simp only [List.append_assoc, List.cons_append, List.nil_append]
    rw [hstep, openStep, hb']
    exact if_pos hclose
  · rename_i hopen
    cases h
    refine ⟨b ++ c :: b', by simp, by simp, fun t ht => ?_⟩
    obtain ⟨q', rfl⟩ := List.head?_eq_some_iff.1 (ht.2 hinside)
    rw [List.append_assoc, List.cons_append, hstep, openStep, hb']
    exact if_neg hopen

theorem skipStep_bracket {s q : List Char} (hs : skipSpace s = '[' :: q) (brackets : List Char) :
    skipStep .value brackets s = openStep ']' .value .endInList brackets ('[' :: brackets) q := by
  rw [skipStep, hs, openStep]
  grind

theorem skipStep_brace {s q : List Char} (hs : skipSpace s = '\x7b' :: q) (brackets : List Char) :
    skipStep .value brackets s = openStep '\x7d' .key .endInObject brackets ('\x7b' :: brackets) q := by
  rw [skipStep, hs, openStep]
  grind

theorem skipStep_value_front {due : Due} {brackets brackets' s r : List Char}
    (h : skipStep .value brackets s = .ok (due, brackets', r)) : StepsFrom .value brackets s due brackets' r := by
  cases hs : skipSpace s with
  | nil =>
    rw [skipStep, hs] at h
    cases h
  | cons c q =>
    obtain ⟨b, -, rfl, hb⟩ := skipSpace_front hs
    have h₀ := h
    rw [skipStep, hs] at h
    split at h <;> rename_i heq <;> cases heq
    · exact stepsFrom_of_skip (readWord_fromFront _) (fun t => by rw [skipStep, hb]; rfl) h
    · exact stepsFrom_of_skip (readWord_fromFront _) (fun t => by rw [skipStep, hb]; rfl) h
    · exact stepsFrom_of_skip (readWord_fromFront _) (fun t => by rw [skipStep, hb]; rfl) h
    · exact stepsFrom_of_skip skipNumber_fromFront (fun t => by rw [skipStep, hb]; rfl) h
    · exact stepsFrom_of_skip skipString_fromFront (fun t => by rw [skipStep, hb]; rfl) h
    -- Behind an opening bracket the next character decides whether it closes at once.
    · exact stepsFrom_of_open (fun t => skipStep_bracket (hb t) brackets) nofun h₀
    · exact stepsFrom_of_open (fun t => skipStep_brace (hb t) brackets) nofun h₀
    · split at h
      · rename_i hdigit
        have hnumber := skipNumber_fromFront.cons (by rintro x ⟨⟩) c
        exact stepsFrom_of_skip hnumber (fun t => skipStep_of_isDigit (hb t) hdigit _) h
      · cases h

theorem skipStep_key_front {due : Due} {brackets brackets' s r : List Char}
    (h : skipStep .key brackets s = .ok (due, brackets', r)) : StepsFrom .key brackets s due brackets' r := by
  rw [skipStep] at h
  split at h
  · cases h
  · rename_i hs
    obtain ⟨b, -, rfl, hb⟩ := skipSpace_front hs
    split at h
    · cases h
    · rename_i r' hkey
      obtain ⟨k, rfl, hk⟩ := skipString_front hkey
      cases hcolon : readColon r' with
      | error f =>
        rw [hcolon] at h
        cases h
      | ok r'' =>
        rw [hcolon] at h
        cases h
        obtain ⟨p, rfl, hp⟩ := readColon_front hcolon
        refine ⟨b ++ '"' :: (k ++ p), by simp, by simp, fun t _ => ?_⟩
        simp only [List.append_assoc, List.cons_append]
        rw [skipStep, hb]
        simp only [hk, hp]
        rfl
  · cases h

theorem skipStep_separator_front {due : Due} {brackets brackets' s r : List Char}
    (h : skipStep .separator brackets s = .ok (due, brackets', r)) :
    StepsFrom .separator brackets s due brackets' r := by
  cases hs : skipSpace s with
  | nil =>
    unfold skipStep at h
    rw [hs] at h
    grind [failOn]
  | cons c q =>
    obtain ⟨b, -, rfl, hb⟩ := skipSpace_front hs
    have hr : q = r := by
      unfold skipStep at h
      rw [hs] at h
      grind [failOn]
    subst hr
    refine ⟨b ++ [c], by simp, by simp, fun t _ => ?_⟩
    rw [List.append_assoc, List.cons_append, List.nil_append]
    unfold skipStep at h ⊢
    rw [hs] at h
    rw [hb]
    dsimp only at h ⊢
    grind [failOn]

theorem skipStep_front {due due' : Due} {brackets brackets' s r : List Char}
    (h : skipStep due brackets s = .ok (due', brackets', r)) : StepsFrom due brackets s due' brackets' r := by
  cases due with
  | value => exact skipStep_value_front h
  | key => exact skipStep_key_front h
  | separator => exact skipStep_separator_front h

/-- Where the end of open brackets is found, a number ends. -/
theorem endsNumber_of_skipStep {due : Due} {brackets brackets' s r : List Char}
    (h : skipStep .separator brackets s = .ok (due, brackets', r)) : EndsNumber s := by
  cases hs : skipSpace s with
  | nil =>
    unfold skipStep at h
    rw [hs] at h
    grind [failOn]
  | cons c q =>
    refine endsNumber_of_skipSpace hs ?_
    unfold skipStep at h
    rw [hs] at h
    grind [failOn]

theorem follows_of_skipFrom {due : Due} {brackets p r : List Char}
    (h : ∀ t, EndsNumber t → skipFrom due brackets (p ++ t) = .ok t) {t : List Char} (ht : EndsNumber t) :
    Follows due (p ++ r) (p ++ t) := by
  have hopen {s q : List Char} (hmore : ¬(due = .separator ∧ brackets = [])) (hs : skipFrom due brackets s = .ok q) :
      ∃ x, skipStep due brackets s = .ok x := by
    rw [skipFrom, if_neg hmore] at hs
    cases hstep : skipStep due brackets s with
    | error f =>
      rw [hstep] at hs
      cases hs
    | ok x => exact ⟨x, rfl⟩
  constructor
  · rintro rfl
    have hread := h t ht
    by_cases hend : brackets = []
    · rw [skipFrom, if_pos ⟨rfl, hend⟩] at hread
      rwa [Except.ok.inj hread]
    · obtain ⟨x, hx⟩ := hopen (fun h => hend h.2) hread
      exact endsNumber_of_skipStep hx
  · intro hdue
    cases p with
    | cons c p => rfl
    | nil =>
      obtain ⟨x, hx⟩ := hopen (fun h => hdue h.1) (h [] endsNumber_nil)
      cases due with
      | value => cases hx
      | key => cases hx
      | separator => exact absurd rfl hdue

theorem skipFrom_fromFront (due : Due) (brackets : List Char) : FromFront (fun r => r) (skipFrom due brackets) := by
  intro s r h
  fun_induction skipFrom due brackets s with
  | case1 due brackets s hend =>
    cases h
    refine ⟨[], rfl, fun t _ => ?_⟩
    rw [List.nil_append, skipFrom, if_pos hend]
  | case2 => cases h
  | case3 due brackets s hmore due' brackets' q hstep hlt ih =>
    obtain ⟨p, hne, rfl, hp⟩ := skipStep_front hstep
    obtain ⟨p', rfl, hp'⟩ := ih h
    refine ⟨p ++ p', by rw [List.append_assoc], fun t ht => ?_⟩
    rw [List.append_assoc, skipFrom, if_neg hmore, hp _ (follows_of_skipFrom hp' ht)]
    dsimp only
    have hlength : 0 < p.length := List.length_pos_iff.2 hne
    rw [dif_pos (by simp; omega), hp' t ht]
  | case4 due brackets s hmore due' brackets' q hstep hlt =>
    -- Every step takes something.
    obtain ⟨p, hne, rfl, -⟩ := skipStep_front hstep
    have hlength : 0 < p.length := List.length_pos_iff.2 hne
    exact absurd (by simp; omega) hlt

theorem skipValue_fromFront : FromFront (fun r => r) skipValue := skipFrom_fromFront .value []

end AlarmClock.Json
