import AlarmClock.Proofs.Json.Lexeme

/-! Lists and objects are read back from what is written of them. A reader that takes each
item from the front of whatever follows it takes them all, and so does one that puts
fields into a state; a value whose whole numbers fit and whose keys stand in order is
read back as it was. -/

namespace AlarmClock.Json

open Text

/-! ### Line ends -/

theorem skipSpace_newLine {c : Char} (h : isSpace c = false) (n : Nat) (r : List Char) :
    skipSpace (newLine n ++ c :: r) = c :: r := by
  have hblank : ∀ d ∈ newLine n, isSpace d = true := by
    intro d hd
    rcases List.mem_cons.1 hd with rfl | hd
    · decide
    · rw [(List.mem_replicate.1 hd).2]
      decide
  rw [skipSpace, List.dropWhile_append_of_pos hblank]
  exact skipSpace_cons h r

/-- A line end, a comma and a closing bracket end a number. -/
theorem endsNumber_newLine (n : Nat) (r : List Char) : EndsNumber (newLine n ++ r) :=
  endsNumber_cons (by decide) (by decide) (by decide) (by decide) _

/-! ### Lists -/

variable {α σ : Type}

/-- A reader that takes a text from the front of any longer one, up to where a number would end. -/
def Takes (read : List Char → Result α) (s : List Char) (a : α) : Prop :=
  ∀ r, EndsNumber r → read (s ++ r) = .ok (a, r)

/-- A text that starts neither with a blank nor with a closing bracket. -/
def StartsValue (s : List Char) : Prop := ∃ c r, s = c :: r ∧ isSpace c = false ∧ c ≠ ']'

theorem endsNumber_prettyItems (n m : Nat) (vs : List Json) (r : List Char) :
    EndsNumber (prettyItems n vs ++ newLine m ++ r) := by
  cases vs with
  | nil => exact endsNumber_newLine m r
  | cons v vs => exact endsNumber_cons (by decide) (by decide) (by decide) (by decide) _

theorem moreItems_of_bracket (item : List Char → Result α) {s r : List Char} (h : skipSpace s = ']' :: r) :
    moreItems item s = .ok ([], r) := by
  rw [moreItems, h]
  rfl

/-- A comma and an item in front of more items. -/
theorem moreItems_of_comma {item : List Char → Result α} {s r q rest : List Char} {c : Char} {a : α}
    (hs : skipSpace s = ',' :: r) (hr : skipSpace r = c :: q) (hc : c ≠ ']') (hitem : item (c :: q) = .ok (a, rest))
    (hlt : rest.length < s.length) :
    moreItems item s = (moreItems item rest).map fun x => (a :: x.1, x.2) := by
  rw [moreItems, hs]
  simp only [hr]
  split
  · rename_i h
    cases h
  · rename_i h
    exact absurd (List.cons.inj h).1 hc
  · rw [hitem]
    dsimp only
    rw [dif_pos hlt]
    cases moreItems item rest <;> rfl

/-- The first item of a list. -/
theorem readItems_of_item {item : List Char → Result α} {s q rest : List Char} {c : Char} {a : α}
    (hs : skipSpace s = c :: q) (hc : c ≠ ']') (hitem : item (c :: q) = .ok (a, rest)) :
    readItems item s = (moreItems item rest).map fun x => (a :: x.1, x.2) := by
  rw [readItems, hs]
  split
  · rename_i h
    cases h
  · rename_i h
    exact absurd (List.cons.inj h).1 hc
  · rw [hitem]
    dsimp only
    cases moreItems item rest <;> rfl

theorem moreItems_prettyItems {item : List Char → Result Json} {n : Nat} {vs : List Json}
    (h : ∀ v ∈ vs, StartsValue (pretty n v) ∧ Takes item (pretty n v) v) (m : Nat) (r : List Char) :
    moreItems item (prettyItems n vs ++ newLine m ++ ']' :: r) = .ok (vs, r) := by
  induction vs with
  | nil => exact moreItems_of_bracket item (skipSpace_newLine (by decide) m r)
  | cons v vs ih =>
    obtain ⟨hv, hvs⟩ := List.forall_mem_cons.1 h
    obtain ⟨⟨c, s, hs, hspace, hclose⟩, htakes⟩ := hv
    have hread := htakes (prettyItems n vs ++ newLine m ++ ']' :: r) (endsNumber_prettyItems n m vs _)
    have heq : prettyItems n (v :: vs) ++ newLine m ++ ']' :: r =
        ',' :: (newLine n ++ (pretty n v ++ (prettyItems n vs ++ newLine m ++ ']' :: r))) := by
      simp [prettyItems]
    rw [hs, List.cons_append] at hread
    rw [heq, hs, List.cons_append, moreItems_of_comma (skipSpace_cons (by decide) _) (skipSpace_newLine hspace n _)
      hclose hread (by simp; omega), ih hvs]
    rfl

theorem readItems_pretty {item : List Char → Result Json} {n : Nat} {vs : List Json}
    (h : ∀ v ∈ vs, StartsValue (pretty (n + 1) v) ∧ Takes item (pretty (n + 1) v) v) :
    ∃ s, pretty n (.arr vs) = '[' :: s ∧ ∀ r, readItems item (s ++ r) = .ok (vs, r) := by
  cases vs with
  | nil => exact ⟨[']'], rfl, fun r => rfl⟩
  | cons v vs =>
    obtain ⟨hv, hvs⟩ := List.forall_mem_cons.1 h
    obtain ⟨⟨c, s, hs, hspace, hclose⟩, htakes⟩ := hv
    refine ⟨newLine (n + 1) ++ pretty (n + 1) v ++ prettyItems (n + 1) vs ++ newLine n ++ [']'], rfl, fun r => ?_⟩
    have hread := htakes (prettyItems (n + 1) vs ++ newLine n ++ ']' :: r) (endsNumber_prettyItems _ n vs _)
    have heq : newLine (n + 1) ++ pretty (n + 1) v ++ prettyItems (n + 1) vs ++ newLine n ++ [']'] ++ r =
        newLine (n + 1) ++ (pretty (n + 1) v ++ (prettyItems (n + 1) vs ++ newLine n ++ ']' :: r)) := by
      simp
    rw [hs, List.cons_append] at hread
    rw [heq, hs, List.cons_append, readItems_of_item (skipSpace_newLine hspace _ _) hclose hread,
      moreItems_prettyItems hvs]
    rfl

/-! ### Objects -/

/-- Fields that a reader puts into a state one after another, each from behind its key. -/
inductive Puts (field : σ → String → List Char → Result σ) (n : Nat) : σ → List (String × Json) → σ → Prop where
  | nil (st : σ) : Puts field n st [] st
  | cons {st st' st'' : σ} {key : String} {v : Json} {fs : List (String × Json)} :
    Takes (field st key) (':' :: ' ' :: pretty n v) st' → Puts field n st' fs st'' →
      Puts field n st ((key, v) :: fs) st''

theorem moreFields_of_brace (field : σ → String → List Char → Result σ) (st : σ) {s r : List Char}
    (h : skipSpace s = '\x7d' :: r) : moreFields field st s = .ok (st, r) := by
  rw [moreFields, h]
  rfl

/-- A comma and a field in front of more fields. -/
theorem moreFields_of_comma {field : σ → String → List Char → Result σ} {st st' : σ} {s r q t rest : List Char}
    {key : String} (hs : skipSpace s = ',' :: r) (hr : skipSpace r = '"' :: q) (hkey : readString q = .ok (key, t))
    (hfield : field st key t = .ok (st', rest)) (hlt : rest.length < s.length) :
    moreFields field st s = moreFields field st' rest := by
  rw [moreFields, hs]
  simp only [hr, hkey, hfield]
  rw [dif_pos hlt]

theorem readFields_of_field {field : σ → String → List Char → Result σ} {st st' : σ} {s q t rest : List Char}
    {key : String} (hs : skipSpace s = '"' :: q) (hkey : readString q = .ok (key, t))
    (hfield : field st key t = .ok (st', rest)) : readFields field st s = moreFields field st' rest := by
  rw [readFields, hs]
  simp only [hkey, hfield]

theorem endsNumber_prettyFields (n m : Nat) (fs : List (String × Json)) (r : List Char) :
    EndsNumber (prettyFields n fs ++ newLine m ++ r) := by
  cases fs with
  | nil => exact endsNumber_newLine m r
  | cons f fs => exact endsNumber_cons (by decide) (by decide) (by decide) (by decide) _

theorem moreFields_prettyFields {field : σ → String → List Char → Result σ} {n : Nat} {st st' : σ}
    {fs : List (String × Json)} (h : Puts field n st fs st') (m : Nat) (r : List Char) :
    moreFields field st (prettyFields n fs ++ newLine m ++ '\x7d' :: r) = .ok (st', r) := by
  induction h with
  | nil st => exact moreFields_of_brace field st (skipSpace_newLine (by decide) m r)
  | @cons st st' st'' key v fs htakes _ ih =>
    have hread := htakes (prettyFields n fs ++ newLine m ++ '\x7d' :: r) (endsNumber_prettyFields n m fs _)
    have heq : prettyFields n ((key, v) :: fs) ++ newLine m ++ '\x7d' :: r =
        ',' :: (newLine n ++ '"' :: (key.toList.flatMap escapeChar ++ '"' ::
          (':' :: ' ' :: pretty n v ++ (prettyFields n fs ++ newLine m ++ '\x7d' :: r)))) := by
      simp [prettyFields, quoted]
    rw [heq, moreFields_of_comma (skipSpace_cons (by decide) _) (skipSpace_newLine (by decide) n _)
      (readString_quoted key _) hread (by simp; omega)]
    exact ih

theorem readFields_pretty {field : σ → String → List Char → Result σ} {n : Nat} {st st' : σ}
    {fs : List (String × Json)} (h : Puts field (n + 1) st fs st') :
    ∃ s, pretty n (.obj fs) = '\x7b' :: s ∧ ∀ r, readFields field st (s ++ r) = .ok (st', r) := by
  cases h with
  | nil => exact ⟨['\x7d'], rfl, fun r => rfl⟩
  | @cons _ st₁ _ key v fs htakes hputs =>
    refine ⟨newLine (n + 1) ++ quoted key ++ ':' :: ' ' :: pretty (n + 1) v ++ prettyFields (n + 1) fs ++
      newLine n ++ ['\x7d'], rfl, fun r => ?_⟩
    have hread := htakes (prettyFields (n + 1) fs ++ newLine n ++ '\x7d' :: r) (endsNumber_prettyFields _ n fs _)
    have heq : newLine (n + 1) ++ quoted key ++ ':' :: ' ' :: pretty (n + 1) v ++ prettyFields (n + 1) fs ++
        newLine n ++ ['\x7d'] ++ r =
        newLine (n + 1) ++ '"' :: (key.toList.flatMap escapeChar ++ '"' ::
          (':' :: ' ' :: pretty (n + 1) v ++ (prettyFields (n + 1) fs ++ newLine n ++ '\x7d' :: r))) := by
      simp [quoted]
    rw [heq, readFields_of_field (skipSpace_newLine (by decide) _ _) (readString_quoted key _) hread]
    exact moreFields_prettyFields hputs n r

/-- A field from behind its key, put at its place among the others. -/
def readFieldInto (depth : Nat) (fields : List (String × Json)) (key : String) (s : List Char) :
    Result (List (String × Json)) :=
  match readColon s with
  | .error f => .error f
  | .ok r =>
    match readValue depth r with
    | .error f => .error f
    | .ok (v, r) => .ok (insertField key v fields, r)

theorem readValue_brace (depth : Nat) (s : List Char) :
    readValue (depth + 1) ('\x7b' :: s) = (readFields (readFieldInto depth) [] s).map fun x => (.obj x.1, x.2) := by
  rw [readValue, skipSpace_cons (by decide)]
  simp only []
  split <;> rename_i heq
  · have hread : readFields (readFieldInto depth) [] s = .error _ := heq
    rw [hread]
    rfl
  · have hread : readFields (readFieldInto depth) [] s = .ok (_, _) := heq
    rw [hread]
    rfl

theorem readValue_bracket (depth : Nat) (s : List Char) :
    readValue (depth + 1) ('[' :: s) = (readItems (readValue depth) s).map fun x => (.arr x.1, x.2) := by
  rw [readValue, skipSpace_cons (by decide)]
  simp only []
  cases readItems (readValue depth) s <;> rfl

/-! ### Whole numbers -/

theorem readInt64_signed {n : Int} {r : List Char} (hlow : -2 ^ 63 ≤ n) (hhigh : n < 2 ^ 63) (hr : EndsNumber r) :
    readInt64 (signed n ++ r) = .ok (n, r) := by
  rcases readNumber_signed ⟨hlow, by omega⟩ hr with ⟨s, hs, hread⟩ | ⟨c, s, hs, hc, hread⟩
  · rw [hs, readInt64, skipSpace_cons (by decide)]
    simp only [hread]
    exact if_pos hhigh
  · rw [hs, readInt64, skipSpace_cons (isSpace_of_isDigit hc)]
    split
    · rename_i h
      cases h
    · rename_i h
      rw [(List.cons.inj h).1] at hc
      exact absurd hc (by decide)
    · rename_i h
      cases h
      simp only [hread, hc, if_true]
      exact if_pos hhigh

theorem readValue_of_isDigit {c : Char} (h : isDigit c = true) (depth : Nat) (s : List Char) :
    readValue depth (c :: s) = readNumberValue false (c :: s) := by
  unfold readValue
  rw [skipSpace_cons (isSpace_of_isDigit h)]
  split <;> rename_i heq <;> cases heq
  case h_9 => exact if_pos h
  all_goals exact absurd h (by decide)

theorem readValue_signed {n : Int} {r : List Char} (hn : InRange n) (hr : EndsNumber r) (depth : Nat) :
    readValue depth (signed n ++ r) = .ok (.int n, r) := by
  rcases readNumber_signed hn hr with ⟨s, hs, hread⟩ | ⟨c, s, hs, hc, hread⟩
  · rw [hs, readValue, skipSpace_cons (by decide)]
    simp only [readNumberValue, hread, Number.toJson]
  · rw [hs, readValue_of_isDigit hc, readNumberValue, hread]
    rfl

/-! ### Values behind a blank -/

theorem readColon_cons (s : List Char) : readColon (':' :: s) = .ok s := by
  rw [readColon, skipSpace_cons (by decide)]
  rfl

theorem readValue_blank (depth : Nat) (s : List Char) : readValue depth (' ' :: s) = readValue depth s := by
  have h : skipSpace (' ' :: s) = skipSpace s := rfl
  unfold readValue
  rw [h]

theorem readInt64_blank (s : List Char) : readInt64 (' ' :: s) = readInt64 s := by
  have h : skipSpace (' ' :: s) = skipSpace s := rfl
  unfold readInt64
  rw [h]

theorem readValues_blank (depth : Nat) (s : List Char) : readValues depth (' ' :: s) = readValues depth s := by
  have h : skipSpace (' ' :: s) = skipSpace s := rfl
  unfold readValues
  rw [h]

/-! ### Values -/

/-- The values that are written and read back: whole numbers within 64 bits, objects whose fields stand in the order
of their keys, and lists and objects at most `depth` deep in each other. -/
inductive Plain : Nat → Json → Prop where
  | null (depth : Nat) : Plain depth .null
  | bool (depth : Nat) (b : Bool) : Plain depth (.bool b)
  | int (depth : Nat) {n : Int} : InRange n → Plain depth (.int n)
  | str (depth : Nat) (s : String) : Plain depth (.str s)
  | arr {depth : Nat} {vs : List Json} : (∀ v ∈ vs, Plain depth v) → Plain (depth + 1) (.arr vs)
  | obj {depth : Nat} {fs : List (String × Json)} :
    (fs.map Prod.fst).Pairwise (· < ·) → (∀ f ∈ fs, Plain depth f.2) → Plain (depth + 1) (.obj fs)

theorem Plain.startsValue {depth : Nat} {v : Json} (h : Plain depth v) (n : Nat) : StartsValue (pretty n v) := by
  cases h with
  | null => exact ⟨_, _, rfl, by decide, by decide⟩
  | bool _ b => cases b <;> exact ⟨_, _, rfl, by decide, by decide⟩
  | int =>
    rcases readNumber_signed ‹_› endsNumber_nil with ⟨s, hs, -⟩ | ⟨c, s, hs, hc, -⟩
    · rw [List.append_nil] at hs
      exact ⟨_, _, hs, by decide, by decide⟩
    · rw [List.append_nil] at hs
      refine ⟨c, s, hs, isSpace_of_isDigit hc, ?_⟩
      rintro rfl
      exact absurd hc (by decide)
  | str => exact ⟨_, _, rfl, by decide, by decide⟩
  | @arr _ vs => cases vs <;> exact ⟨_, _, rfl, by decide, by decide⟩
  | @obj _ fs => cases fs <;> exact ⟨_, _, rfl, by decide, by decide⟩

theorem insertField_append {key : String} {v : Json} {fields : List (String × Json)} (h : ∀ f ∈ fields, f.1 < key) :
    insertField key v fields = fields ++ [(key, v)] := by
  induction fields with
  | nil => rfl
  | cons f fields ih =>
    obtain ⟨hf, hfields⟩ := List.forall_mem_cons.1 h
    rw [insertField, if_neg (String.lt_asymm hf), if_neg (String.ne_of_lt hf).symm, ih hfields]
    rfl

theorem puts_of_pairwise {depth n : Nat} (fields : List (String × Json)) {fs : List (String × Json)}
    (hkeys : ((fields ++ fs).map Prod.fst).Pairwise (· < ·))
    (h : ∀ f ∈ fs, Takes (readValue depth) (pretty n f.2) f.2) :
    Puts (readFieldInto depth) n fields fs (fields ++ fs) := by
  induction fs generalizing fields with
  | nil =>
    rw [List.append_nil]
    exact .nil fields
  | cons f fs ih =>
    obtain ⟨hf, hfs⟩ := List.forall_mem_cons.1 h
    have hbefore : ∀ g ∈ fields, g.1 < f.1 := by
      rw [List.map_append, List.pairwise_append] at hkeys
      exact fun g hg => hkeys.2.2 g.1 (List.mem_map_of_mem hg) f.1 (by simp)
    -- Keys in order are put at the end one after another, so what is read stays a front part of what is written.
    rw [List.append_cons] at hkeys ⊢
    refine .cons (fun r hr => ?_) (ih _ hkeys hfs)
    rw [List.cons_append, List.cons_append, readFieldInto, readColon_cons]
    simp only [readValue_blank, hf r hr, insertField_append hbefore]

/-- What is written of a plain value is read back, whatever stands behind it. -/
theorem readValue_pretty {depth : Nat} {v : Json} (h : Plain depth v) (n : Nat) :
    Takes (readValue depth) (pretty n v) v := by
  induction h generalizing n with
  | null =>
    intro r _
    rw [pretty, List.cons_append, readValue, skipSpace_cons (by decide)]
    rfl
  | bool _ b =>
    intro r _
    cases b <;> rw [pretty, List.cons_append, readValue, skipSpace_cons (by decide)] <;> rfl
  | int depth hn =>
    intro r hr
    rw [pretty, readValue_signed hn hr]
  | str depth s =>
    intro r _
    rw [pretty, quoted, List.cons_append, List.cons_append, List.append_assoc, List.singleton_append, readValue,
      skipSpace_cons (by decide)]
    simp only [readString_quoted]
  | arr hvs ih =>
    obtain ⟨s, hs, hread⟩ := readItems_pretty fun v hv => ⟨(hvs v hv).startsValue (n + 1), ih v hv (n + 1)⟩
    intro r _
    rw [hs, List.cons_append, readValue_bracket, hread]
    rfl
  | obj hkeys _ ih =>
    obtain ⟨s, hs, hread⟩ := readFields_pretty (puts_of_pairwise [] hkeys fun f hf => ih f hf (n + 1))
    intro r _
    rw [hs, List.cons_append, readValue_brace, hread]
    rfl

theorem readValues_pretty {depth : Nat} {vs : List Json} (h : ∀ v ∈ vs, Plain depth v) (n : Nat) :
    Takes (readValues depth) (pretty n (.arr vs)) vs := by
  obtain ⟨s, hs, hread⟩ := readItems_pretty fun v hv =>
    ⟨(h v hv).startsValue (n + 1), readValue_pretty (h v hv) (n + 1)⟩
  intro r _
  rw [hs, List.cons_append, readValues, skipSpace_cons (by decide)]
  exact hread r

end AlarmClock.Json
