import AlarmClock.Proofs.Json.Lexeme

/-! Strings and numbers are taken from the front of a text. What is left over is the end of the
text, and the part in front of it is read as the same in front of anything else; only what
carries on a number must not stand behind one. -/

namespace AlarmClock.Json

open Text

/-! ### Blanks and words -/

/-- A text of blanks. -/
def Blank (s : List Char) : Prop := ∀ c ∈ s, isSpace c = true

theorem skipSpace_blank {b : List Char} (hb : Blank b) {c : Char} (hc : isSpace c = false) (r : List Char) :
    skipSpace (b ++ c :: r) = c :: r := by
  rw [skipSpace, List.dropWhile_append_of_pos hb]
  exact skipSpace_cons hc r

theorem blank_nil : Blank [] := nofun

theorem endsNumber_blank {b r : List Char} (hb : Blank b) (hr : EndsNumber r) : EndsNumber (b ++ r) := by
  cases b with
  | nil => exact hr
  | cons c b =>
    have hc := hb c List.mem_cons_self
    refine endsNumber_cons ?_ ?_ ?_ ?_ _
    · rw [← Bool.not_eq_true]
      exact fun hdigit => Bool.false_ne_true ((isSpace_of_isDigit hdigit).symm.trans hc)
    all_goals
      rintro rfl
      exact absurd hc (by decide)

theorem isSpace_of_skipSpace {s q : List Char} {c : Char} (h : skipSpace s = c :: q) : isSpace c = false := by
  have hhead := List.head?_dropWhile_not isSpace s
  rw [show s.dropWhile isSpace = c :: q from h] at hhead
  exact hhead

/-- What stands behind blanks stands there with anything else behind it. -/
theorem skipSpace_front {s r : List Char} {c : Char} (h : skipSpace s = c :: r) :
    ∃ b, Blank b ∧ s = b ++ c :: r ∧ ∀ t, skipSpace (b ++ c :: t) = c :: t := by
  have hblank : Blank (s.takeWhile isSpace) := List.all_eq_true.1 List.all_takeWhile
  refine ⟨s.takeWhile isSpace, hblank, ?_, skipSpace_blank hblank (isSpace_of_skipSpace h)⟩
  rw [← h]
  exact List.takeWhile_append_dropWhile.symm

theorem readWord_front {w s r : List Char} (h : readWord w s = .ok r) :
    s = w ++ r ∧ ∀ t, readWord w (w ++ t) = .ok t := by
  fun_induction readWord w s with
  | case1 =>
    cases h
    exact ⟨rfl, fun _ => rfl⟩
  | case2 => cases h
  | case3 w s c ih =>
    obtain ⟨rfl, hread⟩ := ih h
    refine ⟨rfl, fun t => ?_⟩
    rw [List.cons_append, readWord, if_pos rfl, hread]
  | case4 => cases h

/-! ### Strings -/

theorem readHex_front {s r : List Char} {n : Nat} (h : readHex s = .ok (n, r)) :
    ∃ p, s = p ++ r ∧ ∀ t, readHex (p ++ t) = .ok (n, t) := by
  have hbad : (if 4 ≤ byteLength s then (.error ⟨.badEscape, s, 4⟩ : Result Nat) else failAt .endInString []) ≠
      .ok (n, r) := by
    split <;> exact nofun
  unfold readHex at h
  dsimp only at h
  split at h
  · rename_i a b c d q
    split at h
    · rename_i ha hb hc hd
      cases h
      refine ⟨[a, b, c, d], rfl, fun t => ?_⟩
      simp only [readHex, List.cons_append, List.nil_append, ha, hb, hc, hd]
    · exact absurd h hbad
  · exact absurd h hbad

theorem readCode_front {s r : List Char} {c : Char} (h : readCode s = .ok (c, r)) :
    ∃ p, s = p ++ r ∧ ∀ t, readCode (p ++ t) = .ok (c, t) := by
  cases hhigh : readHex s with
  | error f =>
    rw [readCode, hhigh] at h
    cases h
  | ok x =>
    obtain ⟨p, rfl, hp⟩ := readHex_front hhigh
    rw [readCode, hhigh] at h
    dsimp only at h
    split at h
    · cases h
    rename_i hlone
    split at h
    · rename_i hsingle
      cases h
      refine ⟨p, rfl, fun t => ?_⟩
      rw [readCode, hp]
      dsimp only
      rw [if_neg hlone, if_pos hsingle]
    rename_i hpair
    -- Only behind another escape of four digits does a half pair become a character.
    split at h
    case h_3 q hq =>
      cases hlow : readHex q with
      | error f =>
        rw [hlow] at h
        cases h
      | ok y =>
        obtain ⟨p', rfl, hp'⟩ := readHex_front hlow
        rw [hlow] at h
        dsimp only at h
        split at h
        · cases h
        rename_i hrange
        obtain ⟨hc, rfl⟩ := Prod.mk.inj (Except.ok.inj h)
        refine ⟨p ++ '\\' :: 'u' :: p', by rw [hq, List.append_assoc]; rfl, fun t => ?_⟩
        rw [List.append_assoc, readCode, hp]
        dsimp only
        rw [if_neg hlone, if_neg hpair]
        simp only [List.cons_append, hp']
        rw [if_neg hrange, hc]
    all_goals cases h

theorem readEscape_front {s r : List Char} {c : Char} (h : readEscape s = .ok (c, r)) :
    ∃ p, s = p ++ r ∧ ∀ t, readEscape (p ++ t) = .ok (c, t) := by
  rw [readEscape.eq_def] at h
  split at h
  case h_10 =>
    obtain ⟨p, rfl, hp⟩ := readCode_front h
    exact ⟨'u' :: p, rfl, hp⟩
  all_goals
    cases h
    try exact ⟨[_], rfl, fun _ => rfl⟩

theorem readChars_front {s r cs : List Char} (h : readChars s = .ok (cs, r)) :
    ∃ p, s = p ++ r ∧ ∀ t, readChars (p ++ t) = .ok (cs, t) := by
  fun_induction readChars s generalizing cs r with
  | case1 => cases h
  | case2 =>
    cases h
    refine ⟨['"'], rfl, fun t => ?_⟩
    rw [List.cons_append, readChars, List.nil_append]
  | case3 => cases h
  | case4 => cases h
  | case5 q c q' hc hlt as rest hrest ih =>
    cases h
    obtain ⟨p, rfl, hp⟩ := readEscape_front hc
    obtain ⟨p', rfl, hp'⟩ := ih hrest
    refine ⟨'\\' :: (p ++ p'), by rw [List.cons_append, List.append_assoc], fun t => ?_⟩
    rw [List.cons_append, List.append_assoc, readChars_escape (hp _) (by simp at hlt ⊢; omega), hp']
    rfl
  | case6 => cases h
  | case7 => cases h
  | case8 => cases h
  | case9 c q hquote hslash hlt as rest hrest ih =>
    cases h
    obtain ⟨p, rfl, hp⟩ := ih hrest
    refine ⟨c :: p, rfl, fun t => ?_⟩
    rw [List.cons_append, readChars_plain hquote hslash (by omega), hp]
    rfl

theorem readString_front {s r : List Char} {a : String} (h : readString s = .ok (a, r)) :
    ∃ p, s = p ++ r ∧ ∀ t, readString (p ++ t) = .ok (a, t) := by
  cases hchars : readChars s with
  | error f =>
    rw [readString, hchars] at h
    cases h
  | ok x =>
    obtain ⟨p, rfl, hp⟩ := readChars_front hchars
    rw [readString, hchars] at h
    cases h
    refine ⟨p, rfl, fun t => ?_⟩
    rw [readString, hp]

theorem skipEscape_front {s r : List Char} (h : skipEscape s = .ok r) :
    ∃ p, s = p ++ r ∧ ∀ t, skipEscape (p ++ t) = .ok t := by
  rw [skipEscape.eq_def] at h
  split at h
  · cases h
  · rename_i q
    cases hhex : readHex q with
    | error f =>
      rw [hhex] at h
      cases h
    | ok x =>
      obtain ⟨p, rfl, hp⟩ := readHex_front hhex
      rw [hhex] at h
      cases h
      refine ⟨'u' :: p, rfl, fun t => ?_⟩
      rw [List.cons_append, skipEscape, hp]
  · rename_i c q hu
    split at h
    · rename_i hc
      cases h
      refine ⟨[c], rfl, fun t => ?_⟩
      rw [List.cons_append, List.nil_append, skipEscape, if_pos hc]
      exact hu
    · cases h

theorem skipString_front {s r : List Char} (h : skipString s = .ok r) :
    ∃ p, s = p ++ r ∧ ∀ t, skipString (p ++ t) = .ok t := by
  fun_induction skipString s with
  | case1 => cases h
  | case2 =>
    cases h
    refine ⟨['"'], rfl, fun t => ?_⟩
    rw [List.cons_append, List.nil_append, skipString]
  | case3 => cases h
  | case4 q q' hesc hlt ih =>
    obtain ⟨p, rfl, hp⟩ := skipEscape_front hesc
    obtain ⟨p', rfl, hp'⟩ := ih h
    refine ⟨'\\' :: (p ++ p'), by rw [List.cons_append, List.append_assoc], fun t => ?_⟩
    rw [List.cons_append, List.append_assoc, skipString, hp]
    dsimp only
    rw [dif_pos (by simp at hlt ⊢; omega), hp']
  | case5 => cases h
  | case6 => cases h
  | case7 c q hquote hslash hlt ih =>
    obtain ⟨p, rfl, hp⟩ := ih h
    refine ⟨c :: p, rfl, fun t => ?_⟩
    rw [List.cons_append, skipString, if_neg hlt, hp]
    · exact hquote
    · exact hslash

/-! ### Digits -/

/-- Every text starts with digits, if none, up to where they end. -/
theorem exists_digits (s : List Char) : ∃ ds r, s = ds ++ r ∧ (∀ c ∈ ds, isDigit c = true) ∧ EndsDigits r := by
  refine ⟨s.takeWhile isDigit, s.dropWhile isDigit, List.takeWhile_append_dropWhile.symm,
    List.all_eq_true.1 List.all_takeWhile, fun c q h => ?_⟩
  have hhead := List.head?_dropWhile_not isDigit s
  rw [h] at hhead
  exact hhead

theorem exponentDigits_of_endsDigits (n : Nat) {t : List Char} (ht : EndsDigits t) : exponentDigits n t = (n, t) := by
  cases t with
  | nil => rfl
  | cons c q => rw [exponentDigits, if_neg (by rw [ht c q rfl]; decide)]

/-- Digits of an exponent end where it is past 31 bits, whatever stands there, or else where no digit stands. -/
theorem exponentDigits_front {n : Nat} (hn : n < 2 ^ 31) (s : List Char) :
    ∃ p, s = p ++ (exponentDigits n s).2 ∧ ∀ t, 2 ^ 31 ≤ (exponentDigits n s).1 ∨ EndsDigits t →
      exponentDigits n (p ++ t) = ((exponentDigits n s).1, t) := by
  have hnone {n : Nat} (hn : n < 2 ^ 31) (t : List Char) (ht : 2 ^ 31 ≤ n ∨ EndsDigits t) :
      exponentDigits n t = (n, t) :=
    exponentDigits_of_endsDigits n (ht.resolve_left (Nat.not_le.2 hn))
  fun_induction exponentDigits n s with
  | case1 n => exact ⟨[], rfl, hnone hn⟩
  | case2 n c s hc m hm =>
    refine ⟨[c], rfl, fun t _ => ?_⟩
    rw [List.cons_append, exponentDigits, if_pos hc]
    exact if_pos hm
  | case3 n c s hc m hm ih =>
    obtain ⟨p, hs, hp⟩ := ih (by omega)
    refine ⟨c :: p, congrArg (c :: ·) hs, fun t ht => ?_⟩
    rw [List.cons_append, exponentDigits, if_pos hc, ← hp t ht]
    exact if_neg hm
  | case4 n c s hc => exact ⟨[], rfl, hnone hn⟩

/-! ### Numbers -/

/-- A reader takes what it reads from the front of a text, and takes it from the front of any text that does not
carry on a number. What it gives is a function of what is left over. -/
def FromFront {γ : Type} (out : List Char → γ) (read : List Char → Except Failure γ) : Prop :=
  ∀ ⦃s r : List Char⦄, read s = .ok (out r) → ∃ p, s = p ++ r ∧ ∀ t, EndsNumber t → read (p ++ t) = .ok (out t)

/-- One reader behind a character, another one where it does not stand. -/
def onChar {β : Type} (c : Char) (f g : List Char → β) : List Char → β
  | [] => g []
  | d :: r => if d = c then f r else g (d :: r)

theorem onChar_self {β : Type} (c : Char) (f g : List Char → β) (r : List Char) : onChar c f g (c :: r) = f r :=
  if_pos rfl

theorem onChar_cons_of_ne {β : Type} {c d : Char} (h : d ≠ c) (f g : List Char → β) (r : List Char) :
    onChar c f g (d :: r) = g (d :: r) :=
  if_neg h

theorem onChar_of_ne {β : Type} {c : Char} {s : List Char} (hs : ∀ r, s ≠ c :: r) (f g : List Char → β) :
    onChar c f g s = g s := by
  cases s with
  | nil => rfl
  | cons d r =>
    refine onChar_cons_of_ne ?_ f g r
    rintro rfl
    exact hs r rfl

section Numbers

variable {γ : Type} {out : List Char → γ}

theorem FromFront.onChar {f g : List Char → Except Failure γ} (hf : FromFront out f) (hg : FromFront out g) {c : Char}
    (hc : c = '.' ∨ c = 'e' ∨ c = 'E') : FromFront out (onChar c f g) := by
  intro s r h
  by_cases hs : ∃ q, s = c :: q
  · obtain ⟨q, rfl⟩ := hs
    obtain ⟨p, rfl, hp⟩ := hf (onChar_self c f g q ▸ h)
    exact ⟨c :: p, rfl, fun t ht => (onChar_self c f g _).trans (hp t ht)⟩
  · have hs : ∀ q, s ≠ c :: q := fun q hq => hs ⟨q, hq⟩
    obtain ⟨p, rfl, hp⟩ := hg (onChar_of_ne hs f g ▸ h)
    refine ⟨p, rfl, fun t ht => ?_⟩
    rw [onChar_of_ne, hp t ht]
    intro q hq
    cases p with
    | nil =>
      obtain ⟨-, hpoint, hlower, hupper⟩ := ht c q hq
      rcases hc with rfl | rfl | rfl
      · exact hpoint rfl
      · exact hlower rfl
      · exact hupper rfl
    | cons d p =>
      cases hq
      exact hs _ rfl

/-- What is taken from behind a character of a text, by a reader that takes nothing from no text. -/
theorem FromFront.cons {read : List Char → Except Failure γ} (hread : FromFront out read) (hnil : ∀ x, read [] ≠ .ok x)
    (c : Char) : FromFront out fun s => read (c :: s) := by
  intro s r h
  obtain ⟨p, hp, htakes⟩ := hread h
  cases p with
  | nil => exact absurd (htakes [] endsNumber_nil) (hnil _)
  | cons d p =>
    rw [List.cons_append] at hp
    obtain ⟨rfl, rfl⟩ := List.cons.inj hp
    exact ⟨p, rfl, htakes⟩

/-- Where digits end in front of something, they end in front of anything that does not carry on a number. -/
theorem EndsDigits.front {p r t : List Char} (h : EndsDigits (p ++ r)) (ht : EndsNumber t) : EndsDigits (p ++ t) := by
  cases p with
  | nil => exact ht.endsDigits
  | cons c p => exact endsDigits_cons (h c _ rfl) _

/-- A reader goes on behind digits as they say. -/
theorem fromFront_of_digits {read : List Char → Except Failure γ} (good : List Char → Prop)
    (behind : List Char → List Char → Except Failure γ) (hgood : ∀ ds t x, (∀ c ∈ ds, isDigit c = true) → EndsDigits t →
      (read (ds ++ t) = .ok x ↔ good ds ∧ behind ds t = .ok x)) (hbehind : ∀ ds, FromFront out (behind ds)) :
    FromFront out read := by
  intro s r h
  obtain ⟨ds, q, rfl, hds, hq⟩ := exists_digits s
  obtain ⟨hgood', h⟩ := (hgood ds q _ hds hq).1 h
  obtain ⟨p, rfl, hp⟩ := hbehind ds h
  refine ⟨ds ++ p, by rw [List.append_assoc], fun t ht => ?_⟩
  rw [List.append_assoc]
  exact (hgood ds _ _ hds (hq.front ht)).2 ⟨hgood', hp t ht⟩

/-- A reader that takes no text. -/
theorem fromFront_ok {α : Type} (y x : α) : FromFront (fun r => (x, r)) fun r => .ok (y, r) := by
  intro s r h
  cases h
  exact ⟨[], rfl, fun _ _ => rfl⟩

theorem FromFront.ite {f g : List Char → Except Failure γ} {c : Prop} [Decidable c] (hf : FromFront out f)
    (hg : FromFront out g) : FromFront out fun r => if c then f r else g r := by
  by_cases hc : c
  · simpa only [if_pos hc] using hf
  · simpa only [if_neg hc] using hg

theorem scaled_front {negative : Bool} {n : Nat} {e : Int} {s r : List Char} {x : Number}
    (h : scaled negative n e s = .ok (x, r)) : s = r ∧ ∀ t, scaled negative n e t = .ok (x, t) := by
  unfold scaled at h ⊢
  split at h
  · cases h
  · cases h
    exact ⟨rfl, fun _ => rfl⟩

theorem scaled_fromFront (negative : Bool) (n : Nat) (e : Int) (x : Number) :
    FromFront (fun r => (x, r)) (scaled negative n e) := by
  intro s r h
  obtain ⟨rfl, hread⟩ := scaled_front h
  exact ⟨[], rfl, fun t _ => hread t⟩

/-- Whether a minus stands at the front, and what stands behind the sign. -/
def splitSign : List Char → Bool × List Char
  | '+' :: r => (false, r)
  | '-' :: r => (true, r)
  | r => (false, r)

theorem splitSign_of_isDigit {c : Char} (hc : isDigit c = true) (q : List Char) :
    splitSign (c :: q) = (false, c :: q) := by
  rw [splitSign]
  · rintro r ⟨⟩
    exact absurd hc (by decide)
  · rintro r ⟨⟩
    exact absurd hc (by decide)

/-- A sign, if any, is split from any text that starts with the same digit. -/
theorem splitSign_front {s q : List Char} {c : Char} (hc : isDigit c = true) (h : (splitSign s).2 = c :: q) :
    ∃ b, s = b ++ c :: q ∧ ∀ t, splitSign (b ++ c :: t) = ((splitSign s).1, c :: t) := by
  unfold splitSign at h
  split at h
  · exact ⟨['+'], congrArg _ h, fun _ => rfl⟩
  · exact ⟨['-'], congrArg _ h, fun _ => rfl⟩
  · dsimp only at h
    subst h
    refine ⟨[], rfl, fun t => ?_⟩
    rw [splitSign_of_isDigit hc]
    exact splitSign_of_isDigit hc t

/-- An exponent behind its sign. -/
def readPower (negative : Bool) (n : Nat) (places : Int) (down : Bool) (s : List Char) : Result Number :=
  match s with
  | [] => failAt .endInValue []
  | c :: _ =>
    if isDigit c then
      let (e, r) := exponentDigits 0 s
      if 2 ^ 31 ≤ e then
        if n ≠ 0 ∧ !down then failAt .numberTooLarge r
        else .ok (.float ⟨negative, .zero⟩, r.dropWhile isDigit)
      else scaled negative n (if down then places - e else places + e) r
    else failOn .badNumber s

theorem readExponent_eq (negative : Bool) (n : Nat) (places : Int) (s : List Char) :
    readExponent negative n places s = readPower negative n places (splitSign s).1 (splitSign s).2 := rfl

theorem readPower_front {negative : Bool} {n : Nat} {places : Int} {down : Bool} {s r : List Char} {x : Number}
    (h : readPower negative n places down s = .ok (x, r)) :
    ∃ c p, isDigit c = true ∧ s = c :: (p ++ r) ∧
      ∀ t, EndsNumber t → readPower negative n places down (c :: (p ++ t)) = .ok (x, t) := by
  cases s with
  | nil => cases h
  | cons c q =>
    by_cases hc : isDigit c = true
    · have hsmall : digitValue c < 2 ^ 31 := by
        simp only [isDigit, Bool.and_eq_true, decide_eq_true_eq] at hc
        rw [digitValue]
        omega
      have heq (q : List Char) : readPower negative n places down (c :: q) =
          if 2 ^ 31 ≤ (exponentDigits (digitValue c) q).1 then
            if n ≠ 0 ∧ !down then failAt .numberTooLarge (exponentDigits (digitValue c) q).2
            else .ok (.float ⟨negative, .zero⟩, (exponentDigits (digitValue c) q).2.dropWhile isDigit)
          else scaled negative n (if down then places - (exponentDigits (digitValue c) q).1
            else places + (exponentDigits (digitValue c) q).1) (exponentDigits (digitValue c) q).2 := by
        rw [readPower, if_pos hc, exponentDigits, if_pos hc, Nat.zero_mul, Nat.zero_add, if_neg (by omega)]
      obtain ⟨p, hq, hp⟩ := exponentDigits_front hsmall q
      rw [heq] at h
      split at h
      · rename_i hlarge
        split at h
        · cases h
        · rename_i hfits
          -- The digits past 31 bits are passed over.
          obtain ⟨ds, rest, hrest, hds, hends⟩ := exists_digits (exponentDigits (digitValue c) q).2
          rw [hrest, dropWhile_isDigit hds hends] at h
          cases h
          refine ⟨c, p ++ ds, hc, by rw [List.append_assoc, ← hrest, ← hq], fun t ht => ?_⟩
          rw [heq, List.append_assoc, hp _ (.inl hlarge), if_pos hlarge, if_neg hfits]
          dsimp only
          rw [dropWhile_isDigit hds ht.endsDigits]
      · rename_i hfits
        obtain ⟨hr, hread⟩ := scaled_front h
        refine ⟨c, p, hc, by rw [← hr, ← hq], fun t ht => ?_⟩
        rw [heq, hp t (.inr ht.endsDigits), if_neg hfits]
        exact hread t
    · rw [readPower, if_neg hc] at h
      cases h

theorem readExponent_fromFront (negative : Bool) (n : Nat) (places : Int) (x : Number) :
    FromFront (fun r => (x, r)) (readExponent negative n places) := by
  intro s r h
  rw [readExponent_eq] at h
  obtain ⟨c, p, hc, hs, hp⟩ := readPower_front h
  obtain ⟨b, rfl, hb⟩ := splitSign_front hc hs
  refine ⟨b ++ c :: p, by rw [List.append_assoc]; rfl, fun t ht => ?_⟩
  rw [List.append_assoc, readExponent_eq, List.cons_append, hb]
  exact hp t ht

/-- One reader behind the letter of an exponent, another one where there is none. -/
def onExponent {β : Type} (f g : List Char → β) : List Char → β := onChar 'e' f (onChar 'E' f g)

theorem onExponent_eq {β : Type} (f g : List Char → β) (s : List Char) :
    onExponent f g s = match s with
      | 'e' :: r => f r
      | 'E' :: r => f r
      | r => g r := by
  unfold onExponent
  split
  · rw [onChar_self]
  · rw [onChar_cons_of_ne (by decide), onChar_self]
  · rename_i hlower hupper
    rw [onChar_of_ne hlower, onChar_of_ne hupper]

theorem FromFront.onExponent {f g : List Char → Except Failure γ} (hf : FromFront out f) (hg : FromFront out g) :
    FromFront out (onExponent f g) :=
  hf.onChar (hf.onChar hg (by decide)) (by decide)

/-- A number behind the digits behind its point. -/
def behindFraction (negative : Bool) (n : Nat) (places : Int) (ds : List Char) : List Char → Result Number :=
  onExponent (readExponent negative (pushDigits n ds).1 (places - (pushDigits n ds).2))
    (scaled negative (pushDigits n ds).1 (places - (pushDigits n ds).2))

theorem readFraction_fromFront (negative : Bool) (n : Nat) (places : Int) (x : Number) :
    FromFront (fun r => (x, r)) (readFraction negative n places) := by
  refine fromFront_of_digits (· ≠ []) (behindFraction negative n places) (fun ds t y hds ht => ?_) fun ds => ?_
  · rw [readFraction, takeWhile_isDigit hds ht, dropWhile_isDigit hds ht, behindFraction, onExponent_eq]
    by_cases hne : ds = []
    · rw [if_pos hne]
      exact iff_of_false nofun fun h => h.1 hne
    · rw [if_neg hne]
      exact (and_iff_right hne).symm
  · exact (readExponent_fromFront ..).onExponent (scaled_fromFront ..)

/-- Digits in front of a number: at least one, and none behind a zero. -/
def StartsNumber (ds : List Char) : Prop := ds ≠ [] ∧ (ds.head? = some '0' → ds = ['0'])

/-- A number is refused where it does not start as numbers do. -/
theorem startsNumber_iff {β : Type} {ds t : List Char} (ht : EndsDigits t) {e e' : Failure} {f : List Char → Failure}
    {k : Except Failure β} {y : β} :
    (match ds ++ t with
      | [] => Except.error e
      | c :: r => if c = '0' ∧ ds ≠ ['0'] then .error (f r) else if ds = [] then .error e' else k) = .ok y ↔
      StartsNumber ds ∧ k = .ok y := by
  cases ds with
  | nil =>
    refine iff_of_false ?_ fun h => h.1.1 rfl
    rw [List.nil_append]
    cases t with
    | nil => exact nofun
    | cons c q =>
      have hc : c ≠ '0' := by
        rintro rfl
        exact absurd (ht _ _ rfl) (by decide)
      dsimp only
      rw [if_neg fun h => hc h.1, if_pos rfl]
      exact nofun
  | cons c ds =>
    rw [List.cons_append]
    dsimp only
    by_cases hzero : c = '0' ∧ c :: ds ≠ ['0']
    · rw [if_pos hzero]
      exact iff_of_false nofun fun h => hzero.2 (h.1.2 (congrArg some hzero.1))
    · rw [if_neg hzero, if_neg (List.cons_ne_nil c ds)]
      refine (and_iff_right ⟨List.cons_ne_nil c ds, fun hc => ?_⟩).symm
      exact Decidable.not_not.1 fun h => hzero ⟨Option.some.inj hc, h⟩

/-- A number behind the digits in front of it. -/
def behindDigits (negative : Bool) (ds : List Char) : List Char → Result Number :=
  let n := (pushDigits 0 ds).1
  let places : Int := ds.length - (pushDigits 0 ds).2
  onChar '.' (readFraction negative n places) (onExponent (readExponent negative n places) fun r =>
    if places = 0 ∧ !negative then .ok (.int n, r)
    else if places = 0 ∧ n ≠ 0 ∧ n ≤ 2 ^ 63 then .ok (.int (-n), r)
    else scaled negative n places r)

theorem readNumber_fromFront (negative : Bool) (x : Number) : FromFront (fun r => (x, r)) (readNumber negative) := by
  refine fromFront_of_digits StartsNumber (behindDigits negative) (fun ds t y hds ht => ?_) fun ds => ?_
  · unfold readNumber
    simp only [takeWhile_isDigit hds ht, dropWhile_isDigit hds ht]
    refine (startsNumber_iff ht).trans (and_congr_right fun _ => ?_)
    rw [behindDigits]
    split
    · rw [onChar_self]
    · rw [onChar_cons_of_ne (by decide), onExponent_eq]
      exact Iff.rfl
    · rw [onChar_cons_of_ne (by decide), onExponent_eq]
      exact Iff.rfl
    · rename_i hpoint hlower hupper
      rw [onChar_of_ne hpoint, onExponent, onChar_of_ne hlower, onChar_of_ne hupper]
  · refine (readFraction_fromFront ..).onChar ((readExponent_fromFront ..).onExponent ?_) (by decide)
    exact (fromFront_ok _ x).ite ((fromFront_ok _ x).ite (scaled_fromFront ..))

theorem skipExponent_eq (s : List Char) :
    skipExponent s = match (splitSign s).2 with
      | [] => failAt .badNumber []
      | c :: r => if isDigit c then .ok (r.dropWhile isDigit) else failOn .badNumber (c :: r) := by
  have h : (match s with
      | '+' :: r => r
      | '-' :: r => r
      | r => r) = (splitSign s).2 := by
    unfold splitSign
    split <;> rfl
  rw [← h]
  rfl

theorem skipExponent_fromFront : FromFront (fun r => r) skipExponent := by
  intro s r h
  rw [skipExponent_eq] at h
  split at h
  · cases h
  rename_i c q hs
  split at h
  · rename_i hc
    cases h
    obtain ⟨ds, rest, rfl, hds, hends⟩ := exists_digits q
    obtain ⟨b, rfl, hb⟩ := splitSign_front hc hs
    rw [dropWhile_isDigit hds hends]
    refine ⟨b ++ c :: ds, by rw [List.append_assoc]; rfl, fun t ht => ?_⟩
    rw [List.append_assoc, List.cons_append, skipExponent_eq, hb]
    dsimp only
    rw [if_pos hc, dropWhile_isDigit hds ht.endsDigits]
  · cases h

/-- The rest behind the digits behind a point. -/
def skipFraction (s : List Char) : Except Failure (List Char) :=
  if s.takeWhile isDigit = [] then failOn .badNumber s
  else
    match s.dropWhile isDigit with
    | 'e' :: r => skipExponent r
    | 'E' :: r => skipExponent r
    | r => .ok r

theorem ok_fromFront : FromFront (fun r => r) fun r => .ok r := by
  intro s r h
  cases h
  exact ⟨[], rfl, fun _ _ => rfl⟩

theorem skipFraction_fromFront : FromFront (fun r => r) skipFraction := by
  refine fromFront_of_digits (· ≠ []) (fun _ => onExponent skipExponent fun r => .ok r) (fun ds t y hds ht => ?_)
    fun _ => skipExponent_fromFront.onExponent ok_fromFront
  rw [skipFraction, takeWhile_isDigit hds ht, dropWhile_isDigit hds ht, onExponent_eq]
  by_cases hne : ds = []
  · rw [if_pos hne]
    exact iff_of_false nofun fun h => h.1 hne
  · rw [if_neg hne]
    exact (and_iff_right hne).symm

theorem skipNumber_fromFront : FromFront (fun r => r) skipNumber := by
  refine fromFront_of_digits StartsNumber
    (fun _ => onChar '.' skipFraction (onExponent skipExponent fun r => .ok r)) (fun ds t y hds ht => ?_) fun _ =>
      skipFraction_fromFront.onChar (skipExponent_fromFront.onExponent ok_fromFront) (by decide)
  unfold skipNumber
  simp only [takeWhile_isDigit hds ht, dropWhile_isDigit hds ht]
  refine (startsNumber_iff ht).trans (and_congr_right fun _ => ?_)
  split
  · rw [onChar_cons_of_ne (by decide), onExponent_eq]
    exact Iff.rfl
  · rw [onChar_cons_of_ne (by decide), onExponent_eq]
    exact Iff.rfl
  · rw [onChar_self]
    exact Iff.rfl
  · rename_i hlower hupper hpoint
    rw [onChar_of_ne hpoint, onExponent, onChar_of_ne hlower, onChar_of_ne hupper]

end Numbers

end AlarmClock.Json
