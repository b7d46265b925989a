import AlarmClock.Json.Printer
import AlarmClock.Json.Reader
import AlarmClock.Proofs.Text.Written

/-! Strings and whole numbers are read back from what is written of them, whatever stands
behind a string, and up to where a number has to end. -/

namespace AlarmClock.Json

open Text

/-! ### Strings -/

theorem hexValue?_hexChar {d : Nat} (h : d < 16) : hexValue? (hexChar d) = some d := by
  revert d; decide

theorem readHex_of_lt {n : Nat} (h : n < 32) (r : List Char) :
    readHex ('0' :: '0' :: hexChar (n / 16) :: hexChar (n % 16) :: r) = .ok (n, r) := by
  have h1 := hexValue?_hexChar (show n / 16 < 16 by omega)
  have h2 := hexValue?_hexChar (show n % 16 < 16 by omega)
  have h0 : hexValue? '0' = some 0 := by decide
  simp only [readHex, h0, h1, h2, Except.ok.injEq, Prod.mk.injEq, and_true]
  omega

theorem readEscape_of_lt {c : Char} (h : c.toNat < 32) (r : List Char) :
    readEscape ('u' :: '0' :: '0' :: hexChar (c.toNat / 16) :: hexChar (c.toNat % 16) :: r) = .ok (c, r) := by
  rw [readEscape, readCode, readHex_of_lt h]
  dsimp only
  rw [if_neg (by omega), if_pos (by omega), Char.ofNat_toNat]

/-- An escape is read as the character. -/
theorem readChars_escape {c : Char} {r q : List Char} (h : readEscape r = .ok (c, q)) (hq : q.length < r.length) :
    readChars ('\\' :: r) = (readChars q).map fun p => (c :: p.1, p.2) := by
  rw [readChars, h]
  dsimp only
  rw [dif_pos hq]
  cases readChars q <;> rfl

theorem readChars_plain {c : Char} (hquote : c ≠ '"') (hslash : c ≠ '\\') (hc : 32 ≤ c.toNat) (r : List Char) :
    readChars (c :: r) = (readChars r).map fun p => (c :: p.1, p.2) := by
  rw [readChars, if_neg (by omega)]
  · cases readChars r <;> rfl
  · exact fun h => hquote h
  · exact fun h => hslash h

theorem readChars_escapeChar (c : Char) (s : List Char) :
    readChars (escapeChar c ++ s) = (readChars s).map fun p => (c :: p.1, p.2) := by
  unfold escapeChar
  split
  · exact readChars_escape rfl (by simp)
  · exact readChars_escape rfl (by simp)
  · exact readChars_escape rfl (by simp)
  · exact readChars_escape rfl (by simp)
  · exact readChars_escape rfl (by simp)
  · rename_i hquote hslash _ _ _
    split
    · rename_i h
      rw [show c = Char.ofNat 8 by rw [← h, Char.ofNat_toNat]]
      exact readChars_escape rfl (by simp)
    · split
      · rename_i h
        rw [show c = Char.ofNat 12 by rw [← h, Char.ofNat_toNat]]
        exact readChars_escape rfl (by simp)
      · split
        · rename_i h
          exact readChars_escape (readEscape_of_lt h s) (by simp; omega)
        · exact readChars_plain hquote hslash (by omega) s

theorem readString_quoted (s : String) (r : List Char) :
    readString (s.toList.flatMap escapeChar ++ '"' :: r) = .ok (s, r) := by
  have h : ∀ cs : List Char, readChars (cs.flatMap escapeChar ++ '"' :: r) = .ok (cs, r) := by
    intro cs
    induction cs with
    | nil => rw [List.flatMap_nil, List.nil_append, readChars]
    | cons c cs ih => rw [List.flatMap_cons, List.append_assoc, readChars_escapeChar, ih]; rfl
  rw [readString, h]
  simp

/-! ### Numbers -/

/-- No character at the front of a text carries on a number that stands before it. -/
def EndsNumber (r : List Char) : Prop := ∀ c q, r = c :: q → isDigit c = false ∧ c ≠ '.' ∧ c ≠ 'e' ∧ c ≠ 'E'

theorem endsNumber_nil : EndsNumber [] := nofun

theorem endsNumber_cons {c : Char} (h : isDigit c = false) (hpoint : c ≠ '.') (hlower : c ≠ 'e') (hupper : c ≠ 'E')
    (q : List Char) : EndsNumber (c :: q) := by
  rintro d r ⟨⟩
  exact ⟨h, hpoint, hlower, hupper⟩

/-- No digit stands at the front of a text. -/
def EndsDigits (r : List Char) : Prop := ∀ c q, r = c :: q → isDigit c = false

theorem endsDigits_cons {c : Char} (h : isDigit c = false) (q : List Char) : EndsDigits (c :: q) := by
  rintro d r ⟨⟩
  exact h

theorem EndsNumber.endsDigits {r : List Char} (h : EndsNumber r) : EndsDigits r := fun c q hr => (h c q hr).1

theorem takeWhile_isDigit {s r : List Char} (hs : ∀ c ∈ s, isDigit c = true) (hr : EndsDigits r) :
    (s ++ r).takeWhile isDigit = s := by
  rw [List.takeWhile_append_of_pos hs]
  cases r with
  | nil => simp
  | cons c q => simp [hr c q rfl]

theorem dropWhile_isDigit {s r : List Char} (hs : ∀ c ∈ s, isDigit c = true) (hr : EndsDigits r) :
    (s ++ r).dropWhile isDigit = r := by
  rw [List.dropWhile_append_of_pos hs]
  cases r with
  | nil => simp
  | cons c q => simp [hr c q rfl]

theorem le_foldl_digits (s : List Char) (n : Nat) : n ≤ s.foldl (fun n c => 10 * n + digitValue c) n := by
  induction s generalizing n with
  | nil => exact Nat.le_refl n
  | cons c s ih =>
    have := ih (10 * n + digitValue c)
    rw [List.foldl_cons]
    omega

/-- Digits whose number stays below 2^64 are all put behind it. -/
theorem pushDigits_of_lt {s : List Char} {n : Nat} (h : s.foldl (fun n c => 10 * n + digitValue c) n < 2 ^ 64) :
    pushDigits n s = (s.foldl (fun n c => 10 * n + digitValue c) n, s.length) := by
  induction s generalizing n with
  | nil => rfl
  | cons c s ih =>
    rw [List.foldl_cons] at h
    have hle := le_foldl_digits s (10 * n + digitValue c)
    rw [pushDigits, Nat.mul_comm n 10, if_neg (by omega), ih h]
    rfl

/-- Digits that may stand for themselves, up to where they end. -/
theorem readNumber_cons (negative : Bool) {c : Char} {q r : List Char} (hdigits : ∀ d ∈ c :: q, isDigit d = true)
    (hzero : c = '0' → q = []) (hlt : value (c :: q) < 2 ^ 64) (hr : EndsNumber r) :
    readNumber negative (c :: q ++ r) =
      if negative then
        if value (c :: q) ≠ 0 ∧ value (c :: q) ≤ 2 ^ 63 then .ok (.int (-(value (c :: q) : Int)), r)
        else scaled true (value (c :: q)) 0 r
      else .ok (.int (value (c :: q)), r) := by
  have htake := takeWhile_isDigit hdigits hr.endsDigits
  have hdrop := dropWhile_isDigit hdigits hr.endsDigits
  have hpush : pushDigits 0 (c :: q) = (value (c :: q), (c :: q).length) := pushDigits_of_lt hlt
  rw [List.cons_append] at htake hdrop ⊢
  unfold readNumber
  simp only [htake, hdrop, hpush, Int.sub_self]
  rw [if_neg (fun h => h.2 (by rw [h.1, hzero h.1])), if_neg (List.cons_ne_nil c q)]
  split
  · exact absurd rfl (hr _ _ rfl).2.1
  · exact absurd rfl (hr _ _ rfl).2.2.1
  · exact absurd rfl (hr _ _ rfl).2.2.2
  · cases negative <;> simp

theorem readNumber_numeral (negative : Bool) {n : Nat} {r : List Char} (hn : n < 2 ^ 64) (hr : EndsNumber r) :
    readNumber negative (numeral n ++ r) =
      if negative then
        if n ≠ 0 ∧ n ≤ 2 ^ 63 then .ok (.int (-(n : Int)), r) else scaled true n 0 r
      else .ok (.int n, r) := by
  obtain ⟨c, q, hc⟩ := List.exists_cons_of_ne_nil (numeral_ne_nil n)
  have hvalue : value (c :: q) = n := by rw [← hc, value_numeral]
  have hdigits : ∀ d ∈ c :: q, isDigit d = true := fun d hd => isDigit_of_mem_numeral (hc ▸ hd)
  have hzero : c = '0' → q = [] := by
    rintro rfl
    have h0 : numeral 0 = ['0'] := by rw [numeral_of_lt (by omega)]; rfl
    rw [eq_zero_of_numeral_eq_cons hc, h0] at hc
    exact (List.cons.inj hc).2.symm
  rw [hc, readNumber_cons negative hdigits hzero (by rw [hvalue]; exact hn) hr, hvalue]

/-- The whole numbers that are read exactly. -/
def InRange (n : Int) : Prop := -2 ^ 63 ≤ n ∧ n < 2 ^ 64

/-- A whole number is written with a minus or with a digit in front, and read from behind the minus or from
that digit on. -/
theorem readNumber_signed {n : Int} {r : List Char} (hn : InRange n) (hr : EndsNumber r) :
    (∃ s, signed n ++ r = '-' :: s ∧ readNumber true s = .ok (.int n, r)) ∨
      ∃ c s, signed n ++ r = c :: s ∧ isDigit c = true ∧ readNumber false (c :: s) = .ok (.int n, r) := by
  obtain ⟨hlow, hhigh⟩ := hn
  have hread := fun negative => readNumber_numeral negative (show n.natAbs < 2 ^ 64 by omega) hr
  unfold signed
  split
  · rename_i hneg
    refine .inl ⟨numeral n.natAbs ++ r, rfl, ?_⟩
    rw [hread, if_pos rfl, if_pos (by omega), show -(n.natAbs : Int) = n by omega]
  · rename_i hpos
    obtain ⟨c, q, hc⟩ := List.exists_cons_of_ne_nil (numeral_ne_nil n.natAbs)
    refine .inr ⟨c, q ++ r, by rw [hc, List.cons_append], isDigit_of_mem_numeral (hc ▸ List.mem_cons_self), ?_⟩
    rw [← List.cons_append, ← hc, hread, if_neg Bool.false_ne_true, show (n.natAbs : Int) = n by omega]

/-! ### Blanks -/

theorem isSpace_of_isDigit {c : Char} (h : isDigit c = true) : isSpace c = false := by
  simp only [isSpace, Bool.or_eq_false_iff, decide_eq_false_iff_not]
  refine ⟨⟨⟨?_, ?_⟩, ?_⟩, ?_⟩ <;> rintro rfl <;> exact absurd h (by decide)

theorem skipSpace_cons {c : Char} (h : isSpace c = false) (r : List Char) : skipSpace (c :: r) = c :: r := by
  rw [skipSpace, List.dropWhile_cons, h]
  rfl

end AlarmClock.Json
