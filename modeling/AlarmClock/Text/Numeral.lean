import AlarmClock.Power

/-! Decimal and hexadecimal numerals as lists of characters. Main statement:
the value of the numeral of a number is that number. -/

namespace AlarmClock.Text

/-- The decimal digit for a number below ten. -/
def digitChar (d : Nat) : Char := Char.ofNat (48 + d)

/-- The decimal numeral of a natural number, without leading zeros. -/
def numeral (n : Nat) : List Char :=
  if n < 10 then [digitChar n] else numeral (n / 10) ++ [digitChar (n % 10)]

/-- The decimal numeral with zeros in front of it up to `width` characters. -/
def padded (width n : Nat) : List Char :=
  List.replicate (width - (numeral n).length) '0' ++ numeral n

/-- The decimal numeral of an integer; only a negative one carries a sign. -/
def signed (n : Int) : List Char :=
  if n < 0 then '-' :: numeral n.natAbs else numeral n.natAbs

/-- Whether a character is one of the ten ASCII digits. -/
def isDigit (c : Char) : Bool := 48 ≤ c.toNat && c.toNat ≤ 57

/-- The number that an ASCII digit stands for. -/
def digitValue (c : Char) : Nat := c.toNat - 48

/-- The number that a list of decimal digits stands for. -/
def value (s : List Char) : Nat := s.foldl (fun n c => 10 * n + digitValue c) 0

/-- The number that a hexadecimal digit of either case stands for. -/
def hexValue? (c : Char) : Option Nat :=
  let n := c.toNat
  if 48 ≤ n && n ≤ 57 then some (n - 48)
  else if 97 ≤ n && n ≤ 102 then some (n - 87)
  else if 65 ≤ n && n ≤ 70 then some (n - 55)
  else none

/-- The lower-case hexadecimal digit for a number below sixteen. -/
def hexChar (d : Nat) : Char := if d < 10 then Char.ofNat (48 + d) else Char.ofNat (87 + d)

/-- The upper-case hexadecimal digit for a number below sixteen. -/
def hexCharUpper (d : Nat) : Char := if d < 10 then Char.ofNat (48 + d) else Char.ofNat (55 + d)

/-- The lower-case hexadecimal numeral of a natural number, without leading zeros. -/
def hexNumeral (n : Nat) : List Char :=
  if n < 16 then [hexChar n] else hexNumeral (n / 16) ++ [hexChar (n % 16)]

theorem numeral_of_lt {n : Nat} (h : n < 10) : numeral n = [digitChar n] := by
  rw [numeral, if_pos h]

theorem numeral_of_le {n : Nat} (h : 10 ≤ n) : numeral n = numeral (n / 10) ++ [digitChar (n % 10)] := by
  rw [numeral, if_neg (by omega)]

theorem toNat_digitChar {d : Nat} (h : d < 10) : (digitChar d).toNat = 48 + d := by
  unfold digitChar Char.ofNat
  rw [dif_pos (show (48 + d).isValidChar from Or.inl (by omega))]
  unfold Char.ofNatAux Char.toNat
  simp
  omega

theorem digitValue_digitChar {d : Nat} (h : d < 10) : digitValue (digitChar d) = d := by
  rw [digitValue, toNat_digitChar h]; omega

theorem isDigit_digitChar {d : Nat} (h : d < 10) : isDigit (digitChar d) = true := by
  simp [isDigit, toNat_digitChar h]; omega

theorem value_append_singleton (s : List Char) (c : Char) : value (s ++ [c]) = 10 * value s + digitValue c := by
  simp [value]

theorem numeral_ne_nil (n : Nat) : numeral n ≠ [] := by
  rw [numeral]; split <;> simp

theorem value_numeral (n : Nat) : value (numeral n) = n := by
  induction n using Nat.strongRecOn with
  | ind n ih =>
    by_cases h : n < 10
    · simp [numeral_of_lt h, value, digitValue_digitChar h]
    · rw [numeral_of_le (by omega), value_append_singleton, ih _ (by omega),
        digitValue_digitChar (Nat.mod_lt _ (by omega))]
      omega

theorem isDigit_of_mem_numeral {n : Nat} {c : Char} (h : c ∈ numeral n) : isDigit c = true := by
  induction n using Nat.strongRecOn with
  | ind n ih =>
    by_cases hn : n < 10
    · rw [numeral_of_lt hn, List.mem_singleton] at h
      exact h ▸ isDigit_digitChar hn
    · rw [numeral_of_le (by omega), List.mem_append, List.mem_singleton] at h
      rcases h with h | rfl
      · exact ih _ (by omega) h
      · exact isDigit_digitChar (Nat.mod_lt _ (by omega))

end AlarmClock.Text
