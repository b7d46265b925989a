/-! The bytes of characters in UTF-8, and reading them back. -/

namespace AlarmClock.Text

/-- The bytes of a character. -/
def utf8 (c : Char) : List Nat :=
  let n := c.toNat
  if n < 0x80 then [n]
  else if n < 0x800 then [0xC0 + n / 0x40, 0x80 + n % 0x40]
  else if n < 0x10000 then [0xE0 + n / 0x1000, 0x80 + n / 0x40 % 0x40, 0x80 + n % 0x40]
  else [0xF0 + n / 0x40000, 0x80 + n / 0x1000 % 0x40, 0x80 + n / 0x40 % 0x40, 0x80 + n % 0x40]

/-- Whether a byte continues a character. -/
def continues (b : Nat) : Bool := 0x80 ≤ b && b < 0xC0

/-- The text of well-formed bytes: no byte more than a character needs, no surrogates. -/
def readUtf8? : List Nat → Option (List Char)
  | [] => some []
  | a :: r =>
    if a < 0x80 then (readUtf8? r).map (Char.ofNat a :: ·)
    else
      match r with
      | [] => none
      | b :: r =>
        if !continues b then none
        else if 0xC2 ≤ a ∧ a < 0xE0 then (readUtf8? r).map (Char.ofNat ((a - 0xC0) * 0x40 + (b - 0x80)) :: ·)
        else
          match r with
          | [] => none
          | c :: r =>
            if !continues c then none
            else if 0xE0 ≤ a ∧ a < 0xF0 then
              let n := ((a - 0xE0) * 0x40 + (b - 0x80)) * 0x40 + (c - 0x80)
              if n < 0x800 ∨ (0xD800 ≤ n ∧ n < 0xE000) then none else (readUtf8? r).map (Char.ofNat n :: ·)
            else
              match r with
              | [] => none
              | d :: r =>
                let n := (((a - 0xF0) * 0x40 + (b - 0x80)) * 0x40 + (c - 0x80)) * 0x40 + (d - 0x80)
                if !continues d ∨ a < 0xF0 ∨ n < 0x10000 ∨ 0x110000 ≤ n then none
                else (readUtf8? r).map (Char.ofNat n :: ·)

end AlarmClock.Text
