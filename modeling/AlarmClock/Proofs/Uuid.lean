import AlarmClock.Proofs.Text.Written
import AlarmClock.Uuid
import Mathlib.Algebra.GroupWithZero.Nat

/-! The written form of an identifier. It is 36 characters long, has no blanks in it, and is
read as that identifier. -/

namespace AlarmClock.Uuid

open Text

theorem digit?_hexChar (d : Fin 16) : digit? (hexChar d.val) = some d := by
  revert d
  decide

/-- A digit is no hyphen, no brace, no `u` and no blank. -/
theorem hexChar_ne (d : Fin 16) :
    hexChar d.val ≠ '-' ∧ hexChar d.val ≠ '\x7b' ∧ (hexChar d.val).toLower ≠ 'u' ∧
      isBlank (hexChar d.val) = false := by
  revert d
  decide

theorem map_length_groups {s : List Char} {ns : List Nat} (h : ns.sum = s.length) :
    (groups s ns).map List.length = ns := by
  induction ns generalizing s with
  | nil => rfl
  | cons n ns ih =>
    rw [List.sum_cons] at h
    rw [groups, List.map_cons, ih (by rw [List.length_drop]; omega), List.length_take, Nat.min_eq_left (by omega)]

theorem flatten_groups {s : List Char} {ns : List Nat} (h : ns.sum = s.length) : (groups s ns).flatten = s := by
  induction ns generalizing s with
  | nil => exact (List.eq_nil_of_length_eq_zero h.symm).symm
  | cons n ns ih =>
    rw [List.sum_cons] at h
    rw [groups, List.flatten_cons, ih (by rw [List.length_drop]; omega), List.take_append_drop]

/-- The groups of an identifier use up its digits. -/
theorem sum_groupLengths (u : Uuid) : groupLengths.sum = (u.digits.map fun d => hexChar d.val).length := by
  rw [List.length_map, u.length_digits]
  rfl

theorem readDigits?_hexChars (u : Uuid) : readDigits? (u.digits.map fun d => hexChar d.val) = some u := by
  have hdigits : (u.digits.map fun d => hexChar d.val).mapM digit? = some u.digits := by
    induction u.digits with
    | nil => rfl
    | cons d ds ih => simp [digit?_hexChar, ih]
  rw [readDigits?, hdigits]
  simp [u.length_digits]

theorem readGroups?_chars (u : Uuid) : readGroups? u.chars = some u := by
  have hlens := map_length_groups u.sum_groupLengths
  have hflat := flatten_groups u.sum_groupLengths
  have hparts : parts (· = '-') u.chars = groups (u.digits.map fun d => hexChar d.val) groupLengths := by
    refine parts_intercalate ?_ ?_
    · intro h
      rw [h] at hlens
      cases hlens
    · intro w hw hdash
      have hmem : '-' ∈ u.digits.map fun d => hexChar d.val := hflat ▸ List.mem_flatten_of_mem hw hdash
      obtain ⟨d, -, hd⟩ := List.mem_map.1 hmem
      exact (hexChar_ne d).1 hd
  rw [readGroups?, hparts, if_pos hlens, hflat, readDigits?_hexChars]

theorem length_chars (u : Uuid) : u.chars.length = 36 := by
  simp [chars, groupLengths, groups, u.length_digits]

theorem chars_eq_cons (u : Uuid) : ∃ (d : Fin 16) (s : List Char), u.chars = hexChar d.val :: s := by
  rcases u with ⟨ds, h⟩
  obtain ⟨d, r, rfl⟩ := List.exists_cons_of_length_eq_add_one (n := 31) h
  exact ⟨d, _, rfl⟩

/-- An identifier is read from its written form. -/
theorem read?_chars (u : Uuid) : read? u.chars = some u := by
  obtain ⟨d, s, hs⟩ := u.chars_eq_cons
  have hlen := u.length_chars
  have hgroups := u.readGroups?_chars
  have hurn : urn.isPrefixOf (u.chars.map Char.toLower) = false := by
    rw [hs, List.map_cons, show urn = 'u' :: ['r', 'n', ':', 'u', 'u', 'i', 'd', ':'] from rfl,
      List.isPrefixOf_cons_cons, beq_eq_false_iff_ne.2 (hexChar_ne d).2.2.1.symm, Bool.false_and]
  unfold read?
  split
  · rename_i h
    rw [hs] at h
    exact absurd (List.cons.inj h).1 (hexChar_ne d).2.1
  · rw [hurn, if_neg Bool.false_ne_true, if_neg (by omega), hgroups]

theorem not_isBlank_of_mem_chars {u : Uuid} {c : Char} (h : c ∈ u.chars) : isBlank c = false := by
  rcases eq_or_mem_flatten_of_mem_intercalate h with rfl | hmem
  · decide
  · rw [flatten_groups u.sum_groupLengths] at hmem
    obtain ⟨d, -, rfl⟩ := List.mem_map.1 hmem
    exact (hexChar_ne d).2.2.2

end AlarmClock.Uuid
