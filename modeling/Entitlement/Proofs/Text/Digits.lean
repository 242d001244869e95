import Entitlement.Identity
import Mathlib.Algebra.Group.Nat.Defs
import Mathlib.Data.List.Induction

/-!
Numbers written with digits and read again, among them identifiers. The text of an identifier may have capital
letters, have no hyphens or have something around it, and otherwise is what its number is written as.
-/

namespace Entitlement.Text

/-! ### Digits -/

variable {base width n : Nat} {c : Char} {cs : List Char}

/-- What is true of the first 128 code points is true of every character of ASCII. -/
@[elab_as_elim]
theorem of_ascii {p : Char → Prop} (c : Char) (all : ∀ code < 128, p (Char.ofNat code)) (ascii : c.toNat < 128) : p c :=
  Char.ofNat_toNat c ▸ all c.toNat ascii

theorem hexDigit?_digitChar (bound : n < 16) : hexDigit? n.digitChar = some n := by
  have all : ∀ n < 16, hexDigit? n.digitChar = some n := by decide +kernel
  exact all n bound

theorem toNat_lt_of_hexDigit? (read : hexDigit? c = some n) : c.toNat < 128 := by
  have below {last : Char} (ascii : last.toNat < 128) (at_most : c ≤ last) : c.toNat < 128 :=
    Nat.lt_of_le_of_lt at_most ascii
  unfold hexDigit? at read
  split at read
  · rename_i decimal
    exact below (by decide) (of_decide_eq_true (Bool.and_eq_true_iff.mp decimal).2)
  split at read
  · rename_i small
    exact below (by decide) (of_decide_eq_true (Bool.and_eq_true_iff.mp small).2)
  split at read
  · rename_i capital
    exact below (by decide) (of_decide_eq_true (Bool.and_eq_true_iff.mp capital).2)
  · cases read

theorem toLower_of_hexDigit? (read : hexDigit? c = some n) : n < 16 ∧ c.toLower = n.digitChar := by
  have digit : ∀ n ∈ hexDigit? c, n < 16 ∧ c.toLower = n.digitChar :=
    of_ascii c (by decide +kernel) (toNat_lt_of_hexDigit? read)
  exact digit n read

theorem hexDigit?_toLower (c : Char) : hexDigit? c.toLower = hexDigit? c := by
  by_cases ascii : c.toNat < 128
  · exact of_ascii c (by decide +kernel) ascii
  · have itself : c.toLower = c := dif_neg fun inside => ascii (Nat.lt_of_le_of_lt inside.2 (by decide))
    rw [itself]

theorem readDigits?_lower (base : Nat) (cs : List Char) : readDigits? base (cs.map Char.toLower) = readDigits? base cs := by
  simp only [readDigits?, List.foldlM_map, hexDigit?_toLower]

theorem readDigits?_concat (base : Nat) (cs : List Char) (c : Char) : readDigits? base (cs ++ [c]) =
    (readDigits? base cs).bind fun n => ((hexDigit? c).filter (· < base)).map (n * base + ·) := by
  unfold readDigits?
  rw [List.foldlM_append]
  simp only [List.foldlM_cons, List.foldlM_nil, bind_pure]
  rfl

theorem readDigits?_toDigits (several : 1 < base) (at_most : base ≤ 16) (n : Nat) :
    readDigits? base (Nat.toDigits base n) = some n := by
  induction n using Nat.strongRecOn with
  | ind n ih =>
    rcases Nat.lt_or_ge n base with single | more
    · rw [Nat.toDigits_of_lt_base single, ← List.nil_append [n.digitChar], readDigits?_concat,
        hexDigit?_digitChar (Nat.lt_of_lt_of_le single at_most)]
      simp [readDigits?, Option.filter, single]
    · have last : n % base < base := Nat.mod_lt n (by omega)
      rw [Nat.toDigits_of_base_le several more, readDigits?_concat, ih _ (Nat.div_lt_self (by omega) several),
        hexDigit?_digitChar (Nat.lt_of_lt_of_le last at_most)]
      simp [Option.filter, last, Nat.div_add_mod']

theorem readDigits?_pad (positive : 0 < base) (width : Nat) (cs : List Char) :
    readDigits? base (List.replicate width '0' ++ cs) = readDigits? base cs := by
  induction width with
  | zero => rfl
  | succ width ih =>
    rw [← ih, List.replicate_succ, List.cons_append, readDigits?, List.foldlM_cons]
    have zero : hexDigit? '0' = some 0 := rfl
    simp [zero, Option.filter, positive, readDigits?]

theorem readDigits?_concat_eq_some : readDigits? base (cs ++ [c]) = some n ↔
    ∃ m digit, readDigits? base cs = some m ∧ hexDigit? c = some digit ∧ digit < base ∧ n = m * base + digit := by
  rw [readDigits?_concat]
  simp only [Option.bind_eq_some_iff, Option.map_eq_some_iff, Option.filter_eq_some_iff, decide_eq_true_eq]
  constructor
  · rintro ⟨m, read, digit, ⟨at_c, below⟩, rfl⟩
    exact ⟨m, digit, read, at_c, below, rfl⟩
  · rintro ⟨m, digit, read, at_c, below, rfl⟩
    exact ⟨m, read, digit, ⟨at_c, below⟩, rfl⟩

theorem readDigits?_lt (read : readDigits? base cs = some n) : n < base ^ cs.length := by
  induction cs using List.reverseRecOn generalizing n with
  | nil =>
    cases read
    exact Nat.one_pos
  | append_singleton cs c ih =>
    obtain ⟨m, digit, before, -, below, rfl⟩ := readDigits?_concat_eq_some.mp read
    rw [List.length_append, List.length_singleton, Nat.pow_succ]
    calc m * base + digit < (m + 1) * base := by rw [Nat.succ_mul]; omega
      _ ≤ base ^ cs.length * base := Nat.mul_le_mul_right base (ih before)

/-! ### Hexadecimal numbers of a width -/

theorem readDigits?_hexPadded (width n : Nat) : readDigits? 16 (hexPadded width n).toList = some n := by
  rw [hexPadded, String.toList_ofList, readDigits?_pad (by decide), readDigits?_toDigits (by decide) (by decide)]

theorem length_hexPadded (positive : 0 < width) (within : n < 16 ^ width) : (hexPadded width n).toList.length = width := by
  have := (Nat.length_toDigits_le_iff (by decide) positive).mpr within
  rw [hexPadded, String.toList_ofList, List.length_append, List.length_replicate]
  omega

theorem hexPadded_of_lt {digit : Nat} (below : digit < 16) :
    (hexPadded width digit).toList = List.replicate (width - 1) '0' ++ [digit.digitChar] := by
  rw [hexPadded, Nat.toDigits_of_lt_base below, String.toList_ofList]
  rfl

theorem hexPadded_succ {digit : Nat} (positive : 0 < width) (below : digit < 16) :
    (hexPadded (width + 1) (n * 16 + digit)).toList = (hexPadded width n).toList ++ [digit.digitChar] := by
  rcases Nat.eq_zero_or_pos n with rfl | more
  · obtain ⟨width, rfl⟩ := Nat.exists_eq_add_of_le' positive
    rw [Nat.zero_mul, Nat.zero_add, hexPadded_of_lt below, hexPadded_of_lt (by decide),
      Nat.add_sub_cancel, Nat.add_sub_cancel, List.replicate_succ']
    rfl
  · have digits := Nat.toDigits_append_toDigits (by decide : 1 < 16) more below
    rw [Nat.toDigits_of_lt_base below, Nat.mul_comm] at digits
    simp only [hexPadded, String.toList_ofList, ← digits, List.length_append, List.length_singleton,
      Nat.add_sub_add_right, List.append_assoc]

/-- What is read is what is written, but for capital letters. -/
theorem lower_eq_hexPadded (nonempty : cs ≠ []) (read : readDigits? 16 cs = some n) :
    cs.map Char.toLower = (hexPadded cs.length n).toList := by
  induction cs using List.reverseRecOn generalizing n with
  | nil => exact absurd rfl nonempty
  | append_singleton cs c ih =>
    obtain ⟨m, digit, before, at_c, below, rfl⟩ := readDigits?_concat_eq_some.mp read
    have lower := (toLower_of_hexDigit? at_c).2
    rw [List.map_append, List.map_singleton, lower, List.length_append, List.length_singleton]
    cases cs with
    | nil =>
      cases before
      rw [List.length_nil, Nat.zero_add, Nat.zero_mul, Nat.zero_add, hexPadded_of_lt below]
      rfl
    | cons first cs =>
      have positive : 0 < (first :: cs).length := Nat.succ_pos _
      rw [ih (List.cons_ne_nil _ _) before, hexPadded_succ positive below]

/-- Texts of 32 digits are read as the numbers of 128 bits, each by its digits in small or capital letters. -/
theorem readDigits?_eq_some {digits : List Char} (whole : digits.length = 32) : readDigits? 16 digits = some n ↔
    n < 2 ^ 128 ∧ digits.map Char.toLower = (hexPadded 32 n).toList := by
  constructor
  · intro read
    have nonempty : digits ≠ [] := List.ne_nil_of_length_pos (by omega)
    have below := readDigits?_lt read
    rw [whole] at below
    exact ⟨below, whole ▸ lower_eq_hexPadded nonempty read⟩
  · rintro ⟨-, lower⟩
    rw [← readDigits?_lower, lower, readDigits?_hexPadded]

/-! ### Identifiers -/

namespace Uuid

/-- Digits with hyphens between the groups of 8, 4, 4, 4 and 12. -/
def hyphenate (digits : List Char) : List Char :=
  digits.take 8 ++ '-' :: ((digits.drop 8).take 4 ++ '-' :: ((digits.drop 12).take 4 ++ '-' ::
    ((digits.drop 16).take 4 ++ '-' :: digits.drop 20)))

theorem length_hyphenate {digits : List Char} (whole : digits.length = 32) : (hyphenate digits).length = 36 := by
  simp [hyphenate, whole]

theorem cut {place : Nat} (here : cs[place]? = some c) : cs.take place ++ c :: cs.drop (place + 1) = cs := by
  obtain ⟨bound, rfl⟩ := List.getElem?_eq_some_iff.mp here
  rw [← List.drop_eq_getElem_cons bound, List.take_append_drop]

theorem joinGroups?_eq_some {digits : List Char} : joinGroups? cs = some digits ↔
    digits.length = 32 ∧ hyphenate digits = cs := by
  unfold joinGroups?
  constructor
  · intro joined
    obtain ⟨formed, ⟨⟩⟩ := Option.ite_none_right_eq_some.mp joined
    simp only [List.all_cons, List.all_nil, Bool.and_true, Bool.and_eq_true, beq_iff_eq] at formed
    obtain ⟨whole, first, second, third, fourth⟩ := formed
    have cut_second := @cut '-' (cs.drop 9) 4 (by rwa [List.getElem?_drop])
    have cut_third := @cut '-' (cs.drop 14) 4 (by rwa [List.getElem?_drop])
    have cut_fourth := @cut '-' (cs.drop 19) 4 (by rwa [List.getElem?_drop])
    simp only [List.drop_drop] at cut_second cut_third cut_fourth
    refine ⟨by simp [whole], ?_⟩
    conv => rhs; rw [← cut first, ← cut_second, ← cut_third, ← cut_fourth]
    simp [hyphenate, List.drop_append, List.drop_take, whole]
  · rintro ⟨whole, rfl⟩
    simp [hyphenate, List.drop_append, List.drop_take, List.getElem?_append, whole]
    iterate 3 rw [← List.append_assoc, ← List.take_add]
    exact List.take_append_drop 20 digits

theorem unwrap_eq_iff {body : List Char} (whole : body.length = 36) : unwrap cs = body ↔
    cs = body ∨ cs = '\x7b' :: body ++ ['\x7d'] ∨ cs = "urn:uuid:".toList ++ body := by
  unfold unwrap
  constructor
  · rintro rfl
    split
    · rename_i braces
      simp only [Bool.and_eq_true, beq_iff_eq] at braces
      obtain ⟨⟨size, first⟩, last⟩ := braces
      obtain ⟨cs, rfl⟩ := List.head?_eq_some_iff.mp first
      obtain ⟨front, ends⟩ := List.getLast?_eq_some_iff.mp last
      rcases List.cons_eq_append_iff.mp ends with ⟨-, alone⟩ | ⟨body, -, rfl⟩
      · cases alone
      · rw [List.tail_cons, List.dropLast_concat]
        exact .inr (.inl rfl)
    split
    · rename_i prefixed
      simp only [Bool.and_eq_true, beq_iff_eq] at prefixed
      exact .inr (.inr (prefixed.2 ▸ (List.take_append_drop 9 cs).symm))
    · exact .inl rfl
  · rintro (rfl | rfl | rfl)
    · simp [whole]
    · have last : ('\x7b' :: body ++ ['\x7d']).getLast? = some '\x7d' := List.getLast?_concat
      rw [List.cons_append] at last
      simp [whole, last]
    · simp [whole]

theorem write_eq (within : n < 2 ^ 128) : (write n).toList = hyphenate (hexPadded 32 n).toList := by
  have whole : (hexPadded 32 n).toList.length = 32 := length_hexPadded (by decide) within
  have rest : ((hexPadded 32 n).toList.drop 20).take 12 = (hexPadded 32 n).toList.drop 20 :=
    List.take_of_length_le (by simp [whole])
  simp [write, whole, hyphenate, rest]

theorem length_of_lower {digits : List Char} (within : n < 2 ^ 128)
    (lower : digits.map Char.toLower = (hexPadded 32 n).toList) : digits.length = 32 := by
  rw [← List.length_map Char.toLower, lower]
  exact length_hexPadded (by decide) within

/-- A text names a number if its digits, hyphenated or not, are those of the number in small or capital letters;
the hyphenated ones may stand in braces or be a URN. -/
theorem read?_eq_some {s : String} : read? s = some n ↔ n < 2 ^ 128 ∧ ∃ digits : List Char,
    digits.map Char.toLower = (hexPadded 32 n).toList ∧ (s.toList = digits ∨ s.toList = hyphenate digits ∨
      s.toList = '\x7b' :: hyphenate digits ++ ['\x7d'] ∨ s.toList = "urn:uuid:".toList ++ hyphenate digits) := by
  unfold read?
  by_cases bare : s.toList.length = 32
  · rw [if_pos (by simpa using bare), readDigits?_eq_some bare]
    refine and_congr_right fun within => ⟨fun lower => ⟨_, lower, .inl rfl⟩, ?_⟩
    rintro ⟨digits, lower, same⟩
    have hyphenated := length_hyphenate (length_of_lower within lower)
    rcases same with same | same | same | same
    · rwa [same]
    all_goals
      rw [same] at bare
      simp [hyphenated] at bare
  · rw [if_neg (by simpa using bare), Option.bind_eq_some_iff]
    constructor
    · rintro ⟨digits, joined, read⟩
      obtain ⟨whole, unwrapped⟩ := joinGroups?_eq_some.mp joined
      obtain ⟨within, lower⟩ := (readDigits?_eq_some whole).mp read
      exact ⟨within, digits, lower, .inr ((unwrap_eq_iff (length_hyphenate whole)).mp unwrapped.symm)⟩
    · rintro ⟨within, digits, lower, same⟩
      have whole := length_of_lower within lower
      refine ⟨digits, joinGroups?_eq_some.mpr ⟨whole, ?_⟩, (readDigits?_eq_some whole).mpr ⟨within, lower⟩⟩
      rcases same with rfl | wrapped
      · exact absurd whole bare
      · exact ((unwrap_eq_iff (length_hyphenate whole)).mpr wrapped).symm

/-- Identifiers are read as they are written. -/
theorem read?_write (within : n < 2 ^ 128) : read? (write n) = some n := by
  refine read?_eq_some.mpr ⟨within, (hexPadded 32 n).toList, ?_, .inr (.inl (write_eq within))⟩
  exact (readDigits?_eq_some (length_hexPadded (by decide) within)).mp (readDigits?_hexPadded 32 n) |>.2

example : write 10 = "00000000-0000-0000-0000-00000000000a" ∧
    read? "urn:uuid:00000000-0000-0000-0000-00000000000A" = some 10 := by decide +kernel

end Uuid

end Entitlement.Text
