import Entitlement.Proofs.Text.Digits
import Entitlement.Yaml.Number
import Mathlib.Data.List.Basic
import Mathlib.Data.List.TakeWhile

/-!
Decimal numbers in YAML: which are finite, and how whole numbers are written. A whole number is taken for one as
far as the finite ones reach, and digits are padded if they are not those that their number is written with.
-/

namespace Entitlement.Yaml

open Text

/-! ### Finite numbers -/

theorem lt_pow_length (n : Nat) : n < 10 ^ (Nat.toDigits 10 n).length :=
  (Nat.length_toDigits_le_iff (by decide) Nat.length_toDigits_pos).mp (Nat.le_refl _)

theorem pow_length_le {n : Nat} (positive : 0 < n) : 10 ^ ((Nat.toDigits 10 n).length - 1) ≤ n := by
  rcases Nat.eq_zero_or_pos ((Nat.toDigits 10 n).length - 1) with single | more
  · rwa [single]
  · refine Nat.le_of_not_lt fun below => ?_
    have := (Nat.length_toDigits_le_iff (by decide) more).mpr below
    omega

theorem pow_add_le {size bound more : Nat} (below : 10 ^ size ≤ bound) : 10 ^ (size + more) ≤ bound * 10 ^ more := by
  rw [Nat.pow_add]
  exact Nat.mul_le_mul_right _ below

theorem le_pow_add {size bound more : Nat} (above : bound ≤ 10 ^ size) : bound * 10 ^ more ≤ 10 ^ (size + more) := by
  rw [Nat.pow_add]
  exact Nat.mul_le_mul_right _ above

theorem bound_pos : 0 < 1 <<< 1024 - 1 <<< 970 := by decide +kernel

theorem pow_le_bound : 10 ^ 300 ≤ 1 <<< 1024 - 1 <<< 970 := by decide +kernel

theorem bound_le_pow : 1 <<< 1024 - 1 <<< 970 ≤ 10 ^ 400 := by decide +kernel

/-- A number is finite if it lies below the bound, whatever is decided by its digits alone. -/
theorem isFinite_iff {mantissa : Nat} {exponent : Int} : isFinite mantissa exponent ↔
    mantissa * 10 ^ exponent.toNat < (1 <<< 1024 - 1 <<< 970) * 10 ^ (-exponent).toNat := by
  have bound_positive := bound_pos
  have above_small := pow_le_bound
  have below_large := bound_le_pow
  unfold isFinite
  generalize 1 <<< 1024 - 1 <<< 970 = bound at bound_positive above_small below_large ⊢
  have positive : 0 < 10 ^ (-exponent).toNat := Nat.pow_pos (by decide)
  dsimp only
  split
  · rename_i small
    rw [Bool.or_eq_true, beq_iff_eq, decide_eq_true_eq] at small
    refine iff_of_true rfl ?_
    rcases small with rfl | small
    · rw [Nat.zero_mul]
      exact Nat.mul_pos bound_positive positive
    · calc mantissa * 10 ^ exponent.toNat
        _ < 10 ^ (Nat.toDigits 10 mantissa).length * 10 ^ exponent.toNat :=
            Nat.mul_lt_mul_of_pos_right (lt_pow_length mantissa) (Nat.pow_pos (by decide))
        _ = 10 ^ ((Nat.toDigits 10 mantissa).length + exponent.toNat) := (Nat.pow_add ..).symm
        _ ≤ 10 ^ (300 + (-exponent).toNat) := Nat.pow_le_pow_right (by decide) (by omega)
        _ ≤ bound * 10 ^ (-exponent).toNat := pow_add_le above_small
  rename_i not_small
  split
  · rename_i large
    refine iff_of_false Bool.false_ne_true (Nat.not_lt_of_le ?_)
    rw [Bool.or_eq_true, beq_iff_eq, not_or] at not_small
    have size : 0 < (Nat.toDigits 10 mantissa).length := Nat.length_toDigits_pos
    calc bound * 10 ^ (-exponent).toNat
      _ ≤ 10 ^ (400 + (-exponent).toNat) := le_pow_add below_large
      _ ≤ 10 ^ ((Nat.toDigits 10 mantissa).length - 1 + exponent.toNat) := Nat.pow_le_pow_right (by decide) (by omega)
      _ = 10 ^ ((Nat.toDigits 10 mantissa).length - 1) * 10 ^ exponent.toNat := Nat.pow_add ..
      _ ≤ mantissa * 10 ^ exponent.toNat := Nat.mul_le_mul_right _ (pow_length_le (Nat.pos_of_ne_zero not_small.1))
  split
  · rename_i whole
    have none : (-exponent).toNat = 0 := by omega
    rw [none, Nat.pow_zero, Nat.mul_one, decide_eq_true_eq, Nat.pow_eq]
  · rename_i fraction
    have none : exponent.toNat = 0 := by omega
    rw [none, Nat.pow_zero, Nat.mul_one, decide_eq_true_eq, Nat.pow_eq]

example : isFinite 17976931348623158 292 = true ∧ isFinite 1 309 = false := by decide +kernel

/-! ### Whole numbers -/

theorem isDigit_of_mem {n : Nat} {c : Char} (mem : c ∈ Nat.toDigits 10 n) : c.isDigit = true :=
  Nat.isDigit_of_mem_toDigits (by decide) (by decide) mem

theorem readNumeral?_toDigits (n : Nat) : readNumeral? 10 (Nat.toDigits 10 n) = some n := by
  rw [readNumeral?, if_neg (by simp), readDigits?_toDigits (by decide) (by decide)]

theorem isDecimal_toDigits (n : Nat) : isDecimal (Nat.toDigits 10 n) ↔ n < 1 <<< 1024 - 1 <<< 970 := by
  have digits : ∀ c ∈ Nat.toDigits 10 n, c.isDigit = true := fun _ => isDigit_of_mem
  have whole : (Nat.toDigits 10 n).takeWhile Char.isDigit = Nat.toDigits 10 n := List.takeWhile_eq_self_iff.mpr digits
  have rest : (Nat.toDigits 10 n).dropWhile Char.isDigit = [] := List.dropWhile_eq_nil_iff.mpr digits
  unfold isDecimal
  rw [whole, rest]
  simp only [List.append_nil, readNumeral?_toDigits, readExponent?, isFinite_iff]
  simp

theorem splitSign_of_digits {cs : List Char} (digits : ∀ c ∈ cs, c.isDigit = true) : splitSign cs = (false, cs) := by
  unfold splitSign
  split
  · exact absurd (digits '-' List.mem_cons_self) (by decide)
  · exact absurd (digits '+' List.mem_cons_self) (by decide)
  · rfl

theorem splitSign_toString (n : Int) : splitSign (toString n).toList = (decide (n < 0), Nat.toDigits 10 n.natAbs) := by
  rw [Int.toString_eq_repr, Int.repr_eq_if]
  split
  · rename_i positive
    rw [Nat.toList_repr, decide_eq_false (by omega), splitSign_of_digits fun _ => isDigit_of_mem,
      (by omega : n.toNat = n.natAbs)]
  · rename_i negative
    rw [String.toList_append, Nat.toList_repr, decide_eq_true (by omega), (by omega : (-n).toNat = n.natAbs)]
    rfl

theorem not_isBasedInteger {cs : List Char} (digits : ∀ c ∈ cs, c.isDigit = true) (negative : Bool) :
    isBasedInteger negative cs = false := by
  unfold isBasedInteger
  dsimp only
  split
  · exact absurd (digits 'x' (by simp)) (by decide)
  · exact absurd (digits 'o' (by simp)) (by decide)
  · exact absurd (digits 'b' (by simp)) (by decide)
  · rfl

theorem not_isInfinity {cs : List Char} (digits : ∀ c ∈ cs, c.isDigit = true) : isInfinity cs = false := by
  rw [Bool.eq_false_iff, isInfinity, ne_eq, List.contains_iff_mem]
  intro infinite
  have dotted : ∀ word ∈ [".inf", ".Inf", ".INF"], '.' ∈ word.toList := by decide
  have dot := dotted _ infinite
  rw [String.toList_ofList] at dot
  exact absurd (digits '.' dot) (by decide)

theorem not_isNotANumber (n : Int) : isNotANumber (toString n) = false := by
  rw [Bool.eq_false_iff, isNotANumber, ne_eq, List.contains_iff_mem]
  intro nan
  have dotted : ∀ word ∈ [".nan", ".NaN", ".NAN"], '.' ∈ (splitSign word.toList).2 := by decide
  have dot := dotted _ nan
  rw [splitSign_toString] at dot
  exact absurd (isDigit_of_mem dot) (by decide)

/-- As far as the finite numbers reach, whole numbers are numbers in the form that they are written in. -/
theorem isNumber_toString (n : Int) : isNumber (toString n) ↔ n.natAbs < 1 <<< 1024 - 1 <<< 970 := by
  unfold isNumber
  rw [splitSign_toString]
  dsimp only
  rw [not_isNotANumber, isMagnitude, not_isBasedInteger fun _ => isDigit_of_mem, not_isInfinity fun _ => isDigit_of_mem,
    Bool.false_or, Bool.or_false, Bool.or_false, isDecimal_toDigits]

/-! ### Padding -/

variable {n digit : Nat} {c : Char} {cs : List Char}

theorem eq_digitChar (read : hexDigit? c = some digit) (decimal : digit < 10) : c = digit.digitChar := by
  have small : ∀ digit ∈ hexDigit? c, digit < 10 → c = digit.digitChar :=
    of_ascii c (by decide +kernel) (toNat_lt_of_hexDigit? read)
  exact small digit read decimal

theorem hexDigit?_of_isDigit (decimal : c.isDigit = true) : ∃ digit < 10, hexDigit? c = some digit := by
  have ascii : c.toNat < 128 := Nat.lt_of_le_of_lt (of_decide_eq_true (Bool.and_eq_true_iff.mp decimal).2) (by decide)
  have digit : c.isDigit → ∃ digit < 10, hexDigit? c = some digit := of_ascii c (by decide +kernel) ascii
  exact digit decimal

theorem isDigit_of_readDigits? (read : readDigits? 10 cs = some n) : ∀ c ∈ cs, c.isDigit = true := by
  induction cs using List.reverseRecOn generalizing n with
  | nil => exact nofun
  | append_singleton cs c ih =>
    obtain ⟨m, digit, before, at_c, below, rfl⟩ := readDigits?_concat_eq_some.mp read
    intro d mem
    rcases List.mem_append.mp mem with earlier | last
    · exact ih before d earlier
    · rw [List.mem_singleton.mp last, eq_digitChar at_c below, Nat.isDigit_digitChar]
      exact decide_eq_true below

theorem exists_readDigits? (digits : ∀ c ∈ cs, c.isDigit = true) : ∃ n, readDigits? 10 cs = some n := by
  induction cs using List.reverseRecOn with
  | nil => exact ⟨0, rfl⟩
  | append_singleton cs c ih =>
    obtain ⟨m, before⟩ := ih fun d mem => digits d (List.mem_append_left _ mem)
    obtain ⟨digit, below, at_c⟩ := hexDigit?_of_isDigit (digits c (by simp))
    exact ⟨_, readDigits?_concat_eq_some.mpr ⟨m, digit, before, at_c, below, rfl⟩⟩

theorem head?_toDigits (positive : 0 < n) : (Nat.toDigits 10 n).head? ≠ some '0' := by
  induction n using Nat.strongRecOn with
  | ind n ih =>
    rcases Nat.lt_or_ge n 10 with single | more
    · rw [Nat.toDigits_of_lt_base single]
      simp
      omega
    · rw [Nat.toDigits_of_base_le (by decide) more, List.head?_append_of_ne_nil _ Nat.toDigits_ne_nil]
      exact ih (n / 10) (by omega) (by omega)

/-- Digits that do not begin with a zero are those that their number is written with. -/
theorem eq_toDigits (nonempty : cs ≠ []) (read : readDigits? 10 cs = some n)
    (not_padded : cs.length = 1 ∨ cs.head? ≠ some '0') : cs = Nat.toDigits 10 n := by
  induction cs using List.reverseRecOn generalizing n with
  | nil => exact absurd rfl nonempty
  | append_singleton cs c ih =>
    obtain ⟨m, digit, before, at_c, below, rfl⟩ := readDigits?_concat_eq_some.mp read
    rw [eq_digitChar at_c below]
    by_cases first : cs = []
    · subst first
      cases before
      rw [Nat.zero_mul, Nat.zero_add, Nat.toDigits_of_lt_base below]
      rfl
    · have leads : cs.head? ≠ some '0' := by
        rw [List.head?_append_of_ne_nil _ first, List.length_append] at not_padded
        have := List.length_pos_of_ne_nil first
        exact not_padded.resolve_left (by simp; omega)
      have same := ih first before (.inr leads)
      have positive : 0 < m := by
        rw [Nat.pos_iff_ne_zero]
        rintro rfl
        rw [same] at leads
        exact leads rfl
      rw [same, ← Nat.toDigits_of_lt_base below, Nat.toDigits_append_toDigits (by decide) positive below, Nat.mul_comm]

/-- Digits are padded if their number is written with other digits. -/
theorem isPadded_iff {s : String} : isPadded s ↔
    ∃ n, readNumeral? 10 (splitSign s.toList).2 = some n ∧ (splitSign s.toList).2 ≠ Nat.toDigits 10 n := by
  unfold isPadded readNumeral?
  generalize splitSign s.toList = parts
  obtain ⟨negative, cs⟩ := parts
  dsimp only
  rw [Bool.and_eq_true, Bool.and_eq_true, decide_eq_true_eq, beq_iff_eq, List.all_eq_true]
  constructor
  · rintro ⟨⟨long, first⟩, digits⟩
    obtain ⟨n, read⟩ := exists_readDigits? digits
    have nonempty : cs ≠ [] := List.ne_nil_of_length_pos (by omega)
    refine ⟨n, ?_, ?_⟩
    · rwa [if_neg (by simpa using nonempty)]
    · rintro rfl
      rcases Nat.eq_zero_or_pos n with rfl | positive
      · exact absurd long (by decide)
      · exact head?_toDigits positive first
  · rintro ⟨n, read, other⟩
    obtain ⟨nonempty, read⟩ := Option.ite_none_left_eq_some.mp read
    have nonempty : cs ≠ [] := by simpa using nonempty
    have padded := mt (eq_toDigits nonempty read) other
    rw [not_or, not_not] at padded
    have := List.length_pos_of_ne_nil nonempty
    exact ⟨⟨by omega, padded.2⟩, isDigit_of_readDigits? read⟩

example : isPadded "-007" = true ∧ isPadded "-0" = false := by decide +kernel

end Entitlement.Yaml
