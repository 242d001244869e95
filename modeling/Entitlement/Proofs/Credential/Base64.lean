import Entitlement.Credential.Base64

/-!
A text is read as bytes exactly if it is what those bytes are written as: every list of bytes is read back, and
no second text stands for it.
-/

namespace Entitlement.Base64

/-! ### Digits -/

theorem digit_mod (n : Nat) : digit (n % 64) = digit n := by
  rw [digit, Nat.mod_mod, digit]

theorem digit_congr {m n : Nat} (same : m % 64 = n % 64) : digit m = digit n := by
  rw [digit, same, digit]

theorem value?_eq_some {c : Char} {n : Nat} : value? c = some n ↔ n < 64 ∧ digit n = c := by
  constructor
  · intro found
    obtain ⟨bound, here, -⟩ := List.findIdx?_eq_some_iff_getElem.mp found
    have below : n < 64 := bound
    refine ⟨below, ?_⟩
    rw [digit, Nat.mod_eq_of_lt below, List.getD_eq_getElem?_getD, List.getElem?_eq_getElem bound, Option.getD_some]
    exact eq_of_beq here
  · rintro ⟨bound, rfl⟩
    have all : ∀ n ∈ List.range 64, value? (digit n) = some n := by decide +kernel
    exact all n (List.mem_range.mpr bound)

theorem mapM_value?_eq_some {cs : List Char} {values : List Nat} :
    cs.mapM value? = some values ↔ (∀ n ∈ values, n < 64) ∧ values.map digit = cs := by
  induction cs generalizing values with
  | nil =>
    rw [List.mapM_nil, List.map_eq_nil_iff]
    constructor
    · rintro ⟨⟩
      exact ⟨nofun, rfl⟩
    · rintro ⟨-, rfl⟩
      rfl
  | cons c cs ih =>
    rw [List.mapM_cons]
    constructor
    · intro read
      obtain ⟨n, at_c, read⟩ := Option.bind_eq_some_iff.mp read
      obtain ⟨rest, at_cs, ⟨⟩⟩ := Option.bind_eq_some_iff.mp read
      obtain ⟨bounds, rfl⟩ := ih.mp at_cs
      obtain ⟨bound, rfl⟩ := value?_eq_some.mp at_c
      exact ⟨List.forall_mem_cons.mpr ⟨bound, bounds⟩, rfl⟩
    · rintro ⟨bounds, written⟩
      obtain ⟨n, rest, rfl, at_c, at_cs⟩ := List.map_eq_cons_iff.mp written
      obtain ⟨bound, bounds⟩ := List.forall_mem_cons.mp bounds
      rw [value?_eq_some.mpr ⟨bound, at_c⟩, ih.mpr ⟨bounds, at_cs⟩]
      rfl

/-! ### Bytes -/

theorem ofNat_eq {n : Nat} {byte : UInt8} (same : n % 256 = byte.toNat) : UInt8.ofNat n = byte := by
  rw [← UInt8.toNat_inj, UInt8.toNat_ofNat', same]

/-- Bytes are written with digits of values that they can be read from. -/
theorem exists_values (bytes : List UInt8) :
    ∃ values, (∀ n ∈ values, n < 64) ∧ values.map digit = encodeBytes bytes ∧ decodeValues values = some bytes := by
  fun_induction encodeBytes bytes with
  | case1 a b c rest n ih =>
    obtain ⟨values, bounds, written, read⟩ := ih
    have bound_a := a.toNat_lt
    have bound_b := b.toNat_lt
    have bound_c := c.toNat_lt
    refine ⟨n / 262144 % 64 :: n / 4096 % 64 :: n / 64 % 64 :: n % 64 :: values, ?_, ?_, ?_⟩
    · simp only [List.forall_mem_cons]
      exact ⟨by omega, by omega, by omega, by omega, bounds⟩
    · simp only [List.map_cons, digit_mod, written]
    · have whole : n / 262144 % 64 * 262144 + n / 4096 % 64 * 4096 + n / 64 % 64 * 64 + n % 64 = n := by omega
      rw [decodeValues, read]
      simp only [whole]
      rw [ofNat_eq (by omega : n / 65536 % 256 = a.toNat), ofNat_eq (by omega : n / 256 % 256 = b.toNat),
        ofNat_eq (by omega : n % 256 = c.toNat)]
      rfl
  | case2 a b n =>
    have bound_a := a.toNat_lt
    have bound_b := b.toNat_lt
    refine ⟨[n / 4096 % 64, n / 64 % 64, n % 64], ?_, ?_, ?_⟩
    · simp only [List.forall_mem_cons]
      exact ⟨by omega, by omega, by omega, nofun⟩
    · simp only [List.map_cons, List.map_nil, digit_mod]
    · have whole : (n / 4096 % 64 * 4096 + n / 64 % 64 * 64 + n % 64) / 4 = n / 4 := by omega
      rw [decodeValues, if_pos (by omega)]
      simp only [whole]
      rw [ofNat_eq (by omega : n / 4 / 256 % 256 = a.toNat), ofNat_eq (by omega : n / 4 % 256 = b.toNat)]
  | case3 a n =>
    have bound_a := a.toNat_lt
    refine ⟨[n / 64 % 64, n % 64], ?_, ?_, ?_⟩
    · simp only [List.forall_mem_cons]
      exact ⟨by omega, by omega, nofun⟩
    · simp only [List.map_cons, List.map_nil, digit_mod]
    · rw [decodeValues, if_pos (by omega), ofNat_eq (by omega : (n / 64 % 64 * 64 + n % 64) / 16 % 256 = a.toNat)]
  | case4 => exact ⟨[], nofun, rfl, rfl⟩

theorem encodeBytes_of_decodeValues {values : List Nat} {bytes : List UInt8} (bounds : ∀ n ∈ values, n < 64)
    (read : decodeValues values = some bytes) : encodeBytes bytes = values.map digit := by
  induction values using decodeValues.induct generalizing bytes with
  | case1 a b c d rest ih =>
    obtain ⟨bytes, read_rest, ⟨⟩⟩ := Option.bind_eq_some_iff.mp read
    simp only [List.forall_mem_cons] at bounds
    obtain ⟨bound_a, bound_b, bound_c, bound_d, bounds⟩ := bounds
    simp only [encodeBytes, List.map_cons, ih bounds read_rest, UInt8.toNat_ofNat', Nat.reducePow,
      List.cons.injEq, and_true]
    refine ⟨digit_congr ?_, digit_congr ?_, digit_congr ?_, digit_congr ?_⟩ <;> omega
  | case2 a b c short =>
    rw [decodeValues, if_pos short] at read
    cases read
    simp only [List.forall_mem_cons] at bounds
    obtain ⟨bound_a, bound_b, bound_c, -⟩ := bounds
    simp only [encodeBytes, List.map_cons, List.map_nil, UInt8.toNat_ofNat', Nat.reducePow, List.cons.injEq,
      and_true]
    refine ⟨digit_congr ?_, digit_congr ?_, digit_congr ?_⟩ <;> omega
  | case3 a b c long =>
    rw [decodeValues, if_neg long] at read
    cases read
  | case4 a b short =>
    rw [decodeValues, if_pos short] at read
    cases read
    simp only [List.forall_mem_cons] at bounds
    obtain ⟨bound_a, bound_b, -⟩ := bounds
    simp only [encodeBytes, List.map_cons, List.map_nil, UInt8.toNat_ofNat', Nat.reducePow, List.cons.injEq,
      and_true]
    refine ⟨digit_congr ?_, digit_congr ?_⟩ <;> omega
  | case5 a b long =>
    rw [decodeValues, if_neg long] at read
    cases read
  | case6 a => cases read
  | case7 =>
    cases read
    rfl

/-- A text stands for the bytes that are written as it, and for no others. -/
theorem decode?_eq_some {s : String} {bytes : List UInt8} : decode? s = some bytes ↔ s = encode bytes := by
  rw [encode, ← String.toList_inj, String.toList_ofList]
  constructor
  · intro read
    obtain ⟨values, at_s, read⟩ := Option.bind_eq_some_iff.mp read
    obtain ⟨bounds, written⟩ := mapM_value?_eq_some.mp at_s
    rw [encodeBytes_of_decodeValues bounds read, written]
  · intro written
    obtain ⟨values, bounds, same, read⟩ := exists_values bytes
    rw [decode?, mapM_value?_eq_some.mpr ⟨bounds, same.trans written.symm⟩]
    exact read

/-- The last digit may not say more than the bytes do. -/
example : decode? "aGkhPw" = some [0x68, 0x69, 0x21, 0x3f] ∧ decode? "aGkhPx" = none := by decide +kernel

end Entitlement.Base64
