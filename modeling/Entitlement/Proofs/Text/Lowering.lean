import Entitlement.Record

/-!
Lower case, white space and ASCII. No character gains or loses white space when it is lowered, so names with
the same key are blank together. But for `i` and `k`, no letter of ASCII is the lower case of anything else.
-/

namespace Entitlement.Text

theorem rowAt?_mem {α : Type} {start : α → Nat} {rows : Array α} {c : Nat} {row : α}
    (found : rowAt? start rows c = some row) : row ∈ rows ∧ start row ≤ c := by
  have search : ∀ fuel lo hi, rowAt?.go start rows c fuel lo hi = some row →
    row ∈ rows ∧ start row ≤ c := by
    intro fuel
    induction fuel with
    | zero => exact fun _ _ => nofun
    | succ fuel ih =>
      intro lo hi found
      unfold rowAt?.go at found
      split at found
      · dsimp only at found
        split at found
        · cases found
        · rename_i middle at_middle
          split at found
          · rename_i below
            rcases Option.or_eq_some_iff.mp found with later | ⟨-, this⟩
            · exact ih _ _ later
            · cases this
              exact ⟨Array.mem_of_getElem? at_middle, below⟩
          · exact ih _ _ found
      · cases found
  exact search rows.size 0 rows.size found

/-- The ranges of white space. -/
def blankRanges : List (Nat × Nat) :=
  [(0x09, 0x0D), (0x20, 0x20), (0x85, 0x85), (0xA0, 0xA0), (0x1680, 0x1680), (0x2000, 0x200A),
    (0x2028, 0x2029),
    (0x202F, 0x202F), (0x205F, 0x205F), (0x3000, 0x3000)]

theorem isBlank_iff {c : Char} : isBlank c ↔ ∃ range ∈ blankRanges, range.1 ≤ c.toNat ∧
    c.toNat ≤ range.2 := by
  simp only [isBlank, blankRanges, Bool.or_eq_true, Bool.and_eq_true, decide_eq_true_eq,
    beq_iff_eq, List.mem_cons,
    List.not_mem_nil, or_false, exists_eq_or_imp, exists_eq_left]
  omega

/-- A number that is no code point makes the null character. -/
theorem toNat_ofNat (n : Nat) : (Char.ofNat n).toNat = n ∨ (Char.ofNat n).toNat = 0 := by
  by_cases valid : n.isValidChar
  · left
    rw [Char.ofNat, dif_pos valid]
    rfl
  · right
    rw [Char.ofNat, dif_neg valid]
    rfl

/-- There is no white space from the one code point to the other. -/
def clear (first last : Int) : Bool := blankRanges.all fun (low, high) => last < low || high < first

theorem not_isBlank_of_clear {first last n : Int} (apart : clear first last) (above : first ≤ n)
    (below : n ≤ last) :
    isBlank (Char.ofNat n.toNat) = false := by
  rw [Bool.eq_false_iff]
  intro blank
  obtain ⟨range, mem, low, high⟩ := isBlank_iff.mp blank
  have outside := List.all_eq_true.mp apart range mem
  simp only [Bool.or_eq_true, decide_eq_true_eq] at outside
  have positive : ∀ range ∈ blankRanges, 0 < range.1 := by decide
  have nonzero := positive range mem
  rcases toNat_ofNat n.toNat with same | invalid <;> omega

/-- Neither the capitals of a row nor their lower-case forms are white space. -/
theorem capitalRows_clear : ∀ row ∈ capitalRows.toList,
    clear row.1 row.2.1 ∧ clear (row.1 + row.2.2.2) (row.2.1 + row.2.2.2) := by
  decide +kernel

theorem ascii_toLower : ∀ n < 128, isBlank (Char.ofNat n).toLower = isBlank (Char.ofNat n) := by
  decide +kernel

theorem all_isBlank_lowerChar (c : Char) : (lowerChar c).all isBlank = isBlank c := by
  have code : Char.ofNat c.toNat = c := Char.ofNat_toNat c
  unfold lowerChar
  split
  · rename_i ascii
    have lowered := ascii_toLower c.toNat ascii
    rw [code] at lowered
    simpa using lowered
  · split
    · rename_i dotted
      rw [eq_of_beq dotted]
      decide
    · split
      · rename_i first last stride distance found
        obtain ⟨mem, above⟩ := rowAt?_mem found
        obtain ⟨capital, small⟩ := capitalRows_clear _ (Array.mem_toList_iff.mpr mem)
        dsimp only at above capital small
        split
        · rename_i inside
          simp only [Bool.and_eq_true, decide_eq_true_eq] at inside
          have capital_visible := not_isBlank_of_clear capital (n := c.toNat) (by omega) (by omega)
          have small_visible := not_isBlank_of_clear small (n := c.toNat + distance) (by omega)
            (by omega)
          simp only [Int.toNat_natCast, code] at capital_visible
          simp only [List.all_cons, List.all_nil, Bool.and_true, capital_visible]
          exact small_visible
        · simp
      · simp

theorem all_isBlank_lowerAfter (before rest : List Char) :
    (lowerAfter before rest).all isBlank = rest.all isBlank := by
  induction rest generalizing before with
  | nil => rfl
  | cons c rest ih =>
    rw [lowerAfter, List.all_append, ih, List.all_cons]
    congr 1
    split
    · rename_i sigma
      rw [eq_of_beq sigma]
      split <;> decide
    · exact all_isBlank_lowerChar c

theorem blank_lower (s : String) : blank (lower s) = blank s := by
  rw [blank, lower, String.toList_ofList, all_isBlank_lowerAfter, blank]

theorem blank_congr {a b : String} (same : nameKey a = nameKey b) : blank a = blank b := by
  rw [← blank_lower a, ← blank_lower b]
  exact congrArg blank same

/-! ### Letters of ASCII -/

/-- A small letter that only itself and its ASCII capital are lowered to. -/
def Plain (c : Char) : Prop := c.isLower ∧ c ≠ 'i' ∧ c ≠ 'k'

instance (c : Char) : Decidable (Plain c) := inferInstanceAs (Decidable (_ ∧ _))

theorem Plain.bounds {c : Char} (plain : Plain c) : 97 ≤ c.toNat ∧ c.toNat ≤ 122 ∧ c.toNat ≠ 107 := by
  obtain ⟨small, -, apart⟩ := plain
  obtain ⟨above, below⟩ := Bool.and_eq_true_iff.mp small
  refine ⟨of_decide_eq_true above, of_decide_eq_true below, fun same => apart ?_⟩
  exact Char.toNat_inj.mp same

/-- Apart from `k`, which the Kelvin sign is lowered to, the capitals beyond ASCII have their small forms beyond the
letters of ASCII. -/
theorem capitalRows_beyond : ∀ row ∈ capitalRows.toList,
    122 < row.1 + row.2.2.2 ∨ row.1 + row.2.2.2 = 107 ∧ row.1 = row.2.1 := by
  decide +kernel

theorem ascii_of_mem_lowerChar {c x : Char} (mem : x ∈ lowerChar c) (plain : Plain x) : c.toNat < 128 := by
  have bounds := plain.bounds
  refine Decidable.byContradiction fun beyond => ?_
  have itself (same : x = c) : False := by
    subst same
    omega
  rw [lowerChar, if_neg beyond] at mem
  split at mem
  · simp only [List.mem_cons, List.not_mem_nil, or_false] at mem
    rcases mem with rfl | rfl
    · exact plain.2.1 rfl
    · revert plain
      decide
  · split at mem
    · rename_i first last stride distance found
      obtain ⟨row, above⟩ := rowAt?_mem found
      have away := capitalRows_beyond _ (Array.mem_toList_iff.mpr row)
      dsimp only at above away
      split at mem
      · rename_i inside
        simp only [Bool.and_eq_true, decide_eq_true_eq] at inside
        rw [List.mem_singleton.mp mem, Int.ofNat_eq_natCast] at bounds
        rcases toNat_ofNat (c.toNat + distance).toNat with same | invalid <;> omega
      · exact itself (List.mem_singleton.mp mem)
    · exact itself (List.mem_singleton.mp mem)

theorem lowerChar_ne_nil (c : Char) : lowerChar c ≠ [] := by
  unfold lowerChar
  repeat' split
  all_goals exact List.cons_ne_nil _ _

theorem lowerAfter_cons_of_ascii {c : Char} (ascii : c.toNat < 128) (before rest : List Char) :
    lowerAfter before (c :: rest) = c.toLower :: lowerAfter (c :: before) rest := by
  have apart : (c == 'Σ') = false := by
    rw [beq_eq_false_iff_ne]
    rintro rfl
    revert ascii
    decide
  rw [lowerAfter, apart, if_neg Bool.false_ne_true, lowerChar, if_pos ascii, List.singleton_append]

theorem not_plain_of_beyond {c : Char} (beyond : ¬ c.toNat < 128) (before rest : List Char) :
    ∃ x ∈ lowerAfter before (c :: rest), ¬ Plain x := by
  rw [lowerAfter]
  split
  · split
    · exact ⟨'ς', List.mem_cons_self, by decide⟩
    · exact ⟨'σ', List.mem_cons_self, by decide⟩
  · obtain ⟨x, mem⟩ := List.exists_mem_of_ne_nil _ (lowerChar_ne_nil c)
    exact ⟨x, List.mem_append_left _ mem, fun plain => beyond (ascii_of_mem_lowerChar mem plain)⟩

/-- What is plain once it is lowered has no letters that are not of ASCII. -/
theorem lowerAfter_eq_iff {target : List Char} (plain : ∀ x ∈ target, Plain x) (before rest : List Char) :
    lowerAfter before rest = target ↔ rest.map Char.toLower = target := by
  induction rest generalizing before target with
  | nil => rfl
  | cons c rest ih =>
    by_cases ascii : c.toNat < 128
    · rw [lowerAfter_cons_of_ascii ascii, List.map_cons]
      cases target with
      | nil => simp
      | cons first target =>
        rw [List.cons.injEq, List.cons.injEq, ih fun x mem => plain x (List.mem_cons_of_mem _ mem)]
    · refine iff_of_false ?_ ?_
      · rintro rfl
        obtain ⟨x, mem, fancy⟩ := not_plain_of_beyond ascii before rest
        exact fancy (plain x mem)
      · rintro rfl
        have bounds := (plain c.toLower List.mem_cons_self).bounds
        have itself : c.toLower = c := dif_neg fun inside => ascii (Nat.lt_of_le_of_lt inside.2 (by decide))
        rw [itself] at bounds
        omega

theorem lower_eq_iff {s t : String} (plain : ∀ x ∈ t.toList, Plain x) : lower s = t ↔ asciiLower s = t := by
  rw [lower, asciiLower, ← String.toList_inj, ← String.toList_inj, String.toList_ofList, String.toList_ofList]
  exact lowerAfter_eq_iff plain [] s.toList

end Entitlement.Text

namespace Entitlement

/-- To be anonymous is to have no name or one of the key of the anonymous one. -/
theorem isAnonymous_iff {name : String} : isAnonymous name ↔ name = "" ∨ nameKey name = anonymousName := by
  have all_plain : anonymousName.toList.all fun x => decide (Text.Plain x) := by decide +kernel
  have plain : ∀ x ∈ anonymousName.toList, Text.Plain x :=
    fun x mem => of_decide_eq_true (List.all_eq_true.mp all_plain x mem)
  have lowered : Text.asciiLower anonymousName = anonymousName := by decide +kernel
  rw [isAnonymous, Bool.or_eq_true, String.isEmpty_iff, nameKey, Text.lower_eq_iff plain, Text.sameAsciiLetters, lowered,
    beq_iff_eq]

end Entitlement
