import Mathlib.Data.List.Nodup
import Mathlib.Data.List.Perm.Subperm
import Entitlement.Proofs.Roster.Agreement
import Entitlement.Proofs.Roster.Listing

/-!
A roster that agrees with its indexes does to its members what the operations on lists say, and gives
the same answers.
-/

namespace Entitlement

/-- Where keys differ, a key is found at the only element that has it. -/
theorem find?_key_eq_some_iff {α κ : Type} [DecidableEq κ] {key : α → κ} {elements : List α}
    {element : α} {k : κ} (nodup : (elements.map key).Nodup) :
    elements.find? (key · = k) = some element ↔ element ∈ elements ∧ key element = k := by
  constructor
  · intro found
    have same := List.find?_some found
    exact ⟨List.mem_of_find?_eq_some found, by simpa using same⟩
  · rintro ⟨mem, same⟩
    have some_found : (elements.find? (key · = k)).isSome := by
      rw [List.find?_isSome]
      exact ⟨element, mem, by simpa using same⟩
    obtain ⟨first, found⟩ := Option.isSome_iff_exists.mp some_found
    have first_same : key first = k := by simpa using List.find?_some found
    have first_mem := List.mem_of_find?_eq_some found
    rw [found, List.inj_on_of_nodup_map nodup first_mem mem (first_same.trans same.symm)]

namespace Roster.Agrees

variable {α : Type} [Named α] {roster other : Roster α}

/-! ### Questions -/

section Questions

variable (agrees : roster.Agrees)
include agrees

theorem get?_eq (id : EntityId) : roster.get? id = Listing.get? roster.toList id := by
  ext member
  unfold Listing.get?
  rw [agrees.get?_eq_some_iff, find?_key_eq_some_iff agrees.ids_nodup]

theorem named?_eq (name : String) : roster.named? name = Listing.named? roster.toList name := by
  ext member
  unfold Listing.named?
  rw [agrees.named?_eq_some_iff, find?_key_eq_some_iff agrees.keys_nodup]

theorem require_eq (name : String) : roster.require name = Listing.require roster.toList name := by
  cases found : Listing.named? roster.toList name with
  | none => simp only [require, Listing.require, agrees.named?_eq, found]
  | some member => simp only [require, Listing.require, agrees.named?_eq, found]

theorem contains_eq (id : EntityId) : roster.contains id = decide (id ∈ Listing.ids roster.toList) := by
  rw [Bool.eq_iff_iff, agrees.contains_iff, decide_eq_true_eq]
  rfl

theorem containsName_eq (name : String) :
    roster.containsName name = (Listing.named? roster.toList name).isSome := by
  rw [← agrees.named?_eq, Bool.eq_iff_iff, agrees.containsName_iff, ← not_iff_not, ←
    agrees.named?_eq_none_iff, Option.not_isSome_iff_eq_none]

theorem holds_eq (member : α) : roster.holds member = Listing.holds roster.toList member := by
  rw [Bool.eq_iff_iff]
  simp only [Roster.holds, Listing.holds, List.any_eq_true, decide_eq_true_eq]
  constructor
  · intro held
    split at held
    · rename_i found at_id
      obtain ⟨mem, same⟩ := agrees.get?_eq_some_iff.mp at_id
      exact ⟨found, mem, same, beq_iff_eq.mp held⟩
    · cases held
  · rintro ⟨held, mem, same_id, same_key⟩
    rw [agrees.get?_eq_some_iff.mpr ⟨mem, same_id⟩]
    exact beq_iff_eq.mpr same_key

end Questions

/-! ### Adding -/

section Adding

variable (agrees : roster.Agrees)
include agrees

theorem refusal?_eq_none_iff {member : α} : Listing.refusal? roster.toList member = none ↔
    (Named.record member).id ∈ roster.ids ∨ (Named.record member).key ∉ roster.keys := by
  by_cases present : (Named.record member).id ∈ roster.ids
  · exact ⟨fun _ => .inl present, fun _ => Listing.refusal?_of_mem present⟩
  · rw [Listing.refusal?_of_absent present, Option.map_eq_none_iff, ← agrees.named?_eq,
      agrees.named?_eq_none_iff]
    exact ⟨.inr, (·.resolve_left present)⟩

theorem add_of_fits {member : α} (fits : Listing.refusal? roster.toList member = none) :
    ∃ grown, roster.add member = .ok (decide ((Named.record member).id ∉ roster.ids), grown) ∧
      grown.Agrees ∧ grown.toList = Listing.grow roster.toList member := by
  by_cases present : (Named.record member).id ∈ roster.ids
  · refine ⟨roster, ?_, agrees, (if_pos present).symm⟩
    rw [agrees.add_of_mem present, decide_eq_false (not_not_intro present)]
  · have free := (agrees.refusal?_eq_none_iff.mp fits).resolve_left present
    obtain ⟨grown, added, grown_agrees, listed⟩ := agrees.add_of_new present free
    refine ⟨grown, ?_, grown_agrees, listed.trans (if_neg present).symm⟩
    rw [added, decide_eq_true present]

theorem add_of_refused {member : α} {e : Error}
    (refused : Listing.refusal? roster.toList member = some e) : roster.add member = .error e := by
  have absent : (Named.record member).id ∉ roster.ids := by
    intro present
    cases (Listing.refusal?_of_mem present).symm.trans refused
  rw [Listing.refusal?_of_absent absent, ← agrees.named?_eq] at refused
  obtain ⟨held, found, rfl⟩ := Option.map_eq_some_iff.mp refused
  obtain ⟨mem, same⟩ := agrees.named?_eq_some_iff.mp found
  exact agrees.add_of_taken absent mem same

theorem add_eq (member : α) :
    (Prod.map id toList) <$> roster.add member = Listing.add roster.toList member := by
  unfold Listing.add
  by_cases present : (Named.record member).id ∈ Listing.ids roster.toList
  · rw [agrees.add_of_mem present, if_pos present]
    rfl
  · rw [if_neg present]
    cases refused : Listing.refusal? roster.toList member with
    | some e =>
      rw [agrees.add_of_refused refused]
      rfl
    | none =>
      obtain ⟨grown, added, -, listed⟩ := agrees.add_of_fits refused
      rw [Listing.grow, if_neg present] at listed
      rw [added, ← listed]
      exact congrArg (fun isNew => Except.ok (isNew, grown.toList)) (decide_eq_true present)

end Adding

theorem addAll_eq (agrees : roster.Agrees) (added : List α) :
    (roster.addAll added).2.Agrees ∧
      (roster.addAll added).1 = (Listing.addAll roster.toList added).1 ∧
      (roster.addAll added).2.toList = (Listing.addAll roster.toList added).2 := by
  induction added generalizing roster with
  | nil => exact ⟨agrees, rfl, rfl⟩
  | cons member rest ih =>
    rw [Listing.addAll_cons]
    unfold Roster.addAll
    cases refused : Listing.refusal? roster.toList member with
    | some e =>
      rw [agrees.add_of_refused refused]
      exact ⟨agrees, rfl, rfl⟩
    | none =>
      obtain ⟨grown, joined, grown_agrees, listed⟩ := agrees.add_of_fits refused
      rw [joined, ← listed]
      exact ih grown_agrees

/-- To add every member or none is to add up to the first collision and to keep what was made only if
there was none. -/
theorem joinAll_eq_addAll (roster : Roster α) (added : List α) :
    roster.joinAll added =
      match roster.addAll added with
      | (none, grown) => .ok grown
      | (some e, _) => .error e := by
  induction added generalizing roster with
  | nil => rfl
  | cons member rest ih =>
    unfold Roster.addAll
    rw [Roster.joinAll, List.foldlM_cons, Roster.join]
    cases roster.add member with
    | error e => rfl
    | ok answer => exact ih answer.2

theorem ofList_eq (added : List α) :
    (∀ roster, Roster.ofList added = .ok roster → roster.Agrees) ∧
      toList <$> Roster.ofList added = Listing.ofList added := by
  obtain ⟨kept, stopped, listed⟩ := Agrees.empty.addAll_eq added
  have expected : Listing.addAll [] added =
      ((({} : Roster α).addAll added).1, (({} : Roster α).addAll added).2.toList) :=
    Prod.ext stopped.symm listed.symm
  unfold Roster.ofList Listing.ofList
  rw [joinAll_eq_addAll, expected]
  rcases made : ({} : Roster α).addAll added with ⟨_ | e, grown⟩
  · rw [made] at kept
    refine ⟨fun roster same => ?_, rfl⟩
    cases same
    exact kept
  · exact ⟨nofun, rfl⟩

/-! ### Taking out -/

section Taking

variable (agrees : roster.Agrees)
include agrees

theorem take_eq (id : EntityId) : (roster.take id).2.Agrees ∧
    (roster.take id).1 = (Listing.take roster.toList id).1 ∧
    (roster.take id).2.toList = (Listing.take roster.toList id).2 := by
  unfold Listing.take
  rw [← agrees.get?_eq]
  cases found : roster.get? id with
  | some member =>
    obtain ⟨mem, rfl⟩ := agrees.get?_eq_some_iff.mp found
    obtain ⟨rest, taken, rest_agrees, listed⟩ := agrees.take_of_mem mem
    rw [taken]
    exact ⟨rest_agrees, rfl, listed⟩
  | none =>
    have absent := agrees.get?_eq_none_iff.mp found
    rw [agrees.take_of_absent absent]
    have kept : roster.toList.filter (fun member => (Named.record member).id ≠ id) = roster.toList :=
      List.filter_eq_self.mpr fun member mem =>
        decide_eq_true fun same => absent (mem_ids.mpr ⟨member, mem, same⟩)
    exact ⟨agrees, rfl, kept.symm⟩

theorem takeNamed_eq (name : String) : (roster.takeNamed name).2.Agrees ∧
    (roster.takeNamed name).1 = (Listing.takeNamed roster.toList name).1 ∧
    (roster.takeNamed name).2.toList = (Listing.takeNamed roster.toList name).2 := by
  unfold Listing.takeNamed
  rw [← agrees.named?_eq]
  cases found : roster.named? name with
  | some member =>
    obtain ⟨mem, same⟩ := agrees.named?_eq_some_iff.mp found
    obtain ⟨place, at_place⟩ := List.getElem?_of_mem mem
    have indexed := (agrees.byName (nameKey name) place).mpr ⟨member, at_place, same⟩
    obtain ⟨rest, taken, rest_agrees, listed⟩ := agrees.takeAt_eq at_place
    rw [takeNamed, indexed, taken]
    refine ⟨rest_agrees, rfl, listed.trans (List.filter_congr fun held held_mem => ?_)⟩
    refine decide_eq_decide.mpr (not_congr ⟨fun same_id => ?_, fun same_key => ?_⟩)
    · rw [agrees.eq_of_id_eq held_mem mem same_id, same]
    · rw [agrees.eq_of_key_eq held_mem mem (same_key.trans same.symm)]
  | none =>
    have absent := agrees.named?_eq_none_iff.mp found
    have missing : roster.byName[nameKey name]? = none :=
      Option.not_isSome_iff_eq_none.mp fun some_place =>
        absent ((agrees.byName.isSome_iff _).mp some_place)
    have kept : roster.toList.filter (fun member => (Named.record member).key ≠ nameKey name) =
        roster.toList :=
      List.filter_eq_self.mpr fun member mem =>
        decide_eq_true fun same => absent (mem_keys.mpr ⟨member, mem, same⟩)
    rw [takeNamed, missing, takeAt]
    exact ⟨agrees, rfl, kept.symm⟩

end Taking

/-! ### Two rosters -/

theorem filter (agrees : roster.Agrees) (keep : α → Bool) : (roster.filter keep).Agrees := by
  have sublist : (roster.members.filter keep).toList.Sublist roster.toList := by
    rw [Array.toList_filter]
    exact List.filter_sublist
  exact ofDistinct (agrees.ids_nodup.sublist (sublist.map _)) (agrees.keys_nodup.sublist (sublist.map _))

theorem inter_eq (others : other.Agrees) :
    (roster.inter other).toList = roster.toList.filter (Listing.holds other.toList) := by
  rw [inter, toList_filter]
  exact List.filter_congr fun member _ => others.holds_eq member

theorem diff_eq (others : other.Agrees) :
    (roster.diff other).toList = roster.toList.filter (! Listing.holds other.toList ·) := by
  rw [diff, toList_filter]
  exact List.filter_congr fun member _ => congrArg _ (others.holds_eq member)

/-- Members that differ among themselves are refused for what was there before them, if at all. -/
theorem joinAll_eq (agrees : roster.Agrees) {added : List α}
    (ids : (added.map fun member => (Named.record member).id).Nodup)
    (keys : (added.map fun member => (Named.record member).key).Nodup) :
    (∀ grown, roster.joinAll added = .ok grown → grown.Agrees) ∧
      toList <$> roster.joinAll added = Listing.union roster.toList added := by
  induction added generalizing roster with
  | nil => exact ⟨fun grown made => by cases made; exact agrees, by simp [joinAll, Listing.union]; rfl⟩
  | cons member rest ih =>
    obtain ⟨new_id, ids⟩ := List.nodup_cons.mp ids
    obtain ⟨new_key, keys⟩ := List.nodup_cons.mp keys
    rw [joinAll, List.foldlM_cons, join]
    cases refused : Listing.refusal? roster.toList member with
    | some e =>
      rw [agrees.add_of_refused refused, Listing.union, List.findSome?_cons, refused]
      exact ⟨nofun, rfl⟩
    | none =>
      obtain ⟨grown, joined, grown_agrees, listed⟩ := agrees.add_of_fits refused
      obtain ⟨all_agree, made⟩ := ih grown_agrees ids keys
      rw [joined]
      rw [listed] at made
      refine ⟨all_agree, made.trans (Listing.union_cons refused ?_ ?_).symm⟩
      · exact fun other mem same => new_id (List.mem_map.mpr ⟨other, mem, same⟩)
      · exact fun other mem same => new_key (List.mem_map.mpr ⟨other, mem, same⟩)

theorem union_eq (agrees : roster.Agrees) (others : other.Agrees) :
    (∀ joined, roster.union other = .ok joined → joined.Agrees) ∧
      toList <$> roster.union other = Listing.union roster.toList other.toList :=
  agrees.joinAll_eq others.ids_nodup others.keys_nodup

theorem sameMembers_eq (agrees : roster.Agrees) (others : other.Agrees) :
    roster.sameMembers other = Listing.sameMembers roster.toList other.toList := by
  have size : ∀ roster : Roster α, roster.size = roster.ids.length := by
    intro roster
    simp [Roster.size, ids, toList]
  have within : (roster.toList.all fun member => other.contains (Named.record member).id) ↔
      roster.ids ⊆ other.ids := by
    simp only [List.all_eq_true, others.contains_iff]
    exact ⟨fun all id mem => by obtain ⟨member, held, rfl⟩ := mem_ids.mp mem; exact all member held,
      fun all member held => all (mem_ids.mpr ⟨member, held, rfl⟩)⟩
  rw [Bool.eq_iff_iff]
  simp only [sameMembers, Listing.sameMembers, Bool.and_eq_true, beq_iff_eq, within, size,
    List.all_eq_true, decide_eq_true_eq]
  constructor
  · rintro ⟨same_size, subset⟩
    have subperm := List.subperm_of_subset agrees.ids_nodup subset
    have perm := subperm.perm_of_length_le (Nat.le_of_eq same_size.symm)
    exact ⟨subset, perm.symm.subset⟩
  · rintro ⟨subset, superset⟩
    have perm := (List.perm_ext_iff_of_nodup agrees.ids_nodup others.ids_nodup).mpr
      fun id => ⟨@subset id, @superset id⟩
    exact ⟨perm.length_eq, subset⟩

end Roster.Agrees

end Entitlement
