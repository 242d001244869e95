import Entitlement.Roster

/-!
A roster agrees with its indexes if each of them leads from a key to the place of the member that has
it. Every operation keeps the agreement, and under it each operation is what its name says on the list
of members alone.
-/

namespace Entitlement

open Std (TreeMap)

/-- The index leads from a key to the place of the member with that key, and knows no other key. -/
def Indexes {α κ : Type} [Ord κ] (index : TreeMap κ Nat) (key : α → κ) (members : List α) : Prop :=
  ∀ k place, index[k]? = some place ↔ ∃ member, members[place]? = some member ∧ key member = k

namespace Indexes

variable {α κ : Type} [Ord κ] {index : TreeMap κ Nat} {key : α → κ} {members : List α}

theorem empty [Std.TransOrd κ] : Indexes (∅ : TreeMap κ Nat) key [] := by
  intro k place
  simp

theorem nodup (indexes : Indexes index key members) : (members.map key).Nodup := by
  rw [List.Nodup, List.pairwise_iff_getElem]
  intro i j hi hj below same
  simp only [List.length_map] at hi hj
  simp only [List.getElem_map] at same
  have first := (indexes (key members[j]) i).mpr ⟨members[i], by simp [hi], same⟩
  have second := (indexes (key members[j]) j).mpr ⟨members[j], by simp [hj], rfl⟩
  have equal : i = j := Option.some.inj (first.symm.trans second)
  omega

theorem isSome_iff (indexes : Indexes index key members) (k : κ) :
    index[k]?.isSome ↔ k ∈ members.map key := by
  rw [Option.isSome_iff_exists, List.mem_map]
  constructor
  · rintro ⟨place, found⟩
    obtain ⟨member, at_place, same⟩ := (indexes k place).mp found
    exact ⟨member, List.mem_of_getElem? at_place, same⟩
  · rintro ⟨member, mem, same⟩
    obtain ⟨place, at_place⟩ := List.getElem?_of_mem mem
    exact ⟨place, (indexes k place).mpr ⟨member, at_place, same⟩⟩

theorem contains_iff [Std.TransOrd κ] (indexes : Indexes index key members) (k : κ) :
    index.contains k ↔ k ∈ members.map key := by
  rw [TreeMap.contains_eq_isSome_getElem?, indexes.isSome_iff]

theorem lookup_eq_some_iff (indexes : Indexes index key members) {k : κ} {member : α} :
    index[k]?.bind (members[·]?) = some member ↔ member ∈ members ∧ key member = k := by
  rw [Option.bind_eq_some_iff]
  constructor
  · rintro ⟨place, found, at_place⟩
    obtain ⟨held, held_at, same⟩ := (indexes k place).mp found
    cases at_place.symm.trans held_at
    exact ⟨List.mem_of_getElem? at_place, same⟩
  · rintro ⟨mem, same⟩
    obtain ⟨place, at_place⟩ := List.getElem?_of_mem mem
    exact ⟨place, (indexes k place).mpr ⟨member, at_place, same⟩, at_place⟩

theorem push [Std.TransOrd κ] [Std.LawfulEqOrd κ] (indexes : Indexes index key members) {member : α}
    (absent : key member ∉ members.map key) :
    Indexes (index.insert (key member) members.length) key (members ++ [member]) := by
  intro k place
  rw [TreeMap.getElem?_insert]
  by_cases same : key member = k
  · subst same
    simp only [Std.compare_self, if_true, Option.some.injEq]
    constructor
    · rintro rfl
      exact ⟨member, by simp, rfl⟩
    · rintro ⟨held, at_place, held_key⟩
      by_cases inside : place < members.length
      · rw [List.getElem?_append_left inside] at at_place
        exact absurd (List.mem_map.mpr ⟨held, List.mem_of_getElem? at_place, held_key⟩) absent
      · have bound := (List.getElem?_eq_some_iff.mp at_place).1
        simp only [List.length_append, List.length_singleton] at bound
        omega
  · have differ : compare (key member) k ≠ .eq := fun eq => same (Std.LawfulEqOrd.eq_of_compare eq)
    rw [if_neg differ, indexes k place]
    constructor
    · rintro ⟨held, at_place, held_key⟩
      have inside := (List.getElem?_eq_some_iff.mp at_place).1
      exact ⟨held, by rw [List.getElem?_append_left inside, at_place], held_key⟩
    · rintro ⟨held, at_place, held_key⟩
      by_cases inside : place < members.length
      · exact ⟨held, by rwa [List.getElem?_append_left inside] at at_place, held_key⟩
      · rw [List.getElem?_append_right (by omega)] at at_place
        have last := List.mem_of_getElem? at_place
        simp only [List.mem_singleton] at last
        exact absurd (last ▸ held_key) same

end Indexes

theorem indexes_foldl {α κ : Type} [Ord κ] [Std.TransOrd κ] [Std.LawfulEqOrd κ] {key : α → κ}
    (rest : List α) :
    ∀ (noted : List α) (index : TreeMap κ Nat), Indexes index key noted →
      ((noted ++ rest).map key).Nodup →
      Indexes ((rest.zipIdx noted.length).foldl
        (fun index (member, place) => index.insert (key member) place) index)
        key (noted ++ rest) := by
  induction rest with
  | nil =>
    intro noted index indexes _
    simpa using indexes
  | cons member rest ih =>
    intro noted index indexes nodup
    have absent : key member ∉ noted.map key := by
      intro mem
      rw [List.map_append, List.nodup_append] at nodup
      exact nodup.2.2 _ mem _ (by simp) rfl
    have next := ih (noted ++ [member]) _ (indexes.push absent) (by simpa using nodup)
    simpa using next

theorem indexes_places {α κ : Type} [Ord κ] [Std.TransOrd κ] [Std.LawfulEqOrd κ] {key : α → κ}
    {members : Array α}
    (nodup : (members.toList.map key).Nodup) : Indexes (places key members) key members.toList :=
  indexes_foldl members.toList [] ∅ Indexes.empty nodup

/-- Where keys differ, to take out a place is to take out the key found there. -/
theorem eraseIdx_eq_filter {α κ : Type} [DecidableEq κ] {key : α → κ} {members : List α}
    {member : α} {place : Nat}
    (nodup : (members.map key).Nodup) (at_place : members[place]? = some member) :
    members.eraseIdx place = members.filter (key · ≠ key member) := by
  induction members generalizing place with
  | nil => simp at at_place
  | cons head rest ih =>
    simp only [List.map_cons, List.nodup_cons, List.mem_map, not_exists, not_and] at nodup
    cases place with
    | zero =>
      simp only [List.getElem?_cons_zero, Option.some.injEq] at at_place
      subst at_place
      rw [List.eraseIdx_cons_zero, List.filter_cons_of_neg (by simp)]
      exact (List.filter_eq_self.mpr fun other mem => decide_eq_true (nodup.1 other mem)).symm
    | succ place =>
      simp only [List.getElem?_cons_succ] at at_place
      have differ : key head ≠ key member := fun same =>
        nodup.1 member (List.mem_of_getElem? at_place) same.symm
      rw [List.eraseIdx_cons_succ, ih nodup.2 at_place, List.filter_cons_of_pos (by simpa using differ)]

@[simp]
theorem Record.record_eq (record : Record) : Named.record record = record := rfl

namespace Roster

variable {α : Type} [Named α] {roster : Roster α} {member other : α} {id : EntityId} {name : String}

def keys (roster : Roster α) : List String := roster.toList.map fun member => (Named.record member).key

/-- Both indexes lead to the members. -/
structure Agrees (roster : Roster α) : Prop where
  byId : Indexes roster.byId (fun member => (Named.record member).id) roster.toList
  byName : Indexes roster.byName (fun member => (Named.record member).key) roster.toList

theorem mem_ids : id ∈ roster.ids ↔ ∃ member ∈ roster.toList, (Named.record member).id = id :=
  List.mem_map

theorem mem_keys {key : String} : key ∈ roster.keys ↔
    ∃ member ∈ roster.toList, (Named.record member).key = key :=
  List.mem_map

omit [Named α] in
theorem memberAt?_eq (roster : Roster α) (place : Option Nat) :
    roster.memberAt? place = place.bind (roster.toList[·]?) := by
  cases place with
  | none => rfl
  | some place => simp [memberAt?, toList]

namespace Agrees

theorem empty : ({} : Roster α).Agrees := ⟨Indexes.empty, Indexes.empty⟩

theorem ofDistinct {members : Array α}
    (ids : (members.toList.map fun member => (Named.record member).id).Nodup)
    (keys : (members.toList.map fun member => (Named.record member).key).Nodup) :
    (Roster.ofDistinct members).Agrees :=
  ⟨indexes_places ids, indexes_places keys⟩

theorem ids_nodup (agrees : roster.Agrees) : roster.ids.Nodup := agrees.byId.nodup

theorem keys_nodup (agrees : roster.Agrees) : roster.keys.Nodup := agrees.byName.nodup

theorem contains_iff (agrees : roster.Agrees) : roster.contains id ↔ id ∈ roster.ids :=
  agrees.byId.contains_iff id

theorem containsName_iff (agrees : roster.Agrees) :
    roster.containsName name ↔ nameKey name ∈ roster.keys :=
  agrees.byName.contains_iff (nameKey name)

theorem get?_eq_some_iff (agrees : roster.Agrees) :
    roster.get? id = some member ↔ member ∈ roster.toList ∧ (Named.record member).id = id := by
  rw [get?, memberAt?_eq]
  exact agrees.byId.lookup_eq_some_iff

theorem named?_eq_some_iff (agrees : roster.Agrees) :
    roster.named? name = some member ↔ member ∈ roster.toList ∧
      (Named.record member).key = nameKey name := by
  rw [named?, memberAt?_eq]
  exact agrees.byName.lookup_eq_some_iff

theorem get?_eq_none_iff (agrees : roster.Agrees) : roster.get? id = none ↔ id ∉ roster.ids := by
  rw [Option.eq_none_iff_forall_ne_some, mem_ids]
  simp only [ne_eq, agrees.get?_eq_some_iff, not_and, not_exists]

theorem named?_eq_none_iff (agrees : roster.Agrees) :
    roster.named? name = none ↔ nameKey name ∉ roster.keys := by
  rw [Option.eq_none_iff_forall_ne_some, mem_keys]
  simp only [ne_eq, agrees.named?_eq_some_iff, not_and, not_exists]

theorem eq_of_id_eq (agrees : roster.Agrees) (mem : member ∈ roster.toList)
    (mem' : other ∈ roster.toList)
    (same : (Named.record member).id = (Named.record other).id) : member = other := by
  have first := agrees.get?_eq_some_iff.mpr ⟨mem, rfl⟩
  have second := agrees.get?_eq_some_iff.mpr ⟨mem', same.symm⟩
  exact Option.some.inj (first.symm.trans second)

theorem eq_of_key_eq (agrees : roster.Agrees) (mem : member ∈ roster.toList)
    (mem' : other ∈ roster.toList)
    (same : (Named.record member).key = (Named.record other).key) : member = other := by
  have first : roster.named? (Named.record member).name = some member :=
    agrees.named?_eq_some_iff.mpr ⟨mem, rfl⟩
  have second : roster.named? (Named.record member).name = some other :=
    agrees.named?_eq_some_iff.mpr ⟨mem', same.symm⟩
  exact Option.some.inj (first.symm.trans second)

/-! ### Adding -/

theorem add_of_mem (agrees : roster.Agrees) (present : (Named.record member).id ∈ roster.ids) :
    roster.add member = .ok (false, roster) := by
  have contained : roster.byId.contains (Named.record member).id = true :=
    agrees.contains_iff.mpr present
  simp only [add, contained, if_true]

theorem add_of_taken (agrees : roster.Agrees) (absent : (Named.record member).id ∉ roster.ids)
    (held : other ∈ roster.toList) (same : (Named.record other).key = (Named.record member).key) :
    roster.add member = .error (.collision (Named.record member).name (Named.record other).name) := by
  have lookup : roster.byId.contains (Named.record member).id = false :=
    Bool.eq_false_iff.mpr fun contained => absent (agrees.contains_iff.mp contained)
  have found : roster.named? (Named.record member).name = some other :=
    agrees.named?_eq_some_iff.mpr ⟨held, same⟩
  simp only [add, lookup, found, Bool.false_eq_true, if_false]

theorem add_of_new (agrees : roster.Agrees) (absent : (Named.record member).id ∉ roster.ids)
    (free : (Named.record member).key ∉ roster.keys) :
    ∃ grown, roster.add member = .ok (true, grown) ∧ grown.Agrees ∧
      grown.toList = roster.toList ++ [member] := by
  have lookup : roster.byId.contains (Named.record member).id = false :=
    Bool.eq_false_iff.mpr fun contained => absent (agrees.contains_iff.mp contained)
  have unnamed : roster.named? (Named.record member).name = none := agrees.named?_eq_none_iff.mpr free
  let grown : Roster α := {
    members := roster.members.push member
    byId := roster.byId.insert (Named.record member).id roster.members.size
    byName := roster.byName.insert (Named.record member).key roster.members.size }
  have added : roster.add member = .ok (true, grown) := by
    simp only [add, lookup, unnamed, Bool.false_eq_true, if_false, grown]
  refine ⟨grown, added, ?_, by simp [grown, toList]⟩
  constructor
  · simpa [grown, toList] using agrees.byId.push absent
  · simpa [grown, toList] using agrees.byName.push free

theorem of_add (agrees : roster.Agrees) {isNew : Bool} {grown : Roster α}
    (added : roster.add member = .ok (isNew, grown)) : grown.Agrees := by
  by_cases present : (Named.record member).id ∈ roster.ids
  · cases (agrees.add_of_mem present).symm.trans added
    exact agrees
  · by_cases free : (Named.record member).key ∈ roster.keys
    · obtain ⟨held, mem, same⟩ := mem_keys.mp free
      cases (agrees.add_of_taken present mem same).symm.trans added
    · obtain ⟨extended, eq, extended_agrees, -⟩ := agrees.add_of_new present free
      cases eq.symm.trans added
      exact extended_agrees

/-! ### Taking out -/

theorem takeAt_eq (agrees : roster.Agrees) {place : Nat}
    (at_place : roster.toList[place]? = some member) :
    ∃ rest, roster.takeAt (some place) = (some member, rest) ∧ rest.Agrees ∧
      rest.toList = roster.toList.filter fun held =>
        (Named.record held).id ≠ (Named.record member).id := by
  have inside : place < roster.members.size := by
    simpa [toList] using (List.getElem?_eq_some_iff.mp at_place).1
  have erased : (roster.eraseAt place).toList = roster.toList.eraseIdx place := by
    rw [eraseAt, toList_ofDistinct, Array.eraseIdxIfInBounds, dif_pos inside,
      Array.toList_eraseIdx, toList]
  have sublist : (roster.eraseAt place).toList.Sublist roster.toList := erased ▸ List.eraseIdx_sublist ..
  refine ⟨roster.eraseAt place, ?_, ?_, ?_⟩
  · simp only [takeAt, Prod.mk.injEq, and_true]
    simpa [toList] using at_place
  · exact Agrees.ofDistinct (agrees.ids_nodup.sublist (sublist.map _))
      (agrees.keys_nodup.sublist (sublist.map _))
  · exact erased.trans (eraseIdx_eq_filter agrees.ids_nodup at_place)

theorem take_of_mem (agrees : roster.Agrees) (mem : member ∈ roster.toList) :
    ∃ rest, roster.take (Named.record member).id = (some member, rest) ∧ rest.Agrees ∧
      rest.toList = roster.toList.filter fun held =>
        (Named.record held).id ≠ (Named.record member).id := by
  obtain ⟨place, at_place⟩ := List.getElem?_of_mem mem
  have found := (agrees.byId (Named.record member).id place).mpr ⟨member, at_place, rfl⟩
  rw [take, found]
  exact agrees.takeAt_eq at_place

theorem take_of_absent (agrees : roster.Agrees) (absent : id ∉ roster.ids) :
    roster.take id = (none, roster) := by
  have missing : roster.byId[id]? = none :=
    Option.not_isSome_iff_eq_none.mp fun found => absent ((agrees.byId.isSome_iff id).mp found)
  rw [take, missing, takeAt]

theorem erase (agrees : roster.Agrees) (id : EntityId) :
    (roster.erase id).Agrees ∧ (roster.erase id).toList = roster.toList.filter
      fun held => (Named.record held).id ≠ id := by
  by_cases present : id ∈ roster.ids
  · obtain ⟨member, mem, rfl⟩ := mem_ids.mp present
    obtain ⟨rest, taken, rest_agrees, listed⟩ := agrees.take_of_mem mem
    rw [Roster.erase, taken]
    exact ⟨rest_agrees, listed⟩
  · rw [Roster.erase, agrees.take_of_absent present]
    refine ⟨agrees, (List.filter_eq_self.mpr fun member mem => ?_).symm⟩
    exact decide_eq_true fun same => present (mem_ids.mpr ⟨member, mem, same⟩)

end Agrees

end Roster

end Entitlement
