import Entitlement.Proofs.Except
import Entitlement.Proofs.Roster.Refinement
import Mathlib.Data.List.Induction

/-!
Rosters made of a list in which an identity may come several times, in copies that need not be alike. The
roster has the first copy of each.
-/

namespace Entitlement

variable {α : Type} [Named α] {source : List α} {member : α} {id : EntityId}

namespace Listing

theorem get?_eq_some (found : get? source id = some member) :
    member ∈ source ∧ (Named.record member).id = id := by
  unfold get? at found
  exact ⟨List.mem_of_find?_eq_some found, by simpa using List.find?_some found⟩

/-- Every identity of the list has a first copy. -/
theorem exists_get? (mem : member ∈ source) (same : (Named.record member).id = id) :
    ∃ first, get? source id = some first := by
  unfold get?
  exact Option.isSome_iff_exists.mp (List.find?_isSome.mpr ⟨member, mem, by simpa using same⟩)

/-- The list with the first copy alone of each identity. -/
def firsts (source : List α) : List α := source.foldl grow []

theorem firsts_snoc (source : List α) (member : α) : firsts (source ++ [member]) = grow (firsts source) member := by
  rw [firsts, List.foldl_append]
  rfl

/-- A member that is passed over would not be the first copy of its identity. -/
theorem get?_grow (members : List α) (member : α) (id : EntityId) :
    get? (grow members member) id = get? (members ++ [member]) id := by
  unfold grow
  split
  · rename_i present
    obtain ⟨held, mem, same⟩ := List.mem_map.mp present
    by_cases here : (Named.record member).id = id
    · obtain ⟨first, found⟩ := exists_get? mem (same.trans here)
      unfold get? at found ⊢
      rw [List.find?_append, found, Option.some_or]
    · unfold get?
      rw [List.find?_append, List.find?_singleton, if_neg (by simpa using here), Option.or_none]
  · rfl

theorem get?_firsts (source : List α) (id : EntityId) : get? (firsts source) id = get? source id := by
  induction source using List.reverseRecOn with
  | nil => rfl
  | append_singleton source member ih =>
    unfold get? at ih
    rw [firsts_snoc, get?_grow, get?, get?, List.find?_append, List.find?_append, ih]

end Listing

namespace Roster

variable {roster grown : Roster α}

/-- The roster is made of the first copies in the list. -/
structure Firsts (source : List α) (roster : Roster α) : Prop where
  agrees : roster.Agrees
  listed : roster.toList = Listing.firsts source

namespace Firsts

theorem empty : ({} : Roster α).Firsts [] := ⟨Agrees.empty, rfl⟩

theorem join (firsts : roster.Firsts source) (joined : roster.join member = .ok grown) :
    grown.Firsts (source ++ [member]) := by
  cases refused : Listing.refusal? roster.toList member with
  | some e =>
    rw [Roster.join, firsts.agrees.add_of_refused refused] at joined
    cases joined
  | none =>
    obtain ⟨next, added, agrees, listed⟩ := firsts.agrees.add_of_fits refused
    rw [Roster.join, added] at joined
    cases joined
    exact ⟨agrees, by rw [listed, firsts.listed, Listing.firsts_snoc]⟩

theorem joinAll {members : List α} (firsts : roster.Firsts source)
    (joined : roster.joinAll members = .ok grown) : grown.Firsts (source ++ members) := by
  refine except_foldlM_inv (fun done (next : Roster α) => next.Firsts (source ++ done)) ?_ ?_ joined
  · intro done member next later _ held stepped
    rw [← List.append_assoc]
    exact held.join stepped
  · rwa [List.append_nil]

theorem mem_iff (firsts : roster.Firsts source) :
    member ∈ roster.toList ↔ Listing.get? source (Named.record member).id = some member := by
  rw [← Listing.get?_firsts, ← firsts.listed, ← firsts.agrees.get?_eq, firsts.agrees.get?_eq_some_iff,
    and_iff_left rfl]

theorem subset (firsts : roster.Firsts source) : roster.toList ⊆ source :=
  fun _ mem => (Listing.get?_eq_some (firsts.mem_iff.mp mem)).1

theorem exists_copy (firsts : roster.Firsts source) (mem : member ∈ source) :
    ∃ first ∈ roster.toList, (Named.record first).id = (Named.record member).id := by
  obtain ⟨first, found⟩ := Listing.exists_get? mem rfl
  have same := (Listing.get?_eq_some found).2
  exact ⟨first, firsts.mem_iff.mpr (same ▸ found), same⟩

end Firsts

omit [Named α] in
theorem isEmpty_eq_false {roster : Roster α} :
    roster.isEmpty = false ↔ ∃ member, member ∈ roster.toList := by
  rw [isEmpty, ← Array.isEmpty_toList, List.isEmpty_eq_false_iff_exists_mem]
  rfl

theorem Agrees.containsName_iff_exists (agrees : roster.Agrees) {name : String} :
    roster.containsName name ↔ ∃ member ∈ roster.toList, (Named.record member).key = nameKey name := by
  rw [agrees.containsName_iff, mem_keys]

end Roster

end Entitlement
