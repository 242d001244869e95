import Entitlement.Proofs.Store.Soundness

/-!
Stores that lose an entity. What remains is what it was, and in the same order.
-/

namespace Entitlement.Store

/-- The entity is gone, with its credentials and every edge that touched it. -/
structure Loses (store : Store) (kind : Kind) (gone : EntityId) (later : Store) : Prop where
  table : (later.table kind).toList = (store.table kind).toList.filter (·.id ≠ gone)
  others : ∀ other, other ≠ kind → later.table other = store.table other
  credentials : ∀ id, later.credentials[id]? = if kind = .user ∧ id = gone then none else store.credentials[id]?
  edges : later.edges.toList = store.edges.toList.filter fun edge => ! edge.touches gone
  nextId : later.nextId = store.nextId

variable {model : Model} {store later : Store} {kind : Kind} {gone : EntityId}

theorem Sound.toList_eraseAll_touching (sound : store.Sound model) (id : EntityId) :
    (store.edges.eraseAll (store.edges.touching id)).toList =
      store.edges.toList.filter fun edge => ! edge.touches id := by
  rw [(sound.log.eraseAll _).2, sound.log.touching_eq]
  exact List.filter_congr fun edge mem => by simp [mem]

theorem Sound.loses_of_delete (sound : store.Sound model)
    (deleted : store.answer (.delete kind gone) = (.ok (), later)) : store.Loses kind gone later := by
  obtain ⟨present, rfl⟩ := sound.of_delete (attempt_eq_ok.mp deleted)
  constructor
  · rw [table_withGraph, table_setTable, if_pos rfl, ((sound.tables kind).erase gone).2]
    rfl
  · intro other apart
    rw [table_withGraph, table_setTable, if_neg apart]
  · intro id
    simp only [Std.TreeMap.getElem?_erase, Std.compare_eq_iff_eq]
    by_cases same : gone = id
    · subst same
      by_cases user : kind = .user
      · simp [user]
      · have absent : gone ∉ store.credentials := by
          rw [sound.credentials]
          exact fun mem => user (sound.apart kind .user gone present mem)
        simp [user, absent]
    · simp [same, Ne.symm same]
  · exact sound.toList_eraseAll_touching gone
  · exact nextId_setTable ..

namespace Loses

variable (loses : store.Loses kind gone later)
include loses

theorem tables (sound : store.Sound model) (known : gone ∈ (store.table kind).ids) (other : Kind) :
    (later.table other).toList = (store.table other).toList.filter (·.id ≠ gone) := by
  by_cases same : other = kind
  · subst same
    exact loses.table
  · rw [loses.others other same]
    refine (List.filter_eq_self.mpr fun record mem => decide_eq_true ?_).symm
    rintro rfl
    exact same (sound.apart other kind record.id (Roster.mem_ids.mpr ⟨record, mem, rfl⟩) known)

theorem mem_of_mem {other : Kind} {record : Record} (mem : record ∈ (later.table other).toList) :
    record ∈ (store.table other).toList := by
  by_cases same : other = kind
  · subst same
    rw [loses.table] at mem
    exact List.mem_of_mem_filter mem
  · rwa [loses.others other same] at mem

theorem free (sound : store.Sound model) {record : Record} (mem : record ∈ (store.table kind).toList)
    (same : record.id = gone) : record.key ∉ (later.table kind).keys := by
  intro taken
  obtain ⟨held, listed, alike⟩ := Roster.mem_keys.mp taken
  obtain rfl : held = record := (sound.tables kind).eq_of_key_eq (loses.mem_of_mem listed) mem alike
  rw [loses.table, List.mem_filter, decide_eq_true_eq] at listed
  exact listed.2 same

end Loses

end Entitlement.Store
