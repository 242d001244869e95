import Entitlement.Proofs.Store.Soundness

/-!
Stores that grow. Whatever was stored stays as it is, and what is new comes last.
-/

namespace Entitlement.Store

open Std (TreeMap)

/-- Every entity and every edge is still there, as it was and in its place. -/
structure Within (store later : Store) : Prop where
  tables : ∀ kind, (store.table kind).toList <+: (later.table kind).toList
  edges : store.edges.toList <+: later.edges.toList

structure Grows (store later : Store) : Prop where
  tables : ∀ kind, (store.table kind).toList <+: (later.table kind).toList
  credentials : ∀ id ∈ store.users.ids, later.credentials[id]? = store.credentials[id]?
  edges : store.edges.toList <+: later.edges.toList

/-- A new entity is the last of its table, and if it is a user it has the given credentials. -/
structure Creates (store : Store) (kind : Kind) (name : String) (credentials : Credentials) (record : Record)
    (later : Store) : Prop where
  made : record = ⟨⟨store.nextId⟩, name⟩
  table : (later.table kind).toList = (store.table kind).toList ++ [record]
  others : ∀ other, other ≠ kind → later.table other = store.table other
  credentials : ∀ id, later.credentials[id]? =
    if kind = .user ∧ id = record.id then some credentials else store.credentials[id]?
  edges : later.edges = store.edges

/-- How many entities are stored. -/
def population (store : Store) : Nat :=
  store.users.size + store.groups.size + store.roles.size + store.permissions.size

variable {model : Model} {store later last : Store} {kind : Kind} {name : String} {record : Record}

theorem table_withCredentials (credentials : TreeMap EntityId Credentials) (nextId : Nat) (other : Kind) :
    ({ store with credentials, nextId } : Store).table other = store.table other := by
  cases other <;> rfl

namespace Within

theorem refl (store : Store) : store.Within store := ⟨fun _ => List.prefix_rfl, List.prefix_rfl⟩

theorem of_eq (tables : ∀ kind, later.table kind = store.table kind) (edges : later.edges = store.edges) :
    store.Within later where
  tables kind := by simp only [tables, List.prefix_rfl]
  edges := by simp only [edges, List.prefix_rfl]

theorem trans (first : store.Within later) (second : later.Within last) : store.Within last where
  tables kind := (first.tables kind).trans (second.tables kind)
  edges := first.edges.trans second.edges

variable (within : store.Within later)
include within

theorem mem (stored : record ∈ (store.table kind).toList) :
    record ∈ (later.table kind).toList := (within.tables kind).mem stored

theorem mem_ids {id : EntityId} (stored : id ∈ (store.table kind).ids) :
    id ∈ (later.table kind).ids := by
  obtain ⟨record, listed, rfl⟩ := Roster.mem_ids.mp stored
  exact Roster.mem_ids.mpr ⟨record, within.mem listed, rfl⟩

theorem mem_keys {key : String} (stored : key ∈ (store.table kind).keys) :
    key ∈ (later.table kind).keys := by
  obtain ⟨record, listed, rfl⟩ := Roster.mem_keys.mp stored
  exact Roster.mem_keys.mpr ⟨record, within.mem listed, rfl⟩

/-- A name that is found keeps being found, and with the same record. -/
theorem named? (sound : store.Sound model) (sound' : later.Sound model)
    (found : (store.table kind).named? name = some record) :
    (later.table kind).named? name = some record := by
  obtain ⟨listed, same⟩ := (sound.tables kind).named?_eq_some_iff.mp found
  exact (sound'.tables kind).named?_eq_some_iff.mpr ⟨within.mem listed, same⟩

end Within

namespace Grows

theorem within (grows : store.Grows later) : store.Within later := ⟨grows.tables, grows.edges⟩

theorem refl (store : Store) : store.Grows store :=
  ⟨fun _ => List.prefix_rfl, fun _ _ => rfl, List.prefix_rfl⟩

theorem trans (first : store.Grows later) (second : later.Grows last) : store.Grows last where
  tables kind := (first.tables kind).trans (second.tables kind)
  credentials id stored := by
    have listed : id ∈ (store.table .user).ids := stored
    have known : id ∈ later.users.ids := first.within.mem_ids listed
    rw [second.credentials id known, first.credentials id stored]
  edges := first.edges.trans second.edges

end Grows

namespace Creates

variable {credentials : Credentials} (creates : store.Creates kind name credentials record later)
include creates

theorem grows (sound : store.Sound model) : store.Grows later where
  tables other := by
    by_cases same : other = kind
    · subst same
      exact ⟨[record], creates.table.symm⟩
    · simp only [creates.others other same, List.prefix_rfl]
  credentials id stored := by
    have apart : id ≠ record.id := by
      intro same
      have given : ⟨store.nextId⟩ ∈ (store.table .user).ids := by
        rw [same, creates.made] at stored
        exact stored
      exact sound.next_absent given
    rw [creates.credentials, if_neg fun new => apart new.2]
  edges := by simp only [creates.edges, List.prefix_rfl]

theorem mem_table : record ∈ (later.table kind).toList := by
  rw [creates.table]
  exact List.mem_append_right _ (List.mem_singleton_self record)

theorem population : later.population = store.population + 1 := by
  have length : ∀ roster : Roster Record, roster.size = roster.toList.length :=
    fun roster => Array.length_toList.symm
  have size : ∀ other, (later.table other).size = (store.table other).size + if other = kind then 1 else 0 := by
    intro other
    by_cases same : other = kind
    · rw [if_pos same, length, length, same, creates.table, List.length_append, List.length_singleton]
    · rw [if_neg same, creates.others other same, Nat.add_zero]
  have users := size .user
  have groups := size .group
  have roles := size .role
  have permissions := size .permission
  simp only [Store.table] at users groups roles permissions
  rw [Store.population, users, groups, roles, permissions, Store.population]
  cases kind <;> simp <;> omega

theorem mem_keys (other : Kind) (key : String) : key ∈ (later.table other).keys ↔
    key ∈ (store.table other).keys ∨ other = kind ∧ nameKey name = key := by
  by_cases same : other = kind
  · subst same
    simp [Roster.keys, creates.table, creates.made, Record.key, eq_comm]
  · simp [creates.others other same, same]

theorem mem_ids (other : Kind) (id : EntityId) : id ∈ (later.table other).ids ↔
    id ∈ (store.table other).ids ∨ other = kind ∧ id = record.id := by
  by_cases same : other = kind
  · subst same
    simp [Roster.ids, creates.table]
  · simp [creates.others other same, same]

end Creates

theorem Sound.creates_of_answer (sound : store.Sound model)
    (answered : store.answer (.create kind name) = (.ok record, later)) : store.Creates kind name {} record later := by
  have answered := attempt_eq_ok.mp answered
  by_cases taken : nameKey name ∈ (store.table kind).keys
  · cases (sound.create_taken taken).symm.trans answered
  · obtain ⟨table, agrees, listed, created⟩ := sound.create_free taken
    cases created.symm.trans answered
    constructor
    · rfl
    · rw [table_withCredentials, table_setTable, if_pos rfl, listed]
    · intro other apart
      rw [table_withCredentials, table_setTable, if_neg apart]
    · intro id
      by_cases user : kind = .user
      · simp only [user, true_and, if_true, TreeMap.getElem?_insert, Std.compare_eq_iff_eq]
        exact if_congr eq_comm rfl rfl
      · simp only [user, false_and, if_false]
    · exact edges_setTable store kind table

/-- A name that is visible and free can be given to a new entity. -/
theorem Sound.creates (sound : store.Sound model) (visible : Text.blank name = false)
    (free : nameKey name ∉ (store.table kind).keys) :
    ∃ record later, store.answer (.create kind name) = (.ok record, later) ∧
      store.Creates kind name {} record later ∧ later.Sound model := by
  obtain ⟨_, -, -, created⟩ := sound.create_free free
  have answered : store.answer (.create kind name) = _ := attempt_eq_ok.mpr created
  exact ⟨_, _, answered, sound.creates_of_answer answered, sound.create visible created⟩

end Entitlement.Store
