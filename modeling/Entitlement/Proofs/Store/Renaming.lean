import Entitlement.Proofs.Store.Soundness

/-!
Stores in which an entity gets another name. Its record moves to the end of its table, and nothing else of the
store is touched; what leads to other entities leads to them still.
-/

namespace Entitlement.Store

/-- The entity has the new name, and that is all. -/
structure Renames (store : Store) (kind : Kind) (id : EntityId) (name : String) (later : Store) : Prop where
  table : (later.table kind).toList = (store.table kind).toList.filter (·.id ≠ id) ++ [⟨id, name⟩]
  others : ∀ other, other ≠ kind → later.table other = store.table other
  credentials : later.credentials = store.credentials
  edges : later.edges = store.edges
  nextId : later.nextId = store.nextId

/-- Why an entity does not get a name: it is blank, somebody else of its kind has it, or the entity is not
stored. Of several reasons the first one is given. -/
inductive RefusesName (store : Store) (kind : Kind) (id : EntityId) (name : String) : Category → Prop where
  | blank (blank : Text.blank name = true) : RefusesName store kind id name .dataBackend
  | taken {held : Record} (visible : Text.blank name = false) (mem : held ∈ (store.table kind).toList)
    (same : held.key = nameKey name) (other : held.id ≠ id) : RefusesName store kind id name .entityExists
  | unknown (visible : Text.blank name = false) (free : store.Free kind id name)
    (absent : id ∉ (store.table kind).ids) : RefusesName store kind id name .unknownEntity

/-- The identity that a key leads to among the entities of a kind. -/
def idOf (store : Store) (kind : Kind) (key : String) : Option EntityId :=
  ((store.table kind).toList.find? (·.key == key)).map Record.id

variable {model : Model} {store later : Store} {kind : Kind} {id : EntityId} {name key : String} {record : Record}

namespace RefusesName

variable {category other : Category}

theorem unique (refuses : store.RefusesName kind id name category) (again : store.RefusesName kind id name other) :
    category = other := by
  cases refuses with
  | blank blank =>
    cases again with
    | blank => rfl
    | taken visible | unknown visible => cases blank.symm.trans visible
  | taken visible mem same differs =>
    cases again with
    | blank blank => cases blank.symm.trans visible
    | taken => rfl
    | unknown _ free => exact absurd (free _ mem same) differs
  | unknown visible free =>
    cases again with
    | blank blank => cases blank.symm.trans visible
    | taken _ mem same differs => exact absurd (free _ mem same) differs
    | unknown => rfl

theorem not_accepted (refuses : store.RefusesName kind id name category) (visible : Text.blank name = false)
    (free : store.Free kind id name) : id ∉ (store.table kind).ids := by
  cases refuses with
  | blank blank => cases blank.symm.trans visible
  | taken _ mem same differs => exact absurd (free _ mem same) differs
  | unknown _ _ absent => exact absent

end RefusesName

namespace Sound

variable (sound : store.Sound model)
include sound

theorem idOf_eq_some_iff :
    store.idOf kind key = some id ↔ ∃ record ∈ (store.table kind).toList, record.key = key ∧ record.id = id := by
  simp only [idOf, Option.map_eq_some_iff]
  constructor
  · rintro ⟨record, found, same⟩
    exact ⟨record, List.mem_of_find?_eq_some found, by simpa using List.find?_some found, same⟩
  · rintro ⟨record, mem, rfl, same⟩
    rcases found : (store.table kind).toList.find? (·.key == record.key) with _ | held
    · simpa using List.find?_eq_none.mp found record mem
    · have listed := List.mem_of_find?_eq_some found
      have key : held.key = record.key := by simpa using List.find?_some found
      exact ⟨held, found, (sound.tables kind).eq_of_key_eq listed mem key ▸ same⟩

theorem renames_of_answer (answered : store.answer (.rename kind id name) = (.ok record, later)) :
    id ∈ (store.table kind).ids ∧ store.Renames kind id name later := by
  obtain ⟨present, table, -, listed, rfl⟩ := sound.of_rename answered
  refine ⟨present, ?_⟩
  constructor
  · rw [table_setTable, if_pos rfl, listed]
  · intro other apart
    rw [table_setTable, if_neg apart]
  · exact credentials_setTable ..
  · exact edges_setTable ..
  · exact nextId_setTable ..

theorem renames (free : store.Free kind id name) (present : id ∈ (store.table kind).ids) :
    ∃ later, store.answer (.rename kind id name) = (.ok ⟨id, name⟩, later) ∧ store.Renames kind id name later := by
  obtain ⟨table, -, -, renamed⟩ := sound.rename_free free present
  exact ⟨_, renamed, (sound.renames_of_answer renamed).2⟩

end Sound

namespace Renames

variable (renames : store.Renames kind id name later)
include renames

theorem mem_iff : record ∈ (later.table kind).toList ↔
    record ∈ (store.table kind).toList ∧ record.id ≠ id ∨ record = ⟨id, name⟩ := by
  simp [renames.table]

theorem mem_ids (present : id ∈ (store.table kind).ids) (other : Kind) (id' : EntityId) :
    id' ∈ (later.table other).ids ↔ id' ∈ (store.table other).ids := by
  by_cases same : other = kind
  · subst same
    exact Sound.mem_ids_renamed present renames.table id'
  · rw [renames.others other same]

theorem size (sound : store.Sound model) (sound' : later.Sound model) (present : id ∈ (store.table kind).ids)
    (other : Kind) : (later.table other).size = (store.table other).size := by
  have perm : (later.table other).ids.Perm (store.table other).ids :=
    (List.perm_ext_iff_of_nodup (sound'.tables other).ids_nodup (sound.tables other).ids_nodup).mpr
      (renames.mem_ids present other)
  have length := perm.length_eq
  rw [Roster.ids, Roster.ids, List.length_map, List.length_map] at length
  exact length

/-- Who has a key that is not the new one, and is somebody else, has it as before. -/
theorem idOf_of_ne (sound : store.Sound model) (sound' : later.Sound model) {old : Record}
    (stored : old ∈ (store.table kind).toList) (same : old.id = id) (not_old : key ≠ old.key)
    (not_new : key ≠ nameKey name) : later.idOf kind key = store.idOf kind key := by
  ext other
  rw [sound'.idOf_eq_some_iff, sound.idOf_eq_some_iff]
  constructor
  · rintro ⟨record, mem, rfl, rfl⟩
    rcases renames.mem_iff.mp mem with ⟨before, -⟩ | rfl
    · exact ⟨record, before, rfl, rfl⟩
    · exact absurd rfl not_new
  · rintro ⟨record, mem, rfl, rfl⟩
    refine ⟨record, renames.mem_iff.mpr (.inl ⟨mem, fun renamed => not_old ?_⟩), rfl, rfl⟩
    rw [(sound.tables kind).eq_of_id_eq mem stored (renamed.trans same.symm)]

theorem freed (sound : store.Sound model) {old : Record} (stored : old ∈ (store.table kind).toList)
    (same : old.id = id) (differs : old.key ≠ nameKey name) : old.key ∉ (later.table kind).keys := by
  intro taken
  obtain ⟨record, mem, key⟩ := Roster.mem_keys.mp taken
  rcases renames.mem_iff.mp mem with ⟨before, other⟩ | rfl
  · exact other ((sound.tables kind).eq_of_key_eq before stored key ▸ same)
  · exact differs key.symm

end Renames

end Entitlement.Store
