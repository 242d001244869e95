import Entitlement.Proofs.EdgeLog.Agreement
import Entitlement.Proofs.Roster.Agreement
import Entitlement.Proofs.Action.Keeping

/-!
The invariant of the store. Tables and edges agree with their indexes; an identity is given out once
and lies in one table; names are not blank; exactly the users have credentials; edges join stored
entities and are of relations that the model grants. Each request that the services of a model send
keeps the invariant.
-/

namespace Entitlement

open Std (TreeMap)

namespace Store

structure Sound (model : Model) (store : Store) : Prop where
  tables : ∀ kind, (store.table kind).Agrees
  log : store.edges.Agrees
  given : ∀ kind, ∀ record ∈ (store.table kind).toList, record.id.number < store.nextId
  apart : ∀ kind other id, id ∈ (store.table kind).ids → id ∈ (store.table other).ids → kind = other
  named : ∀ kind, ∀ record ∈ (store.table kind).toList, Text.blank record.name = false
  credentials : ∀ id, id ∈ store.credentials ↔ id ∈ store.users.ids
  stored : ∀ edge ∈ store.edges.toList, ∀ end' ∈ edge.endpoints, end'.2 ∈ (store.table end'.1).ids
  shapes : ∀ edge ∈ store.edges.toList, edge.relation.belongsTo model

/-- A name is free for an entity if nobody else of its kind has it. -/
def Free (store : Store) (kind : Kind) (id : EntityId) (name : String) : Prop :=
  ∀ held ∈ (store.table kind).toList, held.key = nameKey name → held.id = id

variable {model : Model} {store later : Store} {kind : Kind} {id : EntityId} {name : String}
  {edge : Edge EntityId}

@[simp]
theorem table_withGraph (edges : EdgeLog) (credentials : TreeMap EntityId Credentials)
    (nextId : Nat) (other : Kind) :
    ({ store with edges, credentials, nextId } : Store).table other = store.table other := by
  cases other <;> rfl

namespace Sound

theorem empty (model : Model) (nextId : Nat) : ({ nextId } : Store).Sound model where
  tables kind := by cases kind <;> exact Roster.Agrees.empty
  log := EdgeLog.Agrees.empty
  given kind := by cases kind <;> simp [table, Roster.toList]
  apart kind := by cases kind <;> simp [table, Roster.ids, Roster.toList]
  named kind := by cases kind <;> simp [table, Roster.toList]
  credentials := by simp [Roster.ids, Roster.toList]
  stored := by simp [EdgeLog.toList]
  shapes := by simp [EdgeLog.toList]

theorem holds_iff (sound : store.Sound model) : store.holds kind id ↔ id ∈ (store.table kind).ids :=
  (sound.tables kind).contains_iff

theorem require_ok_iff (sound : store.Sound model) :
    store.require kind id = .ok () ↔ id ∈ (store.table kind).ids := by
  rw [require, ← sound.holds_iff]
  split <;> simp_all

/-- A table may be exchanged for one whose records were there or are new, with fewer edges and with the
credentials of the users that are left. -/
theorem exchange (sound : store.Sound model) {table : Roster Record} {edges : EdgeLog}
    {credentials : TreeMap EntityId Credentials} {nextId : Nat} (agrees : table.Agrees)
    (log : edges.Agrees)
    (grows : store.nextId ≤ nextId) (given : ∀ record ∈ table.toList, record.id.number < nextId)
    (new : ∀ id ∈ table.ids, id ∈ (store.table kind).ids ∨ store.nextId ≤ id.number)
    (named : ∀ record ∈ table.toList, Text.blank record.name = false)
    (follow : ∀ id, id ∈ credentials ↔ id ∈ ((store.setTable kind table).table .user).ids)
    (fewer : ∀ edge ∈ edges.toList, edge ∈ store.edges.toList)
    (kept : ∀ edge ∈ edges.toList, ∀ end' ∈ edge.endpoints, end'.1 = kind → end'.2 ∈ table.ids) :
    ({ store.setTable kind table with edges, credentials, nextId } : Store).Sound model where
  tables other := by
    rw [table_withGraph, table_setTable]
    split
    · exact agrees
    · exact sound.tables other
  log := log
  given other record mem := by
    rw [table_withGraph, table_setTable] at mem
    split at mem
    · exact given record mem
    · exact Nat.lt_of_lt_of_le (sound.given other record mem) grows
  apart one other id mem mem' := by
    have outside : ∀ k, id ∈ (store.table k).ids → id.number < store.nextId := by
      intro k held
      obtain ⟨record, listed, rfl⟩ := Roster.mem_ids.mp held
      exact sound.given k record listed
    rw [table_withGraph, table_setTable] at mem mem'
    split at mem <;> split at mem' <;> rename_i first second
    · rw [first, second]
    · rcases new id mem with old | fresh
      · rw [first]
        exact sound.apart kind other id old mem'
      · exact absurd (outside other mem') (by omega)
    · rcases new id mem' with old | fresh
      · rw [second]
        exact sound.apart one kind id mem old
      · exact absurd (outside one mem) (by omega)
    · exact sound.apart one other id mem mem'
  named other record mem := by
    rw [table_withGraph, table_setTable] at mem
    split at mem
    · exact named record mem
    · exact sound.named other record mem
  credentials := follow
  stored edge mem := by
    intro end' at_end
    rw [table_withGraph, table_setTable]
    split
    · rename_i same
      exact kept edge mem end' at_end same
    · exact sound.stored edge (fewer edge mem) end' at_end
  shapes edge mem := sound.shapes edge (fewer edge mem)

/-- A table may grow, or have its records renamed, with the edges as they are. -/
theorem setTable (sound : store.Sound model) {table : Roster Record}
    {credentials : TreeMap EntityId Credentials}
    {nextId : Nat} (agrees : table.Agrees) (grows : store.nextId ≤ nextId)
    (given : ∀ record ∈ table.toList, record.id.number < nextId)
    (new : ∀ id ∈ table.ids, id ∈ (store.table kind).ids ∨ store.nextId ≤ id.number)
    (kept : ∀ id ∈ (store.table kind).ids, id ∈ table.ids)
    (named : ∀ record ∈ table.toList, Text.blank record.name = false)
    (follow : ∀ id, id ∈ credentials ↔ id ∈ ((store.setTable kind table).table .user).ids) :
    ({ store.setTable kind table with credentials, nextId } : Store).Sound model := by
  have same : ({ store.setTable kind table with credentials, nextId } : Store) =
      { store.setTable kind table with edges := store.edges, credentials, nextId } := by
    cases kind <;> rfl
  rw [same]
  refine sound.exchange agrees sound.log grows given new named follow (fun _ mem => mem) ?_
  rintro edge mem end' at_end rfl
  exact kept _ (sound.stored edge mem end' at_end)

/-! ### Creating -/

theorem next_absent (sound : store.Sound model) : ⟨store.nextId⟩ ∉ (store.table kind).ids := by
  intro given
  obtain ⟨record, listed, equal⟩ := Roster.mem_ids.mp given
  have below := sound.given kind record listed
  simp only [Record.record_eq] at equal
  rw [equal] at below
  exact Nat.lt_irrefl _ below

theorem create_taken (sound : store.Sound model) (taken : nameKey name ∈ (store.table kind).keys) :
    store.create kind name = .error (.nameTaken kind name) := by
  let record : Record := ⟨⟨store.nextId⟩, name⟩
  obtain ⟨held, mem, same⟩ := Roster.mem_keys.mp taken
  have absent : (Named.record record).id ∉ (store.table kind).ids := sound.next_absent
  have refused : (store.table kind).add record = _ := (sound.tables kind).add_of_taken absent mem same
  simp only [Store.create, Roster.join, show (⟨⟨store.nextId⟩, name⟩ : Record) =
    record from rfl, refused]
  rfl

theorem create_free (sound : store.Sound model) (free : nameKey name ∉ (store.table kind).keys) :
    ∃ table, table.Agrees ∧ table.toList = (store.table kind).toList ++ [⟨⟨store.nextId⟩, name⟩] ∧
      store.create kind name = .ok (⟨⟨store.nextId⟩, name⟩, { store.setTable kind table with
        credentials := if kind = .user then store.credentials.insert ⟨store.nextId⟩
          {} else store.credentials
        nextId := store.nextId + 1 }) := by
  let record : Record := ⟨⟨store.nextId⟩, name⟩
  have absent : (Named.record record).id ∉ (store.table kind).ids := sound.next_absent
  have unnamed : (Named.record record).key ∉ (store.table kind).keys := free
  obtain ⟨table, added, agrees, listed⟩ := (sound.tables kind).add_of_new absent unnamed
  refine ⟨table, agrees, listed, ?_⟩
  simp only [Store.create, Roster.join, show (⟨⟨store.nextId⟩, name⟩ : Record) = record from rfl, added]
  rfl

theorem of_create (sound : store.Sound model) {record : Record}
    (created : store.create kind name = .ok (record, later)) :
    ∃ table, table.Agrees ∧ table.toList = (store.table kind).toList ++ [⟨⟨store.nextId⟩, name⟩] ∧
      later = { store.setTable kind table with
        credentials := if kind = .user then store.credentials.insert ⟨store.nextId⟩
          {} else store.credentials
        nextId := store.nextId + 1 } := by
  by_cases taken : nameKey name ∈ (store.table kind).keys
  · cases (sound.create_taken taken).symm.trans created
  · obtain ⟨table, agrees, listed, eq⟩ := sound.create_free taken
    cases eq.symm.trans created
    exact ⟨table, agrees, listed, rfl⟩

theorem create (sound : store.Sound model) (visible : Text.blank name = false) {record : Record}
    (created : store.create kind name = .ok (record, later)) : later.Sound model := by
  obtain ⟨table, agrees, listed, rfl⟩ := sound.of_create created
  have ids : ∀ id, id ∈ table.ids ↔ id ∈ (store.table kind).ids ∨ id = ⟨store.nextId⟩ := by
    intro id
    simp [Roster.ids, listed, eq_comm]
  have members : ∀ record, record ∈ table.toList ↔
    record ∈ (store.table kind).toList ∨ record = ⟨⟨store.nextId⟩, name⟩ := by
    intro record
    rw [listed, List.mem_append, List.mem_singleton]
  refine sound.setTable agrees (Nat.le_succ _) (fun record mem => ?_) (fun id mem => ?_)
    (fun id mem => (ids id).mpr (.inl mem)) (fun record mem => ?_) fun id => ?_
  · rcases (members record).mp mem with old | rfl
    · exact Nat.lt_succ_of_lt (sound.given kind record old)
    · exact Nat.lt_succ_self _
  · rcases (ids id).mp mem with old | rfl
    · exact .inl old
    · exact .inr (Nat.le_refl _)
  · rcases (members record).mp mem with old | rfl
    · exact sound.named kind record old
    · exact visible
  · rw [table_setTable]
    by_cases users : kind = .user
    · subst users
      have known := sound.credentials id
      rw [if_pos rfl, if_pos rfl, TreeMap.mem_insert, Std.compare_eq_iff_eq, ids, known, or_comm,
        eq_comm]
      rfl
    · rw [if_neg users, if_neg (Ne.symm users)]
      exact sound.credentials id

/-! ### Renaming -/

theorem rename_taken (sound : store.Sound model) {held : Record} (mem : held ∈ (store.table kind).toList)
    (same : held.key = nameKey name) (other : held.id ≠ id) :
    store.rename kind id name = (.error (.nameTaken kind name), store) := by
  have found : (store.table kind).named? name = some held :=
    (sound.tables kind).named?_eq_some_iff.mpr ⟨mem, same⟩
  have taken : ((store.table kind).named? name).any (fun held => held.id ≠ id) = true := by
    simpa [found] using other
  simp only [Store.rename, taken, if_true]

theorem untaken (sound : store.Sound model) (free : Free store kind id name) :
    ((store.table kind).named? name).any (fun held => held.id ≠ id) = false := by
  rcases found : (store.table kind).named? name with _ | held
  · rfl
  · obtain ⟨mem, same⟩ := (sound.tables kind).named?_eq_some_iff.mp found
    simpa using free held mem same

theorem rename_absent (sound : store.Sound model) (free : Free store kind id name)
    (absent : id ∉ (store.table kind).ids) :
    store.rename kind id name = (.error (.noEntityWithId kind id), store) := by
  have refused : store.require kind id = .error (.noEntityWithId kind id) := by
    rw [require, if_neg (mt sound.holds_iff.mp absent)]
  simp only [Store.rename, sound.untaken free, refused]
  rfl

/-- Nothing can keep an entity out that has just been taken out to get a free name. -/
theorem rename_free (sound : store.Sound model) (free : Free store kind id name)
    (present : id ∈ (store.table kind).ids) :
    ∃ table, table.Agrees ∧ table.toList = (store.table kind).toList.filter (·.id ≠ id) ++ [⟨id, name⟩] ∧
      store.rename kind id name = (.ok ⟨id, name⟩, store.setTable kind table) := by
  let record : Record := ⟨id, name⟩
  obtain ⟨rest_agrees, rest_listed⟩ := (sound.tables kind).erase id
  have gone : (Named.record record).id ∉ ((store.table kind).erase id).ids := by
    intro mem
    obtain ⟨held, listed, same⟩ := Roster.mem_ids.mp mem
    rw [rest_listed, List.mem_filter, decide_eq_true_eq] at listed
    exact listed.2 same
  have unnamed : (Named.record record).key ∉ ((store.table kind).erase id).keys := by
    intro taken
    obtain ⟨held, mem, same⟩ := Roster.mem_keys.mp taken
    rw [rest_listed, List.mem_filter, decide_eq_true_eq] at mem
    exact mem.2 (free held mem.1 same)
  obtain ⟨table, added, agrees, listed⟩ := rest_agrees.add_of_new gone unnamed
  refine ⟨table, agrees, by rw [listed, rest_listed]; rfl, ?_⟩
  simp only [Store.rename, sound.untaken free, sound.require_ok_iff.mpr present, Roster.join,
    show (⟨id, name⟩ : Record) = record from rfl, added]
  rfl

theorem of_rename (sound : store.Sound model) {record : Record}
    (renamed : store.rename kind id name = (.ok record, later)) : id ∈ (store.table kind).ids ∧
    ∃ table, table.Agrees ∧ table.toList = (store.table kind).toList.filter (·.id ≠ id) ++ [⟨id, name⟩] ∧
      later = store.setTable kind table := by
  by_cases free : Free store kind id name
  · by_cases present : id ∈ (store.table kind).ids
    · obtain ⟨table, agrees, listed, eq⟩ := sound.rename_free free present
      cases eq.symm.trans renamed
      exact ⟨present, table, agrees, listed, rfl⟩
    · cases (sound.rename_absent free present).symm.trans renamed
  · simp only [Free, Classical.not_forall] at free
    obtain ⟨held, mem, same, other⟩ := free
    cases (sound.rename_taken mem same other).symm.trans renamed

/-- A refusal comes before the entity is taken out. -/
theorem rename_refused (sound : store.Sound model) {e : Error}
    (refused : store.rename kind id name = (.error e, later)) : later = store := by
  by_cases free : Free store kind id name
  · by_cases present : id ∈ (store.table kind).ids
    · obtain ⟨table, -, -, renamed⟩ := sound.rename_free free present
      cases renamed.symm.trans refused
    · cases (sound.rename_absent free present).symm.trans refused
      rfl
  · simp only [Free, Classical.not_forall] at free
    obtain ⟨held, mem, same, other⟩ := free
    cases (sound.rename_taken mem same other).symm.trans refused
    rfl

/-- Whoever is stored is stored under the same identity after that. -/
theorem mem_ids_renamed {table renamed : Roster Record} (present : id ∈ table.ids)
    (listed : renamed.toList = table.toList.filter (·.id ≠ id) ++ [⟨id, name⟩]) (other : EntityId) :
    other ∈ renamed.ids ↔ other ∈ table.ids := by
  have members : ∀ record, record ∈ renamed.toList ↔
      record ∈ table.toList ∧ record.id ≠ id ∨ record = ⟨id, name⟩ := by
    intro record
    simp [listed]
  rw [Roster.mem_ids, Roster.mem_ids]
  constructor
  · rintro ⟨held, mem, rfl⟩
    rcases (members held).mp mem with ⟨old, -⟩ | rfl
    · exact ⟨held, old, rfl⟩
    · exact Roster.mem_ids.mp present
  · rintro ⟨held, mem, rfl⟩
    by_cases same : held.id = id
    · exact ⟨⟨id, name⟩, (members _).mpr (.inr rfl), same.symm⟩
    · exact ⟨held, (members held).mpr (.inl ⟨mem, same⟩), rfl⟩

theorem rename (sound : store.Sound model) (visible : Text.blank name = false) {record : Record}
    (renamed : store.rename kind id name = (.ok record, later)) : later.Sound model := by
  obtain ⟨present, table, agrees, listed, rfl⟩ := sound.of_rename renamed
  have members : ∀ record, record ∈ table.toList ↔
      record ∈ (store.table kind).toList ∧ record.id ≠ id ∨ record = ⟨id, name⟩ := by
    intro record
    simp [listed]
  have ids := mem_ids_renamed present listed
  have unchanged : store.setTable kind table =
      { store.setTable kind table with credentials := store.credentials, nextId := store.nextId } := by
    cases kind <;> rfl
  rw [unchanged]
  refine sound.setTable agrees (Nat.le_refl _) (fun record mem => ?_)
    (fun other mem => .inl ((ids other).mp mem))
    (fun other mem => (ids other).mpr mem) (fun record mem => ?_) fun other => ?_
  · rcases (members record).mp mem with ⟨old, -⟩ | rfl
    · exact sound.given kind record old
    · obtain ⟨held, old, same⟩ := Roster.mem_ids.mp present
      exact same ▸ sound.given kind held old
  · rcases (members record).mp mem with ⟨old, -⟩ | rfl
    · exact sound.named kind record old
    · exact visible
  · rw [table_setTable, sound.credentials other]
    split
    · rename_i users
      rw [ids, ← users]
      rfl
    · rfl

/-! ### Deleting -/

theorem delete_absent (sound : store.Sound model) (absent : id ∉ (store.table kind).ids) :
    store.delete kind id = .error (.noEntityWithId kind id) := by
  have refused : store.require kind id = .error (.noEntityWithId kind id) := by
    rw [require, if_neg (mt sound.holds_iff.mp absent)]
  simp only [Store.delete, refused]
  rfl

theorem delete_stored (sound : store.Sound model) (present : id ∈ (store.table kind).ids) :
    store.delete kind id = .ok ((), { store.setTable kind ((store.table kind).erase id) with
      edges := store.edges.eraseAll (store.edges.touching id)
      credentials := store.credentials.erase id }) := by
  simp only [Store.delete, sound.require_ok_iff.mpr present]
  rfl

theorem mem_eraseAll_touching (sound : store.Sound model) :
    edge ∈ (store.edges.eraseAll (store.edges.touching id)).toList ↔
      edge ∈ store.edges.toList ∧ ¬ edge.touches id := by
  rw [(sound.log.eraseAll _).2, sound.log.touching_eq, List.mem_filter, decide_eq_true_eq,
    List.mem_filter]
  exact and_congr_right fun mem => by simp [mem]

theorem of_delete (sound : store.Sound model) (deleted : store.delete kind id = .ok ((), later)) :
    id ∈ (store.table kind).ids ∧ later = { store.setTable kind ((store.table kind).erase id) with
      edges := store.edges.eraseAll (store.edges.touching id)
      credentials := store.credentials.erase id } := by
  by_cases present : id ∈ (store.table kind).ids
  · cases (sound.delete_stored present).symm.trans deleted
    exact ⟨present, rfl⟩
  · cases (sound.delete_absent present).symm.trans deleted

theorem delete (sound : store.Sound model) (deleted : store.delete kind id = .ok ((), later)) :
    later.Sound model := by
  obtain ⟨present, rfl⟩ := sound.of_delete deleted
  obtain ⟨agrees, listed⟩ := (sound.tables kind).erase id
  have members : ∀ record, record ∈ ((store.table kind).erase id).toList ↔
      record ∈ (store.table kind).toList ∧ record.id ≠ id := by
    intro record
    simp [listed]
  have ids : ∀ other, other ∈ ((store.table kind).erase id).ids ↔
    other ∈ (store.table kind).ids ∧ other ≠ id := by
    intro other
    rw [Roster.mem_ids, Roster.mem_ids]
    constructor
    · rintro ⟨held, mem, rfl⟩
      obtain ⟨old, differ⟩ := (members held).mp mem
      exact ⟨⟨held, old, rfl⟩, differ⟩
    · rintro ⟨⟨held, old, rfl⟩, differ⟩
      exact ⟨held, (members held).mpr ⟨old, differ⟩, rfl⟩
  have same_next : (store.setTable kind ((store.table kind).erase id)).nextId = store.nextId :=
    nextId_setTable ..
  refine sound.exchange agrees (sound.log.eraseAll _).1 (Nat.le_of_eq same_next.symm)
    (fun record mem => ?_)
    (fun other mem => .inl ((ids other).mp mem).1) (fun record mem => ?_) (fun other => ?_)
    (fun edge mem => (sound.mem_eraseAll_touching.mp mem).1) ?_
  · rw [same_next]
    exact sound.given kind record ((members record).mp mem).1
  · exact sound.named kind record ((members record).mp mem).1
  · rw [TreeMap.mem_erase, sound.credentials other, table_setTable, ne_eq, Std.compare_eq_iff_eq]
    split
    · rename_i users
      subst users
      rw [ids, and_comm, eq_comm]
      rfl
    · rename_i others
      have elsewhere : other ∈ store.users.ids → ¬ id = other := by
        rintro mem rfl
        exact others (sound.apart .user kind id mem present)
      exact ⟨And.right, fun mem => ⟨elsewhere mem, mem⟩⟩
  · rintro edge mem ⟨k, other⟩ at_end rfl
    obtain ⟨old, apart⟩ := sound.mem_eraseAll_touching.mp mem
    refine (ids other).mpr ⟨sound.stored edge old _ at_end, ?_⟩
    rintro rfl
    exact apart (Edge.touches_iff.mpr ⟨k, at_end⟩)

/-! ### Credentials and edges -/

theorem saveCredentials (sound : store.Sound model) {user : EntityId} (credentials : Credentials)
    (present : user ∈ store.users.ids) :
    ({ store with credentials := store.credentials.insert user credentials } : Store).Sound model where
  tables := sound.tables
  log := sound.log
  given := sound.given
  apart := sound.apart
  named := sound.named
  credentials id := by
    rw [TreeMap.mem_insert, Std.compare_eq_iff_eq, sound.credentials id]
    exact ⟨fun known => known.elim (· ▸ present) (·), .inr⟩
  stored := sound.stored
  shapes := sound.shapes

theorem withEdges (sound : store.Sound model) {edges : EdgeLog} (agrees : edges.Agrees)
    (fit : ∀ edge ∈ edges.toList, edge ∈ store.edges.toList ∨
      (∀ end' ∈ edge.endpoints, end'.2 ∈ (store.table end'.1).ids) ∧ edge.relation.belongsTo model) :
    ({ store with edges } : Store).Sound model where
  tables := sound.tables
  log := agrees
  given := sound.given
  apart := sound.apart
  named := sound.named
  credentials := sound.credentials
  stored edge mem := by
    rcases fit edge mem with old | ⟨stored, -⟩
    · exact sound.stored edge old
    · exact stored
  shapes edge mem := by
    rcases fit edge mem with old | ⟨-, shape⟩
    · exact sound.shapes edge old
    · exact shape

theorem requireEndpoints_ok_iff (sound : store.Sound model) :
    store.requireEndpoints edge = .ok () ↔
      ∀ end' ∈ edge.endpoints, end'.2 ∈ (store.table end'.1).ids := by
  rw [requireEndpoints, except_forM_ok_iff]
  exact forall₂_congr fun end' _ => sound.require_ok_iff

end Sound

end Store

theorem Store.attempt_bind_eq_ok {α β : Type} {store later : Store} {check : Except Error α}
    {next : α → Except Error (β × Store)} {answer : β} :
    store.attempt (check >>= next) = (.ok answer, later) ↔ ∃ a, check = .ok a ∧ next a = .ok (answer, later) :=
  attempt_eq_ok.trans except_bind_eq_ok

/-- A request that is refused leaves the store as it was. -/
theorem Store.Sound.refused {model : Model} {store later : Store} (sound : store.Sound model) {request : Request}
    {e : Error} (refused : store.answer request = (.error e, later)) : later = store := by
  by_cases renames : ∃ kind id name, request = .rename kind id name
  · obtain ⟨kind, id, name, rfl⟩ := renames
    exact sound.rename_refused refused
  · exact Store.answer_refused (fun kind id name same => renames ⟨kind, id, name, same⟩) refused

/-- Every admissible request keeps the invariant. -/
theorem Store.Sound.answer {model : Model} {store later : Store} (sound : store.Sound model)
    {request : Request} (admissible : request.Admissible model) {result : Except Error request.Answer}
    (answered : store.answer request = (result, later)) : later.Sound model := by
  rcases result with e | answer
  · exact sound.refused answered ▸ sound
  cases request with
  | findNamed kind name | find kind id | list kind =>
    cases answered
    exact sound
  | create kind name => exact sound.create admissible (attempt_eq_ok.mp answered)
  | rename kind id name => exact sound.rename admissible answered
  | delete kind id => exact sound.delete (attempt_eq_ok.mp answered)
  | loadCredentials user | edgesOf kind id =>
    obtain ⟨-, -, done⟩ := attempt_bind_eq_ok.mp answered
    cases done
    exact sound
  | saveCredentials user credentials =>
    obtain ⟨⟨⟩, present, done⟩ := attempt_bind_eq_ok.mp answered
    cases done
    exact sound.saveCredentials credentials (sound.require_ok_iff.mp present)
  | insertEdge edge =>
    obtain ⟨⟨⟩, stored, done⟩ := attempt_bind_eq_ok.mp answered
    by_cases present : edge ∈ store.edges.toList
    · rw [sound.log.insert_of_mem present] at done
      cases done
      exact sound
    · obtain ⟨edges, inserted, agrees, listed⟩ := sound.log.insert_of_new present
      rw [inserted] at done
      cases done
      refine sound.withEdges agrees fun other mem => ?_
      rw [listed, List.mem_append, List.mem_singleton] at mem
      rcases mem with old | rfl
      · exact .inl old
      · exact .inr ⟨sound.requireEndpoints_ok_iff.mp stored, admissible⟩
  | eraseEdge edge =>
    obtain ⟨⟨⟩, -, done⟩ := attempt_bind_eq_ok.mp answered
    obtain ⟨agrees, listed⟩ := sound.log.erase edge
    rcases erased : store.edges.erase edge with ⟨wasThere, edges⟩
    rw [erased] at done agrees listed
    cases done
    refine sound.withEdges agrees fun other mem => .inl ?_
    rw [listed] at mem
    exact (List.mem_filter.mp mem).1

end Entitlement
