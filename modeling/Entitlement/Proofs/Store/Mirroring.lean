import Entitlement.Proofs.Store.Edges

/-!
Stores with the same tables and the same edges. Whatever the credentials in them are and however their indexes
are built, they answer every request for anything but credentials alike, and go on mirroring each other.
-/

namespace Entitlement

/-- The request neither asks for credentials nor changes any. -/
def Request.Public : Request → Prop
  | .loadCredentials _ | .saveCredentials .. => False
  | .findNamed .. | .find .. | .list _ | .create .. | .rename .. | .delete .. | .edgesOf .. | .insertEdge _ |
    .eraseEdge _ => True

namespace Roster

variable {α : Type} [Named α] {a b : Roster α}

theorem named?_congr (agrees : a.Agrees) (agrees' : b.Agrees) (same : a.toList = b.toList) (name : String) :
    a.named? name = b.named? name := by
  apply Option.ext
  intro member
  rw [agrees.named?_eq_some_iff, agrees'.named?_eq_some_iff, same]

theorem get?_congr (agrees : a.Agrees) (agrees' : b.Agrees) (same : a.toList = b.toList) (id : EntityId) :
    a.get? id = b.get? id := by
  apply Option.ext
  intro member
  rw [agrees.get?_eq_some_iff, agrees'.get?_eq_some_iff, same]

end Roster

namespace EdgeLog

variable {log other : EdgeLog}

/-- The two changes of a log give the same answer and leave the same edges. -/
def SameChange (changed changed' : Bool × EdgeLog) : Prop :=
  changed.1 = changed'.1 ∧ changed.2.toList = changed'.2.toList

theorem insert_congr (agrees : log.Agrees) (agrees' : other.Agrees) (same : log.toList = other.toList)
    (edge : Edge EntityId) : SameChange (log.insert edge) (other.insert edge) := by
  by_cases there : edge ∈ log.toList
  · rw [agrees.insert_of_mem there, agrees'.insert_of_mem (same ▸ there)]
    exact ⟨rfl, same⟩
  · obtain ⟨grown, added, -, listed⟩ := agrees.insert_of_new there
    obtain ⟨grown', added', -, listed'⟩ := agrees'.insert_of_new (same ▸ there)
    rw [added, added']
    exact ⟨rfl, by rw [listed, listed', same]⟩

theorem erase_congr (agrees : log.Agrees) (agrees' : other.Agrees) (same : log.toList = other.toList)
    (edge : Edge EntityId) : SameChange (log.erase edge) (other.erase edge) := by
  by_cases there : edge ∈ log.toList
  · obtain ⟨rest, gone, -, listed⟩ := agrees.erase_of_mem there
    obtain ⟨rest', gone', -, listed'⟩ := agrees'.erase_of_mem (same ▸ there)
    rw [gone, gone']
    exact ⟨rfl, by rw [listed, listed', same]⟩
  · rw [agrees.erase_of_absent there, agrees'.erase_of_absent (same ▸ there)]
    exact ⟨rfl, same⟩

end EdgeLog

namespace Store

/-- Two stores in order that agree in all but the credentials, and draw the same identities from now on. -/
structure Mirrors (model : Model) (left right : Store) : Prop where
  sound : left.Sound model
  sound' : right.Sound model
  tables : ∀ kind, (left.table kind).toList = (right.table kind).toList
  edges : left.edges.toList = right.edges.toList
  next : left.nextId = right.nextId

/-- Both stores refuse a request for the same reason, or their answers are related; they mirror each other after
that. -/
inductive Answered (model : Model) {α β : Type} (related : α → β → Prop) :
    Except Error α × Store → Except Error β × Store → Prop where
  | refused {left right : Store} (e : Error) (mirrors : left.Mirrors model right) :
    Answered model related (.error e, left) (.error e, right)
  | answered {a : α} {b : β} {left right : Store} (held : related a b) (mirrors : left.Mirrors model right) :
    Answered model related (.ok a, left) (.ok b, right)

/-- The edges are changed once the endpoints of one are known. -/
def changed (store : Store) (edge : Edge EntityId) (change : EdgeLog → Bool × EdgeLog) : Except Error (Bool × Store) := do
  store.requireEndpoints edge
  return ((change store.edges).1, { store with edges := (change store.edges).2 })

namespace Mirrors

variable {model : Model} {left right : Store} (mirrors : left.Mirrors model right)
include mirrors

theorem ids (kind : Kind) : (left.table kind).ids = (right.table kind).ids := by
  rw [Roster.ids, Roster.ids, mirrors.tables]

theorem keys (kind : Kind) : (left.table kind).keys = (right.table kind).keys := by
  rw [Roster.keys, Roster.keys, mirrors.tables]

theorem require (kind : Kind) (id : EntityId) : left.require kind id = right.require kind id := by
  have same : left.holds kind id = right.holds kind id := by
    rw [Bool.eq_iff_iff, mirrors.sound.holds_iff, mirrors.sound'.holds_iff, mirrors.ids]
  rw [Store.require, Store.require, same]

theorem requireEndpoints (edge : Edge EntityId) : left.requireEndpoints edge = right.requireEndpoints edge := by
  simp only [Store.requireEndpoints, mirrors.require]

theorem touching (id : EntityId) : left.edges.touching id = right.edges.touching id := by
  rw [mirrors.sound.log.touching_eq, mirrors.sound'.log.touching_eq, mirrors.edges]

theorem users_size : left.users.size = right.users.size :=
  congrArg List.length (mirrors.tables .user)

/-- Both stores get a table, edges and credentials in place of the ones they have. -/
theorem exchange {later later' : Store} (kind : Kind) {table table' : Roster Record} (sound : later.Sound model)
    (sound' : later'.Sound model) (left_tables : ∀ other, later.table other = (left.setTable kind table).table other)
    (right_tables : ∀ other, later'.table other = (right.setTable kind table').table other)
    (same : table.toList = table'.toList) (edges : later.edges.toList = later'.edges.toList)
    (next : later.nextId = later'.nextId) : later.Mirrors model later' where
  sound := sound
  sound' := sound'
  tables other := by
    rw [left_tables, right_tables, table_setTable, table_setTable]
    split
    · exact same
    · exact mirrors.tables other
  edges := edges
  next := next

theorem answer_create {kind : Kind} {name : String} (visible : Text.blank name = false) :
    Answered model Eq (left.answer (.create kind name)) (right.answer (.create kind name)) := by
  have admissible : (Request.create kind name).Admissible model := visible
  by_cases taken : nameKey name ∈ (left.table kind).keys
  · rw [Store.answer, Store.answer, mirrors.sound.create_taken taken,
      mirrors.sound'.create_taken (mirrors.keys kind ▸ taken)]
    exact .refused _ mirrors
  · obtain ⟨table, -, listed, created⟩ := mirrors.sound.create_free taken
    obtain ⟨table', -, listed', created'⟩ := mirrors.sound'.create_free (mirrors.keys kind ▸ taken)
    have sound := mirrors.sound.answer admissible (attempt_eq_ok.mpr created)
    have sound' := mirrors.sound'.answer admissible (attempt_eq_ok.mpr created')
    have same : table.toList = table'.toList := by rw [listed, listed', mirrors.tables, mirrors.next]
    rw [Store.answer, Store.answer, created, created']
    refine .answered (by rw [mirrors.next]) (mirrors.exchange kind sound sound' (fun _ => ?_) (fun _ => ?_) same ?_ ?_)
    · exact table_withGraph ..
    · exact table_withGraph ..
    · simpa using mirrors.edges
    · exact congrArg (· + 1) mirrors.next

theorem answer_rename {kind : Kind} {id : EntityId} {name : String} (visible : Text.blank name = false) :
    Answered model Eq (left.answer (.rename kind id name)) (right.answer (.rename kind id name)) := by
  have admissible : (Request.rename kind id name).Admissible model := visible
  have frees : Free left kind id name ↔ Free right kind id name := by
    rw [Free, Free, mirrors.tables]
  rw [Store.answer, Store.answer]
  by_cases free : Free left kind id name
  · by_cases present : id ∈ (left.table kind).ids
    · obtain ⟨table, -, listed, renamed⟩ := mirrors.sound.rename_free free present
      obtain ⟨table', -, listed', renamed'⟩ := mirrors.sound'.rename_free (frees.mp free) (mirrors.ids kind ▸ present)
      have sound := mirrors.sound.answer admissible renamed
      have sound' := mirrors.sound'.answer admissible renamed'
      have same : table.toList = table'.toList := by rw [listed, listed', mirrors.tables]
      rw [renamed, renamed']
      refine .answered rfl (mirrors.exchange kind sound sound' (fun _ => rfl) (fun _ => rfl) same ?_ ?_)
      · simpa using mirrors.edges
      · simpa using mirrors.next
    · rw [mirrors.sound.rename_absent free present,
        mirrors.sound'.rename_absent (frees.mp free) (mirrors.ids kind ▸ present)]
      exact .refused _ mirrors
  · have taken := free
    simp only [Free, Classical.not_forall] at taken
    obtain ⟨held, mem, key, other⟩ := taken
    rw [mirrors.sound.rename_taken mem key other, mirrors.sound'.rename_taken (mirrors.tables kind ▸ mem) key other]
    exact .refused _ mirrors

theorem answer_delete {kind : Kind} {id : EntityId} :
    Answered model Eq (left.answer (.delete kind id)) (right.answer (.delete kind id)) := by
  rw [Store.answer, Store.answer]
  by_cases present : id ∈ (left.table kind).ids
  · have deleted := mirrors.sound.delete_stored present
    have deleted' := mirrors.sound'.delete_stored (mirrors.ids kind ▸ present)
    have same : ((left.table kind).erase id).toList = ((right.table kind).erase id).toList := by
      rw [((mirrors.sound.tables kind).erase id).2, ((mirrors.sound'.tables kind).erase id).2, mirrors.tables]
    rw [deleted, deleted']
    refine .answered rfl (mirrors.exchange kind (mirrors.sound.delete deleted) (mirrors.sound'.delete deleted')
      (fun _ => table_withGraph ..) (fun _ => table_withGraph ..) same ?_ ?_)
    · rw [(mirrors.sound.log.eraseAll _).2, (mirrors.sound'.log.eraseAll _).2, mirrors.touching, mirrors.edges]
    · simpa using mirrors.next
  · rw [mirrors.sound.delete_absent present, mirrors.sound'.delete_absent (mirrors.ids kind ▸ present)]
    exact .refused _ mirrors

theorem withEdges {edges edges' : EdgeLog} (sound : ({ left with edges } : Store).Sound model)
    (sound' : ({ right with edges := edges' } : Store).Sound model) (same : edges.toList = edges'.toList) :
    ({ left with edges } : Store).Mirrors model { right with edges := edges' } where
  sound := sound
  sound' := sound'
  tables kind := by
    have tables := mirrors.tables kind
    cases kind <;> exact tables
  edges := same
  next := mirrors.next

theorem changed {edge : Edge EntityId} {change : EdgeLog → Bool × EdgeLog}
    (sound : ∀ {answer : Bool} {store : Store}, left.changed edge change = .ok (answer, store) → store.Sound model)
    (sound' : ∀ {answer : Bool} {store : Store}, right.changed edge change = .ok (answer, store) → store.Sound model)
    (same : EdgeLog.SameChange (change left.edges) (change right.edges)) :
    Answered model Eq (left.attempt (left.changed edge change)) (right.attempt (right.changed edge change)) := by
  simp only [Store.changed] at sound sound' ⊢
  rw [← mirrors.requireEndpoints] at sound' ⊢
  cases required : left.requireEndpoints edge with
  | error e => exact .refused e mirrors
  | ok done =>
    rw [required] at sound sound'
    exact .answered same.1 (mirrors.withEdges (sound rfl) (sound' rfl) same.2)

theorem answer_insertEdge {edge : Edge EntityId} (shape : edge.relation.belongsTo model) :
    Answered model Eq (left.answer (.insertEdge edge)) (right.answer (.insertEdge edge)) := by
  have admissible : (Request.insertEdge edge).Admissible model := shape
  have sound : ∀ {answer store}, left.changed edge (·.insert edge) = .ok (answer, store) → store.Sound model :=
    fun done => mirrors.sound.answer admissible (attempt_eq_ok.mpr done)
  have sound' : ∀ {answer store}, right.changed edge (·.insert edge) = .ok (answer, store) → store.Sound model :=
    fun done => mirrors.sound'.answer admissible (attempt_eq_ok.mpr done)
  exact mirrors.changed sound sound' (EdgeLog.insert_congr mirrors.sound.log mirrors.sound'.log mirrors.edges edge)

theorem answer_eraseEdge {edge : Edge EntityId} :
    Answered model Eq (left.answer (.eraseEdge edge)) (right.answer (.eraseEdge edge)) := by
  have admissible : (Request.eraseEdge edge).Admissible model := trivial
  have sound : ∀ {answer store}, left.changed edge (·.erase edge) = .ok (answer, store) → store.Sound model :=
    fun done => mirrors.sound.answer admissible (attempt_eq_ok.mpr done)
  have sound' : ∀ {answer store}, right.changed edge (·.erase edge) = .ok (answer, store) → store.Sound model :=
    fun done => mirrors.sound'.answer admissible (attempt_eq_ok.mpr done)
  exact mirrors.changed sound sound' (EdgeLog.erase_congr mirrors.sound.log mirrors.sound'.log mirrors.edges edge)

/-- What is asked of both stores is answered alike. -/
theorem answer {request : Request} (admissible : request.Admissible model) (isPublic : request.Public) :
    Answered model Eq (left.answer request) (right.answer request) := by
  cases request with
  | findNamed kind name =>
    have same := Roster.named?_congr (mirrors.sound.tables kind) (mirrors.sound'.tables kind) (mirrors.tables kind) name
    exact .answered same mirrors
  | find kind id =>
    have same := Roster.get?_congr (mirrors.sound.tables kind) (mirrors.sound'.tables kind) (mirrors.tables kind) id
    exact .answered same mirrors
  | list kind => exact .answered (mirrors.tables kind) mirrors
  | create kind name => exact mirrors.answer_create admissible
  | rename kind id name => exact mirrors.answer_rename admissible
  | delete kind id => exact mirrors.answer_delete
  | loadCredentials | saveCredentials => exact isPublic.elim
  | edgesOf kind id =>
    simp only [Store.answer]
    rw [← mirrors.require]
    cases left.require kind id with
    | error e => exact .refused e mirrors
    | ok done => exact .answered (mirrors.touching id) mirrors
  | insertEdge edge => exact mirrors.answer_insertEdge admissible
  | eraseEdge edge => exact mirrors.answer_eraseEdge

/-- Credentials are there for the same users. -/
theorem answer_loadCredentials (user : EntityId) :
    Answered model (fun _ _ => True) (left.answer (.loadCredentials user)) (right.answer (.loadCredentials user)) := by
  simp only [Store.answer]
  rw [← mirrors.require]
  cases left.require .user user with
  | error e => exact .refused e mirrors
  | ok done => exact .answered trivial mirrors

theorem answer_saveCredentials (user : EntityId) (credentials credentials' : Credentials) :
    Answered model (fun _ _ => True) (left.answer (.saveCredentials user credentials))
      (right.answer (.saveCredentials user credentials')) := by
  simp only [Store.answer]
  rw [← mirrors.require]
  cases required : left.require .user user with
  | error e => exact .refused e mirrors
  | ok done =>
    have present := mirrors.sound.require_ok_iff.mp required
    have present' := mirrors.ids .user ▸ present
    refine .answered trivial ⟨mirrors.sound.saveCredentials _ present, mirrors.sound'.saveCredentials _ present', ?_,
      mirrors.edges, mirrors.next⟩
    intro kind
    have tables := mirrors.tables kind
    cases kind <;> exact tables

end Mirrors

end Store

end Entitlement
