import Entitlement.EdgeLog
import Entitlement.Entity

/-!
The store: a table of records for each kind of entity, the credentials of the users and the edges.
What is asked of it is a request, which has a result and leaves a store, whether it succeeds or fails.
-/

namespace Entitlement

open Std (TreeMap)

structure Credentials where
  password : Option String := none
  lastLogin : Option Moment := none
deriving DecidableEq

instance : Inhabited Credentials := ⟨{}⟩

structure Store where
  users : Roster Record := {}
  groups : Roster Record := {}
  roles : Roster Record := {}
  permissions : Roster Record := {}
  credentials : TreeMap EntityId Credentials := {}
  edges : EdgeLog := {}
  /-- The number of the next identity. -/
  nextId : Nat := 0

namespace Store

def table (store : Store) : Kind → Roster Record
  | .user => store.users
  | .group => store.groups
  | .role => store.roles
  | .permission => store.permissions

def setTable (store : Store) (kind : Kind) (table : Roster Record) : Store :=
  match kind with
  | .user => { store with users := table }
  | .group => { store with groups := table }
  | .role => { store with roles := table }
  | .permission => { store with permissions := table }

theorem table_setTable (store : Store) (kind other : Kind) (table : Roster Record) :
    (store.setTable kind table).table other = if other = kind then table else store.table other := by
  cases kind <;> cases other <;> rfl

@[simp]
theorem edges_setTable (store : Store) (kind : Kind) (table : Roster Record) :
    (store.setTable kind table).edges = store.edges := by
  cases kind <;> rfl

@[simp]
theorem credentials_setTable (store : Store) (kind : Kind) (table : Roster Record) :
    (store.setTable kind table).credentials = store.credentials := by
  cases kind <;> rfl

@[simp]
theorem nextId_setTable (store : Store) (kind : Kind) (table : Roster Record) :
    (store.setTable kind table).nextId = store.nextId := by
  cases kind <;> rfl

def holds (store : Store) (kind : Kind) (id : EntityId) : Bool := (store.table kind).contains id

def require (store : Store) (kind : Kind) (id : EntityId) : Except Error Unit :=
  if store.holds kind id then .ok () else .error (.noEntityWithId kind id)

def requireEndpoints (store : Store) (edge : Edge EntityId) : Except Error Unit :=
  edge.endpoints.forM fun (kind, id) => store.require kind id

/-- A new entity, last of its table. A new user has empty credentials. -/
def create (store : Store) (kind : Kind) (name : String) : Except Error (Record × Store) :=
  let record : Record := ⟨⟨store.nextId⟩, name⟩
  match (store.table kind).join record with
  | .error _ => .error (.nameTaken kind name)
  | .ok table =>
    let credentials :=
      if kind = .user then store.credentials.insert record.id {} else store.credentials
    .ok (record, { store.setTable kind table with credentials, nextId := store.nextId + 1 })

/-- Gives an entity a new name: it is taken out of its table and put back at the end. The table is changed
in place, so that an entity which could not be put back would be gone. -/
def rename (store : Store) (kind : Kind) (id : EntityId) (name : String) : Except Error Record × Store :=
  let table := store.table kind
  if (table.named? name).any fun held => held.id ≠ id then (.error (.nameTaken kind name), store)
  else
    match store.require kind id with
    | .error e => (.error e, store)
    | .ok () =>
      let record : Record := ⟨id, name⟩
      let rest := table.erase id
      match rest.join record with
      | .error e => (.error e, store.setTable kind rest)
      | .ok table => (.ok record, store.setTable kind table)

/-- Takes an entity out, with its credentials and every edge that touches it. -/
def delete (store : Store) (kind : Kind) (id : EntityId) : Except Error (Unit × Store) := do
  store.require kind id
  let table := (store.table kind).erase id
  return ((), { store.setTable kind table with
    edges := store.edges.eraseAll (store.edges.touching id)
    credentials := store.credentials.erase id })

/-- An attempt whose checks all come before its changes: if it is refused, the store is as it was. -/
def attempt {α : Type} (store : Store) : Except Error (α × Store) → Except Error α × Store
  | .ok (answer, later) => (.ok answer, later)
  | .error e => (.error e, store)

section Attempt

variable {α : Type} {store later : Store} {result : Except Error (α × Store)}

theorem attempt_eq_ok {answer : α} : store.attempt result = (.ok answer, later) ↔ result = .ok (answer, later) := by
  rcases result with e | ⟨answer', later'⟩ <;> simp [attempt]

theorem attempt_eq_error {e : Error} :
    store.attempt result = (.error e, later) ↔ result = .error e ∧ later = store := by
  rcases result with e' | ⟨answer', later'⟩ <;> simp [attempt, eq_comm]

end Attempt

end Store

inductive Request where
  | findNamed (kind : Kind) (name : String)
  | find (kind : Kind) (id : EntityId)
  | list (kind : Kind)
  | create (kind : Kind) (name : String)
  | rename (kind : Kind) (id : EntityId) (name : String)
  | delete (kind : Kind) (id : EntityId)
  | loadCredentials (user : EntityId)
  | saveCredentials (user : EntityId) (credentials : Credentials)
  /-- The edges that touch an entity, in the order of their grants. -/
  | edgesOf (kind : Kind) (id : EntityId)
  | insertEdge (edge : Edge EntityId)
  | eraseEdge (edge : Edge EntityId)

namespace Request

abbrev Answer : Request → Type
  | findNamed .. | find .. => Option Record
  | list _ => List Record
  | create .. | rename .. => Record
  | delete .. | saveCredentials .. => Unit
  | loadCredentials _ => Credentials
  | edgesOf .. => List (Edge EntityId)
  | insertEdge _ | eraseEdge _ => Bool

/-- The entities a request is about, as far as it names any that are stored. -/
def endpoints (store : Store) : Request → List (Kind × Option EntityId)
  | findNamed kind name => [(kind, ((store.table kind).named? name).map Record.id)]
  | find kind id | rename kind id _ | delete kind id | edgesOf kind id => [(kind, some id)]
  | list kind | create kind _ => [(kind, none)]
  | loadCredentials user | saveCredentials user _ => [(.user, some user)]
  | insertEdge edge | eraseEdge edge => edge.endpoints.map fun (kind, id) => (kind, some id)

/-- The answer of a search that finds nothing; only searches have one. -/
def nothing? : (request : Request) → Option request.Answer
  | findNamed .. | find .. => some none
  | list _ | create .. | rename .. | delete .. | loadCredentials _ | saveCredentials .. | edgesOf .. |
    insertEdge _ | eraseEdge _ => none

end Request

/-- The answer to a request, and the store after it. -/
def Store.answer (store : Store) : (request : Request) → Except Error request.Answer × Store
  | .findNamed kind name => (.ok ((store.table kind).named? name), store)
  | .find kind id => (.ok ((store.table kind).get? id), store)
  | .list kind => (.ok (store.table kind).toList, store)
  | .create kind name => store.attempt (store.create kind name)
  | .rename kind id name => store.rename kind id name
  | .delete kind id => store.attempt (store.delete kind id)
  | .loadCredentials user => store.attempt do
    store.require .user user
    return (store.credentials.getD user {}, store)
  | .saveCredentials user credentials => store.attempt do
    store.require .user user
    return ((), { store with credentials := store.credentials.insert user credentials })
  | .edgesOf kind id => store.attempt do
    store.require kind id
    return (store.edges.touching id, store)
  | .insertEdge edge => store.attempt do
    store.requireEndpoints edge
    let (isNew, edges) := store.edges.insert edge
    return (isNew, { store with edges })
  | .eraseEdge edge => store.attempt do
    store.requireEndpoints edge
    let (wasThere, edges) := store.edges.erase edge
    return (wasThere, { store with edges })

end Entitlement
