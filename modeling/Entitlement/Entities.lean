import Entitlement.Grants

/-!
The life of an entity: it is added under a free name, may be given another one, and is removed after
all its grants.
-/

namespace Entitlement.Entity

open Entitlement.Action

variable {E : Type} [Entity E]

variable (E) in
def existsNamed (name : String) : Action Bool := do
  return (← ask (.findNamed (kind E) name)).isSome

variable (E) in
def existsId (id : EntityId) : Action Bool := do
  return (← ask (.find (kind E) id)).isSome

def add (name : String) : Action E := do
  checkName name
  if ← existsNamed E name then throw (.nameTaken (kind E) name)
  let record ← ask (.create (kind E) name)
  report (.entity .created (kind E) name)
  load record

/-- Gives an entity a new name; the old one becomes free. -/
def rename (entity : E) (name : String) : Action E := do
  checkName name
  let record ← ask (.rename (kind E) (id entity) name)
  report (.entity .renamed (kind E) name)
  load record

/-- Revokes every grant of an entity, then deletes it. The answer is the number of grants. -/
def remove (entity : E) : Action Nat := do
  let count ← revokeAll (endpoint entity)
  ask (.delete (kind E) (id entity))
  report (.entity .removed (kind E) (Entity.name entity))
  return count

end Entitlement.Entity
