import Entitlement.Seed
import Entitlement.Users

/-!
Applying a seed. Nothing is written unless every grant is one that the model knows and every name in
a grant is listed or stored already. What is there already is left as it is.
-/

namespace Entitlement

open Entitlement.Action

structure SeedSummary where
  entities : Nat := 0
  grants : Nat := 0
deriving DecidableEq

namespace Seed

def lists (seed : Seed) (kind : Kind) (name : String) : Bool :=
  seed.listed.any fun (k, n) => k == kind && nameKey n == nameKey name

def checkReference (seed : Seed) (kind : Kind) (name : String) : Action Unit := do
  unless seed.lists kind name do
    if (← ask (.findNamed kind name)).isNone then throw (.noEntityNamed kind name)

def checkReferences (seed : Seed) (edges : List (Edge String)) : Action Unit :=
  edges.forM fun edge => edge.endpoints.forM fun (kind, name) => seed.checkReference kind name

/-- Adds an entity, or loads the one of that name if there is one; counts what was added. -/
def ensure (E : Type) [Entity E] (add : Action E) (count : Nat) (name : String) : Action Nat := do
  if ← Entity.existsNamed E name then
    discard <| (Entity.named name : Action E)
    return count
  else
    discard add
    return count + 1

def addEntities (seed : Seed) : Action Nat := do
  let count ← seed.users.foldlM (fun count user =>
    ensure User (User.addWithPassword user.name user.password) count user.name) 0
  let count ← seed.groups.foldlM (fun count name => ensure Group (Entity.add name) count name) count
  let count ← seed.roles.foldlM (fun count name => ensure Role (Entity.add name) count name) count
  seed.permissions.foldlM (fun count name => ensure Permission (Entity.add name) count name) count

def endpointRecord : Kind → String → Action Record
  | .user, name => do return (← (Entity.named name : Action User)).toRecord
  | .group, name => do return (← (Entity.named name : Action Group)).toRecord
  | .role, name => do return (← (Entity.named name : Action Role)).toRecord
  | .permission, name => do return (← (Entity.named name : Action Permission)).toRecord

/-- The edge between the entities that a grant names. Under Turbine a role granted to a user as such
is granted within the global group. -/
def resolve (model : Model) (edge : Edge String) : Action (Edge Record) := do
  match model, edge with
  | .turbine, .userRole user role =>
    let group ← globalGroup
    let user ← endpointRecord .user user
    return .userGroupRole user group (← endpointRecord .role role)
  | _, edge => edge.resolve endpointRecord

/-- Grants one edge after the other and counts the new ones. -/
def addGrants (model : Model) (edges : List (Edge String)) : Action Nat :=
  edges.foldlM (fun count edge => do
    checkModel model edge
    return if ← grant (← resolve model edge) then count + 1 else count) 0

def apply (seed : Seed) : Action SeedSummary := do
  let model := (← settings).model
  seed.validateFor model
  let edges ← seed.edges
  seed.checkReferences edges
  let entities ← seed.addEntities
  let grants ← addGrants model edges
  return { entities, grants }

end Seed

end Entitlement
