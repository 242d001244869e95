import Entitlement.Loading

/-!
Granting and revoking edges. Every endpoint has to be stored, and the first that is not ends the
action before anything is written. To grant an edge that is there and to revoke one that is not
changes nothing.
-/

namespace Entitlement

open Entitlement.Action

def requireModel (model : Model) : Action Unit := do
  let active := (← settings).model
  if active ≠ model then throw (.wrongModel model active)

def requireStored (kind : Kind) (record : Record) : Action Unit := do
  if (← ask (.find kind record.id)).isNone then throw (.noEntityNamed kind record.name)

def requireEndpoints (edge : Edge Record) : Action Unit :=
  edge.endpoints.forM fun (kind, record) => requireStored kind record

def grant (edge : Edge Record) : Action Bool := do
  requireEndpoints edge
  let isNew ← ask (.insertEdge edge.ids)
  report (.granted (← settings).model edge.relation edge.subject isNew)
  return isNew

def revoke (edge : Edge Record) : Action Bool := do
  requireEndpoints edge
  let wasThere ← ask (.eraseEdge edge.ids)
  report (.revoked (← settings).model edge.relation edge.subject wasThere)
  return wasThere

def withdraw (edge : Edge Record) : Action Unit := do
  unless ← revoke edge do throw (.noGrant edge.relation edge.subject)

/-- Takes out the edges that the model grants among the given ones, and counts them. -/
def eraseGrants (model : Model) (edges : List (Edge EntityId)) : Action Nat :=
  edges.foldlM (fun count edge => do
    if edge.relation.belongsTo model then
      return if ← ask (.eraseEdge edge) then count + 1 else count
    else return count) 0

/-- Takes out every edge of an entity that the model grants, and counts them. -/
def revokeAll (entity : Endpoint) : Action Nat := do
  requireStored entity.kind entity.toRecord
  let edges ← ask (.edgesOf entity.kind entity.id)
  let model := (← settings).model
  let count ← eraseGrants model edges
  report (.allRevoked model entity.kind entity.name count)
  return count

/-- The global group, which is created when it is first asked for. -/
def globalGroup : Action Record := do
  let name := (← settings).globalGroup
  checkName name
  match ← ask (.findNamed .group name) with
  | some record => return record
  | none =>
    let record ← ask (.create .group name)
    report (.entity .created .group record.name)
    return record

/-- Puts the new role of a user in the place of the old one within the global group. If the new role
cannot be written, the old one is put back. -/
def replaceRole (user old new : Record) : Action Unit := do
  let group ← globalGroup
  let before : Edge Record := .userGroupRole user group old
  let after : Edge Record := .userGroupRole user group new
  requireEndpoints before
  requireStored .role new
  let wasThere ← ask (.eraseEdge before.ids)
  let isNew ← tryCatch (ask (.insertEdge after.ids)) fun e => do
    if wasThere then discard <| ask (.insertEdge before.ids)
    throw e
  report (.revoked .turbine .userGroupRole before.subject wasThere)
  report (.granted .turbine .userGroupRole after.subject isNew)

end Entitlement
