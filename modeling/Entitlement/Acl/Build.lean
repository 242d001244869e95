import Entitlement.Loading

/-!
Building the access-control list of a user whose own neighbours are loaded. What lies further away is
loaded here; that it turns out to be unknown is then a fault of the backend.
-/

namespace Entitlement

open Entitlement.Action
open Std (TreeMap)

def requireUser (user : User) : Action Unit := do
  if (← ask (.find .user user.id)).isNone then throw (.noEntityNamed .user user.name)

abbrev LoadedRoles := TreeMap EntityId Role

def LoadedRoles.role (loaded : LoadedRoles) (id : EntityId) : Action (Role × LoadedRoles) := do
  match loaded[id]? with
  | some role => return (role, loaded)
  | none =>
    let role : Role ← whileLoading "role" (Entity.withId id)
    return (role, loaded.insert id role)

/-- Loads the users in the queue and everyone from whom they hold a delegation, nearest first. No
identity is queued twice, so as many rounds as there are users are enough. -/
def delegatorsFrom : Nat → List EntityId → List EntityId → Action (List User)
  | 0, _, _ => return []
  | _, _, [] => return []
  | rounds + 1, met, id :: queue => do
    let user : User ← whileLoading "delegator" (Entity.withId id)
    let further := user.delegators.ids.filter (! met.contains ·)
    return user :: (← delegatorsFrom rounds (met ++ further) (queue ++ further))

/-- Everyone whose roles the user may act with through delegation, nearest first, each once. -/
def delegatorsOf (user : User) : Action (List User) := do
  let first := user.delegators.ids.filter (· != user.id)
  delegatorsFrom ((← get).store.users.size + 1) (user.id :: first) first

namespace DynamicAcl

structure Draft where
  loaded : LoadedRoles := {}
  roles : Roster Role := {}
  groupRoles : GroupRoles := {}

def Draft.addRole (draft : Draft) (record : Record) : Action Draft := do
  let (role, loaded) ← draft.loaded.role record.id
  return { draft with loaded, roles := ← draft.roles.join role }

def Draft.addOwnRole (key : String) (draft : Draft) (record : Record) : Action Draft := do
  let (role, loaded) ← draft.loaded.role record.id
  let groupRoles ← draft.groupRoles.join key role
  return { loaded, groupRoles, roles := ← draft.roles.join role }

/-- Adds the roles that a group confers; `own` says that it is a group of the user. -/
def Draft.addGroup (own : Bool) (draft : Draft) (record : Record) : Action Draft := do
  let group : Group ← whileLoading "group" (Entity.withId record.id)
  group.roles.toList.foldlM (if own then addOwnRole group.key else addRole) draft

def Draft.addPrincipal (own : Bool) (draft : Draft) (principal : User) : Action Draft := do
  let draft ← principal.roles.toList.foldlM addRole draft
  principal.groups.toList.foldlM (addGroup own) draft

def build (user : User) : Action DynamicAcl := do
  requireUser user
  let delegators ← delegatorsOf user
  let draft ← Draft.addPrincipal true {} user
  let draft ← delegators.foldlM (Draft.addPrincipal false) draft
  let delegators ← Roster.ofList (delegators.map User.toRecord)
  ofRoles user.toRecord user.groups draft.roles draft.groupRoles delegators

end DynamicAcl

def BasicAcl.build (user : User) : Action BasicAcl := do
  requireUser user
  return { user := user.toRecord, groups := user.groups }

namespace TurbineAcl

def assignmentsOf : LoadedRoles → List Assignment → Action (List (Record × Role))
  | _, [] => return []
  | loaded, assignment :: rest => do
    let (role, loaded) ← loaded.role assignment.role.id
    return (assignment.group, role) :: (← assignmentsOf loaded rest)

def build (user : User) (globalGroup : String) : Action TurbineAcl := do
  requireUser user
  let assignments ← assignmentsOf {} user.joins
  ofAssignments user.toRecord assignments globalGroup

end TurbineAcl

def Acl.buildFor (model : Model) (globalGroup : String) (user : User) : Action Acl :=
  match model with
  | .basic => Acl.basic <$> BasicAcl.build user
  | .dynamic => Acl.dynamic <$> DynamicAcl.build user
  | .turbine => Acl.turbine <$> TurbineAcl.build user globalGroup

def Acl.build (user : User) : Action Acl := do
  let settings ← settings
  Acl.buildFor settings.model settings.globalGroup user

end Entitlement
