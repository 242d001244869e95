import Entitlement.Action

/-!
Loading entities: a record from the store together with its neighbours, found along the edges that
touch it and named as they are named now.
-/

namespace Entitlement

open Entitlement.Action

def loadEnd (kind : Kind) (id : EntityId) : Action Record := do
  match ← ask (.find kind id) with
  | some record => return record
  | none => throw (.danglingEdge kind id)

def attach (kind : Kind) (id : EntityId) (neighbours : Roster Record) : Action (Roster Record) := do
  neighbours.join (← loadEnd kind id)

def loadAssignment (user group role : EntityId) : Action Assignment := do
  let user ← loadEnd .user user
  let group ← loadEnd .group group
  let role ← loadEnd .role role
  return { user, group, role }

namespace User

/-- The user with the neighbour that an edge leads to. An edge from a user to itself makes the user
its own delegator. -/
def along (user : User) : Edge EntityId → Action User
  | .userGroup _ group => return { user with groups := ← attach .group group user.groups }
  | .userRole _ role => return { user with roles := ← attach .role role user.roles }
  | .userGroupRole u group role =>
    return { user with joins := user.joins ++ [← loadAssignment u group role] }
  | .delegation delegator delegatee =>
    if delegatee = user.id then return { user with delegators := ← attach .user delegator user.delegators }
    else return { user with delegatees := ← attach .user delegatee user.delegatees }
  | .groupRole .. | .rolePermission .. => return user

def load (record : Record) : Action User := do
  let credentials ← ask (.loadCredentials record.id)
  let user : User :=
    { record with password := credentials.password, lastLogin := credentials.lastLogin }
  let edges ← ask (.edgesOf .user record.id)
  edges.foldlM along user

end User

namespace Group

def along (group : Group) : Edge EntityId → Action Group
  | .userGroup user _ => return { group with users := ← attach .user user group.users }
  | .groupRole _ role => return { group with roles := ← attach .role role group.roles }
  | .userGroupRole user g role =>
    return { group with joins := group.joins ++ [← loadAssignment user g role] }
  | .userRole .. | .rolePermission .. | .delegation .. => return group

def load (record : Record) : Action Group := do
  let edges ← ask (.edgesOf .group record.id)
  edges.foldlM along { record with }

end Group

namespace Role

def along (role : Role) : Edge EntityId → Action Role
  | .rolePermission _ permission =>
    return { role with permissions := ← attach .permission permission role.permissions }
  | .groupRole group _ => return { role with groups := ← attach .group group role.groups }
  | .userRole user _ => return { role with users := ← attach .user user role.users }
  | .userGroupRole user group r =>
    return { role with joins := role.joins ++ [← loadAssignment user group r] }
  | .userGroup .. | .delegation .. => return role

def load (record : Record) : Action Role := do
  let edges ← ask (.edgesOf .role record.id)
  edges.foldlM along { record with }

end Role

namespace Permission

def along (permission : Permission) : Edge EntityId → Action Permission
  | .rolePermission role _ => return { permission with roles := ← attach .role role permission.roles }
  | .userGroup .. | .userRole .. | .groupRole .. | .userGroupRole .. | .delegation .. => return permission

def load (record : Record) : Action Permission := do
  let edges ← ask (.edgesOf .permission record.id)
  edges.foldlM along { record with }

end Permission

/-- The four types of entity. -/
class Entity (E : Type) extends Named E where
  kind : Kind
  ofRecord : Record → E
  load : Record → Action E

instance : Entity User := ⟨.user, fun record => { record with }, User.load⟩

instance : Entity Group := ⟨.group, fun record => { record with }, Group.load⟩

instance : Entity Role := ⟨.role, fun record => { record with }, Role.load⟩

instance : Entity Permission := ⟨.permission, fun record => { record with }, Permission.load⟩

namespace Entity

variable {E : Type} [Entity E]

def id (entity : E) : EntityId := (Named.record entity).id

def name (entity : E) : String := (Named.record entity).name

def endpoint (entity : E) : Endpoint := { Named.record entity with kind := kind E }

def named (name : String) : Action E := do
  match ← ask (.findNamed (kind E) name) with
  | some record => load record
  | none => throw (.noEntityNamed (kind E) name)

def withId (id : EntityId) : Action E := do
  match ← ask (.find (kind E) id) with
  | some record => load record
  | none => throw (.noEntityWithId (kind E) id)

variable (E) in
/-- Loads every entity of the type, in the order of its table. -/
def all : Action (Roster E) := do
  let records ← ask (.list (kind E))
  records.foldlM (fun entities record => do entities.join (← load record)) {}

end Entity

end Entitlement
