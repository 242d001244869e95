import Entitlement.Json
import Entitlement.Moment
import Entitlement.Roster

/-!
Entities with their neighbourhood: the records next to them in the graph, by the part they play, each
in the order of the grants. An entity is a value of its own; later grants do not change it.
-/

namespace Entitlement

structure User extends Record where
  password : Option String := none
  lastLogin : Option Moment := none
  groups : Roster Record := {}
  roles : Roster Record := {}
  /-- The users whose roles this user may act with. -/
  delegators : Roster Record := {}
  /-- The users who may act with the roles of this user. -/
  delegatees : Roster Record := {}
  joins : List Assignment := []

structure Group extends Record where
  users : Roster Record := {}
  roles : Roster Record := {}
  joins : List Assignment := []

structure Role extends Record where
  permissions : Roster Record := {}
  groups : Roster Record := {}
  users : Roster Record := {}
  joins : List Assignment := []

structure Permission extends Record where
  roles : Roster Record := {}

instance : Named User := ⟨User.toRecord⟩

instance : Named Group := ⟨Group.toRecord⟩

instance : Named Role := ⟨Role.toRecord⟩

instance : Named Permission := ⟨Permission.toRecord⟩

def Record.json (record : Record) : List (String × Json) :=
  [("id", .text record.id.text), ("name", .text record.name)]

/-- The part of an entity's JSON that is there even if the entity has no neighbours. -/
def Record.jsonAs (record : Record) : Kind → List (String × Json)
  | .user => record.json ++ [("last_login", .null)]
  | .role => record.json ++ [("permissions", .list [])]
  | .group | .permission => record.json

/-- A field for the neighbours of one kind, left out if there are none. -/
def Roster.field (name : String) (kind : Kind) (roster : Roster Record) : List (String × Json) :=
  if roster.isEmpty then []
  else [(name, .list (roster.toList.map fun member => .object (member.jsonAs kind)))]

def Assignment.json (a : Assignment) : Json :=
  .object [("user", .object a.user.json), ("group", .object a.group.json), ("role", .object a.role.json)]

def joinsField (joins : List Assignment) : List (String × Json) :=
  if joins.isEmpty then [] else [("user_group_roles", .list (joins.map Assignment.json))]

/-- The JSON of a user. The password is never part of it. -/
def User.json (user : User) : Json :=
  .object <| user.toRecord.json ++ [("last_login", .ofOption (fun moment => .text moment.text) user.lastLogin)]
    ++ user.groups.field "groups" .group ++ user.roles.field "roles" .role
    ++ user.delegators.field "delegators" .user ++ user.delegatees.field "delegatees" .user
    ++ joinsField user.joins

def Group.json (group : Group) : Json :=
  .object <| group.toRecord.json ++ group.users.field "users" .user ++ group.roles.field "roles" .role
    ++ joinsField group.joins

def Role.json (role : Role) : Json :=
  let permissions := role.permissions.toList.map fun member => .object (member.jsonAs .permission)
  .object <| role.toRecord.json ++ [("permissions", .list permissions)]
    ++ role.groups.field "groups" .group ++ role.users.field "users" .user ++ joinsField role.joins

def Permission.json (permission : Permission) : Json :=
  .object <| permission.toRecord.json ++ permission.roles.field "roles" .role

end Entitlement
