import Entitlement.Entity

/-!
Access-control lists. A list is what one user may do, as derived from the graph at one moment; later
grants do not reach it. It answers questions about names, and names are compared by their key.

Without a group a question is about the user as such. With a group it is about the user within that
group, and then the group needs a name.
-/

namespace Entitlement

open Std (TreeMap)

/-- Every permission that one of the roles owns, each once. -/
def permissionsOf (roles : Roster Role) : Except Error (Roster Record) :=
  roles.toList.foldlM (fun permissions role => permissions.joinAll role.permissions.toList) {}

/-- Sets of roles by the key of a group. -/
abbrev GroupRoles := TreeMap String (Roster Role)

def GroupRoles.join (groups : GroupRoles) (key : String) (role : Role) : Except Error GroupRoles := do
  return groups.insert key (← (groups.getD key {}).join role)

/-- Membership alone: a permission is a group of that name. -/
structure BasicAcl where
  user : Record
  groups : Roster Record

/-- Roles held directly, through groups and from delegators, with their permissions. -/
structure DynamicAcl where
  user : Record
  groups : Roster Record
  roles : Roster Role
  permissions : Roster Record
  /-- The roles that each of the user's own groups confers. -/
  groupRoles : GroupRoles
  /-- The users whose roles are among these. -/
  delegators : Roster Record

/-- Roles held within groups, with their permissions. -/
structure TurbineAcl where
  user : Record
  globalGroup : String
  groups : Roster Record
  roles : Roster Role
  permissions : Roster Record
  groupRoles : GroupRoles
  groupPermissions : TreeMap String (Roster Record)

inductive Acl where
  | basic (acl : BasicAcl)
  | dynamic (acl : DynamicAcl)
  | turbine (acl : TurbineAcl)

/-- The list of a user who holds these roles; the roles come with their permissions. -/
def DynamicAcl.ofRoles (user : Record) (groups : Roster Record) (roles : Roster Role)
    (groupRoles : GroupRoles) (delegators : Roster Record) : Except Error DynamicAcl := do
  return { user, groups, roles, permissions := ← permissionsOf roles, groupRoles, delegators }

namespace TurbineAcl

def assign (acl : TurbineAcl) (group : Record) (role : Role) : Except Error TurbineAcl := do
  let groupRoles ← acl.groupRoles.join group.key role
  let roles ← acl.roles.join role
  let groups ← acl.groups.join group
  return { acl with groupRoles, roles, groups }

/-- The list of a user who holds each role within its group; the roles come with their permissions. -/
def ofAssignments (user : Record) (assignments : List (Record × Role)) (globalGroup : String) :
    Except Error TurbineAcl := do
  let bare : TurbineAcl :=
    { user, globalGroup, groups := {}, roles := {}, permissions := {}, groupRoles := {}, groupPermissions := {} }
  let acl ← assignments.foldlM (fun acl (group, role) => acl.assign group role) bare
  let groupPermissions ← acl.groupRoles.toList.foldlM (fun byGroup (key, roles) => do
    return byGroup.insert key (← permissionsOf roles)) {}
  return { acl with groupPermissions, permissions := ← permissionsOf acl.roles }

def scopedRoles (acl : TurbineAcl) (group : String) : Roster Role := acl.groupRoles.getD (nameKey group) {}

def scopedPermissions (acl : TurbineAcl) (group : String) : Roster Record :=
  acl.groupPermissions.getD (nameKey group) {}

def globalRoles (acl : TurbineAcl) : Roster Role := acl.scopedRoles acl.globalGroup

def globalPermissions (acl : TurbineAcl) : Roster Record := acl.scopedPermissions acl.globalGroup

def hasGlobalRole (acl : TurbineAcl) (role : String) : Bool := acl.globalRoles.containsName role

def hasGlobalPermission (acl : TurbineAcl) (permission : String) : Bool :=
  acl.globalPermissions.containsName permission

end TurbineAcl

def DynamicAcl.scopedRoles (acl : DynamicAcl) (group : String) : Roster Role :=
  acl.groupRoles.getD (nameKey group) {}

def requireGroup (group : String) : Except Error Unit :=
  if Text.blank group then .error .groupRequired else .ok ()

/-- Whether the answer is yes for one of the groups. The first yes ends the search, and so does the
first error. -/
def inSome (ask : String → Except Error Bool) : List String → Except Error Bool
  | [] => .ok false
  | group :: rest => do
    if ← ask group then return true else inSome ask rest

namespace Acl

def model : Acl → Model
  | basic _ => .basic
  | dynamic _ => .dynamic
  | turbine _ => .turbine

def user : Acl → Record
  | basic acl => acl.user
  | dynamic acl => acl.user
  | turbine acl => acl.user

def groups : Acl → Roster Record
  | basic acl => acl.groups
  | dynamic acl => acl.groups
  | turbine acl => acl.groups

def isInGroup (acl : Acl) (group : String) : Bool := acl.groups.containsName group

def roles : Acl → Except Error (Roster Role)
  | basic _ => .error (.unsupportedQuery "roles")
  | dynamic acl => .ok acl.roles
  | turbine acl => .ok acl.roles

def rolesIn : Acl → String → Except Error (Roster Role)
  | basic _, _ => .error (.unsupportedQuery "roles_in")
  | dynamic acl, group => do
    requireGroup group
    return acl.scopedRoles group
  | turbine acl, group => do
    requireGroup group
    return acl.scopedRoles group

def permissions : Acl → Except Error (Roster Record)
  | basic _ => .error (.unsupportedQuery "permissions")
  | dynamic acl => .ok acl.permissions
  | turbine acl => .ok acl.permissions

def permissionsIn : Acl → String → Except Error (Roster Record)
  | basic _, _ => .error (.unsupportedQuery "permissions_in")
  | dynamic acl, group => do
    requireGroup group
    permissionsOf (acl.scopedRoles group)
  | turbine acl, group => do
    requireGroup group
    return acl.scopedPermissions group

def hasRole : Acl → String → Except Error Bool
  | basic _, _ => .error (.unsupportedQuery "has_role")
  | dynamic acl, role => .ok (acl.roles.containsName role)
  | turbine acl, role => .ok (acl.roles.containsName role)

def hasRoleIn (acl : Acl) (role group : String) : Except Error Bool :=
  match acl with
  | basic _ => .error (.unsupportedQuery "has_role_in")
  | dynamic _ | turbine _ => (·.containsName role) <$> acl.rolesIn group

def hasPermission : Acl → String → Except Error Bool
  | basic acl, permission => .ok (acl.groups.containsName permission)
  | dynamic acl, permission => .ok (acl.permissions.containsName permission)
  | turbine acl, permission => .ok (acl.permissions.containsName permission)

def hasPermissionIn (acl : Acl) (permission group : String) : Except Error Bool :=
  match acl with
  | basic _ => .error (.unsupportedQuery "has_permission_in")
  | dynamic _ | turbine _ => (·.containsName permission) <$> acl.permissionsIn group

def hasRoleInAny (acl : Acl) (role : String) (groups : List String) : Except Error Bool :=
  inSome (acl.hasRoleIn role) groups

def hasPermissionInAny (acl : Acl) (permission : String) (groups : List String) : Except Error Bool :=
  inSome (acl.hasPermissionIn permission) groups

end Acl

end Entitlement
