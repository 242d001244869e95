import Entitlement.Identity
import Entitlement.Vocabulary

/-!
Edges of the authorization graph. An edge is written over whatever stands for its endpoints: names in
a seed, records in a grant, identities in the store. Its relation fixes the kind of each endpoint.
-/

namespace Entitlement

inductive Edge (ν : Type) where
  | userGroup (user group : ν)
  | userRole (user role : ν)
  | groupRole (group role : ν)
  | rolePermission (role permission : ν)
  | userGroupRole (user group role : ν)
  /-- The delegatee may act with the roles of the delegator. -/
  | delegation (delegator delegatee : ν)
deriving DecidableEq

inductive Relation where
  | userGroup | userRole | groupRole | rolePermission | userGroupRole | delegation
deriving DecidableEq

namespace Relation

def label : Relation → String
  | .userGroup => "user_group"
  | .userRole => "user_role"
  | .groupRole => "group_role"
  | .rolePermission => "role_permission"
  | .userGroupRole => "user_group_role"
  | .delegation => "delegation"

/-- The label as it is read out, with hyphens. -/
def phrase : Relation → String
  | .userGroup => "user-group"
  | .userRole => "user-role"
  | .groupRole => "group-role"
  | .rolePermission => "role-permission"
  | .userGroupRole => "user-group-role"
  | .delegation => "delegation"

def belongsTo : Relation → Model → Bool
  | relation, .basic => relation == .userGroup
  | relation, .dynamic => relation != .userGroupRole
  | relation, .turbine => relation == .userGroupRole || relation == .rolePermission

end Relation

namespace Edge

variable {ν μ : Type}

def relation : Edge ν → Relation
  | userGroup _ _ => .userGroup
  | userRole _ _ => .userRole
  | groupRole _ _ => .groupRole
  | rolePermission _ _ => .rolePermission
  | userGroupRole _ _ _ => .userGroupRole
  | delegation _ _ => .delegation

def label (edge : Edge ν) : String := edge.relation.label

/-- The endpoints with their kinds, in the order in which they are named and checked. -/
def endpoints : Edge ν → List (Kind × ν)
  | userGroup user group => [(.user, user), (.group, group)]
  | userRole user role => [(.user, user), (.role, role)]
  | groupRole group role => [(.group, group), (.role, role)]
  | rolePermission role permission => [(.role, role), (.permission, permission)]
  | userGroupRole user group role => [(.user, user), (.group, group), (.role, role)]
  | delegation delegator delegatee => [(.user, delegator), (.user, delegatee)]

def map (f : ν → μ) : Edge ν → Edge μ
  | userGroup user group => .userGroup (f user) (f group)
  | userRole user role => .userRole (f user) (f role)
  | groupRole group role => .groupRole (f group) (f role)
  | rolePermission role permission => .rolePermission (f role) (f permission)
  | userGroupRole user group role => .userGroupRole (f user) (f group) (f role)
  | delegation delegator delegatee => .delegation (f delegator) (f delegatee)

/-- Replaces each endpoint by what `f` finds for it, in the order of `endpoints`. -/
def resolve {m : Type → Type} [Monad m] (f : Kind → ν → m μ) : Edge ν → m (Edge μ)
  | userGroup user group => do
    let u ← f .user user
    return .userGroup u (← f .group group)
  | userRole user role => do
    let u ← f .user user
    return .userRole u (← f .role role)
  | groupRole group role => do
    let g ← f .group group
    return .groupRole g (← f .role role)
  | rolePermission role permission => do
    let r ← f .role role
    return .rolePermission r (← f .permission permission)
  | userGroupRole user group role => do
    let u ← f .user user
    let g ← f .group group
    return .userGroupRole u g (← f .role role)
  | delegation delegator delegatee => do
    let d ← f .user delegator
    return .delegation d (← f .user delegatee)

def touches [BEq ν] (edge : Edge ν) (id : ν) : Bool := edge.endpoints.any (·.2 == id)

@[simp] theorem map_relation (f : ν → μ) (edge : Edge ν) : (edge.map f).relation = edge.relation := by
  cases edge <;> rfl

theorem endpoints_map (f : ν → μ) (edge : Edge ν) :
    (edge.map f).endpoints = edge.endpoints.map (Prod.map id f) := by
  cases edge <;> rfl

/-- The relation and the endpoints as a list of numbers; different edges have different codes. -/
def code : Edge EntityId → List Nat
  | userGroup user group => [0, user.number, group.number]
  | userRole user role => [1, user.number, role.number]
  | groupRole group role => [2, group.number, role.number]
  | rolePermission role permission => [3, role.number, permission.number]
  | userGroupRole user group role => [4, user.number, group.number, role.number]
  | delegation delegator delegatee => [5, delegator.number, delegatee.number]

theorem code_injective {a b : Edge EntityId} (h : a.code = b.code) : a = b := by
  cases a <;> cases b <;> simp_all [code, EntityId.ext_iff]

instance : Ord (Edge EntityId) := ⟨fun a b => compare a.code b.code⟩

instance : Std.TransOrd (Edge EntityId) := inferInstanceAs (Std.TransCmp (compareOn code))

instance : Std.LawfulEqOrd (Edge EntityId) where
  compare_self := (inferInstance : Std.ReflCmp (compare : List Nat → List Nat → Ordering)).compare_self
  eq_of_compare h :=
    code_injective ((inferInstance : Std.LawfulEqCmp (compare : List Nat → List Nat → Ordering)).eq_of_compare h)

def text (edge : Edge EntityId) : String :=
  let endpoints := edge.endpoints.map fun (kind, id) => kind.text ++ ":" ++ id.text
  edge.label ++ "(" ++ String.intercalate ", " endpoints ++ ")"

end Edge

end Entitlement
