import Mathlib.Data.List.Basic
import Entitlement.Edge

/-!
The entities at the other ends of edges. A side is one entity in one of the parts that it plays in
edges; what the edges of a side lead to is a list in the order of the edges.
-/

namespace Entitlement

/-- An entity and a relation, with the other end of the edge left open. -/
inductive Side where
  | groupsOfUser (user : EntityId)
  | rolesOfUser (user : EntityId)
  | delegatorsOf (delegatee : EntityId)
  | delegateesOf (delegator : EntityId)
  | usersOfGroup (group : EntityId)
  | rolesOfGroup (group : EntityId)
  | permissionsOfRole (role : EntityId)
  | groupsOfRole (role : EntityId)
  | usersOfRole (role : EntityId)
  | rolesOfPermission (permission : EntityId)

namespace Side

/-- The edge with the given other end. -/
def edge : Side → EntityId → Edge EntityId
  | groupsOfUser user, group => .userGroup user group
  | rolesOfUser user, role => .userRole user role
  | delegatorsOf delegatee, delegator => .delegation delegator delegatee
  | delegateesOf delegator, delegatee => .delegation delegator delegatee
  | usersOfGroup group, user => .userGroup user group
  | rolesOfGroup group, role => .groupRole group role
  | permissionsOfRole role, permission => .rolePermission role permission
  | groupsOfRole role, group => .groupRole group role
  | usersOfRole role, user => .userRole user role
  | rolesOfPermission permission, role => .rolePermission role permission

/-- The entity whose side it is, with its kind. -/
def near : Side → Kind × EntityId
  | groupsOfUser id | rolesOfUser id | delegatorsOf id | delegateesOf id => (.user, id)
  | usersOfGroup id | rolesOfGroup id => (.group, id)
  | permissionsOfRole id | groupsOfRole id | usersOfRole id => (.role, id)
  | rolesOfPermission id => (.permission, id)

/-- The kind of the other ends. -/
def far : Side → Kind
  | delegatorsOf _ | delegateesOf _ | usersOfGroup _ | usersOfRole _ => .user
  | groupsOfUser _ | groupsOfRole _ => .group
  | rolesOfUser _ | rolesOfGroup _ | rolesOfPermission _ => .role
  | permissionsOfRole _ => .permission

/-- The relation whose edges the side looks at. -/
def relation : Side → Relation
  | groupsOfUser _ | usersOfGroup _ => .userGroup
  | rolesOfUser _ | usersOfRole _ => .userRole
  | delegatorsOf _ | delegateesOf _ => .delegation
  | rolesOfGroup _ | groupsOfRole _ => .groupRole
  | permissionsOfRole _ | rolesOfPermission _ => .rolePermission

theorem relation_edge (side : Side) (id : EntityId) : (side.edge id).relation = side.relation := by
  cases side <;> rfl

theorem edge_ne {side : Side} {edge : Edge EntityId} (apart : (side.relation == edge.relation) = false)
    (id : EntityId) : side.edge id ≠ edge := by
  rintro rfl
  rw [relation_edge, beq_self_eq_true] at apart
  cases apart

theorem near_mem (side : Side) (id : EntityId) : side.near ∈ (side.edge id).endpoints := by
  cases side <;> simp [near, edge, Edge.endpoints]

theorem far_mem (side : Side) (id : EntityId) : (side.far, id) ∈ (side.edge id).endpoints := by
  cases side <;> simp [far, edge, Edge.endpoints]

theorem edge_injective (side : Side) {id other : EntityId}
    (same : side.edge id = side.edge other) : id = other := by
  cases side <;> cases same <;> rfl

theorem touches_near (side : Side) (id : EntityId) : (side.edge id).touches side.near.2 := by
  rw [Edge.touches, List.any_eq_true]
  exact ⟨side.near, side.near_mem id, beq_self_eq_true _⟩

/-- The other end of an edge, if it is one of the side. -/
def end? (side : Side) (edge : Edge EntityId) : Option EntityId :=
  (edge.endpoints.map (·.2)).find? (side.edge · = edge)

/-- What the edges of the side lead to. -/
def ends (side : Side) (edges : List (Edge EntityId)) : List EntityId := edges.filterMap side.end?

variable {side : Side} {edge : Edge EntityId} {edges : List (Edge EntityId)} {id : EntityId}

theorem end?_eq_some_iff : side.end? edge = some id ↔ side.edge id = edge := by
  constructor
  · intro found
    simpa using List.find?_some found
  · rintro rfl
    have present : id ∈ (side.edge id).endpoints.map (·.2) := List.mem_map.mpr ⟨_, side.far_mem id, rfl⟩
    rcases found : side.end? (side.edge id) with _ | other
    · have missed := List.find?_eq_none.mp found id present
      simp at missed
    · have same := List.find?_some found
      exact congrArg some (side.edge_injective (by simpa using same))

theorem end?_eq_none (apart : ∀ id, side.edge id ≠ edge) : side.end? edge = none :=
  List.find?_eq_none.mpr fun id _ => by simpa using apart id

theorem mem_ends : id ∈ side.ends edges ↔ side.edge id ∈ edges := by
  simp only [ends, List.mem_filterMap, end?_eq_some_iff, exists_eq_right']

theorem nodup_ends (nodup : edges.Nodup) : (side.ends edges).Nodup := by
  refine List.Pairwise.filterMap _ (fun a b differ x at_a y at_b same => ?_) nodup
  rw [end?_eq_some_iff] at at_a at_b
  exact differ (by rw [← at_a, ← at_b, same])

theorem ends_snoc (side : Side) (edges : List (Edge EntityId)) (id : EntityId) :
    side.ends (edges ++ [side.edge id]) = side.ends edges ++ [id] := by
  have found : side.end? (side.edge id) = some id := end?_eq_some_iff.mpr rfl
  rw [ends, List.filterMap_append, List.filterMap_cons_some found, List.filterMap_nil, ends]

theorem ends_snoc_of_ne (edges : List (Edge EntityId)) (apart : ∀ id, side.edge id ≠ edge) :
    side.ends (edges ++ [edge]) = side.ends edges := by
  rw [ends, List.filterMap_append, List.filterMap_cons_none (end?_eq_none apart),
    List.filterMap_nil, List.append_nil, ends]

theorem ends_touching (side : Side) (edges : List (Edge EntityId)) :
    side.ends (edges.filter (·.touches side.near.2)) = side.ends edges := by
  rw [ends, List.filterMap_filter, ends]
  refine List.filterMap_congr fun edge _ => ?_
  split
  · rfl
  · rename_i dropped
    refine (end?_eq_none fun id same => dropped ?_).symm
    exact same ▸ side.touches_near id

end Side

namespace Edge

/-- The user, the group and the role that an assignment joins. -/
def join? : Edge EntityId → Option (EntityId × EntityId × EntityId)
  | userGroupRole user group role => some (user, group, role)
  | userGroup .. | userRole .. | groupRole .. | rolePermission .. | delegation .. => none

/-- The assignments that touch an entity, in the order of the edges. -/
def joins (id : EntityId) (edges : List (Edge EntityId)) : List (EntityId × EntityId × EntityId) :=
  (edges.filter (·.touches id)).filterMap join?

theorem mem_joins {edges : List (Edge EntityId)} {id user group role : EntityId} :
    (user, group, role) ∈ joins id edges ↔
      .userGroupRole user group role ∈ edges ∧ (userGroupRole user group role).touches id := by
  rw [joins, List.mem_filterMap]
  constructor
  · rintro ⟨edge, mem, found⟩
    cases edge <;> cases found
    exact List.mem_filter.mp mem
  · exact fun held => ⟨_, List.mem_filter.mpr held, rfl⟩

theorem joins_snoc {id user group role : EntityId} (edges : List (Edge EntityId))
    (touches : (userGroupRole user group role).touches id) :
    joins id (edges ++ [.userGroupRole user group role]) = joins id edges ++ [(user, group, role)] := by
  simp [joins, List.filter_append, touches, join?]

theorem joins_snoc_of_none {edge : Edge EntityId} (id : EntityId) (edges : List (Edge EntityId))
    (apart : edge.join? = none) :
    joins id (edges ++ [edge]) = joins id edges := by
  by_cases touches : edge.touches id <;> simp [joins, List.filter_append, touches, apart]

theorem joins_touching (id : EntityId) (edges : List (Edge EntityId)) :
    joins id (edges.filter (·.touches id)) = joins id edges := by
  rw [joins, List.filter_filter, joins]
  simp

end Edge

end Entitlement
