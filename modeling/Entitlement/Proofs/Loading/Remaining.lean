import Entitlement.Proofs.Loading.Totality
import Entitlement.Proofs.Store.Losing

/-!
What the entities that remain are next to once one of them is gone: what they were next to before, in the same
order, without the one that is gone.
-/

namespace Entitlement

/-- The assignment is of this user, this group or this role. -/
def Assignment.involves (join : Assignment) (id : EntityId) : Bool :=
  join.user.id == id || join.group.id == id || join.role.id == id

/-- The one roster is the other without the member of that identity. -/
def Roster.Lacks (gone : EntityId) (before after : Roster Record) : Prop :=
  after.toList = before.toList.filter (·.id ≠ gone)

structure User.Lacks (gone : EntityId) (before after : User) : Prop where
  alone : after.alone = before.alone
  groups : before.groups.Lacks gone after.groups
  roles : before.roles.Lacks gone after.roles
  delegators : before.delegators.Lacks gone after.delegators
  delegatees : before.delegatees.Lacks gone after.delegatees
  joins : after.joins = before.joins.filter (! ·.involves gone)

structure Group.Lacks (gone : EntityId) (before after : Group) : Prop where
  same : after.toRecord = before.toRecord
  users : before.users.Lacks gone after.users
  roles : before.roles.Lacks gone after.roles
  joins : after.joins = before.joins.filter (! ·.involves gone)

structure Role.Lacks (gone : EntityId) (before after : Role) : Prop where
  same : after.toRecord = before.toRecord
  permissions : before.permissions.Lacks gone after.permissions
  groups : before.groups.Lacks gone after.groups
  users : before.users.Lacks gone after.users
  joins : after.joins = before.joins.filter (! ·.involves gone)

structure Permission.Lacks (gone : EntityId) (before after : Permission) : Prop where
  same : after.toRecord = before.toRecord
  roles : before.roles.Lacks gone after.roles

theorem eq_of_map_eq {α β : Type} {f : α → β} {as bs : List α} (same : as.map f = bs.map f)
    (tells : ∀ a ∈ as, ∀ b ∈ bs, f a = f b → a = b) : as = bs := by
  induction as generalizing bs with
  | nil => exact (List.map_eq_nil_iff.mp same.symm).symm
  | cons a as ih =>
    obtain ⟨b, bs, rfl, first, rest⟩ := List.map_eq_cons_iff.mp same.symm
    rw [tells a List.mem_cons_self b List.mem_cons_self first.symm]
    rw [ih rest.symm fun a mem b mem' => tells a (List.mem_cons_of_mem _ mem) b (List.mem_cons_of_mem _ mem')]

/-! ### The edges that do not touch an entity -/

section Edges

variable {gone : EntityId} (edges : List (Edge EntityId))

theorem Side.touches_edge_iff (side : Side) (id gone : EntityId) :
    (side.edge id).touches gone ↔ side.near.2 = gone ∨ id = gone := by
  cases side <;> simp [Side.edge, Side.near, Edge.touches, Edge.endpoints, or_comm]

theorem Side.ends_untouched (side : Side) (apart : side.near.2 ≠ gone) :
    side.ends (edges.filter fun edge => ! edge.touches gone) = (side.ends edges).filter (· ≠ gone) := by
  rw [ends, List.filterMap_filter, ends, List.filter_filterMap]
  refine List.filterMap_congr fun edge _ => ?_
  cases at_end : side.end? edge with
  | none => simp
  | some id =>
    obtain rfl := Side.end?_eq_some_iff.mp at_end
    have touches : (side.edge id).touches gone = decide (id = gone) := by
      rw [Bool.eq_iff_iff, touches_edge_iff, or_iff_right apart, decide_eq_true_eq]
    simp only [touches]
    by_cases same : id = gone <;> simp [same, Option.filter]

theorem Edge.joins_untouched (id : EntityId) :
    Edge.joins id (edges.filter fun edge => ! edge.touches gone) =
      (Edge.joins id edges).filter fun join => ! (join.1 == gone || join.2.1 == gone || join.2.2 == gone) := by
  rw [joins, joins, List.filter_filterMap, List.filter_filter, List.filterMap_filter, List.filterMap_filter]
  refine List.filterMap_congr fun edge _ => ?_
  cases edge with
  | userGroupRole => simp [touches, endpoints, join?, Option.filter, ite_and]
  | userGroup | userRole | groupRole | rolePermission | delegation => simp [join?]

end Edges

namespace Store.Loses

variable {model : Model} {store later : Store} {kind : Kind} {gone : EntityId}
  (loses : store.Loses kind gone later) (sound : store.Sound model)
include loses sound

theorem lists {other : Kind} {ids : List EntityId} {before after : Roster Record}
    (lists : before.Lists store other ids) (lists' : after.Lists later other (ids.filter (· ≠ gone))) :
    before.Lacks gone after := by
  refine @eq_of_map_eq _ _ Record.id _ _ ?_ fun a mem b mem' same => ?_
  · have ids_before : before.toList.map Record.id = ids := lists.ids
    have ids_after : after.toList.map Record.id = ids.filter (· ≠ gone) := lists'.ids
    rw [ids_after, ← ids_before, List.filter_map]
    rfl
  · have listed : b ∈ (store.table other).toList := lists.drawn.each b (List.mem_of_mem_filter mem')
    exact (sound.tables other).eq_of_id_eq (loses.mem_of_mem (lists'.drawn.each a mem)) listed same

theorem ends (side : Side) {before after : Roster Record} (remains : side.near.2 ≠ gone)
    (lists : before.Lists store side.far (side.ends store.edges.toList))
    (lists' : after.Lists later side.far (side.ends later.edges.toList)) : before.Lacks gone after := by
  rw [loses.edges, side.ends_untouched _ remains] at lists'
  exact loses.lists sound lists lists'

theorem joins {id : EntityId} {before after : List Assignment}
    (assigned : Assigned store (Edge.joins id store.edges.toList) before)
    (assigned' : Assigned later (Edge.joins id later.edges.toList) after) :
    after = before.filter (! ·.involves gone) := by
  refine @eq_of_map_eq _ _ Assignment.ids _ _ ?_ fun a mem b mem' same => ?_
  · rw [assigned'.ids, loses.edges, Edge.joins_untouched, ← assigned.ids, List.filter_map]
    rfl
  · have stored := assigned'.stored mem
    have stored : a.Stored store :=
      ⟨loses.mem_of_mem stored.user, loses.mem_of_mem stored.group, loses.mem_of_mem stored.role⟩
    exact sound.assignment_eq stored (assigned.stored (List.mem_of_mem_filter mem')) same

theorem user {before after : User} (complete : before.Complete store) (complete' : after.Complete later)
    (same : after.toRecord = before.toRecord) (remains : before.id ≠ gone) : before.Lacks gone after := by
  have follows := complete.follows
  have follows' := complete'.follows
  rw [same] at follows'
  constructor
  · have kept : later.credentials[before.id]? = some ⟨before.password, before.lastLogin⟩ := by
      rw [loses.credentials, if_neg fun user => remains user.2, complete.credentials]
    have now := complete'.credentials
    rw [same, kept, Option.some.injEq, Credentials.mk.injEq] at now
    simp only [User.alone, same, now.1, now.2]
  · exact loses.ends sound (.groupsOfUser before.id) remains follows.groups follows'.groups
  · exact loses.ends sound (.rolesOfUser before.id) remains follows.roles follows'.roles
  · exact loses.ends sound (.delegatorsOf before.id) remains follows.delegators follows'.delegators
  · have listed := follows'.delegatees
    rw [loses.edges, (Side.delegateesOf before.id).ends_untouched _ remains, List.filter_comm] at listed
    exact loses.lists sound follows.delegatees listed
  · exact loses.joins sound follows.joins follows'.joins

theorem group {before after : Group} (current : before.Current store) (current' : after.Current later)
    (same : after.toRecord = before.toRecord) (remains : before.id ≠ gone) : before.Lacks gone after := by
  have follows := current.follows
  have follows' := current'.follows
  rw [same] at follows'
  constructor
  · exact same
  · exact loses.ends sound (.usersOfGroup before.id) remains follows.users follows'.users
  · exact loses.ends sound (.rolesOfGroup before.id) remains follows.roles follows'.roles
  · exact loses.joins sound follows.joins follows'.joins

theorem role {before after : Role} (current : before.Current store) (current' : after.Current later)
    (same : after.toRecord = before.toRecord) (remains : before.id ≠ gone) : before.Lacks gone after := by
  have follows := current.follows
  have follows' := current'.follows
  rw [same] at follows'
  constructor
  · exact same
  · exact loses.ends sound (.permissionsOfRole before.id) remains follows.permissions follows'.permissions
  · exact loses.ends sound (.groupsOfRole before.id) remains follows.groups follows'.groups
  · exact loses.ends sound (.usersOfRole before.id) remains follows.users follows'.users
  · exact loses.joins sound follows.joins follows'.joins

theorem permission {before after : Permission} (current : before.Current store) (current' : after.Current later)
    (same : after.toRecord = before.toRecord) (remains : before.id ≠ gone) : before.Lacks gone after := by
  have follows := current.follows
  have follows' := current'.follows
  rw [same] at follows'
  exact ⟨same, loses.ends sound (.rolesOfPermission before.id) remains follows.roles follows'.roles⟩

end Store.Loses

end Entitlement
