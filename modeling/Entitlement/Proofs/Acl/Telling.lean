import Entitlement.Proofs.Acl.Dynamic
import Entitlement.Proofs.Acl.Turbine

/-!
What the list of a user tells of the graph, under each model. It depends on the tables and on which edges
there are, and not on the order in which they were granted.
-/

namespace Entitlement

open Entitlement.Action

namespace Store

/-- The same tables and the same edges, whatever their order. -/
structure SameGraph (store other : Store) : Prop where
  tables : ∀ kind, store.table kind = other.table kind
  edges : ∀ edge, edge ∈ store.edges.toList ↔ edge ∈ other.edges.toList

namespace SameGraph

variable {store other : Store} (same : store.SameGraph other)
include same

theorem actsFor (user principal : EntityId) : store.ActsFor user principal ↔ other.ActsFor user principal := by
  have delegates : store.Delegates = other.Delegates :=
    funext₂ fun _ _ => propext (same.edges _)
  rw [Store.ActsFor, delegates]
  rfl

theorem dynamicRights (user : EntityId) : store.dynamicRights user = other.dynamicRights user := by
  have groups : store.groups = other.groups := same.tables .group
  simp only [Store.dynamicRights, Store.HoldsRole, Store.ConfersRole, same.edges, same.actsFor, groups]

theorem turbineRights (user : EntityId) : store.turbineRights user = other.turbineRights user := by
  have groups : store.groups = other.groups := same.tables .group
  simp only [Store.turbineRights, Store.AssignsWithin, Store.Assigns, same.edges, groups]

theorem gathers {α : Type} [Named α] {kind : Kind} {S T : EntityId → Prop} {roster : Roster α}
    (gathers : store.Gathers kind S roster) (same_ids : ∀ id, S id ↔ T id) : other.Gathers kind T roster := by
  refine Roster.Collects.mono (Roster.Collects.congr gathers same_ids) fun member stored => ?_
  rwa [← same.tables kind]

end SameGraph

end Store

theorem Acl.Exact.congr {store other : Store} (same : ∀ kind, store.table kind = other.table kind)
    {rights : Rights} {acl : Acl} (exact : acl.Exact store rights) : acl.Exact other rights := by
  have has : ∀ {α : Type} [Named α] (kind : Kind) (S : EntityId → Prop) (roster : Roster α),
      store.Has kind S roster → other.Has kind S roster :=
    fun kind _ _ held => ⟨held.once, same kind ▸ held.stored, held.ids⟩
  have names : store.Names = other.Names := by
    funext kind S name
    rw [Store.Names, same, Store.Names]
  obtain ⟨groups, ⟨roles, roles_told, has_roles⟩, ⟨permissions, permissions_told, has_permissions⟩, rolesIn,
    permissionsIn, isInGroup, hasRole, hasPermission, hasRoleIn, hasPermissionIn, refused⟩ := exact
  rw [names] at isInGroup hasRole hasPermission hasRoleIn hasPermissionIn
  refine ⟨has _ _ _ groups, ⟨roles, roles_told, has _ _ _ has_roles⟩,
    ⟨permissions, permissions_told, has _ _ _ has_permissions⟩, fun group visible => ?_, fun group visible => ?_,
    isInGroup, hasRole, hasPermission, hasRoleIn, hasPermissionIn, refused⟩
  · obtain ⟨held, told, has_held⟩ := rolesIn group visible
    exact ⟨held, told, has _ _ _ has_held⟩
  · obtain ⟨held, told, has_held⟩ := permissionsIn group visible
    exact ⟨held, told, has _ _ _ has_held⟩

/-- The list is that of the user under the model of the settings. -/
inductive Acl.Tells (store : Store) (settings : Settings) (user : EntityId) : Acl → Prop where
  | basic {acl : BasicAcl} (active : settings.model = .basic)
    (groups : store.Gathers .group (fun group => .userGroup user group ∈ store.edges.toList) acl.groups) :
    Tells store settings user (.basic acl)
  | dynamic {acl : DynamicAcl} (active : settings.model = .dynamic)
    (exact : (Acl.dynamic acl).Exact store (store.dynamicRights user))
    (delegators : store.Gathers .user (fun id => store.ActsFor user id ∧ id ≠ user) acl.delegators) :
    Tells store settings user (.dynamic acl)
  | turbine {acl : TurbineAcl} (active : settings.model = .turbine)
    (exact : (Acl.turbine acl).Exact store (store.turbineRights user))
    (globalGroup : acl.globalGroup = settings.globalGroup) : Tells store settings user (.turbine acl)

theorem Acl.Tells.congr {store other : Store} {settings : Settings} {user : EntityId} {acl : Acl}
    (tells : acl.Tells store settings user) (same : store.SameGraph other) : acl.Tells other settings user := by
  cases tells with
  | basic active groups => exact .basic active (same.gathers groups fun group => same.edges _)
  | dynamic active exact delegators =>
    refine .dynamic active ?_ (same.gathers delegators fun id => and_congr_left fun _ => same.actsFor user id)
    rw [← same.dynamicRights]
    exact exact.congr same.tables
  | turbine active exact globalGroup =>
    refine .turbine active ?_ globalGroup
    rw [← same.turbineRights]
    exact exact.congr same.tables

/-! ### The list that is built -/

namespace Store.Sound

variable {settings : Settings} {model : Model} {store : Store} {user : User} (sound : store.Sound model)
  (current : user.Current store)
include sound current

theorem answers_buildBasic :
    Answers settings store (BasicAcl.build user) fun acl =>
      store.Gathers .group (fun group => .userGroup user.id group ∈ store.edges.toList) acl.groups := by
  refine (sound.answers_requireUser current.present).bind fun _ _ => answers_pure ?_
  exact Roster.Lists.gathers (.groupsOfUser user.id) current.follows.groups

theorem answers_buildAcl : Answers settings store (Acl.build user) (Acl.Tells store settings user.id) := by
  refine answers_settings.bind fun given same => ?_
  subst same
  cases active : given.model with
  | basic => exact (sound.answers_buildBasic current).map fun acl groups => .basic active groups
  | dynamic =>
    refine (sound.answers_buildDynamic current).map fun acl held => ?_
    obtain ⟨exact, delegators⟩ := held
    exact .dynamic active exact delegators
  | turbine =>
    refine (sound.answers_buildTurbine current given.globalGroup).map fun acl held => ?_
    obtain ⟨globalGroup, exact⟩ := held
    exact .turbine active exact globalGroup

end Store.Sound

end Entitlement
