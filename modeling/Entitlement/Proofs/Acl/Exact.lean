import Entitlement.Acl
import Entitlement.Proofs.Roster.Drawn
import Entitlement.Store

/-!
What it means that a list is exact: its sets are those of the graph it was built from, and every
question about names is answered by them.
-/

namespace Entitlement

/-- The roster has the stored entities of a kind that `S` says, each once, and no other. -/
structure Store.Has {α : Type} [Named α] (store : Store) (kind : Kind) (S : EntityId → Prop)
    (roster : Roster α) : Prop where
  once : roster.ids.Nodup
  stored : ∀ member ∈ roster.toList, Named.record member ∈ (store.table kind).toList
  ids : ∀ id, id ∈ roster.ids ↔ S id

/-- A stored entity of that name is among those that `S` says. -/
def Store.Names (store : Store) (kind : Kind) (S : EntityId → Prop) (name : String) : Prop :=
  ∃ record ∈ (store.table kind).toList, record.key = nameKey name ∧ S record.id

/-- What a user may do as the graph says it: on the whole, and within the groups of a key. -/
structure Rights where
  groups : EntityId → Prop
  roles : EntityId → Prop
  permissions : EntityId → Prop
  rolesIn : String → EntityId → Prop
  permissionsIn : String → EntityId → Prop

/-- The list gives a user these rights. Questions within a group are refused just if its name is blank. -/
structure Acl.Exact (store : Store) (rights : Rights) (acl : Acl) : Prop where
  groups : store.Has .group rights.groups acl.groups
  roles : ∃ roles, acl.roles = .ok roles ∧ store.Has .role rights.roles roles
  permissions : ∃ permissions, acl.permissions = .ok permissions ∧
    store.Has .permission rights.permissions permissions
  rolesIn : ∀ group, Text.blank group = false →
    ∃ roles, acl.rolesIn group = .ok roles ∧ store.Has .role (rights.rolesIn (nameKey group)) roles
  permissionsIn : ∀ group, Text.blank group = false →
    ∃ permissions, acl.permissionsIn group = .ok permissions ∧
    store.Has .permission (rights.permissionsIn (nameKey group)) permissions
  isInGroup : ∀ group, acl.isInGroup group ↔ store.Names .group rights.groups group
  hasRole : ∀ name, ∃ answer, acl.hasRole name = .ok answer ∧
    (answer ↔ store.Names .role rights.roles name)
  hasPermission : ∀ name, ∃ answer, acl.hasPermission name = .ok answer ∧
    (answer ↔ store.Names .permission rights.permissions name)
  hasRoleIn : ∀ name group, Text.blank group = false → ∃ answer, acl.hasRoleIn name group = .ok answer ∧
    (answer ↔ store.Names .role (rights.rolesIn (nameKey group)) name)
  hasPermissionIn : ∀ name group, Text.blank group = false →
    ∃ answer, acl.hasPermissionIn name group = .ok answer ∧
    (answer ↔ store.Names .permission (rights.permissionsIn (nameKey group)) name)
  refused : ∀ name group, Text.blank group = true → acl.rolesIn group = .error .groupRequired ∧
    acl.permissionsIn group = .error .groupRequired ∧ acl.hasRoleIn name group = .error .groupRequired ∧
    acl.hasPermissionIn name group = .error .groupRequired

/-- A roster in the making that will have these entities. -/
def Store.Gathers {α : Type} [Named α] (store : Store) (kind : Kind) (S : EntityId → Prop)
    (roster : Roster α) : Prop :=
  roster.Collects (fun member => Named.record member ∈ (store.table kind).toList) S

namespace Store.Gathers

variable {α : Type} [Named α] {store : Store} {kind : Kind} {S : EntityId → Prop}
  {roster : Roster α} {name : String}

theorem has (gathers : store.Gathers kind S roster) : store.Has kind S roster :=
  ⟨gathers.drawn.agrees.ids_nodup, gathers.drawn.each, gathers.ids⟩

theorem containsName_iff (gathers : store.Gathers kind S roster) (agrees : (store.table kind).Agrees) :
    roster.containsName name ↔ store.Names kind S name :=
  Roster.Collects.containsName_iff gathers agrees fun _ mem => mem

end Store.Gathers

theorem requireGroup_ok {group : String} (visible : Text.blank group = false) :
    requireGroup group = .ok () := by
  rw [requireGroup, visible]
  rfl

theorem requireGroup_refused {group : String} (blank : Text.blank group = true) :
    requireGroup group = .error .groupRequired := by
  rw [requireGroup, blank]
  rfl

namespace Acl

variable {acl : Acl} (grouped : acl.model ≠ .basic) (name group : String)
include grouped

/-! ### Questions about names look into the sets -/

theorem hasRole_eq : acl.hasRole name = (·.containsName name) <$> acl.roles := by
  cases acl with
  | basic => exact absurd rfl grouped
  | dynamic | turbine => rfl

theorem hasPermission_eq : acl.hasPermission name = (·.containsName name) <$> acl.permissions := by
  cases acl with
  | basic => exact absurd rfl grouped
  | dynamic | turbine => rfl

theorem hasRoleIn_eq : acl.hasRoleIn name group = (·.containsName name) <$> acl.rolesIn group := by
  cases acl with
  | basic => exact absurd rfl grouped
  | dynamic | turbine => rfl

theorem hasPermissionIn_eq : acl.hasPermissionIn name group =
    (·.containsName name) <$> acl.permissionsIn group := by
  cases acl with
  | basic => exact absurd rfl grouped
  | dynamic | turbine => rfl

end Acl

theorem Acl.Exact.of_sets {store : Store} {rights : Rights} {acl : Acl} (grouped : acl.model ≠ .basic)
    (agrees : ∀ kind, (store.table kind).Agrees)
    (groups : store.Gathers .group rights.groups acl.groups)
    (roles : ∃ roles, acl.roles = .ok roles ∧ store.Gathers .role rights.roles roles)
    (permissions : ∃ permissions, acl.permissions = .ok permissions ∧
      store.Gathers .permission rights.permissions permissions)
    (rolesIn : ∀ group, Text.blank group = false →
      ∃ roles, acl.rolesIn group = .ok roles ∧
        store.Gathers .role (rights.rolesIn (nameKey group)) roles)
    (permissionsIn : ∀ group, Text.blank group = false →
      ∃ permissions, acl.permissionsIn group = .ok permissions ∧
      store.Gathers .permission (rights.permissionsIn (nameKey group)) permissions)
    (refused : ∀ group, Text.blank group = true →
      acl.rolesIn group = .error .groupRequired ∧ acl.permissionsIn group = .error .groupRequired) :
    acl.Exact store rights where
  groups := groups.has
  roles := by
    obtain ⟨held, answered, gathers⟩ := roles
    exact ⟨held, answered, gathers.has⟩
  permissions := by
    obtain ⟨held, answered, gathers⟩ := permissions
    exact ⟨held, answered, gathers.has⟩
  rolesIn group visible := by
    obtain ⟨held, answered, gathers⟩ := rolesIn group visible
    exact ⟨held, answered, gathers.has⟩
  permissionsIn group visible := by
    obtain ⟨held, answered, gathers⟩ := permissionsIn group visible
    exact ⟨held, answered, gathers.has⟩
  isInGroup group := groups.containsName_iff (agrees .group)
  hasRole name := by
    obtain ⟨held, answered, gathers⟩ := roles
    refine ⟨held.containsName name, ?_, gathers.containsName_iff (agrees .role)⟩
    rw [hasRole_eq grouped, answered]
    rfl
  hasPermission name := by
    obtain ⟨held, answered, gathers⟩ := permissions
    refine ⟨held.containsName name, ?_, gathers.containsName_iff (agrees .permission)⟩
    rw [hasPermission_eq grouped, answered]
    rfl
  hasRoleIn name group visible := by
    obtain ⟨held, answered, gathers⟩ := rolesIn group visible
    refine ⟨held.containsName name, ?_, gathers.containsName_iff (agrees .role)⟩
    rw [hasRoleIn_eq grouped, answered]
    rfl
  hasPermissionIn name group visible := by
    obtain ⟨held, answered, gathers⟩ := permissionsIn group visible
    refine ⟨held.containsName name, ?_, gathers.containsName_iff (agrees .permission)⟩
    rw [hasPermissionIn_eq grouped, answered]
    rfl
  refused name group blank := by
    obtain ⟨roles_refused, permissions_refused⟩ := refused group blank
    refine ⟨roles_refused, permissions_refused, ?_, ?_⟩
    · rw [hasRoleIn_eq grouped, roles_refused]
      rfl
    · rw [hasPermissionIn_eq grouped, permissions_refused]
      rfl

end Entitlement
