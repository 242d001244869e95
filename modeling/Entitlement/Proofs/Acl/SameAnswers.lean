import Entitlement.Proofs.Acl.Telling

/-!
Lists that answer every question alike. Two lists that tell the same of a user differ at most in the order
in which they hold their members.
-/

namespace Entitlement

open Entitlement.Action

/-- Sets of the same entities, in whatever order, or the same refusal. -/
inductive SameSet {α : Type} [Named α] : Except Error (Roster α) → Except Error (Roster α) → Prop where
  | told {a b : Roster α} (same : (a.toList.map Named.record).Perm (b.toList.map Named.record)) :
    SameSet (.ok a) (.ok b)
  | refused (e : Error) : SameSet (.error e) (.error e)

namespace Acl

/-- What only the lists of one model are asked. -/
inductive SameOwn : Acl → Acl → Prop where
  | basic (a b : BasicAcl) : SameOwn (.basic a) (.basic b)
  | dynamic {a b : DynamicAcl} (delegators : SameSet (.ok a.delegators) (.ok b.delegators)) :
    SameOwn (.dynamic a) (.dynamic b)
  | turbine {a b : TurbineAcl} (globalRoles : SameSet (.ok a.globalRoles) (.ok b.globalRoles))
    (globalPermissions : SameSet (.ok a.globalPermissions) (.ok b.globalPermissions))
    (hasGlobalRole : ∀ role, a.hasGlobalRole role = b.hasGlobalRole role)
    (hasGlobalPermission : ∀ permission, a.hasGlobalPermission permission = b.hasGlobalPermission permission) :
    SameOwn (.turbine a) (.turbine b)

structure SameAnswers (a b : Acl) : Prop where
  groups : SameSet (.ok a.groups) (.ok b.groups)
  roles : SameSet a.roles b.roles
  permissions : SameSet a.permissions b.permissions
  rolesIn : ∀ group, SameSet (a.rolesIn group) (b.rolesIn group)
  permissionsIn : ∀ group, SameSet (a.permissionsIn group) (b.permissionsIn group)
  isInGroup : ∀ group, a.isInGroup group = b.isInGroup group
  hasRole : ∀ role, a.hasRole role = b.hasRole role
  hasPermission : ∀ permission, a.hasPermission permission = b.hasPermission permission
  hasRoleIn : ∀ role group, a.hasRoleIn role group = b.hasRoleIn role group
  hasPermissionIn : ∀ permission group, a.hasPermissionIn permission group = b.hasPermissionIn permission group
  hasRoleInAny : ∀ role groups, a.hasRoleInAny role groups = b.hasRoleInAny role groups
  hasPermissionInAny : ∀ permission groups,
    a.hasPermissionInAny permission groups = b.hasPermissionInAny permission groups
  own : a.SameOwn b

end Acl

variable {store : Store} {kind : Kind} {S : EntityId → Prop} {settings : Settings} {user : EntityId}

theorem Store.Has.mem_records {α : Type} [Named α] {roster : Roster α} (has : store.Has kind S roster)
    (agrees : (store.table kind).Agrees) (record : Record) :
    record ∈ roster.toList.map Named.record ↔ record ∈ (store.table kind).toList ∧ S record.id := by
  rw [List.mem_map]
  constructor
  · rintro ⟨member, mem, rfl⟩
    exact ⟨has.stored member mem, (has.ids _).mp (Roster.mem_ids.mpr ⟨member, mem, rfl⟩)⟩
  · rintro ⟨stored, held⟩
    obtain ⟨member, mem, same⟩ := Roster.mem_ids.mp ((has.ids record.id).mpr held)
    exact ⟨member, mem, agrees.eq_of_id_eq (has.stored member mem) stored same⟩

theorem Store.Has.sameSet {α : Type} [Named α] {a b : Roster α} (has : store.Has kind S a)
    (has' : store.Has kind S b) (agrees : (store.table kind).Agrees) : SameSet (.ok a) (.ok b) := by
  have once : ∀ {roster : Roster α}, store.Has kind S roster → (roster.toList.map Named.record).Nodup := by
    intro roster has
    refine List.Nodup.of_map Record.id ?_
    rw [List.map_map]
    exact has.once
  refine .told ((List.perm_ext_iff_of_nodup (once has) (once has')).mpr fun record => ?_)
  rw [has.mem_records agrees, has'.mem_records agrees]

/-- Two answers to one question about names. -/
theorem answers_eq {x y : Except Error Bool} {p : Prop} (first : ∃ answer, x = .ok answer ∧ (answer = true ↔ p))
    (second : ∃ answer, y = .ok answer ∧ (answer = true ↔ p)) : x = y := by
  obtain ⟨a, rfl, law⟩ := first
  obtain ⟨b, rfl, law'⟩ := second
  rw [Bool.eq_iff_iff.mpr (law.trans law'.symm)]

theorem Acl.sameAnswers_of_exact {rights : Rights} {a b : Acl} (exact : a.Exact store rights)
    (exact' : b.Exact store rights) (agrees : ∀ kind, (store.table kind).Agrees) (own : a.SameOwn b) :
    a.SameAnswers b := by
  have hasRoleIn : ∀ role group, a.hasRoleIn role group = b.hasRoleIn role group := by
    intro role group
    rcases blank : Text.blank group with _ | _
    · exact answers_eq (exact.hasRoleIn role group blank) (exact'.hasRoleIn role group blank)
    · rw [(exact.refused role group blank).2.2.1, (exact'.refused role group blank).2.2.1]
  have hasPermissionIn : ∀ permission group,
      a.hasPermissionIn permission group = b.hasPermissionIn permission group := by
    intro permission group
    rcases blank : Text.blank group with _ | _
    · exact answers_eq (exact.hasPermissionIn permission group blank) (exact'.hasPermissionIn permission group blank)
    · rw [(exact.refused permission group blank).2.2.2, (exact'.refused permission group blank).2.2.2]
  constructor
  case groups => exact exact.groups.sameSet exact'.groups (agrees .group)
  case roles =>
    obtain ⟨roles, told, has⟩ := exact.roles
    obtain ⟨roles', told', has'⟩ := exact'.roles
    rw [told, told']
    exact has.sameSet has' (agrees .role)
  case permissions =>
    obtain ⟨permissions, told, has⟩ := exact.permissions
    obtain ⟨permissions', told', has'⟩ := exact'.permissions
    rw [told, told']
    exact has.sameSet has' (agrees .permission)
  case rolesIn =>
    intro group
    rcases blank : Text.blank group with _ | _
    · obtain ⟨roles, told, has⟩ := exact.rolesIn group blank
      obtain ⟨roles', told', has'⟩ := exact'.rolesIn group blank
      rw [told, told']
      exact has.sameSet has' (agrees .role)
    · rw [(exact.refused "" group blank).1, (exact'.refused "" group blank).1]
      exact .refused _
  case permissionsIn =>
    intro group
    rcases blank : Text.blank group with _ | _
    · obtain ⟨permissions, told, has⟩ := exact.permissionsIn group blank
      obtain ⟨permissions', told', has'⟩ := exact'.permissionsIn group blank
      rw [told, told']
      exact has.sameSet has' (agrees .permission)
    · rw [(exact.refused "" group blank).2.1, (exact'.refused "" group blank).2.1]
      exact .refused _
  case isInGroup =>
    intro group
    exact Bool.eq_iff_iff.mpr ((exact.isInGroup group).trans (exact'.isInGroup group).symm)
  case hasRole => exact fun role => answers_eq (exact.hasRole role) (exact'.hasRole role)
  case hasPermission =>
    exact fun permission => answers_eq (exact.hasPermission permission) (exact'.hasPermission permission)
  case hasRoleIn => exact hasRoleIn
  case hasPermissionIn => exact hasPermissionIn
  case hasRoleInAny =>
    intro role groups
    rw [hasRoleInAny, funext (hasRoleIn role), hasRoleInAny]
  case hasPermissionInAny =>
    intro permission groups
    rw [hasPermissionInAny, funext (hasPermissionIn permission), hasPermissionInAny]
  case own => exact own

theorem BasicAcl.sameAnswers {a b : BasicAcl} (groups : store.Gathers .group S a.groups)
    (groups' : store.Gathers .group S b.groups) (agrees : (store.table .group).Agrees) :
    (Acl.basic a).SameAnswers (.basic b) := by
  have contains : ∀ name, a.groups.containsName name = b.groups.containsName name := by
    intro name
    rw [Bool.eq_iff_iff, groups.containsName_iff agrees, groups'.containsName_iff agrees]
  have hasPermission : ∀ name, (Acl.basic a).hasPermission name = (Acl.basic b).hasPermission name :=
    fun name => congrArg Except.ok (contains name)
  refine ⟨groups.has.sameSet groups'.has agrees, .refused _, .refused _, fun _ => .refused _, fun _ => .refused _,
    contains, fun _ => rfl, hasPermission, fun _ _ => rfl, fun _ _ => rfl, ?_, ?_, .basic a b⟩
  · intro role groups
    rw [Acl.hasRoleInAny, Acl.hasRoleInAny]
    rfl
  · intro permission groups
    rw [Acl.hasPermissionInAny, Acl.hasPermissionInAny]
    rfl

theorem TurbineAcl.sameOwn {rights : Rights} {a b : TurbineAcl} (exact : (Acl.turbine a).Exact store rights)
    (exact' : (Acl.turbine b).Exact store rights) (agrees : ∀ kind, (store.table kind).Agrees) {group : String}
    (visible : Text.blank group = false) (within : a.GlobalWithin group) (within' : b.GlobalWithin group) :
    (Acl.turbine a).SameOwn (.turbine b) := by
  obtain ⟨roles, told, has⟩ := exact.rolesIn group visible
  obtain ⟨roles', told', has'⟩ := exact'.rolesIn group visible
  obtain ⟨permissions, permissions_told, has_permissions⟩ := exact.permissionsIn group visible
  obtain ⟨permissions', permissions_told', has_permissions'⟩ := exact'.permissionsIn group visible
  constructor
  · rw [← within.roles, ← within'.roles, told, told']
    exact has.sameSet has' (agrees .role)
  · rw [← within.permissions, ← within'.permissions, permissions_told, permissions_told']
    exact has_permissions.sameSet has_permissions' (agrees .permission)
  · intro role
    apply Except.ok.inj
    rw [← within.hasRole, ← within'.hasRole]
    exact answers_eq (exact.hasRoleIn role group visible) (exact'.hasRoleIn role group visible)
  · intro permission
    apply Except.ok.inj
    rw [← within.hasPermission, ← within'.hasPermission]
    exact answers_eq (exact.hasPermissionIn permission group visible)
      (exact'.hasPermissionIn permission group visible)

/-- What a list answers follows from what it tells. -/
theorem Acl.Tells.sameAnswers {a b : Acl} (tells : a.Tells store settings user)
    (tells' : b.Tells store settings user) (agrees : ∀ kind, (store.table kind).Agrees)
    (visible : Text.blank settings.globalGroup = false) : a.SameAnswers b := by
  cases tells with
  | basic active groups =>
    cases tells' with
    | basic _ groups' => exact BasicAcl.sameAnswers groups groups' (agrees .group)
    | dynamic other | turbine other => cases active.symm.trans other
  | dynamic active exact delegators =>
    cases tells' with
    | dynamic _ exact' delegators' =>
      exact sameAnswers_of_exact exact exact' agrees
        (.dynamic (delegators.has.sameSet delegators'.has (agrees .user)))
    | basic other | turbine other => cases active.symm.trans other
  | turbine active exact globalGroup =>
    cases tells' with
    | turbine _ exact' globalGroup' =>
      have within := TurbineAcl.globalWithin globalGroup visible
      have within' := TurbineAcl.globalWithin globalGroup' visible
      exact sameAnswers_of_exact exact exact' agrees
        (TurbineAcl.sameOwn exact exact' agrees visible within within')
    | basic other | dynamic other => cases active.symm.trans other

end Entitlement
