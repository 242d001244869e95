import Entitlement.Proofs.Acl.Order
import Entitlement.Proofs.Text.Lowering

/-!
Under the turbine model a list is exact: within a group the user has the roles that were assigned to the
user there, and without a group those of any group, in the order of the assignments.
-/

namespace Entitlement

open Entitlement.Action
open Std (TreeMap)

/-- The role was assigned to the user within the group. -/
def Store.Assigns (store : Store) (user group role : EntityId) : Prop :=
  .userGroupRole user group role ∈ store.edges.toList

/-- The role was assigned to the user within the group of that key. -/
def Store.AssignsWithin (store : Store) (user : EntityId) (key : String) (role : EntityId) : Prop :=
  ∃ group ∈ store.groups.toList, group.key = key ∧ store.Assigns user group.id role

def Store.turbineRights (store : Store) (user : EntityId) : Rights where
  groups group := ∃ role, store.Assigns user group role
  roles role := ∃ group, store.Assigns user group role
  permissions permission := ∃ role, (∃ group, store.Assigns user group role) ∧
    .rolePermission role permission ∈ store.edges.toList
  rolesIn key role := store.AssignsWithin user key role
  permissionsIn key permission := ∃ role, store.AssignsWithin user key role ∧
    .rolePermission role permission ∈ store.edges.toList

/-- Groups and roles come in the order of the assignments. -/
def Store.turbineRanking (store : Store) (user : EntityId) : Ranking where
  groups := (Edge.joins user store.edges.toList).map fun (_, group, _) => group
  entries := (Edge.joins user store.edges.toList).map fun (_, group, role) => ⟨some group, role⟩

variable {settings : Settings} {model : Model} {store : Store} {user : User}

section Ranking

variable (sound : store.Sound model) {id : EntityId} (present : id ∈ store.users.ids)
include sound present

theorem Store.Sound.mem_joins {user group role : EntityId} :
    (user, group, role) ∈ Edge.joins id store.edges.toList ↔ user = id ∧ store.Assigns id group role := by
  rw [Edge.mem_joins]
  constructor
  · rintro ⟨mem, touches⟩
    have stored : id ∈ (store.table .user).ids := present
    have at_end := sound.endpoint_of_touches mem touches stored
    obtain rfl : id = user := by simpa [Edge.endpoints] using at_end
    exact ⟨rfl, mem⟩
  · rintro ⟨rfl, mem⟩
    exact ⟨mem, by simp [Edge.touches, Edge.endpoints]⟩

theorem Store.Sound.mem_turbineEntries {group role : EntityId} :
    ⟨some group, role⟩ ∈ (store.turbineRanking id).entries ↔ store.Assigns id group role := by
  simp [Store.turbineRanking, sound.mem_joins present]

theorem Store.Sound.turbineRanking_gives : (store.turbineRanking id).Gives store (store.turbineRights id) where
  groups group := by simp [Store.turbineRanking, Store.turbineRights, sound.mem_joins present]
  roles role := by simp [Store.turbineRanking, Store.turbineRights, Ranking.roles, sound.mem_joins present]
  rolesIn key role := by
    simp only [Ranking.rolesIn, Entry.mem_within, sound.mem_turbineEntries present, sound.idOf_eq_some_iff]
    constructor
    · rintro ⟨_, ⟨group, stored, same, rfl⟩, assigns⟩
      exact ⟨group, stored, same, assigns⟩
    · rintro ⟨group, stored, same, assigns⟩
      exact ⟨group.id, ⟨group, stored, same, rfl⟩, assigns⟩
  permissions _ := Iff.rfl
  permissionsIn _ _ := Iff.rfl

end Ranking

/-- The group and the role of an assignment with the role loaded. -/
structure Loaded (store : Store) (joins : List Assignment) (assignments : List (Record × Role)) :
    Prop where
  ids : (assignments.map fun (group, role) => (group.id, role.id)) =
    joins.map fun join => (join.group.id, join.role.id)
  groups : ∀ assignment ∈ assignments, assignment.1 ∈ store.groups.toList
  roles : ∀ assignment ∈ assignments, assignment.2.Current store

theorem Store.Sound.answers_assignmentsOf (sound : store.Sound model) {joins : List Assignment}
    {loaded : LoadedRoles}
    (current : loaded.Current store) (groups : ∀ join ∈ joins, join.group ∈ store.groups.toList)
    (roles : ∀ join ∈ joins, join.role ∈ store.roles.toList) :
    Answers settings store (TurbineAcl.assignmentsOf loaded joins) (Loaded store joins) := by
  induction joins generalizing loaded with
  | nil => exact answers_pure ⟨rfl, by simp, by simp⟩
  | cons join joins ih =>
    obtain ⟨group_stored, groups⟩ := List.forall_mem_cons.mp groups
    obtain ⟨role_stored, roles⟩ := List.forall_mem_cons.mp roles
    have present : join.role.id ∈ store.roles.ids := Roster.mem_ids.mpr ⟨join.role, role_stored, rfl⟩
    refine (sound.answers_loadedRole current present).bind
      fun found held => ?_
    obtain ⟨role, later⟩ := found
    obtain ⟨same, fresh, later_current⟩ := held
    refine (ih later_current groups roles).bind fun assignments rest => answers_pure ?_
    constructor
    · rw [List.map_cons, List.map_cons, rest.ids]
      exact congrArg (fun id => (join.group.id, id) :: _) same
    · exact List.forall_mem_cons.mpr ⟨group_stored, rest.groups⟩
    · exact List.forall_mem_cons.mpr ⟨fresh, rest.roles⟩

theorem Loaded.entries_eq {assignments : List (Record × Role)} (loaded : Loaded store user.joins assignments)
    (current : user.Current store) : assignments.map (fun (group, role) => Entry.mk (some group.id) role.id) =
      (store.turbineRanking user.id).entries := by
  change _ = (Edge.joins user.id store.edges.toList).map fun (_, group, role) => Entry.mk (some group) role
  rw [← current.follows.joins.ids, List.map_map]
  have same := congrArg (List.map fun (group, role) => Entry.mk (some group) role) loaded.ids
  rwa [List.map_map, List.map_map] at same

theorem Loaded.groups_eq {assignments : List (Record × Role)} (loaded : Loaded store user.joins assignments)
    (current : user.Current store) :
    assignments.map (fun (group, _) => group.id) = (store.turbineRanking user.id).groups := by
  rw [Store.turbineRanking, ← current.follows.joins.ids, List.map_map]
  have same := congrArg (List.map Prod.fst) loaded.ids
  rwa [List.map_map, List.map_map] at same

namespace TurbineAcl

/-- What has been assigned so far, in that order. -/
structure Holds (store : Store) (assigned : List (Record × Role)) (acl : TurbineAcl) : Prop where
  groups : acl.groups.Arranges (· ∈ (store.table .group).toList) (assigned.map fun (group, _) => group.id)
  enrols : Enrols store (assigned.map fun (group, role) => ⟨some group.id, role.id⟩) acl.roles acl.groupRoles

variable {acl : TurbineAcl} {assigned : List (Record × Role)} {group : Record} {role : Role}

theorem Holds.assign (holds : acl.Holds store assigned) (sound : store.Sound model)
    (stored : group ∈ store.groups.toList)
    (current : role.Current store) : ∃ next : TurbineAcl, acl.assign group role = .ok next ∧
      next.Holds store (assigned ++ [(group, role)]) ∧ next.user = acl.user ∧
        next.globalGroup = acl.globalGroup := by
  obtain ⟨roles, groupRoles, joined_within, joined_roles, enrols⟩ := holds.enrols.joinWithin sound stored current
  obtain ⟨groups, joined_groups, arranges⟩ :=
    holds.groups.join (Roster.coherent_of_agrees (sound.tables .group)) stored
  refine ⟨{ acl with groupRoles, roles, groups }, ?_, ⟨?_, ?_⟩, rfl, rfl⟩
  · simp only [TurbineAcl.assign, joined_within, joined_roles, joined_groups]
    rfl
  · rw [List.map_append]
    exact arranges
  · rw [List.map_append]
    exact enrols

theorem Holds.empty (store : Store) (user : Record) (globalGroup : String) : Holds store [] {
    user
    globalGroup
    groups := {}
    roles := {}
    permissions := {}
    groupRoles := {}
    groupPermissions := {} } := ⟨.empty _, .empty store⟩

theorem Holds.assignAll (holds : acl.Holds store []) (sound : store.Sound model)
    (groups : ∀ assignment ∈ assigned, assignment.1 ∈ store.groups.toList)
    (roles : ∀ assignment ∈ assigned, assignment.2.Current store) :
    ∃ last : TurbineAcl, assigned.foldlM (fun (acl : TurbineAcl) (group, role) =>
      acl.assign group role) acl = .ok last ∧
      last.Holds store assigned ∧ last.user = acl.user ∧ last.globalGroup = acl.globalGroup := by
  refine except_foldlM_ok (fun (done : List (Record × Role)) (next : TurbineAcl) =>
    next.Holds store done ∧ next.user = acl.user ∧ next.globalGroup = acl.globalGroup) ?_ ⟨holds, rfl, rfl⟩
  rintro done ⟨group, role⟩ rest next split ⟨next_holds, of_user, same⟩
  have mem : (group, role) ∈ assigned := by simp [split]
  obtain ⟨later, assigns, later_holds, kept_user, kept⟩ := next_holds.assign sound (groups _ mem) (roles _ mem)
  exact ⟨later, assigns, later_holds, kept_user.trans of_user, kept.trans same⟩

end TurbineAcl

/-- What has been made of some groups so far: the permissions of their roles. -/
structure OwnedBy (groupRoles : GroupRoles) (done : List (String × Roster Role))
    (byGroup : TreeMap String (Roster Record)) : Prop where
  owned : ∀ (key : String) (permissions : Roster Record), byGroup[key]? = some permissions →
    permissionsOf (groupRoles.getD key {}) = .ok permissions
  known : ∀ entry ∈ done, entry.1 ∈ byGroup

section GroupPermissions

variable {groupRoles : GroupRoles} {done : List (String × Roster Role)}
  {byGroup : TreeMap String (Roster Record)}

theorem OwnedBy.insert (owned : OwnedBy groupRoles done byGroup) {key : String} {roles : Roster Role}
    {permissions : Roster Record} (made : permissionsOf (groupRoles.getD key {}) = .ok permissions) :
    OwnedBy groupRoles (done ++ [(key, roles)]) (byGroup.insert key permissions) where
  owned other held at_other := by
    rw [TreeMap.getElem?_insert] at at_other
    split at at_other
    · rename_i equal
      cases at_other
      exact Std.LawfulEqOrd.eq_of_compare equal ▸ made
    · exact owned.owned other held at_other
  known entry mem := by
    rw [TreeMap.mem_insert]
    rcases List.mem_append.mp mem with old | last
    · exact .inr (owned.known entry old)
    · rw [List.mem_singleton.mp last]
      exact .inl Std.ReflCmp.compare_self

/-- A key that is not there is that of a group without roles. -/
theorem OwnedBy.eq (owned : OwnedBy groupRoles groupRoles.toList byGroup) (key : String) :
    permissionsOf (groupRoles.getD key {}) = .ok (byGroup.getD key {}) := by
  rcases at_key : byGroup[key]? with _ | permissions
  · have no_roles : groupRoles[key]? = none := by
      rcases held : groupRoles[key]? with _ | roles
      · rfl
      · have mem := owned.known (key, roles) (TreeMap.mem_toList_iff_getElem?_eq_some.mpr held)
        simp [TreeMap.mem_iff_isSome_getElem?, at_key] at mem
    rw [TreeMap.getD_eq_getD_getElem?, no_roles, TreeMap.getD_eq_getD_getElem?, at_key]
    rfl
  · rw [owned.owned key permissions at_key, TreeMap.getD_eq_getD_getElem?, at_key]
    rfl

/-- The permissions of each group are made of its roles, if they can be made. -/
theorem groupPermissions_eq (each : ∀ key, ∃ permissions, permissionsOf (groupRoles.getD key {}) = .ok permissions) :
    ∃ groupPermissions : TreeMap String (Roster Record),
      (groupRoles.toList.foldlM (fun byGroup (key, roles) => do
        return byGroup.insert key (← permissionsOf roles)) ({} : TreeMap String (Roster Record))) =
          .ok groupPermissions ∧
      ∀ key, permissionsOf (groupRoles.getD key {}) = .ok (groupPermissions.getD key {}) := by
  have folds : ∃ groupPermissions : TreeMap String (Roster Record),
      (groupRoles.toList.foldlM (fun byGroup (key, roles) => do
        return byGroup.insert key (← permissionsOf roles)) ({} : TreeMap String (Roster Record))) =
          .ok groupPermissions ∧
      OwnedBy groupRoles groupRoles.toList groupPermissions := by
    refine except_foldlM_ok (OwnedBy groupRoles) ?_ ⟨by simp, by simp⟩
    rintro done ⟨key, roles⟩ rest byGroup split owned
    have found : groupRoles[key]? = some roles :=
      TreeMap.mem_toList_iff_getElem?_eq_some.mp (by simp [split])
    obtain ⟨permissions, made⟩ := each key
    refine ⟨byGroup.insert key permissions, ?_, owned.insert made⟩
    rw [TreeMap.getD_eq_getD_getElem?, found, Option.getD_some] at made
    simp only [made]
    rfl
  obtain ⟨groupPermissions, folded, owned⟩ := folds
  exact ⟨groupPermissions, folded, owned.eq⟩

end GroupPermissions

theorem Store.Sound.ofAssignments_follows (sound : store.Sound model) (current : user.Current store)
    {assignments : List (Record × Role)} (loaded : Loaded store user.joins assignments) (globalGroup : String) :
    ∃ acl : TurbineAcl, TurbineAcl.ofAssignments user.toRecord assignments globalGroup = .ok acl ∧
      acl.user = user.toRecord ∧ acl.globalGroup = globalGroup ∧
        (Acl.turbine acl).Follows store (store.turbineRanking user.id) := by
  have bare := TurbineAcl.Holds.empty store user.toRecord globalGroup
  obtain ⟨acl, folded, holds, of_user, same⟩ := bare.assignAll sound loaded.groups loaded.roles
  have enrols := holds.enrols
  have groups := holds.groups
  rw [loaded.entries_eq current] at enrols
  rw [loaded.groups_eq current] at groups
  have owned := fun key => sound.permissionsOf_arranged (enrols.within key)
  obtain ⟨groupPermissions, made, owned_within⟩ := groupPermissions_eq fun key => (owned key).imp fun _ => And.left
  obtain ⟨permissions, owned_all, arranges⟩ := sound.permissionsOf_arranged enrols.roles
  refine ⟨{ acl with groupPermissions, permissions }, ?_, of_user, same, ?_⟩
  · refine except_bind_eq_ok.mpr ⟨acl, folded, ?_⟩
    refine except_bind_eq_ok.mpr ⟨groupPermissions, made, ?_⟩
    exact except_bind_eq_ok.mpr ⟨permissions, owned_all, rfl⟩
  refine ⟨groups, ⟨acl.roles, rfl, enrols.roles⟩, ⟨permissions, rfl, arranges⟩, fun group visible => ?_,
    fun group visible => ?_, fun group blank => ?_⟩
  · refine ⟨acl.groupRoles.getD (nameKey group) {}, ?_, enrols.within (nameKey group)⟩
    simp only [Acl.rolesIn, requireGroup_ok visible]
    rfl
  · obtain ⟨within, made_within, within_arranges⟩ := owned (nameKey group)
    cases made_within.symm.trans (owned_within (nameKey group))
    refine ⟨groupPermissions.getD (nameKey group) {}, ?_, within_arranges⟩
    simp only [Acl.permissionsIn, requireGroup_ok visible]
    rfl
  · simp only [Acl.rolesIn, Acl.permissionsIn, requireGroup_refused blank]
    exact ⟨rfl, rfl⟩

theorem Store.Sound.answers_buildTurbine_follows (sound : store.Sound model) (current : user.Current store)
    (globalGroup : String) : Answers settings store (TurbineAcl.build user globalGroup) fun acl =>
      acl.user = user.toRecord ∧ acl.globalGroup = globalGroup ∧
        (Acl.turbine acl).Follows store (store.turbineRanking user.id) := by
  refine (sound.answers_requireUser current.present).bind fun _ _ => ?_
  have joins := current.follows.joins
  refine (sound.answers_assignmentsOf
    (LoadedRoles.Current.empty store) joins.groups joins.roles).bind fun assignments loaded => ?_
  obtain ⟨acl, built, held⟩ := sound.ofAssignments_follows current loaded globalGroup
  exact answers_liftExcept built held

theorem Store.Sound.answers_buildTurbine (sound : store.Sound model) (current : user.Current store)
    (globalGroup : String) :
    Answers settings store (TurbineAcl.build user globalGroup) fun acl =>
      acl.globalGroup = globalGroup ∧ (Acl.turbine acl).Exact store (store.turbineRights user.id) := by
  have present : user.id ∈ store.users.ids := current.present
  refine (sound.answers_buildTurbine_follows current globalGroup).mono fun acl held => ?_
  obtain ⟨-, same, follows⟩ := held
  exact ⟨same, follows.exact sound nofun (sound.turbineRanking_gives present)⟩

/-! ### Groups and the user as such -/

/-- Questions within a group look at the assignments there, and those without one at all groups. -/
structure Acl.ByGroup (store : Store) (user : EntityId) (acl : Acl) : Prop where
  hasRoleIn : ∀ name group, acl.hasRoleIn name group = .ok true ↔
    ∃ g ∈ store.groups.toList, ∃ r ∈ store.roles.toList, g.key = nameKey group ∧ r.key = nameKey name ∧
      store.Assigns user g.id r.id
  hasPermissionIn : ∀ name group, acl.hasPermissionIn name group = .ok true ↔
    ∃ g ∈ store.groups.toList, ∃ q ∈ store.permissions.toList, ∃ r, g.key = nameKey group ∧
      q.key = nameKey name ∧
      store.Assigns user g.id r ∧ .rolePermission r q.id ∈ store.edges.toList
  roleRefused : ∀ name group, (∃ e, acl.hasRoleIn name group = .error e ∧
    e.category = .accessControl) ↔ Text.blank group
  permissionRefused : ∀ name group,
    (∃ e, acl.hasPermissionIn name group = .error e ∧ e.category = .accessControl) ↔ Text.blank group
  hasRole : ∀ name, acl.hasRole name = .ok true ↔ ∃ group, acl.hasRoleIn name group = .ok true
  hasPermission : ∀ name, acl.hasPermission name = .ok true ↔
    ∃ group, acl.hasPermissionIn name group = .ok true

/-- Questions about the global group are those within the group of that name. -/
structure TurbineAcl.GlobalWithin (group : String) (acl : TurbineAcl) : Prop where
  roles : (Acl.turbine acl).rolesIn group = .ok acl.globalRoles
  permissions : (Acl.turbine acl).permissionsIn group = .ok acl.globalPermissions
  hasRole : ∀ name, (Acl.turbine acl).hasRoleIn name group = .ok (acl.hasGlobalRole name)
  hasPermission : ∀ name, (Acl.turbine acl).hasPermissionIn name group =
    .ok (acl.hasGlobalPermission name)

theorem Store.Sound.visible_of_key (sound : store.Sound model) {group : Record}
    (stored : group ∈ store.groups.toList)
    {name : String} (same : group.key = nameKey name) : Text.blank name = false := by
  rw [← Text.blank_congr same]
  exact sound.named .group group stored

theorem Store.Sound.assigned_group (sound : store.Sound model) {u g r : EntityId}
    (assigns : store.Assigns u g r) :
    ∃ group ∈ store.groups.toList, group.id = g :=
  Roster.mem_ids.mp (sound.stored _ assigns (.group, g) (by simp [Edge.endpoints]))

theorem answer_eq_true {result : Except Error Bool} {p : Prop}
    (decided : ∃ answer, result = .ok answer ∧ (answer = true ↔ p)) : result = .ok true ↔ p := by
  obtain ⟨answer, rfl, law⟩ := decided
  rw [← law, Except.ok.injEq]

theorem refused_iff {result : Except Error Bool} {group : String} {p : Prop}
    (decided : Text.blank group = false → ∃ answer, result = .ok answer ∧ (answer = true ↔ p))
    (refused : Text.blank group = true → result = .error .groupRequired) :
    (∃ e, result = .error e ∧ e.category = .accessControl) ↔ Text.blank group := by
  constructor
  · rintro ⟨e, failed, -⟩
    rcases blank : Text.blank group with _ | _
    · obtain ⟨answer, answered, -⟩ := decided blank
      cases failed.symm.trans answered
    · rfl
  · intro blank
    exact ⟨.groupRequired, refused blank, rfl⟩

namespace Acl.Exact

variable {acl : Acl} {u : EntityId} (exact : acl.Exact store (store.turbineRights u))
  (sound : store.Sound model)
include exact sound

theorem hasRoleIn_iff (name group : String) : acl.hasRoleIn name group = .ok true ↔
    ∃ g ∈ store.groups.toList, ∃ r ∈ store.roles.toList, g.key = nameKey group ∧ r.key = nameKey name ∧
      store.Assigns u g.id r.id := by
  rcases blank : Text.blank group with _ | _
  · rw [answer_eq_true (exact.hasRoleIn name group blank)]
    constructor
    · rintro ⟨r, r_stored, r_key, g, g_stored, g_key, assigns⟩
      exact ⟨g, g_stored, r, r_stored, g_key, r_key, assigns⟩
    · rintro ⟨g, g_stored, r, r_stored, g_key, r_key, assigns⟩
      exact ⟨r, r_stored, r_key, g, g_stored, g_key, assigns⟩
  · rw [(exact.refused name group blank).2.2.1]
    refine ⟨nofun, ?_⟩
    rintro ⟨g, g_stored, r, r_stored, g_key, -⟩
    cases blank.symm.trans (sound.visible_of_key g_stored g_key)

theorem hasPermissionIn_iff (name group : String) : acl.hasPermissionIn name group = .ok true ↔
    ∃ g ∈ store.groups.toList, ∃ q ∈ store.permissions.toList, ∃ r, g.key = nameKey group ∧
      q.key = nameKey name ∧
      store.Assigns u g.id r ∧ .rolePermission r q.id ∈ store.edges.toList := by
  rcases blank : Text.blank group with _ | _
  · rw [answer_eq_true (exact.hasPermissionIn name group blank)]
    constructor
    · rintro ⟨q, q_stored, q_key, r, ⟨g, g_stored, g_key, assigns⟩, owns⟩
      exact ⟨g, g_stored, q, q_stored, r, g_key, q_key, assigns, owns⟩
    · rintro ⟨g, g_stored, q, q_stored, r, g_key, q_key, assigns, owns⟩
      exact ⟨q, q_stored, q_key, r, ⟨g, g_stored, g_key, assigns⟩, owns⟩
  · rw [(exact.refused name group blank).2.2.2]
    refine ⟨nofun, ?_⟩
    rintro ⟨g, g_stored, q, q_stored, r, g_key, -⟩
    cases blank.symm.trans (sound.visible_of_key g_stored g_key)

theorem hasRole_iff (name : String) : acl.hasRole name = .ok true ↔
    ∃ group, acl.hasRoleIn name group = .ok true := by
  rw [answer_eq_true (exact.hasRole name)]
  constructor
  · rintro ⟨r, r_stored, r_key, g, assigns⟩
    obtain ⟨group, g_stored, rfl⟩ := sound.assigned_group assigns
    exact ⟨group.name, (exact.hasRoleIn_iff sound name group.name).mpr
      ⟨group, g_stored, r, r_stored, rfl, r_key, assigns⟩⟩
  · rintro ⟨group, held⟩
    obtain ⟨g, -, r, r_stored, -, r_key, assigns⟩ := (exact.hasRoleIn_iff sound name group).mp held
    exact ⟨r, r_stored, r_key, g.id, assigns⟩

theorem hasPermission_iff (name : String) :
    acl.hasPermission name = .ok true ↔ ∃ group, acl.hasPermissionIn name group = .ok true := by
  rw [answer_eq_true (exact.hasPermission name)]
  constructor
  · rintro ⟨q, q_stored, q_key, r, ⟨g, assigns⟩, owns⟩
    obtain ⟨group, g_stored, rfl⟩ := sound.assigned_group assigns
    refine ⟨group.name, (exact.hasPermissionIn_iff sound name group.name).mpr ?_⟩
    exact ⟨group, g_stored, q, q_stored, r, rfl, q_key, assigns, owns⟩
  · rintro ⟨group, held⟩
    obtain ⟨g, -, q, q_stored, r, -, q_key, assigns, owns⟩ :=
      (exact.hasPermissionIn_iff sound name group).mp held
    exact ⟨q, q_stored, q_key, r, ⟨g.id, assigns⟩, owns⟩

theorem byGroup : acl.ByGroup store u where
  hasRoleIn := exact.hasRoleIn_iff sound
  hasPermissionIn := exact.hasPermissionIn_iff sound
  roleRefused name group := refused_iff (exact.hasRoleIn name group) fun blank =>
    (exact.refused name group blank).2.2.1
  permissionRefused name group :=
    refused_iff (exact.hasPermissionIn name group) fun blank => (exact.refused name group blank).2.2.2
  hasRole := exact.hasRole_iff sound
  hasPermission := exact.hasPermission_iff sound

end Acl.Exact

theorem TurbineAcl.globalWithin {acl : TurbineAcl} {group : String} (same : acl.globalGroup = group)
    (visible : Text.blank group = false) : acl.GlobalWithin group := by
  have roles : (Acl.turbine acl).rolesIn group = .ok acl.globalRoles := by
    simp only [Acl.rolesIn, requireGroup_ok visible, TurbineAcl.globalRoles, same]
    rfl
  have permissions : (Acl.turbine acl).permissionsIn group = .ok acl.globalPermissions := by
    simp only [Acl.permissionsIn, requireGroup_ok visible, TurbineAcl.globalPermissions, same]
    rfl
  have grouped : (Acl.turbine acl).model ≠ .basic := nofun
  refine ⟨roles, permissions, fun name => ?_, fun name => ?_⟩
  · rw [Acl.hasRoleIn_eq grouped, roles]
    rfl
  · rw [Acl.hasPermissionIn_eq grouped, permissions]
    rfl

/-- Under the turbine model the list of every stored user can be built and is exact, within each group and
without one, and the global group is asked as the group of that name. -/
theorem Service.Reachable.turbine_acl_exact {service : Service} (reachable : service.Reachable)
    (turbine : service.settings.model = .turbine) {record : Record}
    (stored : record ∈ service.state.store.users.toList) :
    service.Builds record fun acl =>
      acl.Exact service.state.store (service.state.store.turbineRights record.id) ∧
        acl.ByGroup service.state.store record.id ∧
        ∃ list, acl = .turbine list ∧ list.GlobalWithin service.settings.globalGroup := by
  refine reachable.builds stored fun user same current => ?_
  subst same
  refine answers_settings.bind fun settings same => ?_
  subst same
  rw [turbine]
  refine (reachable.sound.answers_buildTurbine current _).map fun list held => ?_
  obtain ⟨same, exact⟩ := held
  have visible := reachable.globalGroup_visible
  exact ⟨exact, exact.byGroup reachable.sound, list, rfl, TurbineAcl.globalWithin same visible⟩

/-- Ann is a clerk in two groups, one of them the global one, and a guest in the other. -/
theorem turbine_acl_exact_in_groups :
    let ann : Record := ⟨⟨0⟩, "Ann"⟩
    let staff : Record := ⟨⟨1⟩, "Staff"⟩
    let clerk : Record := ⟨⟨2⟩, "clerk"⟩
    let guest : Record := ⟨⟨3⟩, "guest"⟩
    let read : Record := ⟨⟨4⟩, "read"⟩
    let service := (⟨{ model := .turbine }, {}⟩ : Service).performAll
      [.addUser "Ann" "pw", .add .group "Staff", .add .role "clerk", .add .role "guest",
        .add .permission "read", .globalGroup, .grant .turbine (.userGroupRole ann staff clerk) rfl,
        .grant .turbine (.userGroupRole ann ⟨⟨5⟩, "global"⟩ clerk) rfl,
        .grant .turbine (.userGroupRole ann staff guest) rfl,
        .grant .turbine (.rolePermission clerk read) rfl,
        .grant .turbine (.rolePermission guest read) rfl]
    let store := service.state.store
    store.edges.size = 5 ∧ service.Builds ann fun acl => acl.Exact store (store.turbineRights ⟨0⟩) ∧
      acl.ByGroup store ⟨0⟩ ∧ ∃ list, acl = .turbine list ∧
        list.GlobalWithin service.settings.globalGroup := by
  refine ⟨by decide +kernel, ?_⟩
  have started : Service.start { model := .turbine } {} = .ok ⟨{ model := .turbine }, {}⟩ := rfl
  have begun : Service.Reachable ⟨{ model := .turbine }, {}⟩ := Service.Reachable.start 0 0 0 ⟨0⟩ started
  exact Service.Reachable.turbine_acl_exact (begun.performAll _) (by decide +kernel) (by decide +kernel)

end Entitlement
