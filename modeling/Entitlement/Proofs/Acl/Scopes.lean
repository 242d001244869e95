import Entitlement.Proofs.Acl.Turbine
import Entitlement.Proofs.Roster.Copies

/-!
Under the turbine model a question without a group is the question within any assigned group, whatever
assignments a list is made of. Two things stand apart: nobody can ask within a group of blank name, and each set
goes by the copy of an identity that it got first, which need not be the one that another set goes by.
-/

namespace Entitlement

open Std (TreeMap)

/-- The role brings a permission of that name. -/
def Role.Carries (role : Role) (name : String) : Prop :=
  ∃ permission ∈ role.permissions.toList, permission.key = nameKey name

/-- One of the role's permissions has that name in the copy that is known. -/
def Role.Gives (role : Role) (known : List Record) (name : String) : Prop :=
  ∃ permission ∈ known, permission.key = nameKey name ∧ ∃ own ∈ role.permissions.toList, own.id = permission.id

instance (role : Role) (known : List Record) (name : String) : Decidable (role.Gives known name) :=
  inferInstanceAs (Decidable (∃ permission ∈ known, permission.key = nameKey name ∧
    ∃ own ∈ role.permissions.toList, own.id = permission.id))

/-- The permissions that come with roles. -/
def broughtBy (roles : List Role) : List Record := roles.flatMap fun role => role.permissions.toList

theorem mem_broughtBy {roles : List Role} {permission : Record} :
    permission ∈ broughtBy roles ↔ ∃ role ∈ roles, permission ∈ role.permissions.toList := List.mem_flatMap

theorem permissionsOf_firsts {roles : Roster Role} {permissions : Roster Record}
    (made : permissionsOf roles = .ok permissions) :
    permissions.Firsts (broughtBy roles.toList) := by
  refine except_foldlM_inv (fun (done : List Role) (permissions : Roster Record) =>
    permissions.Firsts (broughtBy done)) ?_ Roster.Firsts.empty made
  intro done role permissions next _ held joined
  rw [broughtBy, List.flatMap_append, List.flatMap_singleton]
  exact held.joinAll joined

theorem GroupRoles.of_join {groups grown : GroupRoles} {key : String} {role : Role}
    (joined : groups.join key role = .ok grown) :
    ∃ roles, (groups.getD key {}).join role = .ok roles ∧ grown = groups.insert key roles := by
  obtain ⟨roles, joined_within, ⟨⟩⟩ := except_bind_eq_ok.mp joined
  exact ⟨roles, joined_within, rfl⟩

theorem OwnedBy.of_fold {groupRoles : GroupRoles} {byGroup : TreeMap String (Roster Record)}
    (folded : (groupRoles.toList.foldlM (fun byGroup (key, roles) => do
      return byGroup.insert key (← permissionsOf roles)) ({} : TreeMap String (Roster Record))) = .ok byGroup) :
    OwnedBy groupRoles groupRoles.toList byGroup := by
  refine except_foldlM_inv (OwnedBy groupRoles) ?_ ⟨by simp, by simp⟩ folded
  rintro done ⟨key, roles⟩ byGroup next mem owned stepped
  obtain ⟨permissions, made, inserted⟩ := except_bind_eq_ok.mp stepped
  cases inserted
  refine owned.insert ?_
  rwa [TreeMap.getD_eq_getD_getElem?, TreeMap.mem_toList_iff_getElem?_eq_some.mp mem]

namespace TurbineAcl

variable {acl next : TurbineAcl} {assigned : List (Record × Role)} {group : Record} {role : Role}
  {name key : String}

/-- The roles assigned within the groups of a key. -/
def rolesWithin (key : String) (assigned : List (Record × Role)) : List Role :=
  (assigned.filter fun assignment => assignment.1.key = key).map Prod.snd

theorem rolesWithin_subset : rolesWithin key assigned ⊆ assigned.map Prod.snd :=
  (List.filter_sublist.map Prod.snd).subset

theorem mem_rolesWithin : role ∈ rolesWithin key assigned ↔ ∃ group, (group, role) ∈ assigned ∧ group.key = key := by
  simp [rolesWithin]

/-- The first role of an identity is also the first one within the group where it was assigned first. -/
theorem exists_first_within (first : Listing.get? (assigned.map Prod.snd) role.id = some role) :
    ∃ group, (group, role) ∈ assigned ∧ Listing.get? (rolesWithin group.key assigned) role.id = some role := by
  unfold Listing.get? at first
  rw [List.find?_map, Option.map_eq_some_iff] at first
  obtain ⟨⟨group, role⟩, found, rfl⟩ := first
  obtain ⟨-, before, after, rfl, others⟩ := List.find?_eq_some_iff_append.mp found
  refine ⟨group, by simp, ?_⟩
  unfold Listing.get? rolesWithin
  rw [List.find?_map, List.find?_filter, Option.map_eq_some_iff]
  have itself : decide ((Named.record role).id = role.id) = true := decide_eq_true rfl
  refine ⟨(group, role), List.find?_eq_some_iff_append.mpr ⟨?_, before, after, rfl, fun other mem => ?_⟩, rfl⟩
  · simpa using itself
  · have differs := others other mem
    simp only [Function.comp_apply, Bool.not_eq_true', decide_eq_false_iff_not] at differs
    simp [differs]

/-- Each set has the first copies of what has been assigned so far, on the whole or within the groups of a
key. -/
structure Files (assigned : List (Record × Role)) (acl : TurbineAcl) : Prop where
  groups : acl.groups.Firsts (assigned.map Prod.fst)
  roles : acl.roles.Firsts (assigned.map Prod.snd)
  within : ∀ key, (acl.groupRoles.getD key {}).Firsts (rolesWithin key assigned)

theorem Files.assign (files : acl.Files assigned) (assigns : acl.assign group role = .ok next) :
    next.Files (assigned ++ [(group, role)]) := by
  obtain ⟨groupRoles, joined_within, assigns⟩ := except_bind_eq_ok.mp assigns
  obtain ⟨roles, joined_roles, assigns⟩ := except_bind_eq_ok.mp assigns
  obtain ⟨groups, joined_groups, ⟨⟩⟩ := except_bind_eq_ok.mp assigns
  obtain ⟨within, joined, rfl⟩ := GroupRoles.of_join joined_within
  constructor
  · rw [List.map_append]
    exact files.groups.join joined_groups
  · rw [List.map_append]
    exact files.roles.join joined_roles
  · intro key
    rw [TreeMap.getD_insert, rolesWithin, List.filter_append, List.map_append]
    by_cases same : group.key = key
    · subst same
      rw [if_pos Std.ReflCmp.compare_self, List.filter_singleton, decide_eq_true rfl]
      exact (files.within group.key).join joined
    · rw [if_neg fun eq => same (Std.LawfulEqOrd.eq_of_compare eq), List.filter_singleton, decide_eq_false same,
        cond_false, List.map_nil, List.append_nil]
      exact files.within key

/-- The permissions are the first copies of those that the roles bring. -/
structure Files.Made (assigned : List (Record × Role)) (acl : TurbineAcl) : Prop extends acl.Files assigned where
  permissions : acl.permissions.Firsts (broughtBy acl.roles.toList)
  permissionsWithin : ∀ key,
    (acl.groupPermissions.getD key {}).Firsts (broughtBy (acl.groupRoles.getD key {}).toList)

theorem made_of_assignments {user : Record} {globalGroup : String}
    (made : ofAssignments user assigned globalGroup = .ok acl) : Files.Made assigned acl := by
  obtain ⟨bare, folded, made⟩ := except_bind_eq_ok.mp made
  obtain ⟨groupPermissions, made_within, made⟩ := except_bind_eq_ok.mp made
  obtain ⟨permissions, made_all, ⟨⟩⟩ := except_bind_eq_ok.mp made
  have files : bare.Files assigned := by
    refine except_foldlM_inv (fun done (acl : TurbineAcl) => acl.Files done) ?_ ?_ folded
    · intro done assignment acl next _ files assigns
      exact files.assign assigns
    · exact ⟨.empty, .empty, fun key => by rw [TreeMap.getD_emptyc]; exact .empty⟩
  exact ⟨⟨files.groups, files.roles, files.within⟩, permissionsOf_firsts made_all,
    fun key => permissionsOf_firsts ((OwnedBy.of_fold made_within).eq key)⟩

end TurbineAcl

theorem Roster.Firsts.containsName_iff_gives {roles : List Role} {permissions : Roster Record} {name : String}
    (firsts : permissions.Firsts (broughtBy roles)) :
    permissions.containsName name ↔ ∃ role ∈ roles, role.Gives permissions.toList name := by
  rw [firsts.agrees.containsName_iff_exists]
  constructor
  · rintro ⟨permission, mem, same⟩
    obtain ⟨role, role_mem, brings⟩ := mem_broughtBy.mp (firsts.subset mem)
    exact ⟨role, role_mem, permission, mem, same, permission, brings, rfl⟩
  · rintro ⟨role, -, permission, mem, same, -⟩
    exact ⟨permission, mem, same⟩

theorem Role.gives_own {role : Role} {name : String} : role.Gives role.permissions.toList name ↔ role.Carries name :=
  ⟨fun ⟨permission, mem, same, _⟩ => ⟨permission, mem, same⟩,
    fun ⟨permission, mem, same⟩ => ⟨permission, mem, same, permission, mem, rfl⟩⟩

namespace TurbineAcl

variable {acl : TurbineAcl} {assigned : List (Record × Role)} {assignment : Record × Role} {name group : String}

/-- The roles that a list goes by without a group, and their permissions: the first copy of each. -/
def whole (assigned : List (Record × Role)) : List Role × List Record :=
  let roles := Listing.firsts (assigned.map Prod.snd)
  (roles, Listing.firsts (broughtBy roles))

/-- What an assignment counts for: the first copies in its group, or its role alone where nobody can ask within
the group. -/
def scope (assigned : List (Record × Role)) (assignment : Record × Role) : List Role × List Record :=
  if Text.blank assignment.1.name then ([assignment.2], assignment.2.permissions.toList)
  else
    let roles := Listing.firsts (rolesWithin assignment.1.key assigned)
    (roles, Listing.firsts (broughtBy roles))

/-- A role has the name by its first copy if it has it by the copy in some scope. -/
def RolesLead (assigned : List (Record × Role)) (name : String) : Prop :=
  ∀ assignment ∈ assigned, ∀ role ∈ (scope assigned assignment).1, ∀ first ∈ (whole assigned).1, first.id = role.id →
    role.key = nameKey name → first.key = nameKey name

/-- The same for permissions of that name, where the permissions have their copies too. -/
structure PermissionsLead (assigned : List (Record × Role)) (name : String) : Prop where
  ofScope : ∀ assignment ∈ assigned, ∀ role ∈ (scope assigned assignment).1, ∀ first ∈ (whole assigned).1,
    first.id = role.id → role.Gives (scope assigned assignment).2 name → first.Gives (whole assigned).2 name
  /-- Here the role is one and the same copy on both sides. -/
  inScope : ∀ assignment ∈ assigned, ∀ role ∈ (scope assigned assignment).1, role ∈ (whole assigned).1 →
    role.Gives (whole assigned).2 name → role.Gives (scope assigned assignment).2 name

/-- A group has the name by its first copy if it has it by any. -/
def GroupsLead (assigned : List (Record × Role)) (name : String) : Prop :=
  ∀ assignment ∈ assigned, ∀ first ∈ Listing.firsts (assigned.map Prod.fst), first.id = assignment.1.id →
    assignment.1.key = nameKey name → first.key = nameKey name

theorem scope_of_blank (blank : Text.blank assignment.1.name) :
    scope assigned assignment = ([assignment.2], assignment.2.permissions.toList) := if_pos blank

theorem Files.scope_of_visible (files : acl.Files assigned) (visible : Text.blank assignment.1.name = false) :
    scope assigned assignment = ((acl.scopedRoles assignment.1.name).toList,
      Listing.firsts (broughtBy (acl.scopedRoles assignment.1.name).toList)) := by
  rw [scope, if_neg (Bool.eq_false_iff.mp visible), scopedRoles, (files.within _).listed]
  rfl

theorem rolesIn_eq (acl : TurbineAcl) (visible : Text.blank group = false) :
    (Acl.turbine acl).rolesIn group = .ok (acl.scopedRoles group) := by
  rw [Acl.rolesIn, requireGroup_ok visible]
  rfl

theorem contained_within {α : Type} {members : Roster α} :
    ((·.containsName name) <$> (do requireGroup group; return members) : Except Error Bool) = .ok true ↔
      Text.blank group = false ∧ members.containsName name := by
  cases blank : Text.blank group with
  | true =>
    rw [requireGroup_refused blank]
    refine iff_of_false (fun answered => ?_) fun both => ?_
    · cases answered
    · cases both.1
  | false =>
    rw [requireGroup_ok blank, and_iff_right rfl]
    exact iff_of_eq (Except.ok.injEq _ _)

theorem hasRoleIn_eq_true (acl : TurbineAcl) : (Acl.turbine acl).hasRoleIn name group = .ok true ↔
    Text.blank group = false ∧ (acl.scopedRoles group).containsName name := contained_within

theorem hasPermissionIn_eq_true (acl : TurbineAcl) : (Acl.turbine acl).hasPermissionIn name group = .ok true ↔
    Text.blank group = false ∧ (acl.scopedPermissions group).containsName name := contained_within

namespace Files

theorem roles_eq (files : acl.Files assigned) : acl.roles.toList = (whole assigned).1 := files.roles.listed

/-- Each role of the whole list stands in the scope of the assignment that brought it first. -/
theorem exists_scope (files : acl.Files assigned) {role : Role} (mem : role ∈ (whole assigned).1) :
    ∃ assignment ∈ assigned, role ∈ (scope assigned assignment).1 := by
  rw [← files.roles_eq] at mem
  obtain ⟨group, assigns, first⟩ := exists_first_within (files.roles.mem_iff.mp mem)
  refine ⟨(group, role), assigns, ?_⟩
  cases blank : Text.blank group.name with
  | true =>
    rw [scope_of_blank blank]
    exact List.mem_singleton_self role
  | false =>
    rw [files.scope_of_visible blank]
    exact (files.within group.key).mem_iff.mpr first

theorem exists_first (files : acl.Files assigned) (assigns : assignment ∈ assigned) {role : Role}
    (mem : role ∈ (scope assigned assignment).1) : ∃ first ∈ (whole assigned).1, first.id = role.id := by
  rw [← files.roles_eq]
  refine files.roles.exists_copy (?_ : role ∈ assigned.map Prod.snd)
  cases blank : Text.blank assignment.1.name with
  | true =>
    rw [scope_of_blank blank, List.mem_singleton] at mem
    exact mem ▸ List.mem_map_of_mem assigns
  | false =>
    rw [files.scope_of_visible blank] at mem
    exact rolesWithin_subset ((files.within _).subset mem)

theorem hasRole_eq_true (files : acl.Files assigned) :
    (Acl.turbine acl).hasRole name = .ok true ↔ ∃ role ∈ (whole assigned).1, role.key = nameKey name := by
  rw [Acl.hasRole, Except.ok.injEq, files.roles.agrees.containsName_iff_exists, files.roles_eq]
  rfl

theorem exists_named_iff (files : acl.Files assigned) :
    (∃ role ∈ (scope assigned assignment).1, role.key = nameKey name) ↔
      (Acl.turbine acl).hasRoleIn name assignment.1.name = .ok true ∨
        Text.blank assignment.1.name ∧ assignment.2.key = nameKey name := by
  rw [acl.hasRoleIn_eq_true]
  cases blank : Text.blank assignment.1.name with
  | true => simp [scope_of_blank blank]
  | false =>
    rw [files.scope_of_visible blank, scopedRoles, (files.within _).agrees.containsName_iff_exists]
    simp only [Bool.false_eq_true, false_and, or_false, true_and]
    rfl

theorem roleWithin (files : acl.Files assigned) (held : (Acl.turbine acl).hasRole name = .ok true) :
    ∃ assignment ∈ assigned, (Acl.turbine acl).hasRoleIn name assignment.1.name = .ok true ∨
      Text.blank assignment.1.name ∧ assignment.2.key = nameKey name := by
  obtain ⟨role, mem, same⟩ := files.hasRole_eq_true.mp held
  obtain ⟨assignment, assigns, within⟩ := files.exists_scope mem
  exact ⟨assignment, assigns, files.exists_named_iff.mp ⟨role, within, same⟩⟩

theorem hasRole_iff (files : acl.Files assigned) (lead : RolesLead assigned name) :
    (Acl.turbine acl).hasRole name = .ok true ↔ ∃ assignment ∈ assigned,
      (Acl.turbine acl).hasRoleIn name assignment.1.name = .ok true ∨
        Text.blank assignment.1.name ∧ assignment.2.key = nameKey name := by
  refine ⟨files.roleWithin, ?_⟩
  rintro ⟨assignment, assigns, answered⟩
  obtain ⟨role, within, same⟩ := files.exists_named_iff.mpr answered
  obtain ⟨first, mem, copies⟩ := files.exists_first assigns within
  exact files.hasRole_eq_true.mpr ⟨first, mem, lead assignment assigns role within first mem copies same⟩

theorem rolesIn_nonempty_iff (files : acl.Files assigned) (visible : Text.blank group = false) :
    (∃ roles, (Acl.turbine acl).rolesIn group = .ok roles ∧ roles.isEmpty = false) ↔
      ∃ assignment ∈ assigned, assignment.1.key = nameKey group := by
  rw [acl.rolesIn_eq visible]
  constructor
  · rintro ⟨roles, ⟨⟩, nonempty⟩
    obtain ⟨role, mem⟩ := Roster.isEmpty_eq_false.mp nonempty
    obtain ⟨held, assigns, same⟩ := mem_rolesWithin.mp ((files.within _).subset mem)
    exact ⟨(held, role), assigns, same⟩
  · rintro ⟨⟨held, role⟩, assigns, same⟩
    obtain ⟨first, first_mem, -⟩ := (files.within _).exists_copy (mem_rolesWithin.mpr ⟨held, assigns, same⟩)
    exact ⟨_, rfl, Roster.isEmpty_eq_false.mpr ⟨first, first_mem⟩⟩

theorem rolesWithin (files : acl.Files assigned) (visible : Text.blank group = false)
    (inside : (Acl.turbine acl).isInGroup group) :
    ∃ roles, (Acl.turbine acl).rolesIn group = .ok roles ∧ roles.isEmpty = false := by
  obtain ⟨held, mem, same⟩ := files.groups.agrees.containsName_iff_exists.mp inside
  obtain ⟨assignment, assigns, rfl⟩ := List.mem_map.mp (files.groups.subset mem)
  exact (files.rolesIn_nonempty_iff visible).mpr ⟨assignment, assigns, same⟩

theorem isInGroup_iff (files : acl.Files assigned) (visible : Text.blank group = false)
    (lead : GroupsLead assigned group) : (Acl.turbine acl).isInGroup group ↔
      ∃ roles, (Acl.turbine acl).rolesIn group = .ok roles ∧ roles.isEmpty = false := by
  refine ⟨files.rolesWithin visible, fun nonempty => ?_⟩
  obtain ⟨assignment, assigns, same⟩ := (files.rolesIn_nonempty_iff visible).mp nonempty
  obtain ⟨first, mem, copies⟩ := files.groups.exists_copy (List.mem_map_of_mem assigns)
  have listed : first ∈ Listing.firsts (assigned.map Prod.fst) := files.groups.listed ▸ mem
  have named := lead assignment assigns first listed copies same
  exact files.groups.agrees.containsName_iff_exists.mpr ⟨first, mem, named⟩

end Files

namespace Files.Made

theorem exists_giving_iff (made : Files.Made assigned acl) :
    (∃ role ∈ (scope assigned assignment).1, role.Gives (scope assigned assignment).2 name) ↔
      (Acl.turbine acl).hasPermissionIn name assignment.1.name = .ok true ∨
        Text.blank assignment.1.name ∧ assignment.2.Carries name := by
  rw [acl.hasPermissionIn_eq_true]
  cases blank : Text.blank assignment.1.name with
  | true => simp [scope_of_blank blank, Role.gives_own]
  | false =>
    have within := made.permissionsWithin (nameKey assignment.1.name)
    rw [made.scope_of_visible blank, scopedPermissions, within.containsName_iff_gives, within.listed]
    simp [scopedRoles]

theorem hasPermission_eq_true (made : Files.Made assigned acl) : (Acl.turbine acl).hasPermission name = .ok true ↔
    ∃ role ∈ (whole assigned).1, role.Gives (whole assigned).2 name := by
  rw [Acl.hasPermission, Except.ok.injEq, made.permissions.containsName_iff_gives, made.permissions.listed,
    made.roles_eq]
  rfl

theorem hasPermission_iff (made : Files.Made assigned acl) (lead : PermissionsLead assigned name) :
    (Acl.turbine acl).hasPermission name = .ok true ↔ ∃ assignment ∈ assigned,
      (Acl.turbine acl).hasPermissionIn name assignment.1.name = .ok true ∨
        Text.blank assignment.1.name ∧ assignment.2.Carries name := by
  rw [made.hasPermission_eq_true]
  constructor
  · rintro ⟨role, mem, gives⟩
    obtain ⟨assignment, assigns, within⟩ := made.exists_scope mem
    have given := lead.inScope assignment assigns role within mem gives
    exact ⟨assignment, assigns, made.exists_giving_iff.mp ⟨role, within, given⟩⟩
  · rintro ⟨assignment, assigns, answered⟩
    obtain ⟨role, within, gives⟩ := made.exists_giving_iff.mpr answered
    obtain ⟨first, mem, copies⟩ := made.exists_first assigns within
    exact ⟨first, mem, lead.ofScope assignment assigns role within first mem copies gives⟩

end Files.Made

/-- Without a group the list answers for all assigned groups together, as to any name that the first copies have
wherever a copy in some scope has it. Nobody can ask within a group of blank name, so what is assigned there
counts by itself. -/
structure Unites (assigned : List (Record × Role)) (acl : TurbineAcl) : Prop where
  hasRole : ∀ name, RolesLead assigned name →
    ((Acl.turbine acl).hasRole name = .ok true ↔ ∃ assignment ∈ assigned,
      (Acl.turbine acl).hasRoleIn name assignment.1.name = .ok true ∨
        Text.blank assignment.1.name ∧ assignment.2.key = nameKey name)
  hasPermission : ∀ name, PermissionsLead assigned name →
    ((Acl.turbine acl).hasPermission name = .ok true ↔ ∃ assignment ∈ assigned,
      (Acl.turbine acl).hasPermissionIn name assignment.1.name = .ok true ∨
        Text.blank assignment.1.name ∧ assignment.2.Carries name)
  isInGroup : ∀ group, Text.blank group = false → GroupsLead assigned group →
    ((Acl.turbine acl).isInGroup group ↔
      ∃ roles, (Acl.turbine acl).rolesIn group = .ok roles ∧ roles.isEmpty = false)
  /-- A yes without a group is a yes within one, whatever the copies are like. -/
  roleWithin : ∀ name, (Acl.turbine acl).hasRole name = .ok true → ∃ assignment ∈ assigned,
    (Acl.turbine acl).hasRoleIn name assignment.1.name = .ok true ∨
      Text.blank assignment.1.name ∧ assignment.2.key = nameKey name
  rolesWithin : ∀ group, Text.blank group = false → (Acl.turbine acl).isInGroup group →
    ∃ roles, (Acl.turbine acl).rolesIn group = .ok roles ∧ roles.isEmpty = false
  refused : ∀ name group, Text.blank group → (Acl.turbine acl).hasRoleIn name group = .error .groupRequired ∧
    (Acl.turbine acl).hasPermissionIn name group = .error .groupRequired

/-- Every list that can be made of assignments unites its scopes. -/
theorem unites_scopes {user : Record} {globalGroup : String} (made : ofAssignments user assigned globalGroup = .ok acl) :
    acl.Unites assigned := by
  have made := made_of_assignments made
  constructor
  case hasRole => exact fun name lead => made.hasRole_iff lead
  case hasPermission => exact fun name lead => made.hasPermission_iff lead
  case isInGroup => exact fun group visible lead => made.isInGroup_iff visible lead
  case roleWithin => exact fun name held => made.roleWithin held
  case rolesWithin => exact fun group visible inside => made.rolesWithin visible inside
  case refused =>
    intro name group blank
    simp only [Acl.hasRoleIn, Acl.hasPermissionIn, Acl.rolesIn, Acl.permissionsIn, requireGroup_refused blank]
    exact ⟨rfl, rfl⟩

end TurbineAcl

/-- Ann is a clerk in two groups, in one of them by a second copy too that nothing goes by, and a guest in a group
of blank name. -/
theorem unites_scopes_of_clerk :
    let clerk : Role := { id := ⟨3⟩, name := "clerk", permissions := .ofDistinct #[⟨⟨4⟩, "read"⟩] }
    let auditor : Role := { id := ⟨3⟩, name := "auditor", permissions := .ofDistinct #[⟨⟨4⟩, "look"⟩] }
    let guest : Role := { id := ⟨5⟩, name := "guest" }
    let assigned : List (Record × Role) :=
      [(⟨⟨1⟩, "staff"⟩, clerk), (⟨⟨1⟩, "staff"⟩, auditor), (⟨⟨2⟩, "board"⟩, clerk), (⟨⟨6⟩, " "⟩, guest)]
    ∃ acl, TurbineAcl.ofAssignments ⟨⟨0⟩, "ann"⟩ assigned "global" = .ok acl ∧ acl.Unites assigned ∧
      TurbineAcl.RolesLead assigned "auditor" ∧ TurbineAcl.PermissionsLead assigned "look" ∧
      TurbineAcl.PermissionsLead assigned "read" ∧ TurbineAcl.GroupsLead assigned "staff" ∧
      (Acl.turbine acl).hasPermissionIn "READ" "Board" = .ok true := by
  intro clerk auditor guest assigned
  have roles : TurbineAcl.RolesLead assigned "auditor" := by
    unfold TurbineAcl.RolesLead
    decide +kernel
  have permissions : ∀ name ∈ ["look", "read"], TurbineAcl.PermissionsLead assigned name := by
    have in_scope : ∀ name ∈ ["look", "read"], ∀ assignment ∈ assigned,
        ∀ role ∈ (TurbineAcl.scope assigned assignment).1, role.Gives (TurbineAcl.whole assigned).2 name →
          role.Gives (TurbineAcl.scope assigned assignment).2 name := by decide +kernel
    intro name mem
    constructor
    case ofScope =>
      revert name
      decide +kernel
    case inScope => exact fun assignment assigns role within _ => in_scope name mem assignment assigns role within
  have groups : TurbineAcl.GroupsLead assigned "staff" := by
    unfold TurbineAcl.GroupsLead
    decide +kernel
  have answered : (TurbineAcl.ofAssignments ⟨⟨0⟩, "ann"⟩ assigned "global").map (fun acl =>
    (Acl.turbine acl).hasPermissionIn "READ" "Board") = .ok (.ok true) := by decide +kernel
  cases made : TurbineAcl.ofAssignments ⟨⟨0⟩, "ann"⟩ assigned "global" with
  | error e =>
    rw [made] at answered
    cases answered
  | ok acl =>
    rw [made] at answered
    exact ⟨acl, rfl, TurbineAcl.unites_scopes made, roles, permissions "look" (by simp),
      permissions "read" (by simp), groups, Except.ok.inj answered⟩

/-- What is assigned in a group of blank name is had, but not within any group, and a second copy under another
name is known in its own group only. -/
theorem scopes_miss_blank_group :
    let ann : Record := ⟨⟨0⟩, "ann"⟩
    let clerk : Role := { id := ⟨3⟩, name := "clerk", permissions := .ofDistinct #[⟨⟨4⟩, "read"⟩] }
    let auditor : Role := { id := ⟨3⟩, name := "auditor", permissions := .ofDistinct #[⟨⟨4⟩, "look"⟩] }
    (∃ acl ∈ (TurbineAcl.ofAssignments ann [(⟨⟨1⟩, " "⟩, clerk)] "global").toOption,
      (Acl.turbine acl).hasRole "clerk" = .ok true ∧ (Acl.turbine acl).hasPermission "read" = .ok true ∧
      (Acl.turbine acl).hasRoleIn "clerk" " " ≠ .ok true ∧
      (Acl.turbine acl).hasPermissionIn "read" " " ≠ .ok true) ∧
    (∃ acl ∈ (TurbineAcl.ofAssignments ann [(⟨⟨1⟩, "staff"⟩, clerk), (⟨⟨1⟩, "board"⟩, auditor)] "global").toOption,
      (Acl.turbine acl).hasRoleIn "auditor" "board" = .ok true ∧
      (Acl.turbine acl).hasRole "auditor" ≠ .ok true ∧
      (Acl.turbine acl).hasPermissionIn "look" "board" = .ok true ∧
      (Acl.turbine acl).hasPermission "look" ≠ .ok true ∧
      (∃ roles ∈ ((Acl.turbine acl).rolesIn "board").toOption, roles.isEmpty = false) ∧
      (Acl.turbine acl).isInGroup "board" = false) := by
  decide +kernel

end Entitlement
