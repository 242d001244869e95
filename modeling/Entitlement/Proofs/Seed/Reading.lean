import Entitlement.Proofs.Seed.Bearing

/-!
What the grants of a seed say of roles and permissions when their names are compared by key, and that a graph
which bears these grants says the same.
-/

namespace Entitlement

/-! ### What the grants say -/

namespace Seed

/-- The user may act with the roles of the principal. -/
def ActsFor (seed : Seed) (user principal : String) : Prop :=
  Relation.ReflTransGen (fun delegator delegatee => seed.Grants (.delegation delegator delegatee)) principal user

def ConfersRole (seed : Seed) (user group role : String) : Prop :=
  seed.Grants (.userGroup user group) ∧ seed.Grants (.groupRole group role)

def HoldsRole (seed : Seed) (user role : String) : Prop :=
  seed.Grants (.userRole user role) ∨ ∃ group, seed.ConfersRole user group role

/-- Under Turbine the user holds the role within the group. -/
def AssignsRole (seed : Seed) (settings : Settings) (user group role : String) : Prop :=
  seed.Grants (.userGroupRole user group role) ∨
    seed.Grants (.userRole user role) ∧ nameKey group = nameKey settings.globalGroup

def AllowsRole (seed : Seed) (settings : Settings) (user role : String) (group : Option String) : Prop :=
  match settings.model, group with
  | .basic, _ => False
  | .dynamic, none => ∃ principal, seed.ActsFor user principal ∧ seed.HoldsRole principal role
  | .dynamic, some group => seed.ConfersRole user group role
  | .turbine, none => ∃ group, seed.AssignsRole settings user group role
  | .turbine, some group => seed.AssignsRole settings user group role

def AllowsPermission (seed : Seed) (settings : Settings) (user permission : String) (group : Option String) : Prop :=
  match settings.model, group with
  | .basic, none => seed.Grants (.userGroup user permission)
  | .basic, some _ => False
  | .dynamic, _ | .turbine, _ =>
    ∃ role, seed.AllowsRole settings user role group ∧ seed.Grants (.rolePermission role permission)

end Seed

/-! ### Names for identities -/

namespace Store

variable {model : Model} {store : Store} (sound : store.Sound model)
include sound

/-- Whatever an edge leads to has a name that leads to it. -/
theorem Sound.called_end {edge : Edge EntityId} (mem : edge ∈ store.edges.toList) (end' : Kind × EntityId)
    (at_end : end' ∈ edge.endpoints) : ∃ name record, store.called? end'.1 name = some record ∧ record.id = end'.2 := by
  obtain ⟨record, stored, same⟩ := Roster.mem_ids.mp (sound.stored edge mem end' at_end)
  exact ⟨record.name, record, sound.called?_name stored, same⟩

theorem Sound.names_iff {kind : Kind} {S : EntityId → Prop} {name : String} {held : Prop}
    (same : ∀ record, store.called? kind name = some record → (S record.id ↔ held))
    (known : held → ∃ record, store.called? kind name = some record) : store.Names kind S name ↔ held := by
  constructor
  · rintro ⟨record, stored, key, belongs⟩
    exact (same record (sound.called?_eq_some_iff.mpr ⟨stored, key⟩)).mp belongs
  · intro holds
    obtain ⟨record, leads⟩ := known holds
    obtain ⟨stored, key⟩ := sound.called?_eq_some_iff.mp leads
    exact ⟨record, stored, key, (same record leads).mpr holds⟩

namespace Bears

variable {grants : Edge String → Prop} {seed : Seed} {settings : Settings} {user group role : String}
  {u r : Record} (found : store.called? .user user = some u)

/-- A permission is held by the roles that own it. -/
theorem names_permission_iff (bears : store.Bears grants) {S : EntityId → Prop} {held : String → Prop}
    (roles : ∀ role, store.Names .role S role ↔ held role) (permission : String) :
    store.Names .permission (fun q => ∃ r, S r ∧ .rolePermission r q ∈ store.edges.toList) permission ↔
      ∃ role, held role ∧ grants (.rolePermission role permission) := by
  apply sound.names_iff
  · intro p leads
    constructor
    · rintro ⟨r, belongs, owns⟩
      obtain ⟨role, record, leads', rfl⟩ := sound.called_end owns (.role, r) (by simp [Edge.endpoints])
      obtain ⟨stored, key⟩ := sound.called?_eq_some_iff.mp leads'
      have granted := bears.edges (.rolePermission role permission) (.rolePermission record p)
        (by simp [Edge.resolve, leads, leads'])
      exact ⟨role, (roles role).mp ⟨record, stored, key, belongs⟩, granted.mp owns⟩
    · rintro ⟨role, holds, granted⟩
      obtain ⟨record, stored, key, belongs⟩ := (roles role).mpr holds
      have leads' := sound.called?_eq_some_iff.mpr ⟨stored, key⟩
      have owns := bears.edges (.rolePermission role permission) (.rolePermission record p)
        (by simp [Edge.resolve, leads, leads'])
      exact ⟨record.id, belongs, owns.mpr granted⟩
  · rintro ⟨role, -, granted⟩
    exact bears.known _ granted (.permission, permission) (by simp [Edge.endpoints])

/-! ### Dynamic -/

section Dynamic

variable (bears : store.Bears seed.Grants)
include bears

omit sound in
theorem confers_iff {g : Record} (found : store.called? .user user = some u)
    (found' : store.called? .group group = some g) (found'' : store.called? .role role = some r) :
    .userGroup u.id g.id ∈ store.edges.toList ∧ .groupRole g.id r.id ∈ store.edges.toList ↔
      seed.ConfersRole user group role :=
  and_congr
    (bears.edges (.userGroup user group) (.userGroup u g) (by simp [Edge.resolve, found, found']))
    (bears.edges (.groupRole group role) (.groupRole g r) (by simp [Edge.resolve, found', found'']))

theorem holdsRole_iff (found : store.called? .user user = some u) (found' : store.called? .role role = some r) :
    store.HoldsRole u.id r.id ↔ seed.HoldsRole user role := by
  refine or_congr (bears.edges (.userRole user role) (.userRole u r) (by simp [Edge.resolve, found, found'])) ?_
  constructor
  · rintro ⟨g, belongs, confers⟩
    obtain ⟨group, record, leads, rfl⟩ := sound.called_end belongs (.group, g) (by simp [Edge.endpoints])
    exact ⟨group, (bears.confers_iff found leads found').mp ⟨belongs, confers⟩⟩
  · rintro ⟨group, conferred⟩
    obtain ⟨record, leads⟩ := bears.known _ conferred.1 (.group, group) (by simp [Edge.endpoints])
    exact ⟨record.id, (bears.confers_iff found leads found').mpr conferred⟩

/-- Delegations are followed from the user to those who delegated, on both sides in step. -/
theorem actsFor_named (found : store.called? .user user = some u) {p : EntityId} (acts : store.ActsFor u.id p) :
    ∃ principal record, store.called? .user principal = some record ∧ record.id = p ∧
      seed.ActsFor user principal := by
  induction acts using Relation.ReflTransGen.head_induction_on with
  | refl => exact ⟨user, u, found, rfl, .refl⟩
  | @head p q delegates _ ih =>
    obtain ⟨delegatee, record, leads, rfl, acts⟩ := ih
    obtain ⟨delegator, record', leads', rfl⟩ := sound.called_end delegates (.user, p) (by simp [Edge.endpoints])
    have granted := bears.edges (.delegation delegator delegatee) (.delegation record' record)
      (by simp [Edge.resolve, leads, leads'])
    exact ⟨delegator, record', leads', rfl, .head (granted.mp delegates) acts⟩

omit sound in
theorem actsFor_stored (found : store.called? .user user = some u) {principal : String}
    (acts : seed.ActsFor user principal) :
    ∃ record, store.called? .user principal = some record ∧ store.ActsFor u.id record.id := by
  induction acts using Relation.ReflTransGen.head_induction_on with
  | refl => exact ⟨u, found, .refl⟩
  | @head delegator delegatee delegates _ ih =>
    obtain ⟨record, leads, acts⟩ := ih
    obtain ⟨record', leads'⟩ := bears.known _ delegates (.user, delegator) (by simp [Edge.endpoints])
    have granted := bears.edges (.delegation delegator delegatee) (.delegation record' record)
      (by simp [Edge.resolve, leads, leads'])
    exact ⟨record', leads', .head (granted.mpr delegates) acts⟩

theorem names_role_iff (found : store.called? .user user = some u) (role : String) :
    store.Names .role (store.dynamicRights u.id).roles role ↔
      ∃ principal, seed.ActsFor user principal ∧ seed.HoldsRole principal role := by
  apply sound.names_iff
  · intro r leads
    constructor
    · rintro ⟨p, acts, holds⟩
      obtain ⟨principal, record, leads', rfl, acts'⟩ := actsFor_named sound bears found acts
      exact ⟨principal, acts', (holdsRole_iff sound bears leads' leads).mp holds⟩
    · rintro ⟨principal, acts, holds⟩
      obtain ⟨record, leads', acts'⟩ := bears.actsFor_stored found acts
      exact ⟨record.id, acts', (holdsRole_iff sound bears leads' leads).mpr holds⟩
  · rintro ⟨principal, -, granted | ⟨group, -, granted⟩⟩
    · exact bears.known _ granted (.role, role) (by simp [Edge.endpoints])
    · exact bears.known _ granted (.role, role) (by simp [Edge.endpoints])

theorem names_conferred_iff (found : store.called? .user user = some u) (group role : String) :
    store.Names .role (store.ConfersRole u.id (nameKey group)) role ↔ seed.ConfersRole user group role := by
  apply sound.names_iff
  · intro r leads
    constructor
    · rintro ⟨g, stored, key, conferred⟩
      have leads' : store.called? .group group = some g := sound.called?_eq_some_iff.mpr ⟨stored, key⟩
      exact (bears.confers_iff found leads' leads).mp conferred
    · intro conferred
      obtain ⟨g, leads'⟩ := bears.known _ conferred.1 (.group, group) (by simp [Edge.endpoints])
      obtain ⟨stored, key⟩ := sound.called?_eq_some_iff.mp leads'
      exact ⟨g, stored, key, (bears.confers_iff found leads' leads).mpr conferred⟩
  · rintro ⟨-, granted⟩
    exact bears.known _ granted (.role, role) (by simp [Edge.endpoints])

end Dynamic

/-! ### Turbine -/

section Turbine

variable (bears : store.Bears grants)
include bears

theorem names_assigned_iff (found : store.called? .user user = some u) (group role : String) :
    store.Names .role (store.AssignsWithin u.id (nameKey group)) role ↔ grants (.userGroupRole user group role) := by
  apply sound.names_iff
  · intro r leads
    constructor
    · rintro ⟨g, stored, key, assigns⟩
      have leads' : store.called? .group group = some g := sound.called?_eq_some_iff.mpr ⟨stored, key⟩
      have granted := bears.edges (.userGroupRole user group role) (.userGroupRole u g r)
        (by simp [Edge.resolve, found, leads', leads])
      exact granted.mp assigns
    · intro assigned
      obtain ⟨g, leads'⟩ := bears.known _ assigned (.group, group) (by simp [Edge.endpoints])
      obtain ⟨stored, key⟩ := sound.called?_eq_some_iff.mp leads'
      have granted := bears.edges (.userGroupRole user group role) (.userGroupRole u g r)
        (by simp [Edge.resolve, found, leads', leads])
      exact ⟨g, stored, key, granted.mpr assigned⟩
  · intro assigned
    exact bears.known _ assigned (.role, role) (by simp [Edge.endpoints])

theorem names_anywhere_iff (found : store.called? .user user = some u) (role : String) :
    store.Names .role (store.turbineRights u.id).roles role ↔ ∃ group, grants (.userGroupRole user group role) := by
  simp only [← names_assigned_iff sound bears found]
  constructor
  · rintro ⟨r, stored, key, g, assigns⟩
    obtain ⟨group, within, rfl⟩ := sound.assigned_group assigns
    exact ⟨group.name, r, stored, key, group, within, rfl, assigns⟩
  · rintro ⟨group, r, stored, key, g, -, -, assigns⟩
    exact ⟨r, stored, key, g.id, assigns⟩

end Turbine

end Bears

/-- Roles and permissions of a user, read by name. Under a blank name there is no group and so no role. -/
structure Reads (store : Store) (rights : Rights) (held owned : String → Option String → Prop) : Prop where
  roles : ∀ role, store.Names .role rights.roles role ↔ held role none
  rolesIn : ∀ group role, store.Names .role (rights.rolesIn (nameKey group)) role ↔ held role (some group)
  permissions : ∀ permission, store.Names .permission rights.permissions permission ↔ owned permission none
  permissionsIn : ∀ group permission,
    store.Names .permission (rights.permissionsIn (nameKey group)) permission ↔ owned permission (some group)
  none_held : ∀ group, Text.blank group = true → ∀ role, ¬ held role (some group)
  none_owned : ∀ group, Text.blank group = true → ∀ permission, ¬ owned permission (some group)

/-- The permissions are those that the roles own. -/
theorem Reads.of_roles {grants : Edge String → Prop}
    (bears : store.Bears grants) {rights : Rights} {held : String → Option String → Prop}
    (permissions : ∀ q, rights.permissions q = ∃ r, rights.roles r ∧ .rolePermission r q ∈ store.edges.toList)
    (permissionsIn : ∀ key q, rights.permissionsIn key q =
      ∃ r, rights.rolesIn key r ∧ .rolePermission r q ∈ store.edges.toList)
    (roles : ∀ role, store.Names .role rights.roles role ↔ held role none)
    (rolesIn : ∀ group role, store.Names .role (rights.rolesIn (nameKey group)) role ↔ held role (some group))
    (none_held : ∀ group, Text.blank group = true → ∀ role, ¬ held role (some group)) :
    store.Reads rights held fun permission group =>
      ∃ role, held role group ∧ grants (.rolePermission role permission) where
  roles := roles
  rolesIn := rolesIn
  permissions permission := by
    rw [funext permissions]
    exact Bears.names_permission_iff sound bears roles permission
  permissionsIn group permission := by
    rw [funext (permissionsIn (nameKey group))]
    exact Bears.names_permission_iff sound bears (rolesIn group) permission
  none_held := none_held
  none_owned group blank permission := by
    rintro ⟨role, held, -⟩
    exact none_held group blank role held

end Store

namespace Seed

variable {model : Model} {settings : Settings} {store : Store} {seed : Seed} {user : String} {u : Record}

theorem makes_eq_grants (plain : settings.model ≠ .turbine) : seed.Makes settings = seed.Grants := by
  have within : ∀ edge : Edge String, edge.within settings = edge :=
    fun edge => Edge.within_of_plain fun bare => plain bare.1
  funext edge
  simp only [Makes, Grants, within]

theorem makes_userGroupRole_iff (turbine : settings.model = .turbine) {user group role : String} :
    seed.Makes settings (.userGroupRole user group role) ↔ seed.AssignsRole settings user group role := by
  constructor
  · rintro ⟨granted, mem, made⟩
    cases granted with
    | userGroupRole => exact .inl ⟨_, mem, made⟩
    | userRole user' role' =>
      simp only [Edge.within, turbine, if_true, Edge.map, Edge.userGroupRole.injEq] at made
      obtain ⟨of_user, of_group, of_role⟩ := made
      exact .inr ⟨⟨_, mem, by rw [Edge.map, Edge.map, of_user, of_role]⟩, of_group.symm⟩
    | userGroup | groupRole | rolePermission | delegation => cases made
  · rintro (⟨granted, mem, made⟩ | ⟨⟨granted, mem, made⟩, of_group⟩)
    · cases granted with
      | userGroupRole => exact ⟨_, mem, made⟩
      | userGroup | userRole | groupRole | rolePermission | delegation => cases made
    · cases granted with
      | userRole user' role' =>
        simp only [Edge.map, Edge.userRole.injEq] at made
        obtain ⟨of_user, of_role⟩ := made
        refine ⟨_, mem, ?_⟩
        simp only [Edge.within, turbine, if_true, Edge.map, of_user, of_role, of_group]
      | userGroup | groupRole | rolePermission | userGroupRole | delegation => cases made

theorem makes_rolePermission_iff {role permission : String} :
    seed.Makes settings (.rolePermission role permission) ↔ seed.Grants (.rolePermission role permission) := by
  refine exists_congr fun granted => and_congr_right fun _ => ?_
  cases granted with
  | userRole user role =>
    by_cases turbine : settings.model = .turbine <;> simp [Edge.within, turbine, Edge.map]
  | userGroup | groupRole | rolePermission | userGroupRole | delegation => rfl

theorem allowsPermission_eq (grouped : settings.model ≠ .basic) :
    seed.AllowsPermission settings user = fun permission group =>
      ∃ role, seed.AllowsRole settings user role group ∧ seed.Grants (.rolePermission role permission) := by
  funext permission group
  cases active : settings.model with
  | basic => exact absurd active grouped
  | dynamic | turbine => simp only [AllowsPermission, active]

theorem visible_of_granted (sound : store.Sound model) {grants : Edge String → Prop} (bears : store.Bears grants)
    {named : Edge String} (granted : grants named) {group : String} (at_end : (.group, group) ∈ named.endpoints) :
    Text.blank group = false := by
  obtain ⟨record, leads⟩ := bears.known named granted _ at_end
  obtain ⟨stored, key⟩ := sound.called?_eq_some_iff.mp leads
  exact sound.visible_of_key stored key

theorem reads_dynamic (active : settings.model = .dynamic) (sound : store.Sound model)
    (bears : store.Bears seed.Grants) (found : store.called? .user user = some u) :
    store.Reads (store.dynamicRights u.id) (seed.AllowsRole settings user) (seed.AllowsPermission settings user) := by
  have grouped : settings.model ≠ .basic := by rw [active]; nofun
  rw [allowsPermission_eq grouped]
  refine .of_roles sound bears (fun _ => rfl) (fun _ _ => rfl) (fun role => ?_) (fun group role => ?_) ?_
  · simp only [AllowsRole, active]
    exact Store.Bears.names_role_iff sound bears found role
  · simp only [AllowsRole, active]
    exact Store.Bears.names_conferred_iff sound bears found group role
  · intro group blank role
    simp only [AllowsRole, active]
    rintro ⟨belongs, -⟩
    cases blank.symm.trans (visible_of_granted sound bears belongs (by simp [Edge.endpoints]))

theorem reads_turbine (active : settings.model = .turbine) (sound : store.Sound model)
    (bears : store.Bears (seed.Makes settings)) (found : store.called? .user user = some u) :
    store.Reads (store.turbineRights u.id) (seed.AllowsRole settings user) (seed.AllowsPermission settings user) := by
  have grouped : settings.model ≠ .basic := by rw [active]; nofun
  have makes_role : ∀ role permission, seed.Grants (.rolePermission role permission) ↔
      seed.Makes settings (.rolePermission role permission) := fun _ _ => makes_rolePermission_iff.symm
  simp only [allowsPermission_eq grouped, makes_role]
  refine .of_roles sound bears (fun _ => rfl) (fun _ _ => rfl) (fun role => ?_) (fun group role => ?_) ?_
  · simp only [AllowsRole, active, ← makes_userGroupRole_iff active]
    exact Store.Bears.names_anywhere_iff sound bears found role
  · simp only [AllowsRole, active, ← makes_userGroupRole_iff active]
    exact Store.Bears.names_assigned_iff sound bears found group role
  · intro group blank role
    simp only [AllowsRole, active, ← makes_userGroupRole_iff active]
    intro assigned
    cases blank.symm.trans (visible_of_granted sound bears assigned (by simp [Edge.endpoints]))

end Seed

end Entitlement
