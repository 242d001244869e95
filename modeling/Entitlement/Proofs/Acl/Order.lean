import Entitlement.Proofs.Acl.Building
import Entitlement.Proofs.Store.Renaming

/-!
The order of a list. Roles come to a user one after the other, and each is listed where it first came. Which
roles come, and when, is a matter of identities; names only tell under which key the roles within a group are
found. A list that is in order is exact.
-/

namespace Entitlement

open Entitlement.Action
open Std (TreeMap)

/-- A role as it comes to a user, with the group within which it comes, if there is one. -/
structure Entry where
  group : Option EntityId
  role : EntityId

namespace Entry

/-- The roles that come within a group; without a group there are none. -/
def within (group : Option EntityId) (entries : List Entry) : List EntityId :=
  (entries.filter fun entry => entry.group.isSome && entry.group == group).map Entry.role

variable {group : Option EntityId} {entries : List Entry} {role : EntityId}

theorem mem_within : role ∈ within group entries ↔ ∃ held, group = some held ∧ ⟨some held, role⟩ ∈ entries := by
  simp only [within, List.mem_map, List.mem_filter, Bool.and_eq_true, beq_iff_eq]
  constructor
  · rintro ⟨entry, ⟨mem, some, rfl⟩, rfl⟩
    obtain ⟨held, same⟩ := Option.isSome_iff_exists.mp some
    exact ⟨held, same, same ▸ mem⟩
  · rintro ⟨held, rfl, mem⟩
    exact ⟨_, ⟨mem, rfl, rfl⟩, rfl⟩

theorem within_snoc_none (group : Option EntityId) (entries : List Entry) (role : EntityId) :
    within group (entries ++ [⟨none, role⟩]) = within group entries := by
  simp [within]

theorem within_snoc_some (group : EntityId) (entries : List Entry) (role : EntityId) :
    within (some group) (entries ++ [⟨some group, role⟩]) = within (some group) entries ++ [role] := by
  simp [within]

theorem within_snoc_of_ne {other : EntityId} (apart : some other ≠ group) (entries : List Entry) (role : EntityId) :
    within group (entries ++ [⟨some other, role⟩]) = within group entries := by
  simp [within, apart]

end Entry

/-- What comes to a user, in the order in which it comes. -/
structure Ranking where
  groups : List EntityId
  entries : List Entry

def Ranking.roles (ranking : Ranking) : List EntityId := ranking.entries.map Entry.role

def Ranking.rolesIn (ranking : Ranking) (group : Option EntityId) : List EntityId := Entry.within group ranking.entries

variable {model : Model} {store : Store} {entries : List Entry}

/-- The roles on the whole, and those under each key, are those of the entries in their order. -/
structure Enrols (store : Store) (entries : List Entry) (roles : Roster Role) (groupRoles : GroupRoles) : Prop where
  roles : roles.Arranges (Role.Current store) (entries.map Entry.role)
  within : ∀ key, (groupRoles.getD key {}).Arranges (Role.Current store)
    (Entry.within (store.idOf .group key) entries)

namespace Enrols

variable {roles : Roster Role} {groupRoles : GroupRoles} {role : Role} {group : Record}

theorem empty (store : Store) : Enrols store [] {} {} where
  roles := .empty _
  within key := by
    rw [TreeMap.getD_emptyc]
    exact .empty _

theorem join (enrols : Enrols store entries roles groupRoles) (sound : store.Sound model)
    (current : role.Current store) : ∃ grown, roles.join role = .ok grown ∧
      Enrols store (entries ++ [⟨none, role.id⟩]) grown groupRoles := by
  obtain ⟨grown, joined, arranges⟩ := enrols.roles.join (coherent_current sound) current
  refine ⟨grown, joined, ?_, fun key => ?_⟩
  · rw [List.map_append]
    exact arranges
  · rw [Entry.within_snoc_none]
    exact enrols.within key

theorem joinWithin (enrols : Enrols store entries roles groupRoles) (sound : store.Sound model)
    (stored : group ∈ (store.table .group).toList) (current : role.Current store) :
    ∃ grown byKey, groupRoles.join group.key role = .ok byKey ∧ roles.join role = .ok grown ∧
      Enrols store (entries ++ [⟨some group.id, role.id⟩]) grown byKey := by
  obtain ⟨grown, joined, arranges⟩ := enrols.roles.join (coherent_current sound) current
  obtain ⟨within, joined_within, arranges_within⟩ := (enrols.within group.key).join (coherent_current sound) current
  have own : store.idOf .group group.key = some group.id := sound.idOf_eq_some_iff.mpr ⟨group, stored, rfl, rfl⟩
  refine ⟨grown, groupRoles.insert group.key within, ?_, joined, ?_, fun key => ?_⟩
  · rw [GroupRoles.join, joined_within]
    rfl
  · rw [List.map_append]
    exact arranges
  · rw [TreeMap.getD_insert]
    by_cases same : group.key = key
    · subst same
      rw [if_pos Std.ReflCmp.compare_self, own, Entry.within_snoc_some, ← own]
      exact arranges_within
    · have apart : some group.id ≠ store.idOf .group key := by
        intro held
        obtain ⟨other, listed, rfl, same_id⟩ := sound.idOf_eq_some_iff.mp held.symm
        exact same (congrArg Record.key ((sound.tables .group).eq_of_id_eq stored listed same_id.symm))
      rw [if_neg fun eq => same (Std.LawfulEqOrd.eq_of_compare eq), Entry.within_snoc_of_ne apart]
      exact enrols.within key

end Enrols

/-! ### Lists -/

/-- The sets of the list have what comes to the user, in the order in which it first comes. -/
structure Acl.Follows (store : Store) (ranking : Ranking) (acl : Acl) : Prop where
  groups : acl.groups.Arranges (· ∈ (store.table .group).toList) ranking.groups
  roles : ∃ roles, acl.roles = .ok roles ∧ roles.Arranges (Role.Current store) ranking.roles
  permissions : ∃ permissions, acl.permissions = .ok permissions ∧
    permissions.Arranges (· ∈ (store.table .permission).toList) (store.owned ranking.roles)
  rolesIn : ∀ group, Text.blank group = false → ∃ roles, acl.rolesIn group = .ok roles ∧
    roles.Arranges (Role.Current store) (ranking.rolesIn (store.idOf .group (nameKey group)))
  permissionsIn : ∀ group, Text.blank group = false → ∃ permissions, acl.permissionsIn group = .ok permissions ∧
    permissions.Arranges (· ∈ (store.table .permission).toList)
      (store.owned (ranking.rolesIn (store.idOf .group (nameKey group))))
  refused : ∀ group, Text.blank group = true →
    acl.rolesIn group = .error .groupRequired ∧ acl.permissionsIn group = .error .groupRequired

/-- What comes to the user is what the rights say. -/
structure Ranking.Gives (store : Store) (rights : Rights) (ranking : Ranking) : Prop where
  groups : ∀ id, id ∈ ranking.groups ↔ rights.groups id
  roles : ∀ id, id ∈ ranking.roles ↔ rights.roles id
  rolesIn : ∀ key id, id ∈ ranking.rolesIn (store.idOf .group key) ↔ rights.rolesIn key id
  permissions : ∀ id, rights.permissions id ↔ ∃ role, rights.roles role ∧
    .rolePermission role id ∈ store.edges.toList
  permissionsIn : ∀ key id, rights.permissionsIn key id ↔ ∃ role, rights.rolesIn key role ∧
    .rolePermission role id ∈ store.edges.toList

theorem Acl.Follows.exact {acl : Acl} {ranking : Ranking} {rights : Rights} (follows : acl.Follows store ranking)
    (sound : store.Sound model) (grouped : acl.model ≠ .basic) (gives : ranking.Gives store rights) :
    acl.Exact store rights := by
  have current : ∀ {roles : Roster Role} {ids : List EntityId} {S : EntityId → Prop},
      roles.Arranges (Role.Current store) ids → (∀ id, id ∈ ids ↔ S id) → store.Gathers .role S roles :=
    fun arranges same => (arranges.collects.congr same).mono fun _ current => current.stored
  refine Acl.Exact.of_sets grouped sound.tables (follows.groups.collects.congr gives.groups) ?_ ?_
    (fun group visible => ?_) (fun group visible => ?_) follows.refused
  · obtain ⟨roles, told, arranges⟩ := follows.roles
    exact ⟨roles, told, current arranges gives.roles⟩
  · obtain ⟨permissions, told, arranges⟩ := follows.permissions
    refine ⟨permissions, told, arranges.collects.congr fun id => ?_⟩
    simp only [Store.mem_owned, gives.permissions, gives.roles]
  · obtain ⟨roles, told, arranges⟩ := follows.rolesIn group visible
    exact ⟨roles, told, current arranges (gives.rolesIn (nameKey group))⟩
  · obtain ⟨permissions, told, arranges⟩ := follows.permissionsIn group visible
    refine ⟨permissions, told, arranges.collects.congr fun id => ?_⟩
    simp only [Store.mem_owned, gives.permissionsIn, gives.rolesIn]

end Entitlement
