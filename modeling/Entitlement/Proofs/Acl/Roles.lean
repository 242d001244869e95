import Entitlement.Acl.Build
import Entitlement.Proofs.Acl.Exact
import Entitlement.Proofs.Loading.Exactness
import Entitlement.Proofs.Roster.Arranged

/-!
Roles as the store would hand them out now: they can be collected in one roster, a role is loaded once
and then taken from those loaded, and their permissions are those that the edges say.
-/

namespace Entitlement

open Entitlement.Action

variable {settings : Settings} {model : Model} {store : Store} {id : EntityId}
  {roles : Roster Role}

theorem coherent_current (sound : store.Sound model) : Roster.Coherent (Role.Current store) := by
  intro a b current current' same
  have equal : a.toRecord = b.toRecord :=
    (sound.tables .role).eq_of_key_eq current.stored current'.stored same
  exact congrArg Record.id equal

theorem Roster.Lists.gathers (side : Side) {roster : Roster Record}
    (lists : roster.Lists store side.far (side.ends store.edges.toList)) :
    store.Gathers side.far (fun id => side.edge id ∈ store.edges.toList) roster :=
  ⟨lists.drawn, fun _ => lists.mem_ids_iff⟩

/-- What was loaded before is current, under its identity. -/
def LoadedRoles.Current (store : Store) (loaded : LoadedRoles) : Prop :=
  ∀ (id : EntityId) (role : Role), loaded[id]? = some role → role.id = id ∧ role.Current store

theorem LoadedRoles.Current.empty (store : Store) : LoadedRoles.Current store {} := by
  intro id role found
  simp at found

theorem Store.Sound.answers_loadedRole (sound : store.Sound model) {loaded : LoadedRoles}
    (current : loaded.Current store)
    (present : id ∈ store.roles.ids) : Answers settings store (loaded.role id) fun (role, later) =>
      role.id = id ∧ role.Current store ∧ later.Current store := by
  unfold LoadedRoles.role
  rcases known : loaded[id]? with _ | role
  · obtain ⟨record, mem, rfl⟩ := Roster.mem_ids.mp present
    refine (sound.answers_role mem).whileLoading.bind fun role held => answers_pure ?_
    obtain ⟨same, fresh⟩ := held
    have same_id : role.id = record.id := congrArg Record.id same
    refine ⟨same_id, fresh, fun other held found => ?_⟩
    rw [Std.TreeMap.getElem?_insert] at found
    split at found
    · rename_i equal
      cases found
      exact ⟨same_id.trans (Std.LawfulEqOrd.eq_of_compare equal), fresh⟩
    · exact current other held found
  · obtain ⟨same, fresh⟩ := current id role known
    exact answers_pure ⟨same, fresh, current⟩

/-- How the permissions of some roles come: those of one role after the other, each role once. -/
def Store.owned (store : Store) (roles : List EntityId) : List EntityId :=
  roles.eraseDups.flatMap fun role => (Side.permissionsOfRole role).ends store.edges.toList

theorem Store.mem_owned {store : Store} {roles : List EntityId} {permission : EntityId} :
    permission ∈ store.owned roles ↔ ∃ role ∈ roles, .rolePermission role permission ∈ store.edges.toList := by
  simp only [owned, List.mem_flatMap, List.mem_eraseDups, Side.mem_ends]
  rfl

theorem Store.Sound.permissionsOf_arranged (sound : store.Sound model) {ids : List EntityId}
    (arranges : roles.Arranges (Role.Current store) ids) : ∃ permissions, permissionsOf roles = .ok permissions ∧
      permissions.Arranges (· ∈ (store.table .permission).toList) (store.owned ids) := by
  have folds : ∃ permissions, permissionsOf roles = .ok permissions ∧
      permissions.Arranges (· ∈ (store.table .permission).toList) (roles.toList.flatMap fun role =>
        (Side.permissionsOfRole role.id).ends store.edges.toList) := by
    refine except_foldlM_ok (fun (done : List Role) (permissions : Roster Record) =>
      permissions.Arranges (· ∈ (store.table .permission).toList) (done.flatMap fun role =>
        (Side.permissionsOfRole role.id).ends store.edges.toList)) ?_ (.empty _)
    intro done role rest permissions split arranged
    have follows := (arranges.drawn.each role (by simp [split])).follows.permissions
    obtain ⟨next, joined, next_arranged⟩ :=
      arranged.joinAll (Roster.coherent_of_agrees (sound.tables .permission)) follows.drawn.each
    refine ⟨next, joined, ?_⟩
    rw [List.flatMap_append, List.flatMap_singleton, ← follows.ids]
    exact next_arranged
  obtain ⟨permissions, made, arranged⟩ := folds
  refine ⟨permissions, made, ?_⟩
  rw [Store.owned, ← arranges.ids, Roster.ids, List.flatMap_map]
  exact arranged

end Entitlement
