import Entitlement.Proofs.Acl.Scopes

/-!
Whatever is disrupted while a list is built, what it has of permissions was read from the store. So the
permissions of the roles of a group fit together, and the dynamic model, which puts them together only when
they are asked for, never fails to.
-/

namespace Entitlement

open Entitlement.Action
open Std (TreeMap)

/-- The permissions of the role are stored ones. -/
def Role.Stocked (store : Store) (role : Role) : Prop :=
  ∀ permission ∈ role.permissions.toList, permission ∈ store.permissions.toList

theorem Roster.mem_of_join {α : Type} [Named α] {roster grown : Roster α} {member other : α}
    (joined : roster.join member = .ok grown) (mem : other ∈ grown.toList) : other ∈ roster.toList ∨ other = member := by
  obtain ⟨⟨isNew, later⟩, added, ⟨⟩⟩ := except_bind_eq_ok.mp joined
  rw [toList_add added] at mem
  split at mem
  · rwa [List.mem_append, List.mem_singleton] at mem
  · exact .inl mem

namespace Store.Sound

variable {context : Context} {model : Model} {store : Store} (sound : store.Sound model)
include sound

theorem keeps_loadEnd (kind : Kind) (id : EntityId) :
    Keeps context (·.store = store) (loadEnd kind id) (· ∈ (store.table kind).toList) := by
  have finds : Keeps context (·.store = store) (ask (.find kind id))
      fun found => ∀ record, found = some record → record ∈ (store.table kind).toList := by
    refine (invariant_store store).told (.inl trivial) ?_ ?_
    · rintro state answer later rfl ⟨⟩ record found
      exact ((sound.tables kind).get?_eq_some_iff.mp found).1
    · rintro answer ⟨⟩ record ⟨⟩
  refine finds.bind fun found stored => ?_
  cases found with
  | none => exact keeps_throw _
  | some record => exact keeps_pure (stored record rfl)

theorem keeps_alongRole {role : Role} (stocked : role.Stocked store) (edge : Edge EntityId) :
    Keeps context (·.store = store) (role.along edge) (Role.Stocked store) := by
  have kept : ∀ changed : Role, changed.permissions = role.permissions → changed.Stocked store := by
    intro changed same permission mem
    exact stocked permission (same ▸ mem)
  have reads {α : Type} {action : Action α} (sends : Sends Request.Reads action) :
    Keeps context (·.store = store) action fun _ => True := (invariant_store store).reads sends
  cases edge with
  | rolePermission _ permission =>
    have attaches : Keeps context (·.store = store) (attach .permission permission role.permissions)
        fun permissions => ∀ record ∈ permissions.toList, record ∈ store.permissions.toList := by
      refine (sound.keeps_loadEnd .permission permission).bind fun record stored => ?_
      refine (keeps_liftExcept _).mono fun permissions joined other mem => ?_
      rcases Roster.mem_of_join joined mem with old | rfl
      · exact stocked other old
      · exact stored
    exact attaches.bind fun _ held => keeps_pure held
  | groupRole group _ =>
    exact (reads (sends_attach finds_reads .group group _)).bind fun _ _ => keeps_pure (kept _ rfl)
  | userRole user _ => exact (reads (sends_attach finds_reads .user user _)).bind fun _ _ => keeps_pure (kept _ rfl)
  | userGroupRole user group r =>
    exact (reads (sends_loadAssignment finds_reads user group r)).bind fun _ _ => keeps_pure (kept _ rfl)
  | userGroup | delegation => exact keeps_pure stocked

theorem keeps_loadRole (record : Record) :
    Keeps context (·.store = store) (Role.load record) (Role.Stocked store) := by
  refine ((invariant_store store).read (.edgesOf .role record.id) trivial).bind fun edges _ => ?_
  refine keeps_foldlM (fun role stocked edge _ => sound.keeps_alongRole stocked edge) ?_
  intro permission mem
  cases mem

end Store.Sound

/-- All roles loaded so far have stored permissions. -/
def LoadedRoles.Stocked (store : Store) (loaded : LoadedRoles) : Prop :=
  ∀ (id : EntityId) (role : Role), loaded[id]? = some role → role.Stocked store

/-- The roles of every group have stored permissions. -/
def GroupRoles.Stocked (store : Store) (groupRoles : GroupRoles) : Prop :=
  ∀ key, ∀ role ∈ (groupRoles.getD key {}).toList, role.Stocked store

structure DynamicAcl.Draft.Stocked (store : Store) (draft : DynamicAcl.Draft) : Prop where
  loaded : draft.loaded.Stocked store
  groupRoles : draft.groupRoles.Stocked store

theorem GroupRoles.Stocked.join {store : Store} {groups grown : GroupRoles} {key : String} {role : Role}
    (stocked : groups.Stocked store) (role_stocked : role.Stocked store)
    (joined : groups.join key role = .ok grown) : grown.Stocked store := by
  obtain ⟨roles, joined_within, rfl⟩ := GroupRoles.of_join joined
  intro other held mem
  rw [TreeMap.getD_insert] at mem
  split at mem
  · rcases Roster.mem_of_join joined_within mem with old | rfl
    · exact stocked key held old
    · exact role_stocked
  · exact stocked other held mem

namespace Store.Sound

variable {context : Context} {model : Model} {store : Store} (sound : store.Sound model)
include sound

theorem keeps_loadedRole {loaded : LoadedRoles} (stocked : loaded.Stocked store) (id : EntityId) :
    Keeps context (·.store = store) (loaded.role id) fun (role, later) =>
      role.Stocked store ∧ later.Stocked store := by
  unfold LoadedRoles.role
  cases known : loaded[id]? with
  | some role => exact keeps_pure ⟨stocked id role known, stocked⟩
  | none =>
    have loads : Keeps context (·.store = store) (Entity.withId id : Action Role) (Role.Stocked store) := by
      refine ((invariant_store store).read (.find .role id) trivial).bind fun found _ => ?_
      cases found with
      | none => exact keeps_throw _
      | some record => exact sound.keeps_loadRole record
    refine loads.whileLoading.bind fun role role_stocked => keeps_pure ⟨role_stocked, fun other held known => ?_⟩
    rw [TreeMap.getElem?_insert] at known
    split at known
    · cases known
      exact role_stocked
    · exact stocked other held known

section Draft

variable {draft : DynamicAcl.Draft} (stocked : draft.Stocked store)
include stocked

theorem keeps_addRole (record : Record) :
    Keeps context (·.store = store) (draft.addRole record) (DynamicAcl.Draft.Stocked store) := by
  refine (sound.keeps_loadedRole stocked.loaded record.id).bind fun found held => ?_
  exact (keeps_liftExcept _).bind fun roles _ => keeps_pure ⟨held.2, stocked.groupRoles⟩

theorem keeps_addOwnRole (key : String) (record : Record) :
    Keeps context (·.store = store) (draft.addOwnRole key record) (DynamicAcl.Draft.Stocked store) := by
  refine (sound.keeps_loadedRole stocked.loaded record.id).bind fun found held => ?_
  refine (keeps_liftExcept _).bind fun groupRoles joined => (keeps_liftExcept _).bind fun roles _ => ?_
  exact keeps_pure ⟨held.2, stocked.groupRoles.join held.1 joined⟩

theorem keeps_addGroup (own : Bool) (record : Record) :
    Keeps context (·.store = store) (draft.addGroup own record) (DynamicAcl.Draft.Stocked store) := by
  have loads : Keeps context (·.store = store) (Entity.withId record.id : Action Group) fun _ => True :=
    (invariant_store store).withId (invariant_store store).loadGroup record.id
  refine loads.whileLoading.bind fun group _ => ?_
  cases own with
  | false => exact keeps_foldlM (fun draft held role _ => sound.keeps_addRole held role) stocked
  | true => exact keeps_foldlM (fun draft held role _ => sound.keeps_addOwnRole held group.key role) stocked

theorem keeps_addPrincipal (own : Bool) (principal : User) :
    Keeps context (·.store = store) (draft.addPrincipal own principal) (DynamicAcl.Draft.Stocked store) := by
  have adds : Keeps context (·.store = store) (principal.roles.toList.foldlM DynamicAcl.Draft.addRole draft)
    (DynamicAcl.Draft.Stocked store) := keeps_foldlM (fun draft held role _ => sound.keeps_addRole held role) stocked
  exact adds.bind fun draft held => keeps_foldlM (fun draft held group _ => sound.keeps_addGroup held own group) held

end Draft

theorem keeps_buildDynamic (user : User) :
    Keeps context (·.store = store) (DynamicAcl.build user) fun acl => acl.groupRoles.Stocked store := by
  have reads {α : Type} {action : Action α} (sends : Sends Request.Reads action) :
    Keeps context (·.store = store) action fun _ => True := (invariant_store store).reads sends
  have nothing_yet : DynamicAcl.Draft.Stocked store {} := ⟨by simp [LoadedRoles.Stocked], by
    intro key role mem
    rw [TreeMap.getD_emptyc] at mem
    cases mem⟩
  have requires : Keeps context (·.store = store) (requireUser user) fun _ => True :=
    reads ((graph_requireUser user).mono fun _ reads => reads.reads)
  have delegators : Keeps context (·.store = store) (delegatorsOf user) fun _ => True :=
    reads (.count fun users => sends_delegatorsFrom (users + 1) _ _)
  refine requires.bind fun _ _ => delegators.bind fun delegators _ => ?_
  refine (sound.keeps_addPrincipal nothing_yet true user).bind fun draft held => ?_
  have adds : Keeps context (·.store = store) (delegators.foldlM (DynamicAcl.Draft.addPrincipal false) draft)
      (DynamicAcl.Draft.Stocked store) :=
    keeps_foldlM (fun draft held user _ => sound.keeps_addPrincipal held false user) held
  refine adds.bind fun draft held => (keeps_liftExcept _).bind fun records _ => ?_
  refine (keeps_liftExcept _).mono fun acl made => ?_
  obtain ⟨permissions, -, ⟨⟩⟩ := except_bind_eq_ok.mp made
  exact held.groupRoles

/-- Where all permissions are stored, no two of them clash. -/
theorem permissionsOf_stocked {roles : Roster Role} (stocked : ∀ role ∈ roles.toList, role.Stocked store) :
    ∃ permissions, permissionsOf roles = .ok permissions := by
  have coherent := Roster.coherent_of_agrees (sound.tables .permission)
  refine Exists.imp (fun _ => And.left) (except_foldlM_ok (fun (_ : List Role) (permissions : Roster Record) =>
    ∃ ids, permissions.Arranges (· ∈ store.permissions.toList) ids) ?_ ⟨[], .empty _⟩)
  rintro done role rest permissions split ⟨ids, arranges⟩
  obtain ⟨grown, joined, later⟩ := arranges.joinAll coherent (stocked role (by simp [split]))
  exact ⟨grown, joined, _, later⟩

end Store.Sound

end Entitlement
