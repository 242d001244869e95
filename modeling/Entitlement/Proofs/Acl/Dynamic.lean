import Entitlement.Proofs.Acl.Order
import Entitlement.Proofs.Delegation.Delegators

/-!
Under the dynamic model a list is exact: the roles are those that the user, or someone for whom the
user may act, holds directly or through a group, and within a group those that the user's own group of
that name confers. Those of the user come first, and then those of the others, nearest first.
-/

namespace Entitlement

open Entitlement.Action

/-- The user holds the role directly or through a group. -/
def Store.HoldsRole (store : Store) (user role : EntityId) : Prop :=
  .userRole user role ∈ store.edges.toList ∨
    ∃ group, .userGroup user group ∈ store.edges.toList ∧ .groupRole group role ∈ store.edges.toList

/-- The user's own group of that key confers the role. -/
def Store.ConfersRole (store : Store) (user : EntityId) (key : String) (role : EntityId) : Prop :=
  ∃ group ∈ store.groups.toList, group.key = key ∧ .userGroup user group.id ∈ store.edges.toList ∧
    .groupRole group.id role ∈ store.edges.toList

def Store.dynamicRights (store : Store) (user : EntityId) : Rights where
  groups group := .userGroup user group ∈ store.edges.toList
  roles role := ∃ principal, store.ActsFor user principal ∧ store.HoldsRole principal role
  permissions permission := ∃ role,
    (∃ principal, store.ActsFor user principal ∧ store.HoldsRole principal role) ∧
    .rolePermission role permission ∈ store.edges.toList
  rolesIn key role := store.ConfersRole user key role
  permissionsIn key permission := ∃ role, store.ConfersRole user key role ∧
    .rolePermission role permission ∈ store.edges.toList

namespace Store

/-- How the roles of a user come: those held directly, and then those of one group after the other. -/
def entriesOf (store : Store) (own : Bool) (user : EntityId) : List Entry :=
  ((Side.rolesOfUser user).ends store.edges.toList).map (Entry.mk none) ++
    ((Side.groupsOfUser user).ends store.edges.toList).flatMap fun group =>
      ((Side.rolesOfGroup group).ends store.edges.toList).map (Entry.mk (if own then some group else none))

/-- The roles of the user come first, and then those of everyone for whom the user may act. -/
def dynamicRanking (store : Store) (user : EntityId) : Ranking where
  groups := (Side.groupsOfUser user).ends store.edges.toList
  entries := store.entriesOf true user ++ (store.principals user).flatMap (store.entriesOf false)

end Store

variable {settings : Settings} {model : Model} {store : Store} {entries : List Entry} {user : User}

/-! ### What comes to a user -/

section Ranking

variable {own : Bool} {id role : EntityId}

theorem Store.mem_entriesOf : role ∈ (store.entriesOf own id).map Entry.role ↔ store.HoldsRole id role := by
  simp only [Store.entriesOf, List.map_append, List.map_map, List.map_flatMap, Function.comp_def, List.map_id',
    List.mem_append, List.mem_flatMap, Side.mem_ends]
  rfl

theorem Store.within_entriesOf {group : EntityId} : ⟨some group, role⟩ ∈ store.entriesOf own id ↔ own = true ∧
    .userGroup id group ∈ store.edges.toList ∧ .groupRole group role ∈ store.edges.toList := by
  simp only [Store.entriesOf, List.mem_append, List.mem_map, List.mem_flatMap, Side.mem_ends, Entry.mk.injEq]
  constructor
  · rintro (⟨_, -, absurd, -⟩ | ⟨held, belongs, _, confers, same, rfl⟩)
    · cases absurd
    · cases own <;> cases same
      exact ⟨rfl, belongs, confers⟩
  · rintro ⟨rfl, belongs, confers⟩
    exact .inr ⟨group, belongs, role, confers, rfl, rfl⟩

theorem Store.Sound.dynamicRanking_gives (sound : store.Sound model) (present : id ∈ store.users.ids) :
    (store.dynamicRanking id).Gives store (store.dynamicRights id) where
  groups _ := Side.mem_ends
  roles role := by
    simp only [Ranking.roles, Store.dynamicRanking, List.map_append, List.map_flatMap, List.mem_append,
      List.mem_flatMap, Store.mem_entriesOf, sound.mem_principals present]
    constructor
    · rintro (held | ⟨principal, ⟨acts, -⟩, held⟩)
      · exact ⟨id, .refl, held⟩
      · exact ⟨principal, acts, held⟩
    · rintro ⟨principal, acts, held⟩
      by_cases same : principal = id
      · exact .inl (same ▸ held)
      · exact .inr ⟨principal, ⟨acts, same⟩, held⟩
  rolesIn key role := by
    simp only [Ranking.rolesIn, Store.dynamicRanking, Entry.mem_within, List.mem_append, List.mem_flatMap,
      Store.within_entriesOf, Bool.false_eq_true, false_and, and_false, exists_false, or_false, true_and,
      sound.idOf_eq_some_iff]
    constructor
    · rintro ⟨_, ⟨group, stored, same, rfl⟩, held⟩
      exact ⟨group, stored, same, held⟩
    · rintro ⟨group, stored, same, held⟩
      exact ⟨group.id, ⟨group, stored, same, rfl⟩, held⟩
  permissions _ := Iff.rfl
  permissionsIn _ _ := Iff.rfl

end Ranking

/-! ### Building the list -/

theorem Roster.Drawn.arranges {α : Type} [Named α] {P : α → Prop} {roster : Roster α} (drawn : roster.Drawn P) :
    roster.Arranges P roster.ids := ⟨drawn, (eraseDups_of_nodup drawn.agrees.ids_nodup).symm⟩

theorem Roster.Lists.arranges {kind : Kind} {ids : List EntityId} {roster : Roster Record}
    (lists : roster.Lists store kind ids) : roster.Arranges (· ∈ (store.table kind).toList) ids :=
  lists.ids ▸ lists.drawn.arranges

namespace DynamicAcl.Draft

variable {draft : Draft} {record : Record}

/-- The draft has what the entries say, and what was loaded for it is current. -/
structure Enrolled (store : Store) (entries : List Entry) (draft : Draft) : Prop where
  loaded : draft.loaded.Current store
  enrols : Enrols store entries draft.roles draft.groupRoles

namespace Enrolled

theorem empty (store : Store) : Enrolled store [] {} := ⟨LoadedRoles.Current.empty store, Enrols.empty store⟩

theorem addRole (enrolled : draft.Enrolled store entries) (sound : store.Sound model)
    (mem : record ∈ store.roles.toList) :
    Answers settings store (draft.addRole record) (Enrolled store (entries ++ [⟨none, record.id⟩])) := by
  have present : record.id ∈ store.roles.ids := Roster.mem_ids.mpr ⟨record, mem, rfl⟩
  refine (sound.answers_loadedRole enrolled.loaded present).bind fun found held => ?_
  obtain ⟨role, later⟩ := found
  obtain ⟨same, current, later_current⟩ := held
  obtain ⟨roles, joined, enrols⟩ := enrolled.enrols.join sound current
  rw [← show role.id = record.id from same]
  exact (answers_liftExcept joined enrols).bind fun roles enrols => answers_pure ⟨later_current, enrols⟩

theorem addOwnRole (enrolled : draft.Enrolled store entries) (sound : store.Sound model) {group : Record}
    (stored : group ∈ store.groups.toList) (mem : record ∈ store.roles.toList) :
    Answers settings store (draft.addOwnRole group.key record)
      (Enrolled store (entries ++ [⟨some group.id, record.id⟩])) := by
  have present : record.id ∈ store.roles.ids := Roster.mem_ids.mpr ⟨record, mem, rfl⟩
  refine (sound.answers_loadedRole enrolled.loaded present).bind fun found held => ?_
  obtain ⟨role, later⟩ := found
  obtain ⟨same, current, later_current⟩ := held
  obtain ⟨roles, byKey, joined_within, joined, enrols⟩ := enrolled.enrols.joinWithin sound stored current
  rw [← show role.id = record.id from same]
  refine Answers.bind (answers_liftExcept joined_within rfl) fun _ within => ?_
  subst within
  exact (answers_liftExcept joined enrols).bind fun roles enrols => answers_pure ⟨later_current, enrols⟩

/-- Roles that are added one after the other come in that order. -/
theorem addEach (enrolled : draft.Enrolled store entries) {add : Draft → Record → Action Draft}
    {group : Option EntityId} {records : List Record}
    (step : ∀ {draft : Draft} {entries : List Entry}, draft.Enrolled store entries → ∀ record ∈ records,
      Answers settings store (add draft record) (Enrolled store (entries ++ [⟨group, record.id⟩]))) :
    Answers settings store (records.foldlM add draft)
      (Enrolled store (entries ++ (records.map Record.id).map (Entry.mk group))) := by
  refine answers_foldlM (fun done => Enrolled store (entries ++ (done.map Record.id).map (Entry.mk group))) ?_
    (by simpa using enrolled)
  intro done record rest draft split enrolled
  have mem : record ∈ records := by simp [split]
  refine (step enrolled record mem).mono fun _ added => ?_
  simpa using added

theorem addGroup (enrolled : draft.Enrolled store entries) (sound : store.Sound model)
    (mem : record ∈ store.groups.toList) (own : Bool) :
    Answers settings store (draft.addGroup own record) (Enrolled store (entries ++
      ((Side.rolesOfGroup record.id).ends store.edges.toList).map
        (Entry.mk (if own then some record.id else none)))) := by
  refine (sound.answers_group mem).whileLoading.bind fun group held => ?_
  obtain ⟨same, current⟩ := held
  subst same
  have ids : group.roles.toList.map Record.id = (Side.rolesOfGroup group.id).ends store.edges.toList :=
    current.follows.roles.ids
  have stored := current.follows.roles.drawn.each
  rw [← ids]
  cases own with
  | false => exact enrolled.addEach fun enrolled record mem => enrolled.addRole sound (stored record mem)
  | true => exact enrolled.addEach fun enrolled record mem => enrolled.addOwnRole sound current.stored (stored record mem)

theorem addGroups (enrolled : draft.Enrolled store entries) (sound : store.Sound model) {records : List Record}
    (stored : ∀ record ∈ records, record ∈ store.groups.toList) (own : Bool) :
    Answers settings store (records.foldlM (DynamicAcl.Draft.addGroup own) draft) (Enrolled store (entries ++
      (records.map Record.id).flatMap fun group => ((Side.rolesOfGroup group).ends store.edges.toList).map
        (Entry.mk (if own then some group else none)))) := by
  refine answers_foldlM (fun done => Enrolled store (entries ++
    (done.map Record.id).flatMap fun group => ((Side.rolesOfGroup group).ends store.edges.toList).map
      (Entry.mk (if own then some group else none)))) ?_ (by simpa using enrolled)
  intro done group rest draft split enrolled
  have mem : group ∈ store.groups.toList := stored group (by simp [split])
  refine (enrolled.addGroup sound mem own).mono fun _ added => ?_
  simpa using added

theorem addPrincipal (enrolled : draft.Enrolled store entries) (sound : store.Sound model) {principal : User}
    (current : principal.Current store) (own : Bool) :
    Answers settings store (draft.addPrincipal own principal)
      (Enrolled store (entries ++ store.entriesOf own principal.id)) := by
  have roles : principal.roles.toList.map Record.id = (Side.rolesOfUser principal.id).ends store.edges.toList :=
    current.follows.roles.ids
  have groups : principal.groups.toList.map Record.id = (Side.groupsOfUser principal.id).ends store.edges.toList :=
    current.follows.groups.ids
  have adds : Answers settings store (principal.roles.toList.foldlM DynamicAcl.Draft.addRole draft)
      (Enrolled store (entries ++ (principal.roles.toList.map Record.id).map (Entry.mk none))) :=
    enrolled.addEach fun enrolled record mem =>
      enrolled.addRole sound (current.follows.roles.drawn.each record mem)
  refine adds.bind fun draft enrolled => ?_
  refine (enrolled.addGroups sound current.follows.groups.drawn.each own).mono fun _ added => ?_
  rw [roles, groups, List.append_assoc] at added
  exact added

theorem addPrincipals (enrolled : draft.Enrolled store entries) (sound : store.Sound model)
    {principals : List User} (current : ∀ principal ∈ principals, principal.Current store) :
    Answers settings store (principals.foldlM (DynamicAcl.Draft.addPrincipal false) draft)
      (Enrolled store (entries ++ (principals.map Entity.id).flatMap (store.entriesOf false))) := by
  refine answers_foldlM (fun (done : List User) =>
    Enrolled store (entries ++ (done.map Entity.id).flatMap (store.entriesOf false))) ?_ (by simpa using enrolled)
  intro done principal rest draft split enrolled
  have fresh : principal.Current store := current principal (by simp [split])
  refine (enrolled.addPrincipal sound fresh false).mono fun _ added => ?_
  rw [List.map_append, List.flatMap_append, ← List.append_assoc]
  exact (List.flatMap_singleton ..) ▸ added

end Enrolled

end DynamicAcl.Draft

theorem DynamicAcl.ofRoles_eq {roles : Roster Role} {ids : List EntityId} (sound : store.Sound model)
    (arranges : roles.Arranges (Role.Current store) ids) (user : Record) (groups : Roster Record)
    (groupRoles : GroupRoles) (delegators : Roster Record) : ∃ permissions,
      DynamicAcl.ofRoles user groups roles groupRoles delegators =
        .ok { user, groups, roles, permissions, groupRoles, delegators } ∧
      permissions.Arranges (· ∈ (store.table .permission).toList) (store.owned ids) := by
  obtain ⟨permissions, owned, permissions_arranges⟩ := sound.permissionsOf_arranged arranges
  refine ⟨permissions, ?_, permissions_arranges⟩
  rw [DynamicAcl.ofRoles, owned]
  rfl

theorem DynamicAcl.ofRoles_follows {roles : Roster Role} {groups : Roster Record} {groupRoles : GroupRoles}
    {ranking : Ranking} (enrols : Enrols store ranking.entries roles groupRoles) (sound : store.Sound model)
    (arranges : groups.Arranges (· ∈ (store.table .group).toList) ranking.groups) (record : Record)
    (delegators : Roster Record) : ∃ acl, DynamicAcl.ofRoles record groups roles groupRoles delegators = .ok acl ∧
      acl.user = record ∧ acl.delegators = delegators ∧ (Acl.dynamic acl).Follows store ranking := by
  obtain ⟨permissions, built, permissions_arranges⟩ :=
    DynamicAcl.ofRoles_eq sound enrols.roles record groups groupRoles delegators
  refine ⟨{ user := record, groups, roles, permissions, groupRoles, delegators }, built, rfl, rfl, ?_⟩
  refine ⟨arranges, ⟨roles, rfl, enrols.roles⟩, ⟨permissions, rfl, permissions_arranges⟩, fun group visible => ?_,
    fun group visible => ?_, fun group blank => ?_⟩
  · refine ⟨groupRoles.getD (nameKey group) {}, ?_, enrols.within (nameKey group)⟩
    simp only [Acl.rolesIn, requireGroup_ok visible]
    rfl
  · obtain ⟨within, owned_within, within_arranges⟩ := sound.permissionsOf_arranged (enrols.within (nameKey group))
    refine ⟨within, ?_, within_arranges⟩
    simp only [Acl.permissionsIn, requireGroup_ok visible]
    exact owned_within
  · simp only [Acl.rolesIn, Acl.permissionsIn, requireGroup_refused blank]
    exact ⟨rfl, rfl⟩

theorem Store.Sound.delegators_arranged (sound : store.Sound model) {users : List User}
    (current : ∀ principal ∈ users, principal.Current store) :
    ∃ delegators, Roster.ofList (users.map User.toRecord) = .ok delegators ∧
      delegators.Arranges (· ∈ (store.table .user).toList) (users.map Entity.id) := by
  have coherent : Roster.Coherent (· ∈ (store.table .user).toList) :=
    Roster.coherent_of_agrees (sound.tables .user)
  have stored : ∀ record ∈ users.map User.toRecord, record ∈ (store.table .user).toList := by
    intro record mem
    obtain ⟨principal, listed, rfl⟩ := List.mem_map.mp mem
    exact (current principal listed).stored
  have arranges := (Roster.Arranges.empty _).joinAll coherent stored
  rw [List.map_map] at arranges
  exact arranges

theorem Store.Sound.answers_buildDynamic_follows (sound : store.Sound model) (current : user.Current store) :
    Answers settings store (DynamicAcl.build user) fun acl => acl.user = user.toRecord ∧
      acl.delegators.Arranges (· ∈ (store.table .user).toList) (store.principals user.id) ∧
        (Acl.dynamic acl).Follows store (store.dynamicRanking user.id) := by
  refine (sound.answers_requireUser current.present).bind fun _ _ => ?_
  refine (sound.answers_delegatorsOf current).bind fun users found => ?_
  obtain ⟨listed, all_current⟩ := found
  refine ((DynamicAcl.Draft.Enrolled.empty store).addPrincipal sound current true).bind fun draft enrolled => ?_
  refine (enrolled.addPrincipals sound all_current).bind fun draft enrolled => ?_
  obtain ⟨delegators, made, delegators_arranged⟩ := sound.delegators_arranged all_current
  refine Answers.bind (answers_liftExcept made rfl) fun _ same => ?_
  subst same
  rw [listed] at enrolled delegators_arranged
  have groups : user.groups.Arranges (· ∈ (store.table .group).toList) (store.dynamicRanking user.id).groups :=
    current.follows.groups.arranges
  obtain ⟨acl, built, of_user, of_delegators, follows⟩ :=
    DynamicAcl.ofRoles_follows enrolled.enrols sound groups user.toRecord delegators
  exact answers_liftExcept built ⟨of_user, of_delegators ▸ delegators_arranged, follows⟩

theorem Store.Sound.answers_buildDynamic (sound : store.Sound model) (current : user.Current store) :
    Answers settings store (DynamicAcl.build user) fun acl =>
      (Acl.dynamic acl).Exact store (store.dynamicRights user.id) ∧
        store.Gathers .user (fun id => store.ActsFor user.id id ∧ id ≠ user.id) acl.delegators := by
  have present : user.id ∈ store.users.ids := current.present
  refine (sound.answers_buildDynamic_follows current).mono fun acl held => ?_
  obtain ⟨-, delegators, follows⟩ := held
  exact ⟨follows.exact sound nofun (sound.dynamicRanking_gives present),
    delegators.collects.congr fun _ => sound.mem_principals present⟩

/-- Under the dynamic model the list of every stored user can be built and is exact; its delegators are
those for whom the user may act, the user apart. -/
theorem Service.Reachable.dynamic_acl_exact {service : Service} (reachable : service.Reachable)
    (dynamic : service.settings.model = .dynamic) {record : Record}
    (stored : record ∈ service.state.store.users.toList) :
    service.Builds record fun acl =>
      acl.Exact service.state.store (service.state.store.dynamicRights record.id) ∧
        ∃ list, acl = .dynamic list ∧ service.state.store.Has .user
          (fun id => service.state.store.ActsFor record.id id ∧ id ≠ record.id) list.delegators := by
  refine reachable.builds stored fun user same current => ?_
  subst same
  refine answers_settings.bind fun settings same => ?_
  subst same
  rw [dynamic]
  refine (reachable.sound.answers_buildDynamic current).map fun list held => ?_
  obtain ⟨exact, delegators⟩ := held
  exact ⟨exact, list, rfl, delegators.has⟩

/-- Ann and Bob have delegated to each other, and Ann to herself. -/
theorem dynamic_acl_exact_in_cycle :
    let ann : Record := ⟨⟨0⟩, "Ann"⟩
    let bob : Record := ⟨⟨1⟩, "Bob"⟩
    let staff : Record := ⟨⟨2⟩, "Staff"⟩
    let clerk : Record := ⟨⟨3⟩, "clerk"⟩
    let service := (⟨{}, {}⟩ : Service).performAll
      [.addUser "Ann" "pw", .addUser "Bob" "pw", .add .group "Staff", .add .role "clerk",
        .grant .dynamic (.delegation bob ann) rfl, .grant .dynamic (.delegation ann bob) rfl,
        .grant .dynamic (.delegation ann ann) rfl, .grant .dynamic (.userGroup bob staff) rfl,
        .grant .dynamic (.groupRole staff clerk) rfl]
    let store := service.state.store
    store.edges.size = 5 ∧ service.Builds ann fun acl => acl.Exact store (store.dynamicRights ⟨0⟩) ∧
      ∃ list, acl = .dynamic list ∧ store.Has .user
        (fun id => store.ActsFor ⟨0⟩ id ∧ id ≠ ⟨0⟩) list.delegators := by
  refine ⟨by decide +kernel, ?_⟩
  have started : Service.start {} {} = .ok ⟨{}, {}⟩ := rfl
  have begun : Service.Reachable ⟨{}, {}⟩ := Service.Reachable.start 0 0 0 ⟨0⟩ started
  exact Service.Reachable.dynamic_acl_exact (begun.performAll _) (by decide +kernel) (by decide +kernel)

end Entitlement
