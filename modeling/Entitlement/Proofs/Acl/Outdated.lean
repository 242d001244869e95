import Entitlement.Proofs.Acl.Dynamic
import Entitlement.Proofs.Acl.Turbine
import Entitlement.Proofs.Action.Hinging
import Entitlement.Proofs.Loading.Totality

/-!
Building the list of a user value that may be outdated. What the value mentions is looked up again by its
identity, so the names that have changed since do not matter: the list is built unless the user or something
that the model looks up is no longer stored.
-/

namespace Entitlement

open Entitlement.Action
open Std (TreeMap)

/-- All that the model looks up for the list of a user value is stored. -/
def Store.Supplies (store : Store) (user : User) : Model → Prop
  | .basic => True
  | .dynamic => (∀ id ∈ user.delegators.ids, id ≠ user.id → id ∈ store.users.ids) ∧
      (∀ role ∈ user.roles.toList, role.id ∈ store.roles.ids) ∧
      ∀ group ∈ user.groups.toList, group.id ∈ store.groups.ids
  | .turbine => ∀ join ∈ user.joins, join.role.id ∈ store.roles.ids

/-- The draft has the roles of some entries. -/
def DynamicAcl.Draft.Grown (store : Store) (draft : DynamicAcl.Draft) : Prop :=
  ∃ entries, draft.Enrolled store entries

variable {settings : Settings} {model : Model} {store : Store} {user : User}

/-! ### Looking up one entity -/

/-- What is loaded on behalf of something else is at fault for the backend if it is not stored. -/
theorem Store.Sound.hinges_withId {E : Type} [Entity E] (sound : store.Sound model) {id : EntityId} {held : E → Prop}
    (part : String) (loads : ∀ record ∈ (store.table (Entity.kind E)).toList,
      Answers settings store (Entity.withId record.id : Action E) fun entity => Named.record entity = record ∧ held entity) :
    Hinges settings store (whileLoading part (Entity.withId id : Action E))
      (id ∈ (store.table (Entity.kind E)).ids) fun entity => Entity.id entity = id ∧ held entity := by
  by_cases present : id ∈ (store.table (Entity.kind E)).ids
  · obtain ⟨record, mem, rfl⟩ := Roster.mem_ids.mp present
    refine Answers.hinges ((loads record mem).whileLoading.mono ?_) present
    rintro entity ⟨same, fits⟩
    exact ⟨congrArg Record.id same, fits⟩
  · refine hinges_of_missing present (e := .loadFailed part (.noEntityWithId (Entity.kind E) id)) rfl ?_
    rintro state rfl
    refine ⟨state.requests + 1, ?_⟩
    rw [run_whileLoading, sound.run_withId_absent settings present]
    rfl

namespace Store.Sound

variable (sound : store.Sound model)
include sound

theorem hinges_loadedRole {loaded : LoadedRoles} (current : loaded.Current store) (id : EntityId) :
    Hinges settings store (loaded.role id) (id ∈ store.roles.ids) fun (role, later) =>
      role.id = id ∧ role.Current store ∧ later.Current store := by
  by_cases present : id ∈ store.roles.ids
  · exact (sound.answers_loadedRole current present).hinges present
  · have new : loaded[id]? = none := by
      rcases known : loaded[id]? with _ | role
      · rfl
      · obtain ⟨rfl, fresh⟩ := current id role known
        exact absurd (Roster.mem_ids.mpr ⟨role.toRecord, fresh.stored, rfl⟩) present
    unfold LoadedRoles.role
    rw [new]
    exact (sound.hinges_withId "role" fun _ mem => sound.answers_role mem).bind_missing present

/-! ### Delegators -/

/-- Where the search has not come to its end there are more rounds left than users to be taken. Those queued
by a stored user are stored, so it is only at the beginning that someone can be missing. -/
theorem hinges_delegatorsFrom {rounds : Nat} {done met queue : List EntityId} (split : met = done ++ queue)
    (once : met.Nodup) (stored : ∀ id ∈ done, id ∈ store.users.ids)
    (enough : store.users.ids.length < rounds + done.length) :
    Hinges settings store (delegatorsFrom rounds met queue) (∀ id ∈ queue, id ∈ store.users.ids) fun users =>
      ∀ user ∈ users, user.Current store := by
  induction rounds generalizing done met queue with
  | zero =>
    have distinct : done.Nodup := (List.nodup_append.mp (split ▸ once)).1
    have few : done.length ≤ store.users.ids.length := distinct.length_le_of_subset stored
    omega
  | succ rounds ih =>
    cases queue with
    | nil => exact (hinges_pure (by simp)).congr (by simp)
    | cons id queue =>
      refine ((sound.hinges_withId "delegator" fun _ mem => sound.answers_user mem).bind (fun user present held => ?_)).congr
        List.forall_mem_cons.symm
      obtain ⟨same, current⟩ := held
      have next_to := current.follows.delegators
      let further := user.delegators.ids.filter (! met.contains ·)
      have fresh : ∀ other ∈ further, other ∈ store.users.ids ∧ other ∉ met := by
        intro other mem
        obtain ⟨mem, new⟩ := List.mem_filter.mp mem
        refine ⟨sound.delegator_stored (next_to.ids ▸ mem), by simpa using new⟩
      have distinct : (met ++ further).Nodup := by
        refine List.nodup_append.mpr ⟨once, next_to.drawn.agrees.ids_nodup.filter _, fun a old b new same => ?_⟩
        exact (fresh b new).2 (same ▸ old)
      have taken : ∀ other ∈ done ++ [id], other ∈ store.users.ids := by
        simpa [or_imp, forall_and] using ⟨stored, present⟩
      have longer : store.users.ids.length < rounds + (done ++ [id]).length := by
        rw [List.length_append, List.length_singleton]
        omega
      refine Hinges.bind_answers ?_ fun users rest => answers_pure (List.forall_mem_cons.mpr ⟨current, rest⟩)
      have split' : met ++ further = (done ++ [id]) ++ (queue ++ further) := by
        rw [← List.append_assoc, List.append_assoc done, List.singleton_append, ← split]
      refine (ih split' distinct taken longer).congr ?_
      rw [List.forall_mem_append]
      exact and_iff_left fun other mem => (fresh other mem).1

theorem hinges_delegatorsOf (present : user.id ∈ store.users.ids) (distinct : user.delegators.ids.Nodup) :
    Hinges settings store (delegatorsOf user) (∀ id ∈ user.delegators.ids, id ≠ user.id → id ∈ store.users.ids)
      fun users => ∀ user ∈ users, user.Current store := by
  have once : (user.id :: user.delegators.ids.filter (· != user.id)).Nodup :=
    List.nodup_cons.mpr ⟨by simp, distinct.filter _⟩
  have enough : store.users.ids.length < store.users.size + 1 + [user.id].length := by
    rw [Roster.ids, List.length_map]
    exact Nat.lt_add_right 1 (Nat.lt_succ_self _)
  have split : user.id :: user.delegators.ids.filter (· != user.id) =
    [user.id] ++ user.delegators.ids.filter (· != user.id) := rfl
  have stored : ∀ id ∈ [user.id], id ∈ store.users.ids := by simpa using present
  have searches : Hinges settings store _ _ _ := sound.hinges_delegatorsFrom split once stored enough
  refine Hinges.congr ?_ (by simp : (∀ id ∈ user.delegators.ids.filter (· != user.id), id ∈ store.users.ids) ↔ _)
  rintro state rfl
  exact searches state rfl

/-! ### The dynamic model -/

section Draft

variable {draft : DynamicAcl.Draft} (grown : draft.Grown store) (record : Record)
include grown

theorem hinges_addRole : Hinges settings store (draft.addRole record) (record.id ∈ store.roles.ids)
    (DynamicAcl.Draft.Grown store) := by
  obtain ⟨entries, enrolled⟩ := grown
  by_cases present : record.id ∈ store.roles.ids
  · obtain ⟨current, mem, same⟩ := Roster.mem_ids.mp present
    have renamed : draft.addRole record = draft.addRole current := by
      rw [DynamicAcl.Draft.addRole, ← same]
      rfl
    rw [renamed]
    exact ((enrolled.addRole sound mem).mono fun _ added => ⟨_, added⟩).hinges present
  · exact (sound.hinges_loadedRole enrolled.loaded record.id).bind_missing present

theorem hinges_addGroup (own : Bool) : Hinges settings store (draft.addGroup own record)
    (record.id ∈ store.groups.ids) (DynamicAcl.Draft.Grown store) := by
  obtain ⟨entries, enrolled⟩ := grown
  by_cases present : record.id ∈ store.groups.ids
  · obtain ⟨current, mem, same⟩ := Roster.mem_ids.mp present
    have renamed : draft.addGroup own record = draft.addGroup own current := by
      rw [DynamicAcl.Draft.addGroup, ← same]
      rfl
    rw [renamed]
    exact ((enrolled.addGroup sound mem own).mono fun _ added => ⟨_, added⟩).hinges present
  · exact (sound.hinges_withId "group" fun _ mem => sound.answers_group mem).bind_missing present

theorem hinges_addPrincipal (own : Bool) : Hinges settings store (draft.addPrincipal own user)
    ((∀ record ∈ user.roles.toList, record.id ∈ store.roles.ids) ∧
      ∀ record ∈ user.groups.toList, record.id ∈ store.groups.ids) (DynamicAcl.Draft.Grown store) :=
  (hinges_foldlM _ (fun record _ grown => sound.hinges_addRole grown record) _ grown).bind fun _ _ grown =>
    hinges_foldlM _ (fun record _ grown => sound.hinges_addGroup grown record own) _ grown

end Draft

theorem hinges_buildDynamic (present : user.id ∈ store.users.ids) (distinct : user.delegators.ids.Nodup) :
    Hinges settings store (DynamicAcl.build user) (store.Supplies user .dynamic) fun _ => True := by
  refine (sound.answers_requireUser present).hinges_bind fun _ _ => ?_
  refine (sound.hinges_delegatorsOf present distinct).bind fun delegators _ current => ?_
  refine (sound.hinges_addPrincipal ⟨[], .empty store⟩ true).bind_answers fun draft grown => ?_
  obtain ⟨entries, enrolled⟩ := grown
  refine (enrolled.addPrincipals sound current).bind fun draft enrolled => ?_
  obtain ⟨records, made, -⟩ := sound.delegators_arranged current
  refine Answers.bind (answers_liftExcept made rfl) fun _ same => ?_
  subst same
  obtain ⟨permissions, built, -⟩ :=
    DynamicAcl.ofRoles_eq sound enrolled.enrols.roles user.toRecord user.groups draft.groupRoles records
  exact answers_liftExcept built trivial

end Store.Sound

/-! ### The turbine model -/

namespace TurbineAcl

/-- The list has groups of one source, and roles as they are stored. -/
structure Fits (store : Store) (source : Record → Prop) (acl : TurbineAcl) : Prop where
  groups : acl.groups.Drawn source
  roles : acl.roles.Drawn (Role.Current store)
  within : ∀ key, (acl.groupRoles.getD key {}).Drawn (Role.Current store)

variable {source : Record → Prop} {acl : TurbineAcl} {assignments : List (Record × Role)}

theorem Fits.empty (store : Store) (source : Record → Prop) (user : Record) (globalGroup : String) :
    Fits store source {
      user
      globalGroup
      groups := {}
      roles := {}
      permissions := {}
      groupRoles := {}
      groupPermissions := {} } where
  groups := .empty
  roles := .empty
  within key := by
    rw [TreeMap.getD_emptyc]
    exact .empty

theorem Fits.assign (fits : acl.Fits store source) (sound : store.Sound model) (coherent : Roster.Coherent source)
    {group : Record} {role : Role} (listed : source group) (current : role.Current store) :
    ∃ next : TurbineAcl, acl.assign group role = .ok next ∧ next.Fits store source := by
  obtain ⟨within, joined_within, within_drawn, -⟩ := (fits.within group.key).join (coherent_current sound) current
  obtain ⟨roles, joined_roles, roles_drawn, -⟩ := fits.roles.join (coherent_current sound) current
  obtain ⟨groups, joined_groups, groups_drawn, -⟩ := fits.groups.join coherent listed
  refine ⟨{ acl with groupRoles := acl.groupRoles.insert group.key within, roles, groups }, ?_, groups_drawn,
    roles_drawn, fun key => ?_⟩
  · simp only [TurbineAcl.assign, GroupRoles.join, joined_within, joined_roles, joined_groups]
    rfl
  · rw [TreeMap.getD_insert]
    split
    · exact within_drawn
    · exact fits.within key

theorem ofAssignments_ok (sound : store.Sound model) (coherent : Roster.Coherent source) (user : Record)
    (globalGroup : String) (listed : ∀ assignment ∈ assignments, source assignment.1 ∧ assignment.2.Current store) :
    ∃ acl, ofAssignments user assignments globalGroup = .ok acl := by
  have step : ∀ (done : List (Record × Role)) assignment rest (acl : TurbineAcl),
      assignments = done ++ assignment :: rest → acl.Fits store source →
        ∃ next : TurbineAcl, acl.assign assignment.1 assignment.2 = .ok next ∧ next.Fits store source := by
    intro done assignment rest acl split fits
    obtain ⟨grouped, current⟩ := listed assignment (by simp [split])
    exact fits.assign sound coherent grouped current
  obtain ⟨acl, folded, fits⟩ :=
    except_foldlM_ok (fun _ => Fits store source) step (.empty store source user globalGroup)
  have owned : ∀ {roles : Roster Role}, roles.Drawn (Role.Current store) →
      ∃ permissions, permissionsOf roles = .ok permissions :=
    fun drawn => (sound.permissionsOf_arranged drawn.arranges).imp fun _ => And.left
  obtain ⟨groupPermissions, made, -⟩ := groupPermissions_eq fun key => owned (fits.within key)
  obtain ⟨permissions, owned_all⟩ := owned fits.roles
  refine ⟨{ acl with groupPermissions, permissions }, except_bind_eq_ok.mpr ⟨acl, folded, ?_⟩⟩
  exact except_bind_eq_ok.mpr ⟨groupPermissions, made, except_bind_eq_ok.mpr ⟨permissions, owned_all, rfl⟩⟩

end TurbineAcl

namespace Store.Sound

variable (sound : store.Sound model)
include sound

theorem hinges_assignmentsOf {joins : List Assignment} {loaded : LoadedRoles} (current : loaded.Current store) :
    Hinges settings store (TurbineAcl.assignmentsOf loaded joins) (∀ join ∈ joins, join.role.id ∈ store.roles.ids)
      fun assignments => ∀ assignment ∈ assignments,
        (∃ join ∈ joins, join.group = assignment.1) ∧ assignment.2.Current store := by
  induction joins generalizing loaded with
  | nil => exact (hinges_pure (by simp)).congr (by simp)
  | cons join joins ih =>
    have each : (∀ other ∈ join :: joins, other.role.id ∈ store.roles.ids) ↔
      join.role.id ∈ store.roles.ids ∧ ∀ other ∈ joins, other.role.id ∈ store.roles.ids := List.forall_mem_cons
    refine ((sound.hinges_loadedRole current join.role.id).bind fun found _ held => ?_).congr each.symm
    obtain ⟨role, later⟩ := found
    obtain ⟨-, fresh, later_current⟩ := held
    refine (ih later_current).bind_answers fun assignments rest => answers_pure ?_
    refine List.forall_mem_cons.mpr ⟨⟨⟨join, List.mem_cons_self, rfl⟩, fresh⟩, fun assignment mem => ?_⟩
    obtain ⟨⟨other, listed, same⟩, current⟩ := rest assignment mem
    exact ⟨⟨other, List.mem_cons_of_mem _ listed, same⟩, current⟩

theorem hinges_buildTurbine (present : user.id ∈ store.users.ids)
    (coherent : Roster.Coherent fun group => ∃ join ∈ user.joins, join.group = group) (globalGroup : String) :
    Hinges settings store (TurbineAcl.build user globalGroup) (store.Supplies user .turbine) fun _ => True := by
  refine (sound.answers_requireUser present).hinges_bind fun _ _ => ?_
  refine (sound.hinges_assignmentsOf (LoadedRoles.Current.empty store)).bind_answers fun assignments listed => ?_
  obtain ⟨acl, built⟩ := TurbineAcl.ofAssignments_ok sound coherent user.toRecord globalGroup listed
  exact answers_liftExcept built trivial

/-! ### Any model -/

theorem hinges_buildFor (present : user.id ∈ store.users.ids) (distinct : user.delegators.ids.Nodup)
    (coherent : Roster.Coherent fun group => ∃ join ∈ user.joins, join.group = group) (active : Model)
    (globalGroup : String) :
    Hinges settings store (Acl.buildFor active globalGroup user) (store.Supplies user active) fun _ => True := by
  cases active with
  | basic =>
    have builds : Answers settings store (BasicAcl.build user) fun _ => True :=
      (sound.answers_requireUser present).bind fun _ _ => answers_pure trivial
    exact (builds.map fun _ _ => trivial).hinges trivial
  | dynamic => exact (sound.hinges_buildDynamic present distinct).map fun _ _ => trivial
  | turbine => exact (sound.hinges_buildTurbine present coherent globalGroup).map fun _ _ => trivial

end Store.Sound

theorem Store.Sound.run_buildFor_absent {state : State} (sound : state.store.Sound model) (settings : Settings)
    (absent : user.id ∉ state.store.users.ids) (active : Model) (globalGroup : String) :
    ((Acl.buildFor active globalGroup user).run { settings } state).1 = .error (.noEntityNamed .user user.name) := by
  have missing : state.store.users.get? user.id = none := (sound.tables .user).get?_eq_none_iff.mpr absent
  have answered : state.store.answer (.find .user user.id) = (.ok none, state.store) := by
    rw [← missing]
    rfl
  have refused {α : Type} (next : Unit → Action α) :
      ((requireUser user >>= next).run { settings } state).1 = .error (.noEntityNamed .user user.name) := by
    rw [requireUser, bind_assoc, run_bind, run_ask_of_ok state settings answered]
    rfl
  cases active with
  | basic | dynamic | turbine =>
    rw [Acl.buildFor, run_map]
    exact congrArg (Except.map _) (refused _)

/-- The ways in which it ends to build a list: the user or something that is looked up is not stored, or the
list is built. -/
structure Acl.Ends (store : Store) (model : Model) (user : User) (result : Except Error Acl) : Prop where
  unknown : (∃ e, result = .error e ∧ e.category = .unknownEntity) ↔ user.id ∉ store.users.ids
  backend : (∃ e, result = .error e ∧ e.category = .dataBackend) ↔
    user.id ∈ store.users.ids ∧ ¬ store.Supplies user model
  built : (∃ acl, result = .ok acl) ↔ user.id ∈ store.users.ids ∧ store.Supplies user model
  apart : ∀ e, result = .error e → e.category ≠ .entityExists

theorem Acl.Ends.of_hinged {active : Model} {post : Acl → Prop} {result : Except Error Acl}
    (hinged : Hinged (store.Supplies user active) post result) (present : user.id ∈ store.users.ids) :
    Acl.Ends store active user result := by
  cases hinged with
  | whole complete _ => constructor <;> simp [present, complete]
  | missing lacks backend => constructor <;> simp [present, lacks, backend]

theorem Acl.Ends.of_absent {active : Model} {result : Except Error Acl}
    (refused : result = .error (.noEntityNamed .user user.name)) (absent : user.id ∉ store.users.ids) :
    Acl.Ends store active user result := by
  subst refused
  constructor <;> simp [absent, Error.category]

namespace Service

/-- A list is built from a user value that was loaded at one moment over what is stored at another one. Nothing
is asked of how the one came from the other. -/
theorem Reachable.outdated_user_ends {earlier later : Service} (was_reachable : earlier.Reachable) {user : User}
    (handed : earlier.HandsOut user) (reachable : later.Reachable) (model : Model) (globalGroup : String) :
    Acl.Ends later.state.store model user (later.run (Acl.buildFor model globalGroup user)).1 := by
  obtain ⟨-, complete⟩ := (loads_users was_reachable.sound).of_handsOut was_reachable.sound handed
  have distinct : user.delegators.ids.Nodup := complete.follows.delegators.drawn.agrees.ids_nodup
  have coherent : Roster.Coherent fun group => ∃ join ∈ user.joins, join.group = group := by
    rintro _ _ ⟨join, mem, rfl⟩ ⟨join', mem', rfl⟩ same
    have stored := complete.follows.joins.groups
    exact congrArg Record.id ((was_reachable.sound.tables .group).eq_of_key_eq (stored _ mem) (stored _ mem') same)
  by_cases present : user.id ∈ later.state.store.users.ids
  · have hinges : Hinges later.settings later.state.store _ _ _ :=
      reachable.sound.hinges_buildFor present distinct coherent model globalGroup
    exact .of_hinged (hinges later.state rfl).2.2 present
  · exact .of_absent (reachable.sound.run_buildFor_absent later.settings present model globalGroup) present

/-- The value of Ann is from before her group was renamed and its name was taken by another one, and from
before one of her roles was removed and created anew. -/
theorem outdated_ann_lacks_role :
    let ann : Record := ⟨⟨0⟩, "Ann"⟩
    let staff : Record := ⟨⟨1⟩, "Staff"⟩
    let clerk : Record := ⟨⟨2⟩, "clerk"⟩
    let judge : Record := ⟨⟨3⟩, "judge"⟩
    let earlier := (⟨{ model := .turbine }, {}⟩ : Service).performAll
      [.addUser "Ann" "pw", .add .group "Staff", .add .role "clerk", .add .role "judge",
        .grant .turbine (.userGroupRole ann staff clerk) rfl, .grant .turbine (.userGroupRole ann staff judge) rfl]
    let renamed := earlier.performAll [.rename (.user { ann with }) "Anna", .rename (.group { staff with }) "Crew",
      .add .group "staff", .rename (.role { clerk with }) "guest", .add .role "clerk"]
    let replaced := renamed.performAll [.remove (.role { judge with }), .add .role "judge"]
    let gone := renamed.performAll [.remove (.user { ann with }), .add .user "Ann"]
    ∃ user : User, user.toRecord = ann ∧ earlier.HandsOut user ∧
      (∃ acl, (renamed.run (Acl.buildFor .turbine "global" user)).1 = .ok acl) ∧
      (∃ e, (replaced.run (Acl.buildFor .turbine "global" user)).1 = .error e ∧ e.category = .dataBackend) ∧
      ∃ e, (gone.run (Acl.buildFor .turbine "global" user)).1 = .error e ∧ e.category = .unknownEntity := by
  intro ann staff clerk judge earlier renamed replaced gone
  have started : Service.start { model := .turbine } {} = .ok ⟨{ model := .turbine }, {}⟩ := rfl
  have reachable : earlier.Reachable := (Reachable.start 0 0 0 ⟨0⟩ started).performAll _
  have renamed_reachable : renamed.Reachable := reachable.performAll _
  have mem : ann ∈ earlier.state.store.users.toList := by decide +kernel
  have edges : earlier.state.store.edges.toList =
    [.userGroupRole ⟨0⟩ ⟨1⟩ ⟨2⟩, .userGroupRole ⟨0⟩ ⟨1⟩ ⟨3⟩] := by decide +kernel
  obtain ⟨user, same, complete, handed, -⟩ := (loads_users reachable.sound).each ann mem
  have same : user.toRecord = ann := same
  have id : user.id = ⟨0⟩ := congrArg Record.id same
  have follows := complete.follows
  rw [same, edges] at follows
  have roles : user.joins.map (·.role.id) = [⟨2⟩, ⟨3⟩] := by
    have ids := congrArg (List.map (·.2.2)) follows.joins.ids
    rwa [List.map_map] at ids
  have supplies : ∀ store : Store, store.Supplies user .turbine ↔
      ∀ id ∈ [(⟨2⟩ : EntityId), ⟨3⟩], id ∈ store.roles.ids := by
    intro store
    rw [← roles, List.forall_mem_map]
    rfl
  have ends : ∀ {later : Service}, later.Reachable →
      Acl.Ends later.state.store .turbine user (later.run (Acl.buildFor .turbine "global" user)).1 :=
    fun later_reachable => reachable.outdated_user_ends handed later_reachable .turbine "global"
  refine ⟨user, same, handed, (ends renamed_reachable).built.mpr ?_,
    (ends (renamed_reachable.performAll _)).backend.mpr ?_, (ends (renamed_reachable.performAll _)).unknown.mpr ?_⟩
  · rw [supplies, id]
    decide +kernel
  · rw [supplies, id]
    decide +kernel
  · rw [id]
    decide +kernel

end Service

end Entitlement
