import Entitlement.Loading
import Entitlement.Proofs.Action.Answering
import Entitlement.Proofs.Loading.Ends
import Entitlement.Proofs.Roster.Drawn
import Entitlement.Proofs.Store.Soundness

/-!
Loading is total and exact over a sound store. The neighbours of a loaded entity are the stored records
at the other ends of its edges, each once and in the order of the edges.
-/

namespace Entitlement

open Entitlement.Action

/-- The roster holds the stored records of the given identities, in that order. -/
structure Roster.Lists (store : Store) (kind : Kind) (ids : List EntityId)
    (roster : Roster Record) : Prop where
  drawn : roster.Drawn (· ∈ (store.table kind).toList)
  ids : roster.ids = ids

/-- The assignments are of stored records and have the given identities. -/
structure Assigned (store : Store) (triples : List (EntityId × EntityId × EntityId))
    (joins : List Assignment) : Prop where
  ids : joins.map Assignment.ids = triples
  users : ∀ join ∈ joins, join.user ∈ store.users.toList
  groups : ∀ join ∈ joins, join.group ∈ store.groups.toList
  roles : ∀ join ∈ joins, join.role ∈ store.roles.toList

structure Assignment.Stored (store : Store) (join : Assignment) : Prop where
  user : join.user ∈ (store.table .user).toList
  group : join.group ∈ (store.table .group).toList
  role : join.role ∈ (store.table .role).toList

/-- The user has the neighbours that these edges lead to. A delegation to oneself counts as one from
oneself. -/
structure User.Follows (store : Store) (record : Record) (edges : List (Edge EntityId))
    (user : User) : Prop where
  self : user.toRecord = record
  groups : user.groups.Lists store .group ((Side.groupsOfUser record.id).ends edges)
  roles : user.roles.Lists store .role ((Side.rolesOfUser record.id).ends edges)
  delegators : user.delegators.Lists store .user ((Side.delegatorsOf record.id).ends edges)
  delegatees : user.delegatees.Lists store .user
    (((Side.delegateesOf record.id).ends edges).filter (· ≠ record.id))
  joins : Assigned store (Edge.joins record.id edges) user.joins

structure Group.Follows (store : Store) (record : Record) (edges : List (Edge EntityId))
    (group : Group) : Prop where
  self : group.toRecord = record
  users : group.users.Lists store .user ((Side.usersOfGroup record.id).ends edges)
  roles : group.roles.Lists store .role ((Side.rolesOfGroup record.id).ends edges)
  joins : Assigned store (Edge.joins record.id edges) group.joins

structure Role.Follows (store : Store) (record : Record) (edges : List (Edge EntityId))
    (role : Role) : Prop where
  self : role.toRecord = record
  permissions : role.permissions.Lists store .permission ((Side.permissionsOfRole record.id).ends edges)
  groups : role.groups.Lists store .group ((Side.groupsOfRole record.id).ends edges)
  users : role.users.Lists store .user ((Side.usersOfRole record.id).ends edges)
  joins : Assigned store (Edge.joins record.id edges) role.joins

structure Permission.Follows (store : Store) (record : Record) (edges : List (Edge EntityId))
    (permission : Permission) :
    Prop where
  self : permission.toRecord = record
  roles : permission.roles.Lists store .role ((Side.rolesOfPermission record.id).ends edges)

variable {settings : Settings} {model : Model} {store : Store} {kind : Kind} {id : EntityId}
  {record : Record}
  {edge : Edge EntityId} {edges : List (Edge EntityId)} {roster : Roster Record} {ids : List EntityId}

namespace Roster.Lists

theorem empty (store : Store) (kind : Kind) : ({} : Roster Record).Lists store kind [] :=
  ⟨Drawn.empty, rfl⟩

theorem mem_iff (lists : roster.Lists store kind ids) (sound : store.Sound model) :
    record ∈ roster.toList ↔ record ∈ (store.table kind).toList ∧ record.id ∈ ids := by
  rw [lists.drawn.mem_iff fun a b mem mem' same =>
    (sound.tables kind).eq_of_id_eq mem mem' same, lists.ids]
  rfl

theorem mem_ids_iff {side : Side} (lists : roster.Lists store kind (side.ends edges)) :
    id ∈ roster.ids ↔ side.edge id ∈ edges := by
  rw [lists.ids, Side.mem_ends]

theorem snoc_of_ne {side : Side} (lists : roster.Lists store kind (side.ends edges))
    (apart : ∀ id, side.edge id ≠ edge) :
    roster.Lists store kind (side.ends (edges ++ [edge])) := by
  rwa [Side.ends_snoc_of_ne edges apart]

theorem others_snoc_of_ne {side : Side} {keep : EntityId → Bool}
    (lists : roster.Lists store kind ((side.ends edges).filter keep))
    (apart : ∀ id, side.edge id ≠ edge) :
    roster.Lists store kind ((side.ends (edges ++ [edge])).filter keep) := by
  rwa [Side.ends_snoc_of_ne edges apart]

theorem snoc_apart {side : Side} (lists : roster.Lists store kind (side.ends edges))
    (apart : (side.relation == edge.relation) = false) :
    roster.Lists store kind (side.ends (edges ++ [edge])) :=
  lists.snoc_of_ne (Side.edge_ne apart)

theorem others_snoc_apart {side : Side} {keep : EntityId → Bool}
    (lists : roster.Lists store kind ((side.ends edges).filter keep))
    (apart : (side.relation == edge.relation) = false) :
    roster.Lists store kind ((side.ends (edges ++ [edge])).filter keep) :=
  lists.others_snoc_of_ne (Side.edge_ne apart)

end Roster.Lists

namespace Assigned

variable {triples : List (EntityId × EntityId × EntityId)} {joins : List Assignment}

theorem empty (store : Store) : Assigned store [] [] := ⟨rfl, by simp, by simp, by simp⟩

theorem stored (assigned : Assigned store triples joins) {join : Assignment} (mem : join ∈ joins) : join.Stored store :=
  ⟨assigned.users join mem, assigned.groups join mem, assigned.roles join mem⟩

theorem snoc_of_none (assigned : Assigned store (Edge.joins id edges) joins)
    (apart : edge.join? = none) :
    Assigned store (Edge.joins id (edges ++ [edge])) joins := by
  rwa [Edge.joins_snoc_of_none id edges apart]

theorem snoc (assigned : Assigned store (Edge.joins id edges) joins) {join : Assignment}
    {user group role : EntityId}
    (touches : (Edge.userGroupRole user group role).touches id) (same : join.ids = (user, group, role))
    (users : join.user ∈ store.users.toList) (groups : join.group ∈ store.groups.toList)
    (roles : join.role ∈ store.roles.toList) :
    Assigned store (Edge.joins id (edges ++ [.userGroupRole user group role])) (joins ++ [join]) where
  ids := by rw [Edge.joins_snoc edges touches, List.map_append, assigned.ids, List.map_singleton, same]
  users := by simpa [or_imp, forall_and] using ⟨assigned.users, users⟩
  groups := by simpa [or_imp, forall_and] using ⟨assigned.groups, groups⟩
  roles := by simpa [or_imp, forall_and] using ⟨assigned.roles, roles⟩

end Assigned

namespace Store.Sound

variable (sound : store.Sound model)
include sound

theorem find_answered (mem : record ∈ (store.table kind).toList) :
    store.answer (.find kind record.id) = (.ok (some record), store) := by
  have found : (store.table kind).get? record.id = some record :=
    (sound.tables kind).get?_eq_some_iff.mpr ⟨mem, rfl⟩
  simp only [Store.answer, found]

/-- A stored assignment is told by its identities. -/
theorem assignment_eq {a b : Assignment} (stored : a.Stored store) (stored' : b.Stored store)
    (same : a.ids = b.ids) : a = b := by
  obtain ⟨user, group, role⟩ := a
  obtain ⟨user', group', role'⟩ := b
  simp only [Assignment.ids, Prod.mk.injEq] at same
  obtain ⟨same_user, same_group, same_role⟩ := same
  obtain rfl := (sound.tables .user).eq_of_id_eq stored.user stored'.user same_user
  obtain rfl := (sound.tables .group).eq_of_id_eq stored.group stored'.group same_group
  obtain rfl := (sound.tables .role).eq_of_id_eq stored.role stored'.role same_role
  rfl

theorem edgesOf_answered (present : id ∈ (store.table kind).ids) :
    store.answer (.edgesOf kind id) = (.ok (store.edges.touching id), store) := by
  have stored : store.require kind id = .ok () := sound.require_ok_iff.mpr present
  simp only [Store.answer, stored]
  rfl

theorem loadCredentials_answered (present : id ∈ store.users.ids) :
    store.answer (.loadCredentials id) = (.ok (store.credentials.getD id {}), store) := by
  have stored : store.require .user id = .ok () := sound.require_ok_iff.mpr present
  simp only [Store.answer, stored]
  rfl

theorem saveCredentials_answered (present : id ∈ store.users.ids) (credentials : Credentials) :
    store.answer (.saveCredentials id credentials) =
      (.ok (), { store with credentials := store.credentials.insert id credentials }) := by
  have stored : store.require .user id = .ok () := sound.require_ok_iff.mpr present
  simp only [Store.answer, stored]
  rfl

theorem endpoint_of_touches (mem : edge ∈ store.edges.toList) (touches : edge.touches id)
    (present : id ∈ (store.table kind).ids) : (kind, id) ∈ edge.endpoints := by
  obtain ⟨other, at_end⟩ := Edge.touches_iff.mp touches
  have held : id ∈ (store.table other).ids := sound.stored edge mem _ at_end
  rwa [sound.apart kind other id present held]

theorem answers_loadEnd (present : id ∈ (store.table kind).ids) :
    Answers settings store (loadEnd kind id) fun record => record ∈ (store.table kind).toList ∧
      record.id = id := by
  obtain ⟨record, mem, rfl⟩ := Roster.mem_ids.mp present
  refine Answers.bind (answers_ask (sound.find_answered mem) rfl) fun found same => ?_
  subst same
  exact answers_pure ⟨mem, rfl⟩

theorem answers_attach (lists : roster.Lists store kind ids)
    (present : id ∈ (store.table kind).ids) (absent : id ∉ ids) :
    Answers settings store (attach kind id roster) (Roster.Lists store kind (ids ++ [id])) := by
  refine (sound.answers_loadEnd present).bind fun record held => ?_
  obtain ⟨mem, same⟩ := held
  obtain ⟨grown, joined, drawn, listed⟩ :=
    lists.drawn.join (Roster.coherent_of_agrees (sound.tables kind)) mem
  have new : (Named.record record).id ∉ roster.ids := by
    rw [lists.ids]
    exact same ▸ absent
  rw [if_neg new] at listed
  refine answers_liftExcept joined ⟨drawn, ?_⟩
  rw [Roster.ids, listed, List.map_append, List.map_singleton, ← lists.ids, ← same]
  rfl

theorem answers_attach_end (side : Side) (id : EntityId)
    (lists : roster.Lists store side.far (side.ends edges))
    (mem : side.edge id ∈ store.edges.toList) (new : side.edge id ∉ edges) :
    Answers settings store (attach side.far id roster)
      (Roster.Lists store side.far (side.ends (edges ++ [side.edge id]))) := by
  rw [Side.ends_snoc]
  exact sound.answers_attach lists (sound.stored _ mem _ (side.far_mem id)) (mt Side.mem_ends.mp new)

theorem answers_loadAssignment {user group role : EntityId}
    (mem : .userGroupRole user group role ∈ store.edges.toList) :
    Answers settings store (loadAssignment user group role) fun join => join.ids = (user, group, role) ∧
      join.user ∈ store.users.toList ∧ join.group ∈ store.groups.toList ∧
        join.role ∈ store.roles.toList := by
  have stored := sound.stored _ mem
  simp only [Edge.endpoints, List.forall_mem_cons] at stored
  obtain ⟨user_stored, group_stored, role_stored, -⟩ := stored
  refine (sound.answers_loadEnd user_stored).bind fun u user_held => ?_
  refine (sound.answers_loadEnd group_stored).bind fun g group_held => ?_
  refine (sound.answers_loadEnd role_stored).bind fun r role_held => ?_
  obtain ⟨user_mem, user_same⟩ := user_held
  obtain ⟨group_mem, group_same⟩ := group_held
  obtain ⟨role_mem, role_same⟩ := role_held
  refine answers_pure ⟨?_, user_mem, group_mem, role_mem⟩
  rw [Assignment.ids, user_same, group_same, role_same]

/-- An entity is loaded along its edges, each of which is new when its turn comes. -/
theorem answers_edges {α : Type} {follows : List (Edge EntityId) → α → Prop}
    {along : α → Edge EntityId → Action α} {start : α}
    (mem : record ∈ (store.table kind).toList) (begun : follows [] start)
    (step : ∀ done edge a, edge ∈ store.edges.toList → (kind, record.id) ∈ edge.endpoints →
      edge.touches record.id →
      edge ∉ done → follows done a → Answers settings store (along a edge) (follows (done ++ [edge]))) :
    Answers settings store (do let edges ← ask (.edgesOf kind record.id); edges.foldlM along start)
      (follows (store.edges.toList.filter (·.touches record.id))) := by
  have present : record.id ∈ (store.table kind).ids := Roster.mem_ids.mpr ⟨record, mem, rfl⟩
  refine Answers.bind (answers_ask (sound.edgesOf_answered present) rfl) fun edges same => ?_
  subst same
  rw [sound.log.touching_eq]
  refine answers_foldlM _ (fun done edge rest a split held => ?_) begun
  have listed : edge ∈ store.edges.toList.filter (·.touches record.id) := by
    rw [split]
    simp
  have once : (store.edges.toList.filter (·.touches record.id)).Nodup := sound.log.nodup.filter _
  rw [split] at once
  have new : edge ∉ done := fun again => (List.nodup_append.mp once).2.2 _ again _ List.mem_cons_self rfl
  obtain ⟨stored, touches⟩ := List.mem_filter.mp listed
  exact step done edge a stored (sound.endpoint_of_touches stored touches present) touches new held

end Store.Sound

/-! ### Users -/

/-- A delegation to the user, which may come from the user as well. -/
theorem User.Follows.along_delegator {user : User} {delegator : EntityId}
    (follows : user.Follows store user.toRecord edges) (sound : store.Sound model)
    (mem : .delegation delegator user.id ∈ store.edges.toList)
    (new : .delegation delegator user.id ∉ edges) :
    Answers settings store (user.along (.delegation delegator user.id))
      (User.Follows store user.toRecord (edges ++ [.delegation delegator user.id])) := by
  obtain ⟨-, groups, roles, delegators, delegatees, joins⟩ := follows
  have step : user.along (.delegation delegator user.id) = _ := if_pos rfl
  rw [step]
  refine (sound.answers_attach_end (.delegatorsOf user.id) delegator delegators mem new).bind
    fun grown listed => answers_pure ?_
  refine ⟨rfl, groups.snoc_apart rfl, roles.snoc_apart rfl, listed, ?_, joins.snoc_of_none rfl⟩
  by_cases loop : delegator = user.id
  · subst loop
    have snoc := Side.ends_snoc (.delegateesOf user.id) edges user.id
    have shape : Edge.delegation user.id user.id = (Side.delegateesOf user.id).edge user.id := rfl
    rw [shape, snoc, List.filter_append]
    simpa using delegatees
  · refine delegatees.others_snoc_of_ne fun id same => loop ?_
    cases same
    rfl

theorem User.Follows.along_delegatee {user : User} {delegatee : EntityId}
    (follows : user.Follows store user.toRecord edges) (sound : store.Sound model)
    (other : delegatee ≠ user.id) (mem : .delegation user.id delegatee ∈ store.edges.toList)
    (new : .delegation user.id delegatee ∉ edges) :
    Answers settings store (user.along (.delegation user.id delegatee))
      (User.Follows store user.toRecord (edges ++ [.delegation user.id delegatee])) := by
  obtain ⟨-, groups, roles, delegators, delegatees, joins⟩ := follows
  have step : user.along (.delegation user.id delegatee) = _ := if_neg other
  rw [step]
  have absent : delegatee ∉ ((Side.delegateesOf user.id).ends edges).filter (· ≠ user.id) :=
    fun listed => new (Side.mem_ends.mp (List.mem_of_mem_filter listed))
  have stored : delegatee ∈ (store.table .user).ids :=
    sound.stored _ mem _ ((Side.delegateesOf user.id).far_mem delegatee)
  refine (sound.answers_attach delegatees stored absent).bind fun grown listed => answers_pure ?_
  have apart : ∀ id, (Side.delegatorsOf user.id).edge id ≠ .delegation user.id delegatee := by
    intro id same
    cases same
    exact other rfl
  refine ⟨rfl, groups.snoc_apart rfl, roles.snoc_apart rfl, delegators.snoc_of_ne apart, ?_,
    joins.snoc_of_none rfl⟩
  have snoc := Side.ends_snoc (.delegateesOf user.id) edges delegatee
  have shape : Edge.delegation user.id delegatee = (Side.delegateesOf user.id).edge delegatee := rfl
  rw [shape, snoc, List.filter_append]
  simpa [other] using listed

theorem User.Follows.along {user : User} (follows : user.Follows store record edges)
    (sound : store.Sound model) (mem : edge ∈ store.edges.toList)
    (at_end : (.user, record.id) ∈ edge.endpoints) (touches : edge.touches record.id)
    (new : edge ∉ edges) :
    Answers settings store (user.along edge) (User.Follows store record (edges ++ [edge])) := by
  obtain rfl := follows.self
  cases edge with
  | userGroup u group =>
    obtain rfl : user.id = u := by simpa [Edge.endpoints] using at_end
    refine (sound.answers_attach_end (.groupsOfUser user.id) group follows.groups mem new).bind
      fun grown listed => ?_
    exact answers_pure ⟨rfl, listed, follows.roles.snoc_apart rfl,
      follows.delegators.snoc_apart rfl, follows.delegatees.others_snoc_apart rfl,
      follows.joins.snoc_of_none rfl⟩
  | userRole u role =>
    obtain rfl : user.id = u := by simpa [Edge.endpoints] using at_end
    refine (sound.answers_attach_end (.rolesOfUser user.id) role follows.roles mem new).bind
      fun grown listed => ?_
    exact answers_pure ⟨rfl, follows.groups.snoc_apart rfl, listed,
      follows.delegators.snoc_apart rfl, follows.delegatees.others_snoc_apart rfl,
      follows.joins.snoc_of_none rfl⟩
  | userGroupRole u group role =>
    refine (sound.answers_loadAssignment mem).bind fun join held => ?_
    obtain ⟨same, of_user, of_group, of_role⟩ := held
    exact answers_pure ⟨rfl, follows.groups.snoc_apart rfl, follows.roles.snoc_apart rfl,
      follows.delegators.snoc_apart rfl, follows.delegatees.others_snoc_apart rfl,
      follows.joins.snoc touches same of_user of_group of_role⟩
  | delegation delegator delegatee =>
    by_cases own : delegatee = user.id
    · subst own
      exact follows.along_delegator sound mem new
    · obtain rfl : user.id = delegator := by simpa [Edge.endpoints, Ne.symm own] using at_end
      exact follows.along_delegatee sound own mem new
  | groupRole | rolePermission => simp [Edge.endpoints] at at_end

theorem User.Follows.touching {user : User}
    (follows : user.Follows store record (store.edges.toList.filter (·.touches record.id))) :
    user.Follows store record store.edges.toList where
  self := follows.self
  groups := (Side.groupsOfUser record.id).ends_touching _ ▸ follows.groups
  roles := (Side.rolesOfUser record.id).ends_touching _ ▸ follows.roles
  delegators := (Side.delegatorsOf record.id).ends_touching _ ▸ follows.delegators
  delegatees := (Side.delegateesOf record.id).ends_touching _ ▸ follows.delegatees
  joins := Edge.joins_touching record.id _ ▸ follows.joins

theorem Store.Sound.answers_loadUser (sound : store.Sound model) (mem : record ∈ store.users.toList) :
    Answers settings store (User.load record) (User.Follows store record store.edges.toList) := by
  have present : record.id ∈ store.users.ids := Roster.mem_ids.mpr ⟨record, mem, rfl⟩
  refine Answers.bind (answers_ask (sound.loadCredentials_answered present) rfl) fun credentials _ => ?_
  refine (sound.answers_edges mem ?_ ?_).mono fun user follows => User.Follows.touching follows
  · exact ⟨rfl, .empty .., .empty .., .empty .., .empty .., .empty ..⟩
  · intro done edge user stored at_end touches new follows
    exact User.Follows.along follows sound stored at_end touches new

/-! ### Groups -/

theorem Group.Follows.along {group : Group} (follows : group.Follows store record edges)
    (sound : store.Sound model) (mem : edge ∈ store.edges.toList)
    (at_end : (.group, record.id) ∈ edge.endpoints) (touches : edge.touches record.id)
    (new : edge ∉ edges) :
    Answers settings store (group.along edge) (Group.Follows store record (edges ++ [edge])) := by
  obtain ⟨rfl, users, roles, joins⟩ := follows
  cases edge with
  | userGroup user g =>
    obtain rfl : group.id = g := by simpa [Edge.endpoints] using at_end
    refine (sound.answers_attach_end (.usersOfGroup group.id) user users mem new).bind
      fun grown listed => ?_
    exact answers_pure ⟨rfl, listed, roles.snoc_apart rfl, joins.snoc_of_none rfl⟩
  | groupRole g role =>
    obtain rfl : group.id = g := by simpa [Edge.endpoints] using at_end
    refine (sound.answers_attach_end (.rolesOfGroup group.id) role roles mem new).bind
      fun grown listed => ?_
    exact answers_pure ⟨rfl, users.snoc_apart rfl, listed, joins.snoc_of_none rfl⟩
  | userGroupRole user g role =>
    refine (sound.answers_loadAssignment mem).bind fun join held => ?_
    obtain ⟨same, of_user, of_group, of_role⟩ := held
    exact answers_pure ⟨rfl, users.snoc_apart rfl, roles.snoc_apart rfl,
      joins.snoc touches same of_user of_group of_role⟩
  | userRole | rolePermission | delegation => simp [Edge.endpoints] at at_end

theorem Group.Follows.touching {group : Group}
    (follows : group.Follows store record (store.edges.toList.filter (·.touches record.id))) :
    group.Follows store record store.edges.toList where
  self := follows.self
  users := (Side.usersOfGroup record.id).ends_touching _ ▸ follows.users
  roles := (Side.rolesOfGroup record.id).ends_touching _ ▸ follows.roles
  joins := Edge.joins_touching record.id _ ▸ follows.joins

theorem Store.Sound.answers_loadGroup (sound : store.Sound model) (mem : record ∈ store.groups.toList) :
    Answers settings store (Group.load record) (Group.Follows store record store.edges.toList) := by
  refine (sound.answers_edges mem ?_ ?_).mono fun group follows => Group.Follows.touching follows
  · exact ⟨rfl, .empty .., .empty .., .empty ..⟩
  · intro done edge group stored at_end touches new follows
    exact Group.Follows.along follows sound stored at_end touches new

/-! ### Roles -/

theorem Role.Follows.along {role : Role} (follows : role.Follows store record edges)
    (sound : store.Sound model) (mem : edge ∈ store.edges.toList)
    (at_end : (.role, record.id) ∈ edge.endpoints) (touches : edge.touches record.id)
    (new : edge ∉ edges) :
    Answers settings store (role.along edge) (Role.Follows store record (edges ++ [edge])) := by
  obtain ⟨rfl, permissions, groups, users, joins⟩ := follows
  cases edge with
  | rolePermission r permission =>
    obtain rfl : role.id = r := by simpa [Edge.endpoints] using at_end
    refine (sound.answers_attach_end (.permissionsOfRole role.id) permission permissions mem new).bind
      fun grown listed => ?_
    exact answers_pure ⟨rfl, listed, groups.snoc_apart rfl, users.snoc_apart rfl,
      joins.snoc_of_none rfl⟩
  | groupRole group r =>
    obtain rfl : role.id = r := by simpa [Edge.endpoints] using at_end
    refine (sound.answers_attach_end (.groupsOfRole role.id) group groups mem new).bind
      fun grown listed => ?_
    exact answers_pure ⟨rfl, permissions.snoc_apart rfl, listed, users.snoc_apart rfl,
      joins.snoc_of_none rfl⟩
  | userRole user r =>
    obtain rfl : role.id = r := by simpa [Edge.endpoints] using at_end
    refine (sound.answers_attach_end (.usersOfRole role.id) user users mem new).bind
      fun grown listed => ?_
    exact answers_pure ⟨rfl, permissions.snoc_apart rfl, groups.snoc_apart rfl, listed,
      joins.snoc_of_none rfl⟩
  | userGroupRole user group r =>
    refine (sound.answers_loadAssignment mem).bind fun join held => ?_
    obtain ⟨same, of_user, of_group, of_role⟩ := held
    exact answers_pure ⟨rfl, permissions.snoc_apart rfl, groups.snoc_apart rfl,
      users.snoc_apart rfl,
      joins.snoc touches same of_user of_group of_role⟩
  | userGroup | delegation => simp [Edge.endpoints] at at_end

theorem Role.Follows.touching {role : Role}
    (follows : role.Follows store record (store.edges.toList.filter (·.touches record.id))) :
    role.Follows store record store.edges.toList where
  self := follows.self
  permissions := (Side.permissionsOfRole record.id).ends_touching _ ▸ follows.permissions
  groups := (Side.groupsOfRole record.id).ends_touching _ ▸ follows.groups
  users := (Side.usersOfRole record.id).ends_touching _ ▸ follows.users
  joins := Edge.joins_touching record.id _ ▸ follows.joins

theorem Store.Sound.answers_loadRole (sound : store.Sound model) (mem : record ∈ store.roles.toList) :
    Answers settings store (Role.load record) (Role.Follows store record store.edges.toList) := by
  refine (sound.answers_edges mem ?_ ?_).mono fun role follows => Role.Follows.touching follows
  · exact ⟨rfl, .empty .., .empty .., .empty .., .empty ..⟩
  · intro done edge role stored at_end touches new follows
    exact Role.Follows.along follows sound stored at_end touches new

/-! ### Permissions -/

theorem Store.Sound.answers_loadPermission (sound : store.Sound model)
    (mem : record ∈ store.permissions.toList) :
    Answers settings store (Permission.load record)
      (Permission.Follows store record store.edges.toList) := by
  have loads : Answers settings store (Permission.load record)
      (Permission.Follows store record (store.edges.toList.filter (·.touches record.id))) := by
    refine sound.answers_edges mem ⟨rfl, .empty ..⟩ ?_
    rintro done edge permission stored at_end touches new ⟨rfl, roles⟩
    cases edge with
    | rolePermission role p =>
      obtain rfl : permission.id = p := by simpa [Edge.endpoints] using at_end
      refine (sound.answers_attach_end
        (.rolesOfPermission permission.id) role roles stored new).bind fun grown listed => ?_
      exact answers_pure ⟨rfl, listed⟩
    | userGroup | userRole | groupRole | userGroupRole | delegation => simp [Edge.endpoints] at at_end
  exact loads.mono fun permission follows =>
    ⟨follows.self, (Side.rolesOfPermission record.id).ends_touching _ ▸ follows.roles⟩

/-! ### Entities by name and by identity -/

section Entity

variable {E : Type} [Entity E] {post : E → Prop}

theorem Store.Sound.answers_withId (sound : store.Sound model)
    (mem : record ∈ (store.table (Entity.kind E)).toList)
    (loads : Answers settings store (Entity.load record) post) :
    Answers settings store (Entity.withId record.id : Action E) post := by
  refine Answers.bind (answers_ask (sound.find_answered mem) rfl) fun found same => ?_
  subst same
  exact loads

theorem Store.Sound.answers_named (sound : store.Sound model) {name : String}
    (mem : record ∈ (store.table (Entity.kind E)).toList) (same : record.key = nameKey name)
    (loads : Answers settings store (Entity.load record) post) :
    Answers settings store (Entity.named name : Action E) post := by
  have found : (store.table (Entity.kind E)).named? name = some record :=
    (sound.tables _).named?_eq_some_iff.mpr ⟨mem, same⟩
  have answered : store.answer (.findNamed (Entity.kind E) name) = (.ok (some record), store) := by
    simp only [Store.answer, found]
  refine Answers.bind (answers_ask answered rfl) fun found same => ?_
  subst same
  exact loads

theorem Store.Sound.run_withId_absent {state : State} (sound : state.store.Sound model) (settings : Settings)
    (gone : id ∉ (state.store.table (Entity.kind E)).ids) :
    (Entity.withId id : Action E).run { settings } state =
      (.error (.noEntityWithId (Entity.kind E) id), { state with requests := state.requests + 1 }) := by
  have absent := (sound.tables (Entity.kind E)).get?_eq_none_iff.mpr gone
  have by_id : state.store.answer (.find (Entity.kind E) id) = (.ok none, state.store) := by
    simp only [Store.answer, absent]
  rw [Entity.withId, run_bind]
  simp only [run_ask_of_ok state settings by_id, run_throw]

theorem run_named_absent {state : State} (settings : Settings) {name : String}
    (absent : (state.store.table (Entity.kind E)).named? name = none) :
    (Entity.named name : Action E).run { settings } state =
      (.error (.noEntityNamed (Entity.kind E) name), { state with requests := state.requests + 1 }) := by
  have by_name : state.store.answer (.findNamed (Entity.kind E) name) = (.ok none, state.store) := by
    simp only [Store.answer, absent]
  rw [Entity.named, run_bind]
  simp only [run_ask_of_ok state settings by_name, run_throw]

end Entity

/-- A user as the store would hand it out now. -/
structure User.Current (store : Store) (user : User) : Prop where
  stored : user.toRecord ∈ store.users.toList
  follows : user.Follows store user.toRecord store.edges.toList

theorem User.Current.present {user : User} (current : user.Current store) : user.id ∈ store.users.ids :=
  Roster.mem_ids.mpr ⟨user.toRecord, current.stored, rfl⟩

structure Group.Current (store : Store) (group : Group) : Prop where
  stored : group.toRecord ∈ store.groups.toList
  follows : group.Follows store group.toRecord store.edges.toList

structure Role.Current (store : Store) (role : Role) : Prop where
  stored : role.toRecord ∈ store.roles.toList
  follows : role.Follows store role.toRecord store.edges.toList

structure Permission.Current (store : Store) (permission : Permission) : Prop where
  stored : permission.toRecord ∈ store.permissions.toList
  follows : permission.Follows store permission.toRecord store.edges.toList

theorem User.Follows.current {user : User} (follows : user.Follows store record store.edges.toList)
    (mem : record ∈ store.users.toList) : user.toRecord = record ∧ user.Current store := by
  obtain rfl := follows.self
  exact ⟨rfl, mem, follows⟩

theorem Group.Follows.current {group : Group} (follows : group.Follows store record store.edges.toList)
    (mem : record ∈ store.groups.toList) : group.toRecord = record ∧ group.Current store := by
  obtain rfl := follows.self
  exact ⟨rfl, mem, follows⟩

theorem Role.Follows.current {role : Role} (follows : role.Follows store record store.edges.toList)
    (mem : record ∈ store.roles.toList) : role.toRecord = record ∧ role.Current store := by
  obtain rfl := follows.self
  exact ⟨rfl, mem, follows⟩

theorem Permission.Follows.current {permission : Permission} (follows : permission.Follows store record store.edges.toList)
    (mem : record ∈ store.permissions.toList) : permission.toRecord = record ∧ permission.Current store := by
  obtain rfl := follows.self
  exact ⟨rfl, mem, follows⟩

namespace Store.Sound

variable (sound : store.Sound model)
include sound

theorem answers_user (mem : record ∈ store.users.toList) :
    Answers settings store (Entity.withId record.id : Action User)
      fun user => user.toRecord = record ∧ user.Current store :=
  sound.answers_withId mem ((sound.answers_loadUser mem).mono fun _ follows => follows.current mem)

theorem answers_group (mem : record ∈ store.groups.toList) :
    Answers settings store (Entity.withId record.id : Action Group)
      fun group => group.toRecord = record ∧ group.Current store :=
  sound.answers_withId mem ((sound.answers_loadGroup mem).mono fun _ follows => follows.current mem)

theorem answers_role (mem : record ∈ store.roles.toList) :
    Answers settings store (Entity.withId record.id : Action Role)
      fun role => role.toRecord = record ∧ role.Current store :=
  sound.answers_withId mem ((sound.answers_loadRole mem).mono fun _ follows => follows.current mem)

end Store.Sound

end Entitlement
