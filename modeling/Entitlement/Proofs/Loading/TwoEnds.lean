import Entitlement.Proofs.Loading.Totality

/-!
Both ends of an edge tell of it. The lists of neighbours are made anew for every entity, each from the edges
alone, and so the entities at the ends agree. The one exception is a delegation to oneself, which only shows
among the delegators.
-/

namespace Entitlement

/-- What any two entities that the service hands out say of each other. -/
structure Service.EndsAgree (service : Service) : Prop where
  userGroups : ∀ (user : User) (group : Group), service.HandsOut user → service.HandsOut group →
    (group.toRecord ∈ user.groups.toList ↔ user.toRecord ∈ group.users.toList)
  userRoles : ∀ (user : User) (role : Role), service.HandsOut user → service.HandsOut role →
    (role.toRecord ∈ user.roles.toList ↔ user.toRecord ∈ role.users.toList)
  groupRoles : ∀ (group : Group) (role : Role), service.HandsOut group → service.HandsOut role →
    (role.toRecord ∈ group.roles.toList ↔ group.toRecord ∈ role.groups.toList)
  rolePermissions : ∀ (role : Role) (permission : Permission), service.HandsOut role → service.HandsOut permission →
    (permission.toRecord ∈ role.permissions.toList ↔ role.toRecord ∈ permission.roles.toList)
  joins : ∀ (user : User) (group : Group) (role : Role), service.HandsOut user → service.HandsOut group →
    service.HandsOut role → let join : Assignment := ⟨user.toRecord, group.toRecord, role.toRecord⟩
    (join ∈ user.joins ↔ join ∈ group.joins) ∧ (join ∈ group.joins ↔ join ∈ role.joins)
  delegations : ∀ delegatee delegator : User, service.HandsOut delegatee → service.HandsOut delegator →
    delegator.id ≠ delegatee.id →
      (delegator.toRecord ∈ delegatee.delegators.toList ↔ delegatee.toRecord ∈ delegator.delegatees.toList)
  /-- Nobody is a delegatee of oneself, whatever the edges. -/
  ownDelegations : ∀ user : User, service.HandsOut user → user.toRecord ∉ user.delegatees.toList ∧
    (user.toRecord ∈ user.delegators.toList ↔ .delegation user.id user.id ∈ service.state.store.edges.toList)

namespace Store.Sound

variable {model : Model} {store : Store} (sound : store.Sound model)
include sound

theorem sides_agree {edges : List (Edge EntityId)} {neighbours others : Roster Record} {own other : Record}
    (near far : Side) (lists : neighbours.Lists store near.far (near.ends edges))
    (lists' : others.Lists store far.far (far.ends edges)) (own_mem : own ∈ (store.table far.far).toList)
    (other_mem : other ∈ (store.table near.far).toList) (same : near.edge other.id = far.edge own.id) :
    other ∈ neighbours.toList ↔ own ∈ others.toList := by
  rw [lists.mem_iff sound, lists'.mem_iff sound, Side.mem_ends, Side.mem_ends, same]
  simp only [own_mem, other_mem, true_and]

theorem join_listed_iff {edges : List (Edge EntityId)} {id : EntityId} {joins : List Assignment}
    (assigned : Assigned store (Edge.joins id edges) joins) {join : Assignment} (stored : join.Stored store)
    (touches : (Edge.userGroupRole join.user.id join.group.id join.role.id).touches id) :
    join ∈ joins ↔ .userGroupRole join.user.id join.group.id join.role.id ∈ edges := by
  have listed : join.ids ∈ Edge.joins id edges ↔ .userGroupRole join.user.id join.group.id join.role.id ∈ edges := by
    rw [Assignment.ids, Edge.mem_joins, and_iff_left touches]
  rw [← listed, ← assigned.ids, List.mem_map]
  constructor
  · exact fun mem => ⟨join, mem, rfl⟩
  · rintro ⟨held, mem, same⟩
    rwa [← sound.assignment_eq (assigned.stored mem) stored same]

theorem delegator_listed_iff {user : User} (current : user.Current store) {delegator : Record}
    (mem : delegator ∈ store.users.toList) :
    delegator ∈ user.delegators.toList ↔ .delegation delegator.id user.id ∈ store.edges.toList := by
  have known : delegator ∈ (store.table .user).toList := mem
  rw [current.follows.delegators.mem_iff sound, Side.mem_ends, and_iff_right known]
  rfl

theorem delegatee_listed_iff {user : User} (current : user.Current store) {delegatee : Record}
    (mem : delegatee ∈ store.users.toList) : delegatee ∈ user.delegatees.toList ↔
      .delegation user.id delegatee.id ∈ store.edges.toList ∧ delegatee.id ≠ user.id := by
  have known : delegatee ∈ (store.table .user).toList := mem
  rw [current.follows.delegatees.mem_iff sound, List.mem_filter, Side.mem_ends, and_iff_right known, decide_eq_true_eq]
  rfl

end Store.Sound

namespace Service

variable {service : Service}

/-- Apart from delegations to oneself the two ends of an edge agree about it. -/
theorem Reachable.ends_agree (reachable : service.Reachable) : service.EndsAgree := by
  have sound : service.state.store.Sound service.settings.model := reachable.sound
  have users : ∀ user : User, service.HandsOut user → user.Current service.state.store :=
    fun user handed => ((loads_users sound).of_handsOut sound handed).2.toCurrent
  have groups : ∀ group : Group, service.HandsOut group → group.Current service.state.store :=
    fun group handed => ((loads_groups sound).of_handsOut sound handed).2
  have roles : ∀ role : Role, service.HandsOut role → role.Current service.state.store :=
    fun role handed => ((loads_roles sound).of_handsOut sound handed).2
  have permissions : ∀ permission : Permission, service.HandsOut permission → permission.Current service.state.store :=
    fun permission handed => ((loads_permissions sound).of_handsOut sound handed).2
  constructor
  · intro user group of_user of_group
    obtain ⟨user_stored, user_follows⟩ := users user of_user
    obtain ⟨group_stored, group_follows⟩ := groups group of_group
    exact sound.sides_agree (.groupsOfUser user.id) (.usersOfGroup group.id) user_follows.groups group_follows.users
      user_stored group_stored rfl
  · intro user role of_user of_role
    obtain ⟨user_stored, user_follows⟩ := users user of_user
    obtain ⟨role_stored, role_follows⟩ := roles role of_role
    exact sound.sides_agree (.rolesOfUser user.id) (.usersOfRole role.id) user_follows.roles role_follows.users
      user_stored role_stored rfl
  · intro group role of_group of_role
    obtain ⟨group_stored, group_follows⟩ := groups group of_group
    obtain ⟨role_stored, role_follows⟩ := roles role of_role
    exact sound.sides_agree (.rolesOfGroup group.id) (.groupsOfRole role.id) group_follows.roles role_follows.groups
      group_stored role_stored rfl
  · intro role permission of_role of_permission
    obtain ⟨role_stored, role_follows⟩ := roles role of_role
    obtain ⟨permission_stored, permission_follows⟩ := permissions permission of_permission
    exact sound.sides_agree (.permissionsOfRole role.id) (.rolesOfPermission permission.id) role_follows.permissions
      permission_follows.roles role_stored permission_stored rfl
  · intro user group role of_user of_group of_role join
    obtain ⟨user_stored, user_follows⟩ := users user of_user
    obtain ⟨group_stored, group_follows⟩ := groups group of_group
    obtain ⟨role_stored, role_follows⟩ := roles role of_role
    have touches : ∀ kind id, (kind, id) ∈ (Edge.userGroupRole user.id group.id role.id).endpoints →
        (Edge.userGroupRole user.id group.id role.id).touches id :=
      fun kind id at_end => Edge.touches_iff.mpr ⟨kind, at_end⟩
    have stored : join.Stored service.state.store := ⟨user_stored, group_stored, role_stored⟩
    have by_user := sound.join_listed_iff user_follows.joins stored (touches .user user.id (by simp [Edge.endpoints]))
    have by_group := sound.join_listed_iff group_follows.joins stored (touches .group group.id (by simp [Edge.endpoints]))
    have by_role := sound.join_listed_iff role_follows.joins stored (touches .role role.id (by simp [Edge.endpoints]))
    exact ⟨by_user.trans by_group.symm, by_group.trans by_role.symm⟩
  · intro delegatee delegator of_delegatee of_delegator apart
    have current := users delegatee of_delegatee
    have current' := users delegator of_delegator
    rw [sound.delegator_listed_iff current current'.stored, sound.delegatee_listed_iff current' current.stored,
      and_iff_left (Ne.symm apart)]
  · intro user handed
    have current := users user handed
    rw [sound.delegatee_listed_iff current current.stored, sound.delegator_listed_iff current current.stored]
    exact ⟨fun listed => listed.2 rfl, Iff.rfl⟩

/-- Ann has delegated to herself. -/
theorem own_delegation_shows_once :
    let ann : Record := ⟨⟨0⟩, "Ann"⟩
    let service := (⟨{}, {}⟩ : Service).performAll [.addUser "Ann" "pw", .grant .dynamic (.delegation ann ann) rfl]
    service.EndsAgree ∧ ∃ user : User, service.HandsOut user ∧ user.toRecord = ann ∧
      ann ∈ user.delegators.toList ∧ ann ∉ user.delegatees.toList := by
  intro ann service
  have started : Service.start {} {} = .ok ⟨{}, {}⟩ := rfl
  have reachable : service.Reachable := (Reachable.start 0 0 0 ⟨0⟩ started).performAll _
  have agree : service.EndsAgree := Reachable.ends_agree reachable
  refine ⟨agree, ?_⟩
  have mem : ann ∈ service.state.store.users.toList := by decide +kernel
  obtain ⟨user, same, -, handed, -⟩ := (loads_users reachable.sound).each ann mem
  have same : user.toRecord = ann := same
  obtain ⟨apart, listed⟩ := agree.ownDelegations user handed
  have granted : .delegation user.id user.id ∈ service.state.store.edges.toList := by
    rw [same]
    decide +kernel
  exact ⟨user, handed, same, same ▸ listed.mpr granted, same ▸ apart⟩

end Service

end Entitlement
