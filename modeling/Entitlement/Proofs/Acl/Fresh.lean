import Entitlement.Proofs.Acl.Telling

/-!
Lists built at two moments between which no edge was granted or revoked. Names may have changed in the
meantime: the lists have the same members in the same order, and what they say of a group they say of it under
whatever name it has at the moment.
-/

namespace Entitlement

open Entitlement.Action

/-- How groups and roles come to a user under a model; under the basic model no roles do. -/
def Store.ranking (store : Store) : Model → EntityId → Ranking
  | .basic, user => { groups := (Side.groupsOfUser user).ends store.edges.toList, entries := [] }
  | .dynamic, user => store.dynamicRanking user
  | .turbine, user => store.turbineRanking user

namespace Acl

/-- The users whose roles are among those of the list; only a dynamic list knows any. -/
def delegators : Acl → Roster Record
  | dynamic acl => acl.delegators
  | basic _ | turbine _ => {}

/-- The list of a user who is loaded for it. -/
def fresh (model : Model) (globalGroup : String) (user : EntityId) : Action Acl := do
  Acl.buildFor model globalGroup (← Entity.withId user)

/-- The list is that of the user under the model, in the order in which the edges say it. -/
structure Ordered (store : Store) (model : Model) (id : EntityId) (acl : Acl) : Prop where
  of_model : acl.model = model
  user : acl.user.id = id
  groups : acl.groups.Arranges (· ∈ (store.table .group).toList) (store.ranking model id).groups
  delegators : acl.delegators.Arranges (· ∈ (store.table .user).toList)
    (if model = .dynamic then store.principals id else [])
  follows : model ≠ .basic → acl.Follows store (store.ranking model id)

/-- The lists are of one user and have the same members in the same order. -/
structure SameIds (a b : Acl) : Prop where
  user : a.user.id = b.user.id
  groups : a.groups.ids = b.groups.ids
  roles : Roster.ids <$> a.roles = Roster.ids <$> b.roles
  permissions : Roster.ids <$> a.permissions = Roster.ids <$> b.permissions
  delegators : a.delegators.ids = b.delegators.ids

/-- What is told of a group under the one name is told of it under the other, and in the same order. -/
structure SameWithin (relates : String → String → Prop) (a b : Acl) : Prop where
  isInGroup : ∀ group other, relates group other → a.isInGroup group = b.isInGroup other
  rolesIn : ∀ group other, relates group other →
    (·.toList.map Named.record) <$> a.rolesIn group = (·.toList.map Named.record) <$> b.rolesIn other
  permissionsIn : ∀ group other, relates group other →
    (·.toList.map Named.record) <$> a.permissionsIn group = (·.toList.map Named.record) <$> b.permissionsIn other
  hasRoleIn : ∀ role group other, relates group other → a.hasRoleIn role group = b.hasRoleIn role other
  hasPermissionIn : ∀ permission group other, relates group other →
    a.hasPermissionIn permission group = b.hasPermissionIn permission other
  hasRoleInAny : ∀ role groups others, List.Forall₂ relates groups others →
    a.hasRoleInAny role groups = b.hasRoleInAny role others
  hasPermissionInAny : ∀ permission groups others, List.Forall₂ relates groups others →
    a.hasPermissionInAny permission groups = b.hasPermissionInAny permission others

end Acl

variable {settings : Settings} {active model : Model} {store later : Store} {user : User}

/-! ### Building a list -/

namespace Store.Sound

variable (sound : store.Sound active)
include sound

theorem answers_buildFor (current : user.Current store) (model : Model) (globalGroup : String) :
    Answers settings store (Acl.buildFor model globalGroup user) (Acl.Ordered store model user.id) := by
  have groups := current.follows.groups.arranges
  cases model with
  | basic =>
    have builds : Answers settings store (BasicAcl.build user) (· = ⟨user.toRecord, user.groups⟩) :=
      (sound.answers_requireUser current.present).bind fun _ _ => answers_pure rfl
    refine builds.map fun acl same => ?_
    subst same
    exact ⟨rfl, rfl, groups, .empty _, fun grouped => absurd rfl grouped⟩
  | dynamic =>
    refine (sound.answers_buildDynamic_follows current).map fun acl held => ?_
    obtain ⟨of_user, delegators, follows⟩ := held
    exact ⟨rfl, congrArg Record.id of_user, follows.groups, delegators, fun _ => follows⟩
  | turbine =>
    refine (sound.answers_buildTurbine_follows current globalGroup).map fun acl held => ?_
    obtain ⟨of_user, -, follows⟩ := held
    exact ⟨rfl, congrArg Record.id of_user, follows.groups, .empty _, fun _ => follows⟩

theorem answers_fresh {id : EntityId} (present : id ∈ store.users.ids) (model : Model) (globalGroup : String) :
    Answers settings store (Acl.fresh model globalGroup id) (Acl.Ordered store model id) := by
  obtain ⟨record, mem, rfl⟩ := Roster.mem_ids.mp present
  have loads : Answers settings store (Entity.withId record.id : Action User)
      fun user => user.toRecord = record ∧ user.Current store := sound.answers_user mem
  refine loads.bind fun user held => ?_
  obtain ⟨rfl, current⟩ := held
  exact sound.answers_buildFor current model globalGroup

/-- Whether a name is among the members is told by the identity that the name leads to. -/
theorem containsName_iff {α : Type} [Named α] {roster : Roster α} {P : α → Prop} {ids : List EntityId} {kind : Kind}
    (arranges : roster.Arranges P ids) (listed : ∀ member, P member → Named.record member ∈ (store.table kind).toList)
    (name : String) :
    roster.containsName name ↔ ∃ id, store.idOf kind (nameKey name) = some id ∧ id ∈ ids := by
  rw [arranges.collects.containsName_iff (sound.tables kind) listed]
  simp only [sound.idOf_eq_some_iff]
  constructor
  · rintro ⟨record, mem, key, held⟩
    exact ⟨record.id, ⟨record, mem, key, rfl⟩, held⟩
  · rintro ⟨_, ⟨record, mem, key, rfl⟩, held⟩
    exact ⟨record, mem, key, held⟩

end Store.Sound

/-! ### Two lists -/

theorem Acl.exists_basic {acl : Acl} (basic : acl.model = .basic) : ∃ list, acl = .basic list := by
  cases acl with
  | basic list => exact ⟨list, rfl⟩
  | dynamic | turbine => cases basic

section Twice

variable (edges : later.edges = store.edges) {id : EntityId}
include edges

theorem Store.owned_congr (roles : List EntityId) : later.owned roles = store.owned roles := by
  rw [Store.owned, edges, Store.owned]

variable (count : later.users.size = store.users.size)
include count

theorem Store.principals_congr : later.principals id = store.principals id := by
  have same : later.delegators = store.delegators := by
    funext id
    rw [Store.delegators, edges, Store.delegators]
  rw [Store.principals, same, count, Store.principals]

theorem Store.ranking_congr (model : Model) (id : EntityId) : later.ranking model id = store.ranking model id := by
  have entriesOf : later.entriesOf = store.entriesOf := by
    funext own id
    rw [Store.entriesOf, edges, Store.entriesOf]
  cases model with
  | basic => rw [Store.ranking, edges, Store.ranking]
  | dynamic =>
    rw [Store.ranking, Store.dynamicRanking, edges, entriesOf, Store.principals_congr edges count, Store.ranking,
      Store.dynamicRanking]
  | turbine => rw [Store.ranking, Store.turbineRanking, edges, Store.ranking, Store.turbineRanking]

namespace Acl.Ordered

variable {a b : Acl} (ordered : a.Ordered store model id) (ordered' : b.Ordered later model id)
include ordered ordered'

theorem sameIds : a.SameIds b := by
  have ranking := Store.ranking_congr edges count model id
  by_cases grouped : model = .basic
  · obtain ⟨a, rfl⟩ := exists_basic (ordered.of_model.trans grouped)
    obtain ⟨b, rfl⟩ := exists_basic (ordered'.of_model.trans grouped)
    refine ⟨ordered.user.trans ordered'.user.symm, ?_, rfl, rfl, rfl⟩
    rw [ordered.groups.ids, ordered'.groups.ids, ranking]
  · obtain ⟨roles, told, arranges⟩ := (ordered.follows grouped).roles
    obtain ⟨roles', told', arranges'⟩ := (ordered'.follows grouped).roles
    obtain ⟨permissions, permissions_told, owned⟩ := (ordered.follows grouped).permissions
    obtain ⟨permissions', permissions_told', owned'⟩ := (ordered'.follows grouped).permissions
    refine ⟨ordered.user.trans ordered'.user.symm, ?_, ?_, ?_, ?_⟩
    · rw [ordered.groups.ids, ordered'.groups.ids, ranking]
    · rw [told, told']
      exact congrArg Except.ok (by rw [arranges.ids, arranges'.ids, ranking])
    · rw [permissions_told, permissions_told']
      exact congrArg Except.ok (by rw [owned.ids, owned'.ids, ranking, Store.owned_congr edges])
    · rw [ordered.delegators.ids, ordered'.delegators.ids, Store.principals_congr edges count]

end Acl.Ordered

end Twice

theorem inSome_congr {relates : String → String → Prop} {ask ask' : String → Except Error Bool}
    (same : ∀ group other, relates group other → ask group = ask' other) {groups others : List String}
    (related : List.Forall₂ relates groups others) : inSome ask groups = inSome ask' others := by
  induction related with
  | nil => rfl
  | cons related _ ih => rw [inSome, same _ _ related, ih, inSome]

/-- A group that goes by the one name in one store goes by the other in the other store. -/
structure Store.Translates (store later : Store) (relates : String → String → Prop) : Prop where
  blank : ∀ group other, relates group other → Text.blank group = Text.blank other
  idOf : ∀ group other, relates group other →
    store.idOf .group (nameKey group) = later.idOf .group (nameKey other)

/-- The same records in the same order, or the same refusal, and so the same answers about names. -/
structure Alike {α : Type} [Named α] (x y : Except Error (Roster α)) : Prop where
  records : (·.toList.map Named.record) <$> x = (·.toList.map Named.record) <$> y
  containsName : ∀ name, (·.containsName name) <$> x = (·.containsName name) <$> y

theorem Store.Sound.alike {α : Type} [Named α] (sound : store.Sound active) (sound' : later.Sound active) {kind : Kind}
    (same : later.table kind = store.table kind) {held held' : Roster α} {P Q : α → Prop} {ids : List EntityId}
    (arranges : held.Arranges P ids) (arranges' : held'.Arranges Q ids)
    (listed : ∀ member, P member → Named.record member ∈ (store.table kind).toList)
    (listed' : ∀ member, Q member → Named.record member ∈ (later.table kind).toList) :
    Alike (.ok held) (.ok held') where
  records := congrArg Except.ok (arranges.records_eq arranges' (sound.tables kind) listed (same ▸ listed'))
  containsName name := by
    have idOf : later.idOf kind (nameKey name) = store.idOf kind (nameKey name) := by
      rw [Store.idOf, same, Store.idOf]
    refine congrArg Except.ok (Bool.eq_iff_iff.mpr ?_)
    rw [sound.containsName_iff arranges listed, sound'.containsName_iff arranges' listed', idOf]

namespace Acl

theorem SameWithin.of_alike {relates : String → String → Prop} {a b : Acl} (grouped : a.model ≠ .basic)
    (grouped' : b.model ≠ .basic)
    (isInGroup : ∀ group other, relates group other → a.isInGroup group = b.isInGroup other)
    (roles : ∀ group other, relates group other → Alike (a.rolesIn group) (b.rolesIn other))
    (permissions : ∀ group other, relates group other → Alike (a.permissionsIn group) (b.permissionsIn other)) :
    a.SameWithin relates b := by
  have hasRoleIn : ∀ role group other, relates group other → a.hasRoleIn role group = b.hasRoleIn role other := by
    intro role group other related
    rw [hasRoleIn_eq grouped, hasRoleIn_eq grouped', (roles group other related).containsName role]
  have hasPermissionIn : ∀ permission group other, relates group other →
      a.hasPermissionIn permission group = b.hasPermissionIn permission other := by
    intro permission group other related
    rw [hasPermissionIn_eq grouped, hasPermissionIn_eq grouped', (permissions group other related).containsName permission]
  exact {
    isInGroup
    rolesIn := fun group other related => (roles group other related).records
    permissionsIn := fun group other related => (permissions group other related).records
    hasRoleIn
    hasPermissionIn
    hasRoleInAny := fun role _ _ related => inSome_congr (hasRoleIn role) related
    hasPermissionInAny := fun permission _ _ related => inSome_congr (hasPermissionIn permission) related }

theorem SameWithin.of_basic {relates : String → String → Prop} {a b : BasicAcl}
    (isInGroup : ∀ group other, relates group other →
      (Acl.basic a).isInGroup group = (Acl.basic b).isInGroup other) : (Acl.basic a).SameWithin relates (.basic b) where
  isInGroup := isInGroup
  rolesIn _ _ _ := rfl
  permissionsIn _ _ _ := rfl
  hasRoleIn _ _ _ _ := rfl
  hasPermissionIn _ _ _ _ := rfl
  hasRoleInAny _ _ _ related := inSome_congr (fun _ _ _ => rfl) related
  hasPermissionInAny _ _ _ related := inSome_congr (fun _ _ _ => rfl) related

namespace Ordered

variable {id : EntityId} {a b : Acl} {relates : String → String → Prop}
  (ordered : a.Ordered store model id) (ordered' : b.Ordered later model id)
  (sound : store.Sound active) (sound' : later.Sound active)
  (ranking : later.ranking model id = store.ranking model id) (translates : store.Translates later relates)
include ordered ordered' sound sound' ranking translates

theorem isInGroup_eq (group other : String) (related : relates group other) : a.isInGroup group = b.isInGroup other := by
  rw [Bool.eq_iff_iff, Acl.isInGroup, Acl.isInGroup, sound.containsName_iff ordered.groups fun _ mem => mem,
    sound'.containsName_iff ordered'.groups fun _ mem => mem, ranking, translates.idOf group other related]

theorem sameWithin (edges : later.edges = store.edges) (roles : later.table .role = store.table .role)
    (permissions : later.table .permission = store.table .permission) : a.SameWithin relates b := by
  have isInGroup := ordered.isInGroup_eq ordered' sound sound' ranking translates
  by_cases basic : model = .basic
  · obtain ⟨a, rfl⟩ := exists_basic (ordered.of_model.trans basic)
    obtain ⟨b, rfl⟩ := exists_basic (ordered'.of_model.trans basic)
    exact .of_basic isInGroup
  have follows := ordered.follows basic
  have follows' := ordered'.follows basic
  rw [ranking] at follows'
  have grouped : a.model ≠ .basic := fun same => basic (ordered.of_model.symm.trans same)
  have grouped' : b.model ≠ .basic := fun same => basic (ordered'.of_model.symm.trans same)
  refine .of_alike grouped grouped' isInGroup (fun group other related => ?_) fun group other related => ?_
  · rcases blank : Text.blank group with _ | _
    · obtain ⟨held, told, arranges⟩ := follows.rolesIn group blank
      obtain ⟨held', told', arranges'⟩ := follows'.rolesIn other (translates.blank group other related ▸ blank)
      rw [← translates.idOf group other related] at arranges'
      rw [told, told']
      exact sound.alike sound' roles arranges arranges' (fun _ current => current.stored) fun _ current => current.stored
    · rw [(follows.refused group blank).1, (follows'.refused other (translates.blank group other related ▸ blank)).1]
      exact ⟨rfl, fun _ => rfl⟩
  · rcases blank : Text.blank group with _ | _
    · obtain ⟨held, told, arranges⟩ := follows.permissionsIn group blank
      obtain ⟨held', told', arranges'⟩ := follows'.permissionsIn other (translates.blank group other related ▸ blank)
      rw [← translates.idOf group other related, Store.owned_congr edges] at arranges'
      rw [told, told']
      exact sound.alike sound' permissions arranges arranges' (fun _ mem => mem) fun _ mem => mem
    · rw [(follows.refused group blank).2, (follows'.refused other (translates.blank group other related ▸ blank)).2]
      exact ⟨rfl, fun _ => rfl⟩

end Ordered

end Acl

end Entitlement
