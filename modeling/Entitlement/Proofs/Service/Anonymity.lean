import Entitlement.Proofs.Granting.Atomicity
import Entitlement.Proofs.Service.Listing
import Entitlement.Proofs.Text.Lowering

/-!
The anonymous name after a run. Nothing keeps it back: whoever asks for it first has it, as with any other name, and
logs in and is granted edges under it. The principal that has not logged in stays apart by its identity alone.
-/

namespace Entitlement.Service

open Entitlement.Action

variable {start service : Service} {run : List Operation} {operation : Operation} {name : String}

/-! ### The names of users -/

/-- Where somebody comes from who is stored after an operation. -/
inductive UserFrom (service : Service) (operation : Operation) (user : Record) : Prop where
  | kept (before : user ∈ service.state.store.users.toList)
  | comes (new : user.id ∉ service.state.store.users.ids) (offered : user.name ∈ operation.userNames)
  | renamed {held : User} (told : operation = .rename (.user held) user.name) (same : held.id = user.id)

/-- The operation gives the user the name: the user comes with it, or is renamed to it. -/
inductive GivesName (service : Service) : Operation → EntityId → String → Prop where
  | comes {operation : Operation} {user : Record} (new : user.id ∉ service.state.store.users.ids)
    (stored : user ∈ (service.perform operation).state.store.users.toList) :
    GivesName service operation user.id user.name
  | renames {held : User} {name : String}
    (done : (service.run (Operation.rename (.user held) name).action).1 = .ok ()) :
    GivesName service (.rename (.user held) name) held.id name

/-- The user is stored under a name that is as `P` says. -/
def Called (service : Service) (user : EntityId) (P : String → Prop) : Prop :=
  ∃ name, ⟨user, name⟩ ∈ service.state.store.users.toList ∧ P name

/-- The name that an operation of the run has given the user last is as `P` says. -/
def LastNamed (start : Service) (run : List Operation) (user : EntityId) (P : String → Prop) : Prop :=
  start.Since run (fun service operation => ∃ name, service.GivesName operation user name ∧ P name)
    fun service operation => ∃ name, service.GivesName operation user name ∧ ¬ P name

namespace Reachable

section Names

variable (reachable : service.Reachable) {user : Record}
include reachable

theorem user_from (listed : user ∈ (service.perform operation).state.store.users.toList) :
    service.UserFrom operation user := by
  let Each (store : Store) : Prop := ∀ user ∈ store.users.toList, service.UserFrom operation user
  have each : Each (service.perform operation).state.store := by
    refine reachable.holds_perform (P := Each) (fun {_ later _ _} sound grown sent each answered user listed => ?_)
      (fun _ => id) fun _ => .kept
    have listed : user ∈ (later.table .user).toList := listed
    rcases sound.record_of_answer answered listed with before | ⟨new, rfl⟩ | rfl
    · exact each user before
    · -- Whoever was stored when the operation began has an identity that is older than the new one.
      refine .comes (fun old => ?_) (sent rfl)
      have old : user.id ∈ (service.state.store.table .user).ids := old
      have issued := reachable.sound.issued old
      rw [new] at issued
      exact absurd issued (Nat.not_lt.mpr grown)
    · obtain ⟨entity, told, kind, same⟩ := sent
      cases entity with
      | user held => exact .renamed told same
      | group | role | permission => cases kind
  exact each user listed

theorem stored_of_givesName {user : EntityId} (gives : service.GivesName operation user name) :
    ⟨user, name⟩ ∈ (service.perform operation).state.store.users.toList := by
  cases gives with
  | comes _ stored => exact stored
  | @renames held name done =>
    rcases reachable.rename_ends (.user held) name with ⟨-, -, -, -, renames⟩ | ⟨⟨e, failed, -⟩, -⟩
    · exact renames.mem_iff.mpr (.inr rfl)
    · cases done.symm.trans failed

theorem kept_or_givesName (listed : user ∈ (service.perform operation).state.store.users.toList) :
    user ∈ service.state.store.users.toList ∨ service.GivesName operation user.id user.name := by
  cases reachable.user_from listed with
  | kept before => exact .inl before
  | comes new => exact .inr (.comes new listed)
  | @renamed held told same =>
    subst told
    rcases reachable.rename_ends (.user held) user.name with ⟨done, -⟩ | ⟨-, unchanged⟩
    · exact .inr (same ▸ .renames done)
    · exact .inl (unchanged ▸ listed)

theorem givesName_offered {user : EntityId} (gives : service.GivesName operation user name) :
    name ∈ operation.userNames := by
  cases gives with
  | comes new stored =>
    cases reachable.user_from stored with
    | kept before => exact absurd (Roster.mem_ids.mpr ⟨_, before, rfl⟩) new
    | comes _ offered => exact offered
    | renamed told => exact told ▸ List.mem_singleton_self _
  | renames => exact List.mem_singleton_self _

theorem called_iff {P : String → Prop} (listed : user ∈ service.state.store.users.toList) :
    service.Called user.id P ↔ P user.name := by
  constructor
  · rintro ⟨name, listed', fits⟩
    rwa [(reachable.sound.tables .user).eq_of_id_eq listed listed' rfl]
  · exact fun fits => ⟨user.name, listed, fits⟩

/-- A user is called after an operation as the operation says, and if it says nothing, as before. -/
theorem called_perform {P : String → Prop} (listed : user ∈ (service.perform operation).state.store.users.toList) :
    (service.perform operation).Called user.id P ↔ (∃ name, service.GivesName operation user.id name ∧ P name) ∨
      service.Called user.id P ∧ ¬ ∃ name, service.GivesName operation user.id name ∧ ¬ P name := by
  have later : (service.perform operation).Reachable := reachable.step operation Outage.never
  have given {name : String} (gives : service.GivesName operation user.id name) : user.name = name :=
    congrArg Record.name ((later.sound.tables .user).eq_of_id_eq listed (reachable.stored_of_givesName gives) rfl)
  rw [later.called_iff listed]
  rcases reachable.kept_or_givesName listed with before | gives
  · rw [reachable.called_iff before]
    constructor
    · exact fun fits => .inr ⟨fits, fun ⟨name, gives, misses⟩ => misses (given gives ▸ fits)⟩
    · rintro (⟨name, gives, fits⟩ | ⟨fits, -⟩)
      · exact given gives ▸ fits
      · exact fits
  · constructor
    · exact fun fits => .inl ⟨user.name, gives, fits⟩
    · rintro (⟨name, gives', fits⟩ | ⟨-, not_other⟩)
      · exact given gives' ▸ fits
      · exact Classical.byContradiction fun misses => not_other ⟨user.name, gives, misses⟩

end Names

/-- The name of a stored user is the one given last. -/
theorem name_iff_lastNamed (reachable : start.Reachable) (nobody : ∀ user, user ∉ start.state.store.users.ids)
    (P : String → Prop) {user : Record} (listed : user ∈ (start.performAll run).state.store.users.toList) :
    P user.name ↔ start.LastNamed run user.id P := by
  rw [← (reachable.performAll run).called_iff (P := P) listed]
  refine reachable.stored_iff_since (·.Called user.id P) (nobody user.id) ?_ ?_ ?_ run ?_
  · rintro service there operation ⟨name, gives, -⟩
    exact (there.step operation Outage.never).sound.given .user ⟨user.id, name⟩ (there.stored_of_givesName gives)
  · rintro service there absent ⟨name, listed, -⟩
    exact absent (Roster.mem_ids.mpr ⟨_, listed, rfl⟩)
  · rintro service there - operation stored
    obtain ⟨record, listed, same⟩ := Roster.mem_ids.mp stored
    exact same ▸ there.called_perform listed
  · exact Roster.mem_ids.mpr ⟨user, listed, rfl⟩

end Reachable

/-! ### Who gets a name -/

namespace Reachable

variable (reachable : service.Reachable)
include reachable

theorem addUser_ok_iff (name password : String) :
    (∃ made, (service.run (User.addWithPassword name password)).1 = .ok made) ↔
      Text.blank name = false ∧ nameKey name ∉ (service.state.store.table .user).keys := by
  by_cases refused : Text.blank name = true ∨ nameKey name ∈ (service.state.store.table .user).keys
  · have refuses : Leaves { settings := service.settings } service.state.store (User.addWithPassword name password) _ :=
      leaves_addWithPassword_refused reachable.sound refused password
    obtain ⟨e, failed, -⟩ := (refuses service.state rfl).2
    refine iff_of_false ?_ ?_
    · rintro ⟨made, done⟩
      cases done.symm.trans failed
    · rintro ⟨visible, free⟩
      exact refused.elim (fun blank => nomatch visible.symm.trans blank) free
  · rw [not_or, Bool.not_eq_true] at refused
    have adds : Leaves { settings := service.settings } service.state.store (User.addWithPassword name password) _ :=
      leaves_addWithPassword reachable.sound refused.1 refused.2 password
    obtain ⟨made, done, -⟩ := (adds service.state rfl).2
    exact iff_of_true ⟨made, done⟩ refused

theorem rename_ok_iff (entity : Handle) (name : String) :
    (service.run (Operation.rename entity name).action).1 = .ok () ↔ Text.blank name = false ∧
      service.state.store.Free entity.endpoint.kind entity.endpoint.id name ∧
        entity.endpoint.id ∈ (service.state.store.table entity.endpoint.kind).ids := by
  rcases reachable.rename_ends entity name with ⟨done, visible, free, present, -⟩ | ⟨⟨e, failed, refuses⟩, -⟩
  · exact iff_of_true done ⟨visible, free, present⟩
  · refine iff_of_false (fun done => nomatch done.symm.trans failed) ?_
    rintro ⟨visible, free, present⟩
    exact refuses.not_accepted visible free present

/-- Whoever is stored logs in under any spelling of the name with the password that fits. -/
theorem login_ok_iff {user : Record} (listed : user ∈ service.state.store.users.toList) (key : user.key = nameKey name)
    (password : String) :
    (∃ session, (service.run (login name password)).1 = .ok session ∧ session.user.id = user.id) ↔
      service.settings.authenticator.check (service.state.store.credentialsOf user.id).password password =
        .ok true := by
  have guarded := reachable.sound.guarded_login service.settings name password
  have agrees := reachable.sound.tables .user
  have stored {held : User} (complete : held.Complete service.state.store) (found : held.toRecord.key = nameKey name) :
      held.id = user.id ∧ (service.state.store.credentialsOf user.id).password = held.password := by
    have same : held.toRecord = user := agrees.eq_of_key_eq complete.stored listed (found.trans key.symm)
    rw [← same, complete.credentialsOf]
    exact ⟨rfl, rfl⟩
  rcases ran : (login name password).run { settings := service.settings } service.state with ⟨result, later⟩
  rw [ran] at guarded
  have ended : (service.run (login name password)).1 = result := congrArg Prod.fst (run_eq ran)
  rw [ended]
  cases guarded with
  | unknown _ missing => exact absurd key (missing user listed)
  | broken _ complete found fails =>
    rw [(stored complete found).2, fails]
    simp
  | refused _ _ complete found misses =>
    rw [(stored complete found).2, misses]
    simp
  | passed complete found fits held =>
    obtain ⟨same, -⟩ := held
    rw [(stored complete found).2]
    refine iff_of_true ⟨_, rfl, ?_⟩ fits
    rw [same]
    exact (stored complete found).1

end Reachable

/-! ### An identity that nobody has -/

/-- The identity has been given out, but no entity has it, no edge leads to it, and no open session is of it. -/
structure Outside (service : Service) (id : EntityId) : Prop where
  issued : id.number < service.state.store.nextId
  absent : ∀ kind, id ∉ (service.state.store.table kind).ids
  granted : ∀ edge ∈ service.state.store.edges.toList, ∀ end' ∈ edge.endpoints, end'.2 ≠ id
  opened : ∀ session ∈ service.state.sessions.toList, session.user.id ≠ id

namespace Reachable

section Outside

variable (reachable : service.Reachable)
include reachable

theorem outside_of {id : EntityId} (issued : id.number < service.state.store.nextId)
    (absent : ∀ kind, id ∉ (service.state.store.table kind).ids)
    (opened : ∀ session ∈ service.state.sessions.toList, session.user.id ≠ id) : service.Outside id where
  issued := issued
  absent := absent
  granted edge mem end' ends same := absent end'.1 (same ▸ reachable.sound.stored edge mem end' ends)
  opened := opened

/-- A session that is open after an operation is of somebody who was stored before it, or had one open. -/
theorem user_of_open {session : Session} (opened : session ∈ (service.perform operation).state.sessions.toList) :
    session.user.id ∈ (service.state.store.table .user).ids ∨
      ∃ held ∈ service.state.sessions.toList, session.user.id = held.user.id := by
  rcases (reachable.mem_perform operation).mp opened with gives | ⟨held, -⟩
  · cases gives with
    | @login name password done =>
      refine .inl (present_of_guarded (reachable.sound.guarded_login service.settings name password) ?_ done)
      rintro stored later - ⟨same, -⟩
      rw [same]
      rfl
    | refresh done =>
      obtain ⟨held, open_before, -, -, same, -⟩ := reachable.of_refresh done
      exact .inr ⟨held, open_before, same⟩
  · exact .inr ⟨session, held, rfl⟩

theorem outside_perform {id : EntityId} (outside : service.Outside id) (operation : Operation) :
    (service.perform operation).Outside id := by
  have later : (service.perform operation).Reachable := reachable.step operation Outage.never
  refine later.outside_of (issued_perform reachable outside.issued operation) ?_ ?_
  · exact fun kind comes => Nat.not_le.mpr outside.issued (reachable.new_of_comes (outside.absent kind) comes)
  · intro session opened same
    rcases reachable.user_of_open opened with stored | ⟨held, open_before, same'⟩
    · exact outside.absent .user (same ▸ stored)
    · exact outside.opened held open_before (same'.symm.trans same)

theorem outside_performAll {id : EntityId} (outside : service.Outside id) (run : List Operation) :
    (service.performAll run).Outside id := by
  induction run using List.reverseRecOn with
  | nil => exact outside
  | append_singleton run last ih =>
    rw [performAll_snoc]
    exact (reachable.performAll run).outside_perform ih last

/-- As long as all sessions are of users who have been given an identity, a principal that is not stored gets one that
nobody has, and has it from then on. -/
theorem outside_anonymous (issued : ∀ session ∈ service.state.sessions.toList,
    session.user.id.number < service.state.store.nextId) {principal : User}
    (done : (service.run User.anonymous).1 = .ok principal) :
    isAnonymous principal.name ∧ (service.perform .anonymous).Outside principal.id := by
  cases done
  have later : (service.perform .anonymous).Reachable := reachable.step .anonymous Outage.never
  have called : isAnonymous anonymousName := by decide
  refine ⟨called, later.outside_of (Nat.lt_succ_self _) (fun kind stored => ?_) fun session opened same => ?_⟩
  · have stored : ⟨service.state.store.nextId⟩ ∈ (service.state.store.table kind).ids := by
      rwa [← Store.table_withGraph service.state.store.edges service.state.store.credentials
        (service.state.store.nextId + 1) kind]
    exact Nat.lt_irrefl _ (reachable.sound.issued stored)
  · have issued := issued session opened
    rw [same] at issued
    exact Nat.lt_irrefl _ issued

end Outside

theorem opened_issued (reachable : start.Reachable) (closed : start.state.sessions.toList = []) (run : List Operation) :
    ∀ session ∈ (start.performAll run).state.sessions.toList,
      session.user.id.number < (start.performAll run).state.store.nextId := by
  induction run using List.reverseRecOn with
  | nil =>
    intro session opened
    have opened : session ∈ start.state.sessions.toList := opened
    rw [closed] at opened
    cases opened
  | append_singleton run last ih =>
    rw [performAll_snoc]
    intro session opened
    have led : (start.performAll run).Reachable := reachable.performAll run
    refine issued_perform led ?_ last
    rcases led.user_of_open opened with stored | ⟨held, open_before, same⟩
    · exact led.sound.issued stored
    · exact same ▸ ih held open_before

end Reachable

/-! ### The anonymous name -/

/-- The anonymous name is one like any other. The first who asks for it has it, logs in and is granted edges under it. -/
structure LetsAnonymous (service : Service) : Prop where
  one : ∀ user ∈ service.state.store.users.toList, ∀ other ∈ service.state.store.users.toList,
    isAnonymous user.name → isAnonymous other.name → user = other
  adds : ∀ name password, isAnonymous name → name ≠ "" →
    ((∃ made, (service.run (User.addWithPassword name password)).1 = .ok made) ↔
      ∀ user ∈ service.state.store.users.toList, ¬ isAnonymous user.name)
  renames : ∀ (held : User) (name : String), isAnonymous name → name ≠ "" →
    ((service.run (Operation.rename (.user held) name).action).1 = .ok () ↔
      held.id ∈ service.state.store.users.ids ∧
        ∀ user ∈ service.state.store.users.toList, isAnonymous user.name → user.id = held.id)
  seeds : ∀ (seed : Seed) (summary : SeedSummary), (service.run seed.apply).1 = .ok summary →
    ∀ listed ∈ seed.users, isAnonymous listed.name →
      ∃ user ∈ (service.run seed.apply).2.state.store.users.toList, isAnonymous user.name
  logs_in : ∀ user ∈ service.state.store.users.toList, isAnonymous user.name →
    ∀ name password, isAnonymous name → name ≠ "" →
      ((∃ session, (service.run (login name password)).1 = .ok session ∧ session.user.id = user.id) ↔
        service.settings.authenticator.check (service.state.store.credentialsOf user.id).password password = .ok true)
  granted : ∀ user ∈ service.state.store.users.toList, isAnonymous user.name →
    ∀ edge : Edge Record, (.user, user) ∈ edge.endpoints → edge.relation.belongsTo service.settings.model →
      service.state.store.stranger? edge.endpoints = none →
        ∃ isNew, (service.run (grant edge)).1 = .ok isNew ∧
          edge.ids ∈ (service.run (grant edge)).2.state.store.edges.toList

/-- Who has the anonymous name after a run. Only the principal that is called so for want of a login is kept out. -/
structure AnonymityFollows (start : Service) (run : List Operation) (service : Service) : Prop extends
    service.LetsAnonymous where
  named : ∀ user ∈ service.state.store.users.toList, user.name ≠ ""
  offered : ∀ user ∈ service.state.store.users.toList, ∃ operation ∈ run, user.name ∈ operation.userNames
  given : ∀ user ∈ service.state.store.users.toList,
    isAnonymous user.name ↔ start.LastNamed run user.id (isAnonymous ·)
  principal : ∀ before after principal, run = before ++ .anonymous :: after →
    ((start.performAll before).run User.anonymous).1 = .ok principal →
      isAnonymous principal.name ∧ service.Outside principal.id

theorem nameKey_of_isAnonymous (anonymous : isAnonymous name) (named : name ≠ "") : nameKey name = anonymousName :=
  (isAnonymous_iff.mp anonymous).resolve_left named

theorem visible_of_isAnonymous (anonymous : isAnonymous name) (named : name ≠ "") : Text.blank name = false := by
  have key : nameKey name = nameKey anonymousName :=
    (nameKey_of_isAnonymous anonymous named).trans (by decide +kernel)
  rw [Text.blank_congr key]
  decide

namespace Reachable

section State

variable (reachable : service.Reachable)
include reachable

theorem name_ne_empty {user : Record} (listed : user ∈ service.state.store.users.toList) : user.name ≠ "" := by
  intro empty
  have visible := reachable.sound.named .user user listed
  rw [empty] at visible
  cases visible

theorem isAnonymous_iff_key {user : Record} (listed : user ∈ service.state.store.users.toList) :
    isAnonymous user.name ↔ user.key = anonymousName := by
  rw [isAnonymous_iff, or_iff_right (reachable.name_ne_empty listed)]
  rfl

theorem letsAnonymous : service.LetsAnonymous := by
  have agrees := reachable.sound.tables .user
  constructor
  case one =>
    intro user listed other listed' anonymous anonymous'
    have key : user.key = anonymousName := (reachable.isAnonymous_iff_key listed).mp anonymous
    have key' : other.key = anonymousName := (reachable.isAnonymous_iff_key listed').mp anonymous'
    exact agrees.eq_of_key_eq listed listed' (key.trans key'.symm)
  case adds =>
    intro name password anonymous named
    rw [reachable.addUser_ok_iff, and_iff_right (visible_of_isAnonymous anonymous named),
      nameKey_of_isAnonymous anonymous named, Roster.mem_keys]
    constructor
    · exact fun free user listed taken => free ⟨user, listed, (reachable.isAnonymous_iff_key listed).mp taken⟩
    · exact fun free ⟨user, listed, key⟩ => free user listed ((reachable.isAnonymous_iff_key listed).mpr key)
  case renames =>
    intro held name anonymous named
    rw [reachable.rename_ok_iff, and_iff_right (visible_of_isAnonymous anonymous named), and_comm]
    refine and_congr_right fun _ => forall₂_congr fun user listed => ?_
    rw [reachable.isAnonymous_iff_key listed, nameKey_of_isAnonymous anonymous named]
    rfl
  case seeds =>
    intro seed summary done listed mem anonymous
    have later : (service.run seed.apply).2.Reachable := reachable.applySeed seed
    have names : Seed.Names seed.listed .user (nameKey listed.name) := by
      refine ⟨listed.name, ?_, rfl⟩
      simp only [Seed.listed, List.mem_append, List.mem_map]
      exact .inl (.inl (.inl ⟨listed, mem, rfl⟩))
    obtain ⟨user, stored, key⟩ := Roster.mem_keys.mp (((reachable.applied done).keys .user _).mpr (.inr (.inl names)))
    have key : nameKey user.name = nameKey listed.name := key
    refine ⟨user, stored, (later.isAnonymous_iff_key stored).mpr ?_⟩
    have named : listed.name ≠ "" := by
      intro empty
      have visible := later.sound.named .user user stored
      rw [Text.blank_congr (key.trans (congrArg nameKey empty))] at visible
      cases visible
    exact key.trans (nameKey_of_isAnonymous anonymous named)
  case logs_in =>
    intro user listed anonymous name password anonymous' named
    refine reachable.login_ok_iff listed ?_ password
    rw [(reachable.isAnonymous_iff_key listed).mp anonymous, nameKey_of_isAnonymous anonymous' named]
  case granted =>
    intro user listed anonymous edge _ belongs known
    obtain ⟨-, isNew, done, inserts, -⟩ := leaves_grant reachable.sound known belongs service.state rfl
    exact ⟨isNew, done, (inserts.mem_edges edge.ids).mpr (.inr rfl)⟩

end State

end Reachable

/-- After any run that starts with an empty store, a user is stored under the anonymous name exactly if an operation of
the run has given it to the user last. No state and no operation refuses the name for what it is; what a principal
without a login can rely on is that its identity stays its own. -/
theorem anonymity_follows_run {settings : Settings} {nextId nextSession nextSalt : Nat} {clock : Moment}
    (started : Service.start settings { store := { nextId }, nextSession, nextSalt, clock } = .ok start)
    (run : List Operation) : start.AnonymityFollows run (start.performAll run) := by
  have reachable : start.Reachable := .start nextId nextSession nextSalt clock started
  have led : (start.performAll run).Reachable := reachable.performAll run
  have nobody : ∀ user, user ∉ start.state.store.users.ids := start_empty started .user
  have closed : start.state.sessions.toList = [] := by
    obtain ⟨-, rfl⟩ := start_eq_ok started
    rfl
  refine ⟨led.letsAnonymous, fun user => led.name_ne_empty, ?_, ?_, ?_⟩
  · intro user listed
    obtain ⟨before, operation, after, rfl, ⟨name, gives, rfl⟩, -⟩ :=
      (reachable.name_iff_lastNamed nobody (· = user.name) listed).mp rfl
    have offered := (reachable.performAll before).givesName_offered gives
    exact ⟨operation, List.mem_append_right before List.mem_cons_self, offered⟩
  · exact fun user listed => reachable.name_iff_lastNamed nobody (isAnonymous ·) listed
  · rintro before after principal rfl done
    have there : (start.performAll before).Reachable := reachable.performAll before
    obtain ⟨anonymous, outside⟩ := there.outside_anonymous (reachable.opened_issued closed before) done
    have last : start.performAll (before ++ .anonymous :: after) =
        ((start.performAll before).perform .anonymous).performAll after := List.foldl_append
    rw [last]
    exact ⟨anonymous, (there.step .anonymous Outage.never).outside_performAll outside after⟩

/-- Ann is renamed to the anonymous name, holds a role by it and has logged in. The principal of that name that has not
logged in is somebody else. -/
theorem anonymity_follows_ann :
    let start : Service := ⟨{ authenticator := .textMatch }, {}⟩
    let run : List Operation := [.anonymous, .addUser "ann" "pw", .rename (.user { id := ⟨1⟩, name := "ann" }) "aNoN",
      .add .role "clerk", .grant .dynamic (.userRole ⟨⟨1⟩, "aNoN"⟩ ⟨⟨2⟩, "clerk"⟩) rfl, .login "ANON" "pw"]
    let service := start.performAll run
    isAnonymous "aNoN" ∧ service.state.store.users.toList = [⟨⟨1⟩, "aNoN"⟩] ∧
      service.state.store.edges.toList = [.userRole ⟨1⟩ ⟨2⟩] ∧
      service.state.sessions.toList.map (·.user.id) = [⟨1⟩] ∧ start.AnonymityFollows run service ∧
      service.Outside ⟨0⟩ := by
  intro start run service
  have started : Service.start { authenticator := .textMatch } {} = .ok start := rfl
  have follows : start.AnonymityFollows run service := anonymity_follows_run started run
  have outside := (follows.principal [] run.tail { id := ⟨0⟩, name := "anon" } rfl rfl).2
  exact ⟨by decide, by decide +kernel, by decide +kernel, by decide +kernel, follows, outside⟩

end Entitlement.Service
