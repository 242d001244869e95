import Entitlement.Proofs.Password.Checking
import Entitlement.Proofs.Seed.Application

/-!
What one operation does to the credentials of a user. An operation that succeeds in setting a password of the user
stores a form of it, a login that succeeds leaves its time, and neither touches what the other one has left.
-/

namespace Entitlement

open Entitlement.Action

namespace Service

variable {service : Service} {operation : Operation} {user : EntityId} {password : String}

/-! ### Users who stay, and users who stay away -/

/-- What is kept by every request is kept by an operation. The store is in order all the while, and no identity is
given back. -/
theorem Reachable.holds_perform (reachable : service.Reachable) {P : Store → Prop}
    (answered : ∀ {store later : Store} {request : Request} {answer : request.Answer},
      store.Sound service.settings.model → service.state.store.nextId ≤ store.nextId → request.SentBy operation →
        P store → store.answer request = (.ok answer, later) → P later)
    (mints : ∀ store : Store, P store → P { store with nextId := store.nextId + 1 }) (holds : P service.state.store) :
    P (service.perform operation).state.store := by
  let Kept (store : Store) : Prop :=
    store.Sound service.settings.model ∧ service.state.store.nextId ≤ store.nextId ∧ P store
  have kept : Kept (service.perform operation).state.store := by
    refine Service.holds_perform (P := Kept) And.left ?_ ?_ ⟨reachable.sound, Nat.le_refl _, holds⟩ Outage.never
    · rintro store later request answer admissible sent ⟨sound, grown, holds⟩ done
      exact ⟨sound.answer admissible done, grown.trans (sound.nextId_le done), answered sound grown sent holds done⟩
    · rintro store ⟨sound, grown, holds⟩
      exact ⟨sound.mint, Nat.le_succ_of_le grown, mints store holds⟩
  exact kept.2.2

theorem issued_perform (reachable : service.Reachable) (issued : user.number < service.state.store.nextId)
    (operation : Operation) : user.number < (service.perform operation).state.store.nextId := by
  let Issued (store : Store) : Prop := user.number < store.nextId
  refine reachable.holds_perform (P := Issued) ?_ ?_ issued
  · exact fun sound _ _ issued answered => Nat.lt_of_lt_of_le issued (sound.nextId_le answered)
  · exact fun _ => Nat.lt_succ_of_lt

/-- An identity that is given out and not stored any more does not come back. -/
theorem absent_perform (reachable : service.Reachable) (issued : user.number < service.state.store.nextId)
    (absent : user ∉ service.state.store.users.ids) (operation : Operation) :
    user ∉ (service.perform operation).state.store.users.ids := by
  let Away (store : Store) : Prop := user ∉ store.users.ids
  refine reachable.holds_perform (P := Away) (fun sound grown _ absent answered stored => ?_) (fun _ => id) absent
  cases sound.comesBy_of_answer answered stored with
  | kept before | saved before => exact absent before
  | created new =>
    subst new
    exact Nat.not_lt.mpr grown issued

theorem credentialsOf_perform (reachable : service.Reachable) (saves_none : ¬ operation.SavesCredentials)
    (stored : user ∈ (service.perform operation).state.store.users.ids) :
    (service.perform operation).state.store.credentialsOf user = service.state.store.credentialsOf user := by
  let before := service.state.store.credentialsOf user
  have start : before = {} ∨ user.number < service.state.store.nextId := by
    by_cases present : user ∈ service.state.store.users.ids
    · have listed : user ∈ (service.state.store.table .user).ids := present
      exact .inr (reachable.sound.issued listed)
    · exact .inl (reachable.sound.credentialsOf_absent present)
  let Same (store : Store) : Prop := user ∈ store.users.ids → store.credentialsOf user = before
  have later : Same (service.perform operation).state.store := by
    refine reachable.holds_perform (P := Same) (fun sound grown sent same answered stored => ?_) (fun _ => id) fun _ => rfl
    cases sound.comesBy_of_answer answered stored with
    | kept present kept => exact kept.trans (same present)
    | saved => exact absurd sent saves_none
    | created new empty =>
      -- Whoever is created by the operation had no credentials before and has empty ones after it.
      subst new
      exact empty.trans (start.resolve_right (Nat.not_lt.mpr grown)).symm
  exact later stored

/-! ### Passwords set and logins made -/

/-- The operation succeeds in setting a password of the user. A seed sets those of the users whom it creates, as
they are listed first. -/
inductive Sets (service : Service) : Operation → EntityId → String → Prop where
  | addUser {name password : String} {user : User}
    (done : (service.run (User.addWithPassword name password)).1 = .ok user) :
    Sets service (.addUser name password) user.id password
  | applySeed {seed : Seed} {record : Record} {listing : SeedUser}
    (stored : record ∈ (service.run seed.apply).2.state.store.users.toList)
    (new : record.id ∉ service.state.store.users.ids)
    (listed : seed.users.find? (nameKey ·.name == record.key) = some listing) :
    Sets service (.applySeed seed) record.id listing.password
  | forcePassword {held : User} {new : String} (done : (service.run (held.forcePassword new)).1 = .ok ()) :
    Sets service (.forcePassword held new) held.id new
  | changePassword {held : User} {old new : String} (done : (service.run (held.changePassword old new)).1 = .ok ()) :
    Sets service (.changePassword held old new) held.id new

/-- The user gets in with a password, or opens a session with it. -/
inductive LogsIn (service : Service) : Operation → EntityId → Prop where
  | enter {name password : String} {user : User}
    (done : (service.run (User.namedWithPassword name password)).1 = .ok user) :
    LogsIn service (.enter name password) user.id
  | login {name password : String} {session : Session}
    (done : (service.run (login name password)).1 = .ok session) :
    LogsIn service (.login name password) session.user.id

theorem Sets.saves (sets : service.Sets operation user password) : operation.SavesCredentials := by
  cases sets <;> trivial

theorem LogsIn.saves (logs : service.LogsIn operation user) : operation.SavesCredentials := by
  cases logs <;> trivial

/-- What has become of the credentials of a user in the store that an operation leaves. -/
structure Updates (service : Service) (operation : Operation) (user : EntityId) (later : Store) : Prop where
  set : ∀ password, service.Sets operation user password →
    ∃ salt, (later.credentialsOf user).password = some (service.settings.authenticator.encode salt password)
  unset : (∀ password, ¬ service.Sets operation user password) →
    (later.credentialsOf user).password = (service.state.store.credentialsOf user).password
  entered : service.LogsIn operation user → (later.credentialsOf user).lastLogin.isSome
  outside : ¬ service.LogsIn operation user →
    (later.credentialsOf user).lastLogin = (service.state.store.credentialsOf user).lastLogin

namespace Updates

variable {later : Store}

theorem untouched (unset : ∀ password, ¬ service.Sets operation user password)
    (outside : ¬ service.LogsIn operation user)
    (same : later.credentialsOf user = service.state.store.credentialsOf user) :
    service.Updates operation user later where
  set password sets := absurd sets (unset password)
  unset _ := by rw [same]
  entered logs := absurd logs outside
  outside _ := by rw [same]

theorem of_set (salt : Nat) (sets : service.Sets operation user password)
    (once : ∀ other, service.Sets operation user other → other = password)
    (outside : ¬ service.LogsIn operation user)
    (same : later.credentialsOf user = { service.state.store.credentialsOf user with
      password := some (service.settings.authenticator.encode salt password) }) :
    service.Updates operation user later where
  set other again := ⟨salt, by rw [same, once other again]⟩
  unset unset := absurd sets (unset password)
  entered logs := absurd logs outside
  outside _ := by rw [same]

theorem of_login (time : Moment) (unset : ∀ password, ¬ service.Sets operation user password)
    (logs : service.LogsIn operation user)
    (same : later.credentialsOf user = { service.state.store.credentialsOf user with lastLogin := some time }) :
    service.Updates operation user later where
  set password sets := absurd sets (unset password)
  unset _ := by rw [same]
  entered _ := by rw [same]; rfl
  outside outside := absurd logs outside

end Updates

/-! ### One operation -/

theorem run_eq {α : Type} {action : Action α} {result : Except Error α} {later : State}
    (ran : action.run { settings := service.settings } service.state = (result, later)) :
    service.run action = (result, { service with state := later }) := by
  simp only [Service.run, ran]

/-- The operation sets this password of this user if it succeeds, and no other one. -/
theorem updates_of_setPassword {held : EntityId} {new : String} {later : Store} {salt : Nat}
    (set : later = service.state.store.setPassword held (service.settings.authenticator.encode salt new))
    (sets : service.Sets operation held new)
    (only : ∀ user password, service.Sets operation user password → user = held ∧ password = new)
    (outside : ¬ service.LogsIn operation user) :
    service.Updates operation user later := by
  subst set
  by_cases same : user = held
  · subst same
    refine .of_set salt sets (fun other again => (only _ _ again).2) outside ?_
    rw [Store.setPassword, Store.credentialsOf_insert, if_pos rfl]
  · refine .untouched (fun password again => same (only _ _ again).1) outside ?_
    rw [Store.setPassword, Store.credentialsOf_insert, if_neg same]

theorem updates_of_noteLogin {held : EntityId} {time : Moment} {later : Store}
    (noted : later = service.state.store.noteLogin held time) (logs : service.LogsIn operation held)
    (only : ∀ user, service.LogsIn operation user → user = held)
    (unset : ∀ password, ¬ service.Sets operation user password) :
    service.Updates operation user later := by
  subst noted
  by_cases same : user = held
  · subst same
    refine .of_login time unset logs ?_
    rw [Store.noteLogin, Store.credentialsOf_insert, if_pos rfl]
    rfl
  · refine .untouched unset (fun again => same (only _ again)) ?_
    rw [Store.noteLogin, Store.credentialsOf_insert, if_neg same]

/-- Whoever it is that gets in has the time noted, and nobody else. -/
theorem updates_of_guarded {α : Type} {action : Action α} {who : α → EntityId} {asked : Record → Prop}
    {done : User → α → Store → Prop} (performed : service.perform operation = (service.run action).2)
    (logs : ∀ user, service.LogsIn operation user ↔ ∃ a, (service.run action).1 = .ok a ∧ who a = user)
    (unset : ∀ password, ¬ service.Sets operation user password)
    (guarded : Guarded service.settings service.state asked password done
      (action.run { settings := service.settings } service.state).1
      (action.run { settings := service.settings } service.state).2)
    (noted : ∀ stored a later, done stored a later →
      who a = stored.id ∧ later = service.state.store.noteLogin stored.id service.state.clock) :
    service.Updates operation user (service.perform operation).state.store := by
  rw [performed]
  rcases ran : action.run { settings := service.settings } service.state with ⟨e | a, later⟩
  all_goals
    simp only [run_eq ran] at logs ⊢
    rw [ran] at guarded
  · obtain ⟨requests, audit, rfl⟩ := guarded.of_error
    refine .untouched unset (fun again => ?_) rfl
    obtain ⟨_, ⟨⟩, -⟩ := (logs user).mp again
  · obtain ⟨stored, -, -, held⟩ := guarded.of_ok
    obtain ⟨same, noted⟩ := noted stored a later.store held
    refine updates_of_noteLogin noted ((logs stored.id).mpr ⟨a, rfl, same⟩) (fun user again => ?_) unset
    obtain ⟨_, ⟨⟩, rfl⟩ := (logs user).mp again
    exact same

theorem logsIn_enter_iff {name : String} : service.LogsIn (.enter name password) user ↔
    ∃ entered : User, (service.run (User.namedWithPassword name password)).1 = .ok entered ∧ entered.id = user := by
  constructor
  · rintro ⟨done⟩
    exact ⟨_, done, rfl⟩
  · rintro ⟨entered, done, rfl⟩
    exact .enter done

theorem logsIn_login_iff {name : String} : service.LogsIn (.login name password) user ↔
    ∃ session : Session, (service.run (login name password)).1 = .ok session ∧ session.user.id = user := by
  constructor
  · intro logs
    cases logs with
    | login done => exact ⟨_, done, rfl⟩
  · rintro ⟨session, done, rfl⟩
    exact .login done

section Operations

variable (reachable : service.Reachable)
include reachable

theorem updates_forcePassword (held : User) (new : String) (user : EntityId) :
    service.Updates (.forcePassword held new) user (service.perform (.forcePassword held new)).state.store := by
  have outside : ¬ service.LogsIn (.forcePassword held new) user := nofun
  by_cases present : held.id ∈ service.state.store.users.ids
  · obtain ⟨later, ran, salt, set⟩ := reachable.sound.run_forcePassword service.settings held new present
    have performed : service.perform (.forcePassword held new) = { service with state := later } :=
      congrArg Prod.snd (run_eq ran)
    have done : (service.run (held.forcePassword new)).1 = .ok () := by rw [run_eq ran]
    rw [performed]
    refine updates_of_setPassword set (.forcePassword done) ?_ outside
    intro user password sets
    cases sets with
    | forcePassword => exact ⟨rfl, rfl⟩
  · obtain ⟨e, requests, ran⟩ := reachable.sound.run_forcePassword_absent service.settings held new present
    have performed : service.perform (.forcePassword held new) = _ := congrArg Prod.snd (run_eq ran)
    rw [performed]
    refine .untouched (fun password sets => ?_) outside rfl
    cases sets with
    | forcePassword done =>
      rw [run_eq ran] at done
      cases done

theorem updates_changePassword (held : User) (old new : String) (user : EntityId) :
    service.Updates (.changePassword held old new) user (service.perform (.changePassword held old new)).state.store := by
  have outside : ¬ service.LogsIn (.changePassword held old new) user := nofun
  have ended := reachable.sound.guarded_change service.settings held old new
  rcases ran : (held.changePassword old new).run { settings := service.settings } service.state with ⟨e | ⟨⟩, later⟩
  all_goals
    have performed : service.perform (.changePassword held old new) = _ := congrArg Prod.snd (run_eq ran)
    rw [performed]
    rw [ran] at ended
  · obtain ⟨requests, audit, rfl⟩ := ended.of_error
    refine .untouched (fun password sets => ?_) outside rfl
    cases sets with
    | changePassword done =>
      rw [run_eq ran] at done
      cases done
  · obtain ⟨stored, -, same, salt, set⟩ := ended.of_ok
    have same : stored.id = held.id := same
    have done : (service.run (held.changePassword old new)).1 = .ok () := by rw [run_eq ran]
    refine updates_of_setPassword (same ▸ set) (.changePassword done) ?_ outside
    intro user password sets
    cases sets with
    | changePassword => exact ⟨rfl, rfl⟩

theorem updates_enter (name password : String) (user : EntityId) :
    service.Updates (.enter name password) user (service.perform (.enter name password)).state.store := by
  refine updates_of_guarded (run_discard ..) (fun _ => logsIn_enter_iff) nofun
    (reachable.sound.guarded_enter service.settings name password) ?_
  rintro stored entered later ⟨rfl, noted, -⟩
  exact ⟨rfl, noted⟩

theorem updates_login (name password : String) (user : EntityId) :
    service.Updates (.login name password) user (service.perform (.login name password)).state.store := by
  refine updates_of_guarded (run_discard ..) (fun _ => logsIn_login_iff) nofun
    (reachable.sound.guarded_login service.settings name password) ?_
  rintro stored session later ⟨same, noted⟩
  exact ⟨by rw [same]; rfl, noted⟩

theorem addUser_ends (name password : String) :
    let ended := service.run (User.addWithPassword name password)
    (∃ e, ended.1 = .error e ∧ ended.2.state.store = service.state.store) ∨
      ∃ made salt, ended.1 = .ok made ∧ service.state.store.Creates .user name
        { password := some (service.settings.authenticator.encode salt password) } made.toRecord ended.2.state.store := by
  have ends : Leaves { settings := service.settings } service.state.store (User.addWithPassword name password) _ :=
    leaves_addUser reachable.sound name password
  exact (ends service.state rfl).2

theorem updates_addUser (name password : String) (user : EntityId) :
    service.Updates (.addUser name password) user (service.perform (.addUser name password)).state.store := by
  have outside : ¬ service.LogsIn (.addUser name password) user := nofun
  have performed : service.perform (.addUser name password) = (service.run (User.addWithPassword name password)).2 :=
    run_discard ..
  rw [performed]
  rcases addUser_ends reachable name password with ⟨e, failed, same⟩ | ⟨made, salt, done, creates⟩
  · refine .untouched (fun password sets => ?_) outside (congrArg (Store.credentialsOf · user) same)
    cases sets with
    | addUser done => cases failed.symm.trans done
  · by_cases new : user = made.id
    · have absent : user ∉ (service.state.store.table .user).ids := by
        rw [new, creates.made]
        exact reachable.sound.next_absent
      have sets : service.Sets (.addUser name password) user password := new ▸ Sets.addUser done
      refine .of_set salt sets (fun other again => ?_) outside ?_
      · cases again
        rfl
      · rw [reachable.sound.credentialsOf_absent absent]
        exact Store.credentialsOf_eq ((creates.credentials user).trans (if_pos ⟨rfl, new⟩))
    · refine .untouched (fun password sets => ?_) outside (Store.credentialsOf_congr ?_)
      · cases sets with
        | addUser again =>
          cases done.symm.trans again
          exact new rfl
      · exact (creates.credentials user).trans (if_neg fun created => new created.2)

theorem updates_applySeed (seed : Seed) (stored : user ∈ (service.perform (.applySeed seed)).state.store.users.ids) :
    service.Updates (.applySeed seed) user (service.perform (.applySeed seed)).state.store := by
  have outside : ¬ service.LogsIn (.applySeed seed) user := nofun
  have performed : service.perform (.applySeed seed) = (service.run seed.apply).2 := run_discard ..
  have later_sound : (service.perform (.applySeed seed)).state.store.Sound service.settings.model :=
    (reachable.step (.applySeed seed) Outage.never).sound
  have outcome : seed.Outcome service.settings service.state.store (service.run seed.apply).1
      (service.run seed.apply).2.state.store :=
    (Seed.leaves_apply reachable.sound reachable.globalGroup_visible seed service.state rfl).2
  rw [performed] at stored later_sound ⊢
  by_cases before : user ∈ service.state.store.users.ids
  · refine .untouched (fun password sets => ?_) outside ?_
    · cases sets with
      | applySeed _ new => exact new before
    · rcases outcome.same_or_applied with same | applied
      · rw [same]
      · exact Store.credentialsOf_congr (applied.grows.credentials user before)
  · rcases outcome.same_or_applied with same | applied
    · rw [same] at stored
      exact absurd stored before
    · obtain ⟨record, mem, same⟩ := Roster.mem_ids.mp stored
      have new : record ∉ service.state.store.users.toList :=
        fun old => before (Roster.mem_ids.mpr ⟨record, old, same⟩)
      obtain ⟨listing, listed, salt, kept⟩ := applied.passwords record mem new
      have same : record.id = user := same
      have sets : service.Sets (.applySeed seed) user listing.password :=
        same ▸ Sets.applySeed mem (same ▸ before) listed
      refine .of_set salt sets (fun other again => ?_) outside ?_
      · cases again with
        | applySeed mem' _ listed' =>
          obtain rfl := (later_sound.tables .user).eq_of_id_eq mem mem' same
          cases listed.symm.trans listed'
          rfl
      · rw [reachable.sound.credentialsOf_absent before]
        exact Store.credentialsOf_eq (same ▸ kept)

/-- Whatever the operation, and whoever is stored after it. -/
theorem updates_perform (operation : Operation) (stored : user ∈ (service.perform operation).state.store.users.ids) :
    service.Updates operation user (service.perform operation).state.store := by
  have aside (saves_none : ¬ operation.SavesCredentials) :
      service.Updates operation user (service.perform operation).state.store :=
    .untouched (fun _ sets => saves_none sets.saves) (fun logs => saves_none logs.saves)
      (credentialsOf_perform reachable saves_none stored)
  cases operation with
  | addUser name password => exact updates_addUser reachable name password user
  | enter name password => exact updates_enter reachable name password user
  | login name password => exact updates_login reachable name password user
  | changePassword held old new => exact updates_changePassword reachable held old new user
  | forcePassword held new => exact updates_forcePassword reachable held new user
  | applySeed seed => exact updates_applySeed reachable seed stored
  | add | rename | remove | anonymous | grant | revoke | withdraw | revokeAll | globalGroup | replaceRole | logout |
    refresh | invalidate | buildAcl => exact aside id

end Operations

end Service

end Entitlement
