import Entitlement.Proofs.Session.Derivation

/-!
What a login and a refresh come to. A login that succeeds opens one session, a refresh renews the session it
is told of or closes it, and what they leave open is derived from the store that they leave.
-/

namespace Entitlement

open Entitlement.Action

/-- How a login ends that starts in the state. -/
inductive LoginEnds (settings : Settings) (state : State) : Except Error Session → State → Prop where
  | refused {e : Error} {later : State} (sessions : later.sessions = state.sessions) :
    LoginEnds settings state (.error e) later
  | opened {session : Session} {later : State} (issued : session.id = ⟨state.nextSession⟩)
    (sessions : later.sessions = state.sessions.insert session)
    (derived : session.Derived settings later.store) : LoginEnds settings state (.ok session) later

/-- How a refresh ends that starts in the state. -/
inductive RefreshEnds (settings : Settings) (state : State) (id : SessionId) :
    Except Error Session → State → Prop where
  | absent (missing : state.sessions.get? id = none) :
    RefreshEnds settings state id (.error (.noSession id)) state
  | expired {session : Session} {later : State} (found : state.sessions.get? id = some session)
    (gone : session.user.id ∉ state.store.users.ids) (sessions : later.sessions = state.sessions.erase id)
    (store : later.store = state.store) :
    RefreshEnds settings state id (.error (.noEntityWithId .user session.user.id)) later
  | renewed {session renewed : Session} {later : State} (found : state.sessions.get? id = some session)
    (stored : session.user.id ∈ state.store.users.ids) (same_id : renewed.id = session.id)
    (same_user : renewed.user.id = session.user.id) (same_age : renewed.createdAt = session.createdAt)
    (sessions : later.sessions = state.sessions.replace renewed) (store : later.store = state.store)
    (derived : renewed.Derived settings later.store) : RefreshEnds settings state id (.ok renewed) later

variable {settings : Settings} {model : Model} {state : State}

/-! ### The user who logs in -/

theorem Store.Sound.run_named_user {name : String} {record : Record} (sound : state.store.Sound model)
    (found : state.store.users.named? name = some record) :
    (Entity.named name : Action User).run { settings } state =
      (Entity.withId record.id : Action User).run { settings } state := by
  have stored : record ∈ state.store.users.toList := ((sound.tables .user).named?_eq_some_iff.mp found).1
  have by_name : state.store.answer (.findNamed .user name) = (.ok (some record), state.store) := by
    simp only [Store.answer, Store.table, found]
  have by_id : state.store.answer (.find .user record.id) = (.ok (some record), state.store) :=
    sound.find_answered stored
  rw [Entity.named, Entity.withId, run_bind, run_bind]
  simp only [Entity.kind, run_ask_of_ok state settings by_name, run_ask_of_ok state settings by_id]

/-- Nothing but the audit hears of it. -/
theorem run_authenticate (settings : Settings) (state : State) (user : User) (password : String) :
    ∃ result audit, (user.authenticate password).run { settings } state = (result, { state with audit }) := by
  simp only [User.authenticate, run_bind, run_settings, run_liftExcept]
  rcases settings.authenticator.check user.password password with e | _ | _
  · exact ⟨.error e, state.audit, rfl⟩
  · exact ⟨.error (.invalidCredentials user.name), _, rfl⟩
  · exact ⟨.ok (), _, rfl⟩

theorem Store.Sound.run_recordLogin (sound : state.store.Sound model) (settings : Settings) (user : User)
    (present : user.id ∈ state.store.users.ids) :
    user.recordLogin.run { settings } state = (.ok state.clock, { state with
      store := state.store.noteLogin user.id state.clock
      requests := state.requests + 2
      clock := ⟨state.clock.seconds + 1⟩ }) := by
  simp only [User.recordLogin, run_bind, run_ask_of_ok state settings (sound.loadCredentials_answered present),
    run_now]
  let timed : State :=
    { state with requests := state.requests + 1, clock := ⟨state.clock.seconds + 1⟩ }
  have saves (credentials : Credentials) := run_ask_of_ok timed settings
    (sound.saveCredentials_answered present credentials)
  simp only [timed] at saves
  simp only [saves, run_pure]
  rfl

/-- Whoever gets in is the user whom the store then holds. -/
theorem Store.Sound.run_namedWithPassword (sound : state.store.Sound model) (settings : Settings)
    (name password : String) :
    ∃ result later, (User.namedWithPassword name password).run { settings } state = (result, later) ∧
      later.sessions = state.sessions ∧ later.nextSession = state.nextSession ∧
      ∀ user, result = .ok user → later.store.Sound model ∧ user.toRecord ∈ later.store.users.toList ∧
        Answers settings later.store (Entity.withId user.id) (· = user) := by
  rw [User.namedWithPassword, run_bind]
  cases found : state.store.users.named? name with
  | none =>
    have absent : (state.store.table (Entity.kind User)).named? name = none := found
    rw [run_named_absent settings absent]
    exact ⟨.error _, _, rfl, rfl, rfl, fun _ done => by cases done⟩
  | some record =>
    have stored : record ∈ state.store.users.toList := ((sound.tables .user).named?_eq_some_iff.mp found).1
    obtain ⟨user, rfl, answers⟩ := sound.settles_user settings stored
    have present : user.id ∈ state.store.users.ids := Roster.mem_ids.mpr ⟨user.toRecord, stored, rfl⟩
    obtain ⟨user, requests, ran, rfl⟩ := answers state rfl
    rw [sound.run_named_user found, ran]
    simp only [run_bind]
    obtain ⟨result, audit, checked⟩ := run_authenticate settings { state with requests } user password
    rw [checked]
    cases result with
    | error e => exact ⟨.error e, _, rfl, rfl, rfl, fun _ done => by cases done⟩
    | ok passed =>
      let entered : State := { state with requests, audit }
      have still : entered.store.Sound model := sound
      have recorded := still.run_recordLogin settings user present
      simp only [entered] at recorded
      simp only [recorded]
      refine ⟨_, _, rfl, rfl, rfl, ?_⟩
      rintro _ ⟨⟩
      exact ⟨sound.noteLogin present _, stored, sound.answers_noteLogin stored answers _⟩

/-! ### Logins and refreshes -/

theorem run_openSession (context : Context) (state : State) (id : SessionId) :
    (openSession? id).run context state = (.ok (state.sessions.get? id), state) := rfl

namespace Store.Sound

variable (sound : state.store.Sound model) (settings : Settings)
include sound

theorem login_ends (name password : String) :
    LoginEnds settings state ((login name password).run { settings } state).1
      ((login name password).run { settings } state).2 := by
  obtain ⟨result, entered, ran, sessions, issued, held⟩ := sound.run_namedWithPassword settings name password
  rw [login, run_bind, ran]
  cases result with
  | error e => exact .refused sessions
  | ok user =>
    obtain ⟨sound', stored, answers⟩ := held user rfl
    have current : user.Current entered.store := sound'.current_of_answers stored answers
    obtain ⟨acl, tells, builds⟩ := sound'.settles_acl settings current
    obtain ⟨acl, requests, built, rfl⟩ := builds entered rfl
    simp only [run_bind, built]
    refine .opened (congrArg SessionId.mk issued) ?_ ⟨answers, builds, current, tells⟩
    exact congrArg (Sessions.insert · _) sessions

theorem refresh_ends (id : SessionId) :
    RefreshEnds settings state id ((refresh id).run { settings } state).1
      ((refresh id).run { settings } state).2 := by
  rw [refresh, run_bind, run_openSession]
  cases found : state.sessions.get? id with
  | none => exact .absent found
  | some session =>
    obtain ⟨-, rfl⟩ := Sessions.of_get? found
    simp only [run_bind, sessionUser, run_tryCatch]
    by_cases stored : session.user.id ∈ state.store.users.ids
    · obtain ⟨record, listed, same⟩ := Roster.mem_ids.mp stored
      obtain ⟨user, rfl, answers⟩ := sound.settles_user settings listed
      have current : user.Current state.store := sound.current_of_answers listed answers
      obtain ⟨acl, tells, builds⟩ := sound.settles_acl settings current
      obtain ⟨user, requests, ran, rfl⟩ := answers state rfl
      obtain ⟨acl, further, built, rfl⟩ := builds { state with requests } rfl
      have same_id : user.id = session.user.id := same
      simp only [← same_id, ran, built]
      exact .renewed found stored rfl same_id rfl rfl rfl ⟨answers, builds, current, tells⟩
    · rw [sound.run_withId_absent (E := User) settings stored]
      exact .expired found stored rfl rfl

end Store.Sound

end Entitlement
