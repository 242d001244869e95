import Entitlement.Proofs.Loading.Totality
import Entitlement.Proofs.Session.Opening
import Entitlement.Proofs.Store.Users
import Mathlib.Data.List.DropRight
import Mathlib.Data.List.TakeWhile

/-!
Actions that ask for a password. Somebody who is stored gets past the check with a password that fits what is
stored at that time; with any other one nothing happens but that the audit hears of it.
-/

namespace Entitlement

open Entitlement.Action

/-! ### Trimmed passwords -/

theorem Text.toList_trim (s : String) :
    (trim s).toList = (s.toList.dropWhile isBlank).rdropWhile isBlank :=
  String.toList_ofList

/-- Nothing is left to be taken away of a text that is trimmed already. -/
theorem Text.trim_trim (s : String) : trim (trim s) = trim s := by
  have front : (trim s).toList.dropWhile isBlank = (trim s).toList := by
    rw [toList_trim, List.dropWhile_eq_self_iff]
    intro nonempty
    have stays := List.dropWhile_eq_self_iff.mp (List.dropWhile_idempotent isBlank (l := s.toList))
    have shorter := List.rdropWhile_prefix isBlank (l := s.toList.dropWhile isBlank)
    rw [shorter.getElem nonempty]
    exact stays (Nat.lt_of_lt_of_le nonempty shorter.length_le)
  have back : (trim s).toList.rdropWhile isBlank = (trim s).toList := by
    rw [toList_trim, List.rdropWhile_idempotent]
  apply String.ext
  rw [toList_trim, front, back]

/-- A text fits what is stored if both are the same once they are trimmed. -/
theorem Authenticator.check_textMatch (stored : Option String) (password : String) :
    textMatch.check stored password = .ok (decide (stored.map Text.trim = some (Text.trim password))) := by
  cases stored with
  | none => rfl
  | some stored => simp [check, beq_eq_decide]

/-! ### What is stored -/

/-- The store once the stored form of a password stands beside the user. -/
def Store.setPassword (store : Store) (user : EntityId) (stored : String) : Store :=
  { store with
    credentials := store.credentials.insert user { store.credentialsOf user with password := some stored } }

theorem User.Complete.credentialsOf {store : Store} {user : User} (complete : user.Complete store) :
    store.credentialsOf user.id = ⟨user.password, user.lastLogin⟩ :=
  Store.credentialsOf_eq complete.credentials

/-! ### Checks -/

/-- How an action ends that asks somebody stored for the password: it looks for the user, checks the password, and
only then goes on to what is `done`. -/
inductive Guarded {α : Type} (settings : Settings) (state : State) (asked : Record → Prop) (password : String)
    (done : User → α → Store → Prop) : Except Error α → State → Prop where
  | unknown {e : Error} (requests : Nat) (missing : ∀ record ∈ state.store.users.toList, ¬ asked record) :
    Guarded settings state asked password done (.error e) { state with requests }
  | broken {user : User} {e : Error} (requests : Nat) (complete : user.Complete state.store)
    (found : asked user.toRecord) (fails : settings.authenticator.check user.password password = .error e) :
    Guarded settings state asked password done (.error e) { state with requests }
  | refused {user : User} (requests : Nat) (audit : Array AuditEvent) (complete : user.Complete state.store)
    (found : asked user.toRecord) (misses : settings.authenticator.check user.password password = .ok false) :
    Guarded settings state asked password done (.error (.invalidCredentials user.name)) { state with requests, audit }
  | passed {user : User} {a : α} {later : State} (complete : user.Complete state.store) (found : asked user.toRecord)
    (fits : settings.authenticator.check user.password password = .ok true) (held : done user a later.store) :
    Guarded settings state asked password done (.ok a) later

variable {α β : Type} {settings : Settings} {model : Model} {state : State} {asked : Record → Prop} {password : String}
  {done : User → α → Store → Prop}

theorem Guarded.of_error {e : Error} {later : State}
    (guarded : Guarded settings state asked password done (.error e) later) :
    ∃ requests audit, later = { state with requests, audit } := by
  cases guarded with
  | unknown requests => exact ⟨requests, state.audit, rfl⟩
  | broken requests => exact ⟨requests, state.audit, rfl⟩
  | refused requests audit => exact ⟨requests, audit, rfl⟩

theorem Guarded.of_ok {a : α} {later : State} (guarded : Guarded settings state asked password done (.ok a) later) :
    ∃ user : User, user.Complete state.store ∧ asked user.toRecord ∧ done user a later.store := by
  cases guarded with
  | passed complete found fits held => exact ⟨_, complete, found, held⟩

/-- What comes after the action succeeds. -/
theorem Guarded.bind {action : Action α} {next : α → Action β} {also : User → β → Store → Prop}
    (guarded : Guarded settings state asked password done (action.run { settings } state).1
      (action.run { settings } state).2)
    (goes_on : ∀ user a (later : State), done user a later.store →
      ∃ b last, (next a).run { settings } later = (.ok b, last) ∧ also user b last.store) :
    Guarded settings state asked password also ((action >>= next).run { settings } state).1
      ((action >>= next).run { settings } state).2 := by
  rw [run_bind]
  rcases ran : action.run { settings } state with ⟨e | a, later⟩
  all_goals rw [ran] at guarded
  · cases guarded with
    | unknown requests missing => exact .unknown requests missing
    | broken requests complete found fails => exact .broken requests complete found fails
    | refused requests audit complete found misses => exact .refused requests audit complete found misses
  · cases guarded with
    | passed complete found fits held =>
      obtain ⟨b, last, ran, held⟩ := goes_on _ a later held
      simp only [ran]
      exact .passed complete found fits held

/-- The user is found if anybody stored is asked for, and with the right password the rest succeeds. -/
theorem guarded_check {find : Action User} {rest : User → Action α}
    (finds : ∀ record ∈ state.store.users.toList, asked record → ∃ user : User, user.toRecord = record ∧
      user.Complete state.store ∧ Answers settings state.store (Entity.withId user.id) (· = user) ∧
        Answers settings state.store find (· = user))
    (missing : (∀ record ∈ state.store.users.toList, ¬ asked record) →
      ∃ e requests, find.run { settings } state = (.error e, { state with requests }))
    (goes_on : ∀ user : User, user.Complete state.store →
      Answers settings state.store (Entity.withId user.id) (· = user) → ∀ requests audit, ∃ a later,
        (rest user).run { settings } { state with requests, audit } = (.ok a, later) ∧ done user a later.store) :
    Guarded settings state asked password done
      ((find >>= fun user => user.authenticate password >>= fun _ => rest user).run { settings } state).1
      ((find >>= fun user => user.authenticate password >>= fun _ => rest user).run { settings } state).2 := by
  by_cases found : ∃ record ∈ state.store.users.toList, asked record
  · obtain ⟨record, mem, found⟩ := found
    obtain ⟨user, rfl, complete, handed, answers⟩ := finds record mem found
    obtain ⟨user, requests, ran, rfl⟩ := answers state rfl
    simp only [run_bind, ran, User.authenticate, run_settings, run_liftExcept]
    rcases checked : settings.authenticator.check user.password password with e | _ | _
    · exact .broken requests complete found checked
    · exact .refused requests _ complete found checked
    · obtain ⟨a, later, ran, held⟩ := goes_on user complete handed requests
        (state.audit.push (.authentication user.name true))
      simp only [run_report, if_true, ran]
      exact .passed complete found checked held
  · have nobody : ∀ record ∈ state.store.users.toList, ¬ asked record :=
      fun record mem asks => found ⟨record, mem, asks⟩
    obtain ⟨e, requests, ran⟩ := missing nobody
    rw [run_bind, ran]
    exact .unknown requests nobody

namespace Store.Sound

variable (sound : state.store.Sound model) (settings : Settings)
include sound

/-- Whoever enters is the user of that name, and the time is noted. -/
theorem guarded_enter (name password : String) :
    Guarded settings state (·.key = nameKey name) password
      (fun user entered later => entered = user.loggedIn state.clock ∧
        later = state.store.noteLogin user.id state.clock ∧ later.Sound model ∧ entered.Current later)
      ((User.namedWithPassword name password).run { settings } state).1
      ((User.namedWithPassword name password).run { settings } state).2 := by
  have loads : Service.Loads ⟨settings, state⟩ User (User.Complete state.store) := Service.loads_users sound
  refine guarded_check ?_ ?_ ?_
  · intro record mem key
    obtain ⟨user, same, complete, handed, named⟩ := loads.each record mem
    exact ⟨user, same, complete, handed, named name key⟩
  · intro nobody
    have missing : (state.store.table .user).named? name = none := by
      rw [(sound.tables .user).named?_eq_none_iff]
      intro taken
      obtain ⟨record, mem, key⟩ := Roster.mem_keys.mp taken
      exact nobody record mem key
    exact ⟨_, _, run_named_absent settings missing⟩
  · intro user complete handed requests audit
    let checked : State := { state with requests, audit }
    have still : checked.store.Sound model := sound
    have recorded := still.run_recordLogin settings user complete.present
    simp only [checked] at recorded
    simp only [run_bind, recorded]
    have answers := sound.answers_noteLogin complete.stored handed state.clock
    have sound' := sound.noteLogin complete.present state.clock
    have current : (user.loggedIn state.clock).Current (state.store.noteLogin user.id state.clock) :=
      sound'.current_of_answers complete.stored answers
    exact ⟨_, _, rfl, rfl, rfl, sound', current⟩

/-- A login fails for nothing else than entering does. -/
theorem guarded_login (name password : String) :
    Guarded settings state (·.key = nameKey name) password
      (fun user session later => session.user = user.loggedIn state.clock ∧
        later = state.store.noteLogin user.id state.clock)
      ((login name password).run { settings } state).1 ((login name password).run { settings } state).2 := by
  refine (sound.guarded_enter settings name password).bind ?_
  rintro user entered later ⟨rfl, noted, sound', current⟩
  obtain ⟨acl, -, builds⟩ := sound'.settles_acl settings current
  obtain ⟨acl, requests, built, rfl⟩ := builds later rfl
  simp only [run_bind, built]
  exact ⟨_, _, rfl, rfl, noted⟩

theorem run_forcePassword (user : User) (new : String) (present : user.id ∈ state.store.users.ids) :
    ∃ later, (user.forcePassword new).run { settings } state = (.ok (), later) ∧
      ∃ salt, later.store = state.store.setPassword user.id (settings.authenticator.encode salt new) := by
  let salted : State := { state with requests := state.requests + 1, nextSalt := state.nextSalt + 1 }
  have saves (credentials : Credentials) := run_ask_of_ok salted settings
    (sound.saveCredentials_answered present credentials)
  simp only [salted] at saves
  simp only [User.forcePassword, run_bind, run_ask_of_ok state settings (sound.loadCredentials_answered present),
    User.encodePassword, run_get, run_set, run_settings, run_pure, saves, run_report]
  exact ⟨_, rfl, _, rfl⟩

/-- Nothing is forced on somebody who is not stored. -/
theorem run_forcePassword_absent (user : User) (new : String) (gone : user.id ∉ state.store.users.ids) :
    ∃ e requests, (user.forcePassword new).run { settings } state = (.error e, { state with requests }) := by
  have unknown : state.store.require .user user.id = .error (.noEntityWithId .user user.id) := by
    rw [Store.require, if_neg (mt sound.holds_iff.mp gone)]
  have refused : state.store.answer (.loadCredentials user.id) =
      (.error (.noEntityWithId .user user.id), state.store) := by
    simp only [Store.answer, unknown]
    rfl
  rw [User.forcePassword, run_bind, run_ask_never,
    run_serve_of_error _ { state with requests := state.requests + 1 } refused]
  exact ⟨_, _, rfl⟩

/-- What is checked is the password that is stored, whatever the caller holds. -/
theorem guarded_change (held : User) (old new : String) :
    Guarded settings state (·.id = held.id) old
      (fun user _ later => ∃ salt, later = state.store.setPassword user.id (settings.authenticator.encode salt new))
      ((held.changePassword old new).run { settings } state).1
      ((held.changePassword old new).run { settings } state).2 := by
  have loads : Service.Loads ⟨settings, state⟩ User (User.Complete state.store) := Service.loads_users sound
  refine guarded_check ?_ ?_ ?_
  · intro record mem same
    obtain ⟨user, rfl, complete, handed, -⟩ := loads.each record mem
    have found : Answers settings state.store (Entity.withId user.id) (· = user) := handed
    have same : user.id = held.id := same
    exact ⟨user, rfl, complete, found, same ▸ found⟩
  · intro nobody
    have gone : held.id ∉ (state.store.table .user).ids := by
      intro present
      obtain ⟨record, mem, same⟩ := Roster.mem_ids.mp present
      exact nobody record mem same
    exact ⟨_, _, sound.run_withId_absent settings gone⟩
  · intro user complete _ requests audit
    let checked : State := { state with requests, audit }
    have still : checked.store.Sound model := sound
    obtain ⟨later, ran, set⟩ := still.run_forcePassword settings user new complete.present
    exact ⟨(), later, ran, set⟩

end Store.Sound

end Entitlement
