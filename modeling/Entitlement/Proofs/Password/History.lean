import Entitlement.Proofs.Password.Setting
import Entitlement.Proofs.Session.History

/-!
Passwords after a run. Where texts are matched, the password of a user is the one that an operation of the run has
set last, whatever the user was called in the meantime and whoever has had the name before.
-/

namespace Entitlement.Service

open Entitlement.Action

variable {start service : Service} {run : List Operation} {user : EntityId} {password : String}

/-! ### Users of a run -/

section Since

variable {starts stops : Service → Operation → Prop}

theorem Reachable.issued_of_since (reachable : start.Reachable)
    (issues : ∀ service : Service, service.Reachable → ∀ operation, starts service operation →
      user.number < (service.perform operation).state.store.nextId)
    (since : start.Since run starts stops) : user.number < (start.performAll run).state.store.nextId := by
  induction run using List.reverseRecOn with
  | nil => exact absurd since not_since_nil
  | append_singleton run last ih =>
    rw [performAll_snoc]
    rcases since_snoc.mp since with started | ⟨lasts, -⟩
    · exact issues _ (reachable.performAll run) last started
    · exact issued_perform (reachable.performAll run) (ih lasts) last

/-- As `holds_iff_since`, of somebody who is stored at the end: nothing is known of the time before the user was
created, and nothing can have started then. -/
theorem Reachable.stored_iff_since (reachable : start.Reachable) (Holds : Service → Prop)
    (nobody : user ∉ start.state.store.users.ids)
    (issues : ∀ service : Service, service.Reachable → ∀ operation, starts service operation →
      user.number < (service.perform operation).state.store.nextId)
    (absent : ∀ service : Service, service.Reachable → user ∉ service.state.store.users.ids → ¬ Holds service)
    (step : ∀ service : Service, service.Reachable → service.settings = start.settings → ∀ operation,
      user ∈ (service.perform operation).state.store.users.ids → (Holds (service.perform operation) ↔
        starts service operation ∨ Holds service ∧ ¬ stops service operation))
    (run : List Operation) (stored : user ∈ (start.performAll run).state.store.users.ids) :
    Holds (start.performAll run) ↔ start.Since run starts stops := by
  induction run using List.reverseRecOn with
  | nil => exact absurd stored nobody
  | append_singleton run last ih =>
    have led : (start.performAll run).Reachable := reachable.performAll run
    rw [performAll_snoc] at stored ⊢
    rw [since_snoc, step _ led (settings_performAll start run) last stored]
    by_cases before : user ∈ (start.performAll run).state.store.users.ids
    · rw [ih before]
    · have none_yet : ¬ start.Since run starts stops := fun since =>
        absent_perform led (reachable.issued_of_since issues since) before last stored
      simp only [absent _ led before, none_yet, false_and]

end Since

/-! ### Whose password it was -/

theorem present_of_guarded {α : Type} {action : Action α} {asked : Record → Prop} {done : User → α → Store → Prop}
    (guarded : Guarded service.settings service.state asked password done
      (action.run { settings := service.settings } service.state).1
      (action.run { settings := service.settings } service.state).2)
    {a : α} (whose : ∀ (stored : User) later, asked stored.toRecord → done stored a later → stored.id = user)
    (passed : (service.run action).1 = .ok a) : user ∈ service.state.store.users.ids := by
  have passed : (action.run { settings := service.settings } service.state).1 = .ok a := passed
  rw [passed] at guarded
  obtain ⟨stored, complete, found, held⟩ := guarded.of_ok
  exact whose stored _ found held ▸ complete.present

namespace Reachable

variable {operation : Operation} (reachable : service.Reachable)
include reachable

theorem issued_of_logsIn (logs : service.LogsIn operation user) :
    user.number < (service.perform operation).state.store.nextId := by
  have present : user ∈ (service.state.store.table .user).ids := by
    cases logs with
    | @enter name password user done =>
      refine present_of_guarded (reachable.sound.guarded_enter service.settings name password) ?_ done
      rintro stored later - ⟨rfl, -⟩
      rfl
    | @login name password session done =>
      refine present_of_guarded (reachable.sound.guarded_login service.settings name password) ?_ done
      rintro stored later - ⟨same, -⟩
      rw [same]
      rfl
  exact issued_perform reachable (reachable.sound.issued present) operation

theorem issued_of_sets (sets : service.Sets operation user password) :
    user.number < (service.perform operation).state.store.nextId := by
  have later : (service.perform operation).Reachable := reachable.step operation Outage.never
  cases sets with
  | @addUser name password made done =>
    have performed : service.perform (.addUser name password) = (service.run (User.addWithPassword name password)).2 :=
      run_discard ..
    rcases addUser_ends reachable name password with ⟨e, failed, -⟩ | ⟨user, salt, again, creates⟩
    · cases failed.symm.trans done
    · cases done.symm.trans again
      rw [← performed] at creates
      have listed : made.id ∈ ((service.perform (.addUser name password)).state.store.table .user).ids :=
        (creates.mem_ids .user _).mpr (.inr ⟨rfl, rfl⟩)
      exact later.sound.issued listed
  | @applySeed seed record listing stored new listed =>
    have performed : service.perform (.applySeed seed) = (service.run seed.apply).2 := run_discard ..
    rw [← performed] at stored
    exact later.sound.given .user record stored
  | @forcePassword held _ done =>
    have present : held.id ∈ (service.state.store.table .user).ids := by
      by_contra gone
      obtain ⟨e, requests, ran⟩ := reachable.sound.run_forcePassword_absent service.settings held _ gone
      rw [run_eq ran] at done
      cases done
    exact issued_perform reachable (reachable.sound.issued present) _
  | @changePassword held old _ done =>
    have guarded := reachable.sound.guarded_change service.settings held old password
    have present : held.id ∈ (service.state.store.table .user).ids :=
      present_of_guarded guarded (fun _ _ same _ => same) done
    exact issued_perform reachable (reachable.sound.issued present) _

end Reachable

/-! ### Passwords and logins of a run -/

/-- The password is, but for white space around it, one that an operation of the run has set for the user, and no
operation has set one since. -/
def LastSet (start : Service) (run : List Operation) (user : EntityId) (password : String) : Prop :=
  start.Since run (fun service operation => ∃ set, service.Sets operation user set ∧ Text.trim set = Text.trim password)
    fun service operation => ∃ set, service.Sets operation user set

/-- Some operation of the run is a login of the user that has succeeded. -/
def HasLoggedIn (start : Service) (run : List Operation) (user : EntityId) : Prop :=
  ∃ before operation after, run = before ++ operation :: after ∧ (start.performAll before).LogsIn operation user

/-- The action succeeds if `fits`, and else it fails for a wrong password, and nobody but the audit hears of it. -/
structure Checks {α : Type} (service : Service) (user : Record) (action : Action α) (fits : Prop) : Prop where
  passes : fits → ∃ a, (service.run action).1 = .ok a
  refuses : ¬ fits → ∃ requests audit, service.run action =
    (.error (.invalidCredentials user.name), { service with state := { service.state with requests, audit } })

/-- What a run makes of the password of a user who is stored after it. No identity is given twice, so whatever was
done to the user was done after the user was created. -/
structure PasswordsFollow (start : Service) (run : List Operation) (service : Service) (user : Record) : Prop where
  enters : ∀ name password, nameKey name = user.key →
    service.Checks user (User.namedWithPassword name password) (start.LastSet run user.id password)
  logs_in : ∀ name password, nameKey name = user.key →
    service.Checks user (login name password) (start.LastSet run user.id password)
  /-- Nothing but the identity of the value that is handed over matters. -/
  changes : ∀ (held : User) (old new : String), held.id = user.id →
    service.Checks user (held.changePassword old new) (start.LastSet run user.id old)
  last_login : ∃ loaded : User, loaded.toRecord = user ∧ service.HandsOut loaded ∧
    (loaded.lastLogin.isSome ↔ start.HasLoggedIn run user.id)

theorem hasLoggedIn_iff : start.HasLoggedIn run user ↔
    start.Since run (fun service operation => service.LogsIn operation user) fun _ _ => False := by
  simp [HasLoggedIn, Since]

/-- The password fits what is stored for the user. -/
def Suits (service : Service) (user : EntityId) (password : String) : Prop :=
  (service.state.store.credentialsOf user).password.map Text.trim = some (Text.trim password)

theorem checks_of_guarded {α : Type} {action : Action α} {asked : Record → Prop} {done : User → α → Store → Prop}
    {user : Record} {fits : Prop} (textMatch : service.settings.authenticator = .textMatch)
    (guarded : Guarded service.settings service.state asked password done
      (action.run { settings := service.settings } service.state).1
      (action.run { settings := service.settings } service.state).2)
    (stored : user ∈ service.state.store.users.toList) (found : asked user)
    (nobody_else : ∀ record ∈ service.state.store.users.toList, asked record → record = user)
    (suits : service.Suits user.id password ↔ fits) : service.Checks user action fits := by
  have checked (held : User) (complete : held.Complete service.state.store) (asks : asked held.toRecord) :
      held.toRecord = user ∧ (service.settings.authenticator.check held.password password = .ok true ↔ fits) ∧
        ∀ e, service.settings.authenticator.check held.password password ≠ .error e := by
    obtain rfl := nobody_else _ complete.stored asks
    rw [Suits, complete.credentialsOf] at suits
    rw [textMatch, Authenticator.check_textMatch, ← suits]
    exact ⟨rfl, by simp, nofun⟩
  rcases ran : action.run { settings := service.settings } service.state with ⟨result, later⟩
  rw [ran] at guarded
  have ran := run_eq ran
  cases guarded with
  | unknown requests missing => exact absurd found (missing user stored)
  | broken requests complete asks fails => exact absurd fails ((checked _ complete asks).2.2 _)
  | refused requests audit complete asks misses =>
    obtain ⟨rfl, fits_iff, -⟩ := checked _ complete asks
    rw [misses] at fits_iff
    exact ⟨fun fits => (nomatch fits_iff.mpr fits), fun _ => ⟨requests, audit, ran⟩⟩
  | passed complete asks fits =>
    obtain ⟨rfl, fits_iff, -⟩ := checked _ complete asks
    exact ⟨fun _ => ⟨_, by rw [ran]⟩, fun misses => absurd (fits_iff.mp fits) misses⟩

namespace Reachable

variable (reachable : start.Reachable) (textMatch : start.settings.authenticator = .textMatch)
  (nobody : ∀ user, user ∉ start.state.store.users.ids)
include reachable nobody

include textMatch in
theorem suits_iff (run : List Operation) (stored : user ∈ (start.performAll run).state.store.users.ids) :
    (start.performAll run).Suits user password ↔ start.LastSet run user password := by
  refine reachable.stored_iff_since (·.Suits user password) (nobody user) ?_ ?_ ?_ run stored
  · rintro service there operation ⟨set, sets, -⟩
    exact there.issued_of_sets sets
  · intro service there absent
    rw [Suits, there.sound.credentialsOf_absent absent]
    exact nofun
  · intro service there same operation stored
    have updates := updates_perform there operation stored
    by_cases sets : ∃ set, service.Sets operation user set
    · have suits (set : String) (sets : service.Sets operation user set) :
          (service.perform operation).Suits user password ↔ Text.trim set = Text.trim password := by
        obtain ⟨salt, encoded⟩ := updates.set set sets
        rw [same, textMatch] at encoded
        rw [Suits, encoded, Authenticator.encode, Option.map_some, Text.trim_trim, Option.some.injEq]
      simp only [sets, not_true_eq_false, and_false, or_false]
      constructor
      · intro fits
        obtain ⟨set, sets⟩ := sets
        exact ⟨set, sets, (suits set sets).mp fits⟩
      · rintro ⟨set, sets, same⟩
        exact (suits set sets).mpr same
    · have none_set (password : String) : ¬ service.Sets operation user password := fun set => sets ⟨password, set⟩
      simp only [Suits, updates.unset none_set, none_set, false_and, exists_false, false_or, not_false_eq_true, and_true]

theorem lastLogin_iff (run : List Operation) (stored : user ∈ (start.performAll run).state.store.users.ids) :
    ((start.performAll run).state.store.credentialsOf user).lastLogin.isSome ↔ start.HasLoggedIn run user := by
  rw [hasLoggedIn_iff]
  refine reachable.stored_iff_since (fun service => (service.state.store.credentialsOf user).lastLogin.isSome)
    (nobody user) (fun service there operation logs => there.issued_of_logsIn logs) ?_ ?_ run stored
  · intro service there absent
    rw [there.sound.credentialsOf_absent absent]
    exact nofun
  · intro service there _ operation stored
    have updates := updates_perform there operation stored
    by_cases logs : service.LogsIn operation user
    · exact iff_of_true (updates.entered logs) (.inl logs)
    · simp only [updates.outside logs, logs, false_or, not_false_eq_true, and_true]

end Reachable

/-- Where texts are matched, whoever is stored after a run gets in under the name of the time with the password that
was set last, and with no other one; and a login of theirs is remembered, whatever has been changed since. -/
theorem passwords_follow_run {settings : Settings} {nextId nextSession nextSalt : Nat} {clock : Moment}
    (started : Service.start settings { store := { nextId }, nextSession, nextSalt, clock } = .ok start)
    (textMatch : settings.authenticator = .textMatch) (run : List Operation) :
    ∀ user ∈ (start.performAll run).state.store.users.toList, start.PasswordsFollow run (start.performAll run) user := by
  intro user mem
  have reachable : start.Reachable := .start nextId nextSession nextSalt clock started
  have led : (start.performAll run).Reachable := reachable.performAll run
  have textMatch : start.settings.authenticator = .textMatch := by
    obtain ⟨-, rfl⟩ := start_eq_ok started
    exact textMatch
  have nobody : ∀ id, id ∉ start.state.store.users.ids := by
    obtain ⟨-, rfl⟩ := start_eq_ok started
    simp [Roster.ids, Roster.toList]
  have matched : (start.performAll run).settings.authenticator = .textMatch := by rw [settings_performAll, textMatch]
  have stored : user.id ∈ (start.performAll run).state.store.users.ids := Roster.mem_ids.mpr ⟨user, mem, rfl⟩
  have suits (password : String) :
      (start.performAll run).Suits user.id password ↔ start.LastSet run user.id password :=
    reachable.suits_iff textMatch nobody run stored
  have agrees := led.sound.tables .user
  constructor
  case enters =>
    intro name password key
    refine checks_of_guarded matched (led.sound.guarded_enter _ name password) mem key.symm ?_ (suits password)
    exact fun record listed named => agrees.eq_of_key_eq listed mem (named.trans key)
  case logs_in =>
    intro name password key
    refine checks_of_guarded matched (led.sound.guarded_login _ name password) mem key.symm ?_ (suits password)
    exact fun record listed named => agrees.eq_of_key_eq listed mem (named.trans key)
  case changes =>
    intro held old new same
    refine checks_of_guarded matched (led.sound.guarded_change _ held old new) mem same.symm ?_ (suits old)
    exact fun record listed named => agrees.eq_of_id_eq listed mem (named.trans same)
  case last_login =>
    obtain ⟨loaded, record, complete, handed, -⟩ := (loads_users led.sound).each user mem
    have record : loaded.toRecord = user := record
    refine ⟨loaded, record, handed, ?_⟩
    rw [← reachable.lastLogin_iff nobody run stored, ← record, complete.credentialsOf]

/-- Ann, who logged in once, is Anna now and has changed her password with an old value of herself; the Ann of today
took her name after another one had been removed. -/
theorem passwords_follow_ann_and_anna :
    let ann : User := { id := ⟨0⟩, name := "Ann" }
    let start : Service := ⟨{ authenticator := .textMatch }, {}⟩
    let run : List Operation := [.addUser "Ann" " first ", .login "ann" "first", .rename (.user ann) "Anna",
      .addUser "Ann" "second", .remove (.user { id := ⟨1⟩, name := "Ann" }),
      .applySeed { users := [⟨"Ann", "third "⟩, ⟨"ANN", "other"⟩] }, .changePassword ann "first" " last",
      .changePassword ann "first" "again"]
    (start.performAll run).state.store.users.toList = [⟨⟨0⟩, "Anna"⟩, ⟨⟨2⟩, "Ann"⟩] ∧
      ((start.performAll run).run (User.namedWithPassword "ANNA" "last")).1.isOk = true ∧
      ((start.performAll run).run (login "anna" "first")).1.isOk = false ∧
      ((start.performAll run).run (login "Ann" " third")).1.isOk = true ∧
      ∀ user ∈ (start.performAll run).state.store.users.toList,
        start.PasswordsFollow run (start.performAll run) user := by
  intro ann start run
  have started : Service.start { authenticator := .textMatch } {} = .ok start := rfl
  refine ⟨by decide +kernel, by decide +kernel, by decide +kernel, by decide +kernel, ?_⟩
  exact passwords_follow_run started rfl run

end Entitlement.Service
