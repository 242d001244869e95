import Entitlement.Proofs.Session.Step
import Mathlib.Data.List.Induction

/-!
The open sessions after a run. Which sessions are open, and what they hold, is told by the logins and
refreshes of the run and by what came after them.
-/

namespace Entitlement.Service

variable {start service : Service} {run : List Operation}

/-! ### Since -/

section Since

variable {starts stops : Service → Operation → Prop}

/-- Some operation of the run started it, and none has stopped it since. -/
def Since (start : Service) (run : List Operation) (starts stops : Service → Operation → Prop) : Prop :=
  ∃ before operation after, run = before ++ operation :: after ∧
    starts (start.performAll before) operation ∧
    ∀ between later rest, after = between ++ later :: rest →
      ¬ stops (start.performAll (before ++ operation :: between)) later

theorem not_since_nil : ¬ start.Since [] starts stops := by
  rintro ⟨before, operation, after, split, -⟩
  exact List.append_ne_nil_of_right_ne_nil before (List.cons_ne_nil operation after) split.symm

theorem snoc_split {α : Type} {run before after : List α} {last a : α}
    (split : run ++ [last] = before ++ a :: after) :
    before = run ∧ a = last ∧ after = [] ∨ ∃ rest, after = rest ++ [last] ∧ run = before ++ a :: rest := by
  rcases after.eq_nil_or_concat' with rfl | ⟨rest, final, rfl⟩
  · obtain ⟨rfl, same⟩ := List.append_inj' split rfl
    cases same
    exact .inl ⟨rfl, rfl, rfl⟩
  · rw [← List.cons_append, ← List.append_assoc] at split
    obtain ⟨rfl, same⟩ := List.append_inj' split rfl
    cases same
    exact .inr ⟨rest, rfl, rfl⟩

/-- It lasts after an operation that starts it, or that does not stop it if it lasted before. -/
theorem since_snoc {last : Operation} : start.Since (run ++ [last]) starts stops ↔
    starts (start.performAll run) last ∨
      start.Since run starts stops ∧ ¬ stops (start.performAll run) last := by
  constructor
  · rintro ⟨before, operation, after, split, started, lasts⟩
    rcases snoc_split split with ⟨rfl, rfl, rfl⟩ | ⟨rest, rfl, rfl⟩
    · exact .inl started
    · refine .inr ⟨⟨before, operation, rest, rfl, started, fun between later more split => ?_⟩, ?_⟩
      · exact lasts between later (more ++ [last]) (by rw [split, List.append_assoc, List.cons_append])
      · exact lasts rest last [] rfl
  · rintro (started | ⟨⟨before, operation, after, rfl, started, lasts⟩, goes_on⟩)
    · refine ⟨run, last, [], rfl, started, fun between later rest split => ?_⟩
      exact absurd split.symm (List.append_ne_nil_of_right_ne_nil between (List.cons_ne_nil later rest))
    · refine ⟨before, operation, after ++ [last], by rw [List.append_assoc, List.cons_append], started, ?_⟩
      intro between later rest split
      rcases snoc_split split with ⟨rfl, rfl, rfl⟩ | ⟨more, rfl, rfl⟩
      · exact goes_on
      · exact lasts between later more rfl

/-- What holds after an operation exactly if it starts it, or held before and it does not stop it, holds after
a run exactly if it has lasted since some operation. -/
theorem Reachable.holds_iff_since (reachable : start.Reachable) (Holds : Service → Prop)
    (nothing : ¬ Holds start)
    (step : ∀ service : Service, service.Reachable → ∀ operation, Holds (service.perform operation) ↔
      starts service operation ∨ Holds service ∧ ¬ stops service operation) (run : List Operation) :
    Holds (start.performAll run) ↔ start.Since run starts stops := by
  induction run using List.reverseRecOn with
  | nil => exact iff_of_false nothing not_since_nil
  | append_singleton run last ih =>
    rw [performAll_snoc, since_snoc, step _ (reachable.performAll run), ih]

end Since

/-! ### The user of a session -/

/-- The identity has been issued, and whatever session has it is of that user and that age. -/
structure Belongs (service : Service) (id : SessionId) (user : EntityId) (age : Moment) : Prop where
  issued : id.number < service.state.nextSession
  same : ∀ session ∈ service.state.sessions.toList, session.id = id →
    session.user.id = user ∧ session.createdAt = age

namespace Reachable

variable {operation : Operation} {session opened : Session} (reachable : service.Reachable)
include reachable

theorem of_login {name password : String} (done : (service.run (login name password)).1 = .ok session) :
    session.id = ⟨service.state.nextSession⟩ := by
  have ends := reachable.login_ends name password
  rw [done] at ends
  cases ends with
  | opened issued => exact issued

theorem belongs (opens : service.Opens opened operation) :
    (service.perform operation).Belongs opened.id opened.user.id opened.createdAt := by
  have later : (service.perform operation).Reachable := reachable.step operation Outage.never
  have held : opened ∈ (service.perform operation).state.sessions.toList :=
    (reachable.mem_perform operation).mpr (.inl opens.gives)
  refine ⟨later.registered.issued _ (Sessions.mem_ids.mpr ⟨opened, held, rfl⟩), fun session held' same => ?_⟩
  obtain rfl := later.eq_of_id_eq held' held same
  exact ⟨rfl, rfl⟩

theorem belongs_perform {id : SessionId} {user : EntityId} {age : Moment}
    (belongs : service.Belongs id user age) (operation : Operation) :
    (service.perform operation).Belongs id user age := by
  refine ⟨Nat.lt_of_lt_of_le belongs.issued (nextSession_perform service operation), ?_⟩
  intro session left_open same
  rcases (reachable.mem_perform operation).mp left_open with gives | ⟨old, -⟩
  · cases gives with
    | login done =>
      -- A login takes an identity that has not been issued yet.
      rw [reachable.of_login done] at same
      exact absurd belongs.issued (same ▸ Nat.lt_irrefl _)
    | refresh done =>
      obtain ⟨old, held, rfl, same_id, same_user, same_age, -⟩ := reachable.of_refresh done
      rw [same_user, same_age]
      exact belongs.same old held (same_id.symm.trans same)
  · exact belongs.same session old same

theorem belongs_after (opens : service.Opens opened operation) (after : List Operation) :
    ((service.perform operation).performAll after).Belongs opened.id opened.user.id opened.createdAt := by
  have opened_there : (service.perform operation).Reachable := reachable.step operation Outage.never
  induction after using List.reverseRecOn with
  | nil => exact reachable.belongs opens
  | append_singleton after last ih =>
    rw [performAll_snoc]
    exact (opened_there.performAll after).belongs_perform ih last

/-- What a login or a refresh gives is derived from the graph that it leaves. -/
theorem derived (gives : service.Gives session operation) :
    session.Derived service.settings (service.perform operation).state.store := by
  cases gives with
  | @login name password done =>
    rw [state_login]
    have ends := reachable.login_ends name password
    rw [done] at ends
    cases ends with
    | opened _ _ derived => exact derived
  | @refresh id done =>
    rw [state_refresh]
    have ends := reachable.refresh_ends id
    rw [done] at ends
    cases ends with
    | renewed _ _ _ _ _ _ _ derived => exact derived

end Reachable

/-! ### The sessions of a run -/

/-- The sessions of the service that a run has led to, and what the next login or refresh does to them. -/
structure SessionsFollow (start : Service) (run : List Operation) (service : Service) : Prop where
  once : service.state.sessions.ids.Nodup
  /-- Those are open that a login opened and that nothing has closed since. -/
  open_iff : ∀ id, id ∈ service.state.sessions.ids ↔ start.Since run
    (fun service operation => ∃ session, service.Opens session operation ∧ session.id = id)
    fun service operation => service.Closes id operation
  /-- Each is as the last login or refresh gave it. -/
  held_iff : ∀ session, session ∈ service.state.sessions.toList ↔ start.Since run
    (fun service operation => service.Gives session operation) fun _ operation => operation.Ends session
  derived : ∀ before operation after session, run = before ++ operation :: after →
    (start.performAll before).Gives session operation →
    session.Derived start.settings (start.performAll (before ++ [operation])).state.store
  same_user : ∀ before operation after opened, run = before ++ operation :: after →
    (start.performAll before).Opens opened operation →
    ∀ session ∈ service.state.sessions.toList, session.id = opened.id →
      session.user.id = opened.user.id ∧ session.createdAt = opened.createdAt
  refused : ∀ name password e, (service.run (login name password)).1 = .error e →
    (service.run (login name password)).2.state.sessions = service.state.sessions
  absent : ∀ id ∉ service.state.sessions.ids, ∃ e, e.category = .unknownEntity ∧
    service.run (refresh id) = (.error e, service)
  expired : ∀ session ∈ service.state.sessions.toList, session.user.id ∉ service.state.store.users.ids →
    ∃ e, e.category = .unknownEntity ∧ (service.run (refresh session.id)).1 = .error e ∧
      (service.run (refresh session.id)).2.state.sessions.toList =
        service.state.sessions.toList.filter (·.id ≠ session.id) ∧
      (service.run (refresh session.id)).2.state.store = service.state.store
  renewed : ∀ session ∈ service.state.sessions.toList, session.user.id ∈ service.state.store.users.ids →
    ∃ renewed, (service.run (refresh session.id)).1 = .ok renewed ∧ renewed.id = session.id ∧
      renewed.user.id = session.user.id

theorem refresh_absent {id : SessionId} (absent : id ∉ service.state.sessions.ids) :
    service.run (refresh id) = (.error (.noSession id), service) := by
  have missing : service.state.sessions.get? id = none := by
    rw [← Option.not_isSome_iff_eq_none, ← Sessions.contains_eq_isSome_get?, Sessions.contains_iff]
    exact absent
  simp only [Service.run, refresh, Action.run_bind, run_openSession, missing, Action.run_throw]

namespace Reachable

variable {session : Session} (reachable : service.Reachable)
include reachable

theorem login_refused {name password : String} {e : Error}
    (failed : (service.run (login name password)).1 = .error e) :
    (service.run (login name password)).2.state.sessions = service.state.sessions := by
  have ends := reachable.login_ends name password
  rw [failed] at ends
  cases ends with
  | refused sessions => exact sessions

theorem refresh_expired (held : session ∈ service.state.sessions.toList)
    (gone : session.user.id ∉ service.state.store.users.ids) :
    (service.run (refresh session.id)).1 = .error (.noEntityWithId .user session.user.id) ∧
      (service.run (refresh session.id)).2.state.sessions = service.state.sessions.erase session.id ∧
      (service.run (refresh session.id)).2.state.store = service.state.store := by
  have found : service.state.sessions.get? session.id = some session :=
    Sessions.get?_of_mem reachable.registered.ids_nodup held
  have ends := reachable.refresh_ends session.id
  generalize (service.run (refresh session.id)).1 = result at ends ⊢
  generalize (service.run (refresh session.id)).2.state = later at ends ⊢
  cases ends with
  | absent missing => cases missing.symm.trans found
  | expired found' _ sessions store =>
    cases found'.symm.trans found
    exact ⟨rfl, sessions, store⟩
  | renewed found' stored =>
    cases found'.symm.trans found
    exact absurd stored gone

end Reachable

/-- Open are the sessions that a login opened and nothing closed since, each for the user of its login and as
the last login or refresh derived it. A failed login opens none; a refresh that finds no session changes
nothing, and one that finds its user removed closes that session only. -/
theorem sessions_follow_run {settings : Settings} {nextId nextSession nextSalt : Nat} {clock : Moment}
    (started : Service.start settings { store := { nextId }, nextSession, nextSalt, clock } = .ok start)
    (run : List Operation) : start.SessionsFollow run (start.performAll run) := by
  have reachable : start.Reachable := .start nextId nextSession nextSalt clock started
  have led : (start.performAll run).Reachable := reachable.performAll run
  have nothing : start.state.sessions.toList = [] := by
    obtain ⟨-, rfl⟩ := start_eq_ok started
    rfl
  constructor
  case once => exact led.registered.ids_nodup
  case open_iff =>
    intro id
    refine reachable.holds_iff_since (id ∈ ·.state.sessions.ids) ?_ (fun _ there => there.mem_ids_perform) run
    simp [Sessions.ids, nothing]
  case held_iff =>
    intro session
    refine reachable.holds_iff_since (session ∈ ·.state.sessions.toList) ?_ (fun _ there => there.mem_perform) run
    simp [nothing]
  case derived =>
    intro before operation after session split gives
    rw [performAll_snoc, ← settings_performAll start before]
    exact (reachable.performAll before).derived gives
  case same_user =>
    intro before operation after opened split opens session held same
    have goes_on : start.performAll run = ((start.performAll before).perform operation).performAll after := by
      rw [split, performAll, List.foldl_append]
      rfl
    rw [goes_on] at held
    exact ((reachable.performAll before).belongs_after opens after).same session held same
  case refused => exact fun name password e failed => led.login_refused failed
  case absent => exact fun id missing => ⟨_, rfl, refresh_absent missing⟩
  case expired =>
    intro session held gone
    obtain ⟨failed, sessions, store⟩ := led.refresh_expired held gone
    exact ⟨_, rfl, failed, by rw [sessions]; rfl, store⟩
  case renewed => exact fun session held stored => led.refresh_stored held stored

/-- Ann's session stays hers when she is renamed, refreshed under the new name and somebody else becomes Ann;
Bob's is closed by the refresh that finds him removed, and a failed login opens none. -/
theorem sessions_follow_ann_and_bob :
    let start : Service := ⟨{}, {}⟩
    let run : List Operation := [.addUser "Ann" "pw", .addUser "Bob" "pw", .login "Ann" "pw", .login "Carl" "pw",
      .login "Bob" "pw", .rename (.user { id := ⟨0⟩, name := "Ann" }) "Anna", .addUser "Ann" "pw", .refresh ⟨0⟩,
      .invalidate "Ann", .remove (.user { id := ⟨1⟩, name := "Bob" }), .refresh ⟨1⟩]
    (start.performAll run).state.sessions.toList.map (fun session => (session.id, session.user.toRecord)) =
        [(⟨0⟩, ⟨⟨0⟩, "Anna"⟩)] ∧
      start.SessionsFollow run (start.performAll run) := by
  intro start run
  have started : Service.start {} {} = .ok start := rfl
  exact ⟨by decide +kernel, sessions_follow_run started run⟩

end Entitlement.Service
