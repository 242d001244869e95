import Entitlement.Proofs.Session.Invalidation
import Entitlement.Proofs.Session.Opening

/-!
What one operation does to the open sessions. A session is open after it if and only if the operation gives
it, or it was open before and the operation does not end it.
-/

namespace Entitlement

open Entitlement.Action

/-- The session does not outlast the operation as it is: it is closed, or renewed. -/
inductive Operation.Ends (session : Session) : Operation → Prop where
  | logout : Ends session (.logout session.id)
  | refresh : Ends session (.refresh session.id)
  | invalidate {name : String} (named : session.user.key = nameKey name) : Ends session (.invalidate name)

namespace Operation

variable {session : Session} {operation : Operation} {id : SessionId} {name : String}

theorem Ends.onSessions (ends : operation.Ends session) : operation.OnSessions := by
  cases ends <;> trivial

theorem ends_logout_iff : (logout id).Ends session ↔ session.id = id := by
  constructor
  · rintro ⟨⟩
    rfl
  · rintro rfl
    exact .logout

theorem ends_refresh_iff : (refresh id).Ends session ↔ session.id = id := by
  constructor
  · rintro ⟨⟩
    rfl
  · rintro rfl
    exact .refresh

theorem ends_invalidate_iff : (invalidate name).Ends session ↔ session.user.key = nameKey name := by
  constructor
  · intro ends
    cases ends with
    | invalidate named => exact named
  · exact .invalidate

end Operation

namespace Service

variable {service : Service} {operation : Operation} {session : Session} {id : SessionId}

/-- A login that succeeds with the session. -/
inductive Opens (service : Service) (session : Session) : Operation → Prop where
  | login {name password : String} (done : (service.run (login name password)).1 = .ok session) :
    Opens service session (.login name password)

/-- A login or a refresh that succeeds with the session. -/
inductive Gives (service : Service) (session : Session) : Operation → Prop where
  | login {name password : String} (done : (service.run (login name password)).1 = .ok session) :
    Gives service session (.login name password)
  | refresh {id : SessionId} (done : (service.run (refresh id)).1 = .ok session) :
    Gives service session (.refresh id)

/-- A logout of the session, an invalidation of the name recorded in it, or a refresh of it that finds
its user removed. -/
inductive Closes (service : Service) (id : SessionId) : Operation → Prop where
  | logout : Closes service id (.logout id)
  | invalidate {session : Session} {name : String} (held : session ∈ service.state.sessions.toList)
    (same : session.id = id) (named : session.user.key = nameKey name) : Closes service id (.invalidate name)
  | refresh {session : Session} (held : session ∈ service.state.sessions.toList) (same : session.id = id)
    (gone : session.user.id ∉ service.state.store.users.ids) : Closes service id (.refresh id)

theorem Closes.of_refresh {other : SessionId} (closes : service.Closes id (.refresh other)) :
    ∃ session ∈ service.state.sessions.toList, session.id = id ∧
      session.user.id ∉ service.state.store.users.ids := by
  cases closes with
  | refresh held same gone => exact ⟨_, held, same, gone⟩

theorem Gives.onSessions (gives : service.Gives session operation) : operation.OnSessions := by
  cases gives <;> trivial

theorem gives_login_iff {name password : String} : service.Gives session (.login name password) ↔
    (service.run (login name password)).1 = .ok session := by
  constructor
  · intro gives
    cases gives with
    | login done => exact done
  · exact .login

theorem gives_refresh_iff : service.Gives session (.refresh id) ↔
    (service.run (refresh id)).1 = .ok session := by
  constructor
  · intro gives
    cases gives with
    | refresh done => exact done
  · exact .refresh

theorem Opens.gives (opens : service.Opens session operation) : service.Gives session operation := by
  cases opens with
  | login done => exact .login done

/-! ### One operation -/

theorem sessions_perform (aside : ¬ operation.OnSessions) :
    (service.perform operation).state.sessions = service.state.sessions := by
  let context : Context := { settings := service.settings }
  let Same (state : State) : Prop := state.sessions = service.state.sessions
  have invariant : Invariant (fun _ => True) Same :=
    ⟨fun _ same _ => same, fun _ _ moved same => moved.sessions.trans same⟩
  have keeps : Keeps context Same operation.action fun _ => True :=
    invariant.operation operation (fun _ _ _ => trivial) (fun _ same => same) fun on => absurd on aside
  exact (keeps service.state rfl).1

theorem nextSession_perform (service : Service) (operation : Operation) :
    service.state.nextSession ≤ (service.perform operation).state.nextSession := by
  let context : Context := { settings := service.settings }
  let Past (state : State) : Prop := service.state.nextSession ≤ state.nextSession
  have invariant : Invariant (fun _ => True) Past :=
    ⟨fun _ past _ => past, fun _ _ moved past => Nat.le_trans past moved.issued⟩
  have kept : KeepsOpen Past fun _ => True :=
    ⟨fun _ _ _ _ _ past => Nat.le_succ_of_le past, fun _ _ past => past, fun _ _ _ _ _ _ past => past⟩
  have keeps : Keeps context Past operation.action fun _ => True := by
    refine invariant.operation operation (fun _ _ _ => trivial) (fun _ past => past) fun on => ?_
    refine invariant.onSessions kept (fun _ name password => ?_) (fun id => ?_) on
    · exact invariant.namedWithPassword (fun _ _ => trivial) name password
    · exact invariant.withId invariant.loadUser id
  exact (keeps service.state (Nat.le_refl _)).1

theorem state_login (service : Service) (name password : String) :
    (service.perform (.login name password)).state = (service.run (login name password)).2.state :=
  congrArg Service.state (run_discard ..)

theorem state_refresh (service : Service) (id : SessionId) :
    (service.perform (.refresh id)).state = (service.run (refresh id)).2.state :=
  congrArg Service.state (run_discard ..)

theorem sessions_logout (service : Service) (id : SessionId) :
    (service.perform (.logout id)).state.sessions = service.state.sessions.erase id := by
  have discarded : service.perform (.logout id) = (service.run (logout id)).2 := run_discard ..
  rw [discarded]
  simp only [Service.run, logout, run_bind, run_openSession]
  cases found : service.state.sessions.get? id with
  | some session => rfl
  | none =>
    have absent : ∀ session ∈ service.state.sessions.items, session.id ≠ id := by
      intro session mem
      simpa using List.find?_eq_none.mp found session mem
    have kept : service.state.sessions.items.filter (·.id ≠ id) = service.state.sessions.items := by
      simpa [List.filter_eq_self] using absent
    exact congrArg Sessions.mk kept.symm

namespace Reachable

variable (reachable : service.Reachable)
include reachable

theorem login_ends (name password : String) : LoginEnds service.settings service.state
    (service.run (login name password)).1 (service.run (login name password)).2.state :=
  reachable.sound.login_ends service.settings name password

theorem refresh_ends (id : SessionId) : RefreshEnds service.settings service.state id
    (service.run (refresh id)).1 (service.run (refresh id)).2.state :=
  reachable.sound.refresh_ends service.settings id

theorem eq_of_id_eq {other : Session} (held : session ∈ service.state.sessions.toList)
    (held' : other ∈ service.state.sessions.toList) (same : session.id = other.id) : session = other :=
  List.inj_on_of_nodup_map reachable.registered.ids_nodup held held' same

/-- A session that a refresh gives was open before, for the same user. -/
theorem of_refresh (done : (service.run (refresh id)).1 = .ok session) :
    ∃ held ∈ service.state.sessions.toList, held.id = id ∧ session.id = id ∧
      session.user.id = held.user.id ∧ session.createdAt = held.createdAt ∧
      held.user.id ∈ service.state.store.users.ids := by
  have ends := reachable.refresh_ends id
  rw [done] at ends
  cases ends with
  | renewed found stored same_id same_user same_age =>
    obtain ⟨held, rfl⟩ := Sessions.of_get? found
    exact ⟨_, held, rfl, same_id, same_user, same_age, stored⟩

/-- An open session can be refreshed as long as its user is stored. -/
theorem refresh_stored (held : session ∈ service.state.sessions.toList)
    (stored : session.user.id ∈ service.state.store.users.ids) :
    ∃ renewed, (service.run (refresh session.id)).1 = .ok renewed ∧ renewed.id = session.id ∧
      renewed.user.id = session.user.id := by
  have found : service.state.sessions.get? session.id = some session :=
    Sessions.get?_of_mem reachable.registered.ids_nodup held
  have ends := reachable.refresh_ends session.id
  generalize (service.run (refresh session.id)).1 = result at ends ⊢
  generalize (service.run (refresh session.id)).2.state = later at ends
  cases ends with
  | absent missing => cases missing.symm.trans found
  | expired found' gone =>
    cases found'.symm.trans found
    exact absurd stored gone
  | renewed found' _ same_id same_user =>
    cases found'.symm.trans found
    exact ⟨_, rfl, same_id, same_user⟩

theorem mem_perform_login {name password : String} :
    session ∈ (service.perform (.login name password)).state.sessions.toList ↔
      (service.run (login name password)).1 = .ok session ∨ session ∈ service.state.sessions.toList := by
  rw [state_login]
  have ends := reachable.login_ends name password
  generalize (service.run (login name password)).1 = result at ends ⊢
  generalize (service.run (login name password)).2.state = later at ends ⊢
  cases ends with
  | refused sessions => simp [sessions]
  | @opened opened _ issued sessions =>
    have new : service.state.sessions.contains opened.id = false := by
      rw [issued, Bool.eq_false_iff]
      exact fun held => reachable.registered.next_absent (Sessions.contains_iff.mp held)
    rw [sessions, Sessions.toList_insert_of_new new, List.mem_append, List.mem_singleton, or_comm,
      Except.ok.injEq, eq_comm]

theorem mem_perform_refresh {id : SessionId} :
    session ∈ (service.perform (.refresh id)).state.sessions.toList ↔
      (service.run (refresh id)).1 = .ok session ∨ session ∈ service.state.sessions.toList ∧ session.id ≠ id := by
  rw [state_refresh]
  have ends := reachable.refresh_ends id
  generalize (service.run (refresh id)).1 = result at ends ⊢
  generalize (service.run (refresh id)).2.state = later at ends ⊢
  cases ends with
  | absent missing =>
    have others : ∀ session ∈ service.state.sessions.toList, session.id ≠ id := by
      intro session held same
      subst same
      cases missing.symm.trans (Sessions.get?_of_mem reachable.registered.ids_nodup held)
    simpa using others session
  | expired found gone sessions =>
    rw [sessions]
    simp [Sessions.erase, Sessions.toList]
  | @renewed old renewed _ found stored same_id _ _ sessions =>
    obtain ⟨held, rfl⟩ := Sessions.of_get? found
    rw [sessions, Except.ok.injEq, ← same_id]
    exact Sessions.mem_replace_iff (Sessions.mem_ids.mpr ⟨old, held, same_id.symm⟩)

theorem mem_perform (operation : Operation) :
    session ∈ (service.perform operation).state.sessions.toList ↔
      service.Gives session operation ∨
        session ∈ service.state.sessions.toList ∧ ¬ operation.Ends session := by
  -- Most operations have nothing to do with sessions.
  have quiet (aside : ¬ operation.OnSessions) :
      session ∈ (service.perform operation).state.sessions.toList ↔
        service.Gives session operation ∨
          session ∈ service.state.sessions.toList ∧ ¬ operation.Ends session := by
    rw [sessions_perform aside]
    constructor
    · exact fun held => .inr ⟨held, fun ends => aside ends.onSessions⟩
    · rintro (gives | ⟨held, -⟩)
      · exact absurd gives.onSessions aside
      · exact held
  cases operation with
  | login name password =>
    have stays : ¬ (Operation.login name password).Ends session := by
      rintro ⟨⟩
    rw [reachable.mem_perform_login, gives_login_iff, and_iff_left stays]
  | logout id =>
    have given : ¬ service.Gives session (.logout id) := by
      rintro ⟨⟩
    rw [sessions_logout, Operation.ends_logout_iff, or_iff_right given]
    simp [Sessions.erase, Sessions.toList]
  | refresh id => rw [reachable.mem_perform_refresh, gives_refresh_iff, Operation.ends_refresh_iff]
  | invalidate name =>
    have given : ¬ service.Gives session (.invalidate name) := by
      rintro ⟨⟩
    rw [sessions_invalidate, mem_eraseNamed, Operation.ends_invalidate_iff, or_iff_right given]
  | add | addUser | rename | remove | enter | changePassword | forcePassword | anonymous | grant | revoke | withdraw |
    revokeAll | globalGroup | replaceRole | buildAcl | applySeed => exact quiet id

/-- Which identities are open after an operation: renewals change nothing of that. -/
theorem mem_ids_perform (operation : Operation) :
    id ∈ (service.perform operation).state.sessions.ids ↔
      (∃ session, service.Opens session operation ∧ session.id = id) ∨
        id ∈ service.state.sessions.ids ∧ ¬ service.Closes id operation := by
  simp only [Sessions.mem_ids]
  constructor
  · rintro ⟨session, left_open, rfl⟩
    rcases (reachable.mem_perform operation).mp left_open with gives | ⟨held, stays⟩
    · cases gives with
      | login done => exact .inl ⟨session, .login done, rfl⟩
      | refresh done =>
        obtain ⟨old, held, rfl, same, -, -, stored⟩ := reachable.of_refresh done
        refine .inr ⟨⟨old, held, same.symm⟩, fun closes => ?_⟩
        obtain ⟨other, held', same', gone⟩ := closes.of_refresh
        obtain rfl := reachable.eq_of_id_eq held held' (same.symm.trans same'.symm)
        exact gone stored
    · refine .inr ⟨⟨session, held, rfl⟩, fun closes => stays ?_⟩
      cases closes with
      | logout => exact .logout
      | invalidate held' same named =>
        obtain rfl := reachable.eq_of_id_eq held' held same
        exact .invalidate named
      | refresh => exact .refresh
  · rintro (⟨session, opens, rfl⟩ | ⟨⟨session, held, rfl⟩, stays⟩)
    · exact ⟨session, (reachable.mem_perform operation).mpr (.inl opens.gives), rfl⟩
    · by_cases ends : operation.Ends session
      · -- Of the operations that end it only a refresh may leave its identity open.
        cases ends with
        | logout => exact absurd .logout stays
        | invalidate named => exact absurd (.invalidate held rfl named) stays
        | refresh =>
          by_cases stored : session.user.id ∈ service.state.store.users.ids
          · obtain ⟨renewed, done, same, -⟩ := reachable.refresh_stored held stored
            exact ⟨renewed, (reachable.mem_perform _).mpr (.inl (.refresh done)), same⟩
          · exact absurd (.refresh held rfl stored) stays
      · exact ⟨session, (reachable.mem_perform operation).mpr (.inr ⟨held, ends⟩), rfl⟩

end Reachable

end Service

end Entitlement
