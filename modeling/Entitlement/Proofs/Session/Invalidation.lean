import Entitlement.Proofs.Session.Freshness

/-!
What an invalidation closes. It goes by the names that the sessions kept, so it reaches the user whom
the name stands for as long as none of the sessions concerned is stale.
-/

namespace Entitlement

namespace Service

variable {service : Service} {record : Record} {name : String}

/-- Once the name is invalidated the user has no session open, and everyone else has the sessions they had. -/
def InvalidationReaches (service : Service) (name : String) (user : EntityId) : Prop :=
  let later := (service.perform (.invalidate name)).state.sessions
  later.countFor user = 0 ∧
    ∀ session ∈ service.state.sessions.toList, session.user.id ≠ user →
      later.get? session.id = some session

theorem run_invalidate (service : Service) (name : String) :
    (service.run (invalidate name)).1 = .ok (service.state.sessions.toList.countP (Sessions.isOf name)) ∧
      (service.run (invalidate name)).2.state.sessions = service.state.sessions.eraseNamed name := by
  simp only [Service.run, invalidate, Sessions.modifyOpen, Action.run_bind, Action.run_get,
    Action.run_modify]
  split <;> exact ⟨rfl, rfl⟩

theorem sessions_invalidate (service : Service) (name : String) :
    (service.perform (.invalidate name)).state.sessions = service.state.sessions.eraseNamed name := by
  have discarded : service.perform (.invalidate name) = (service.run (invalidate name)).2 :=
    run_discard ..
  rw [discarded]
  exact (service.run_invalidate name).2

/-- A session is closed if and only if its user had that name when it was opened or refreshed. -/
theorem mem_eraseNamed {sessions : Sessions} {session : Session} :
    session ∈ (sessions.eraseNamed name).toList ↔
      session ∈ sessions.toList ∧ session.user.key ≠ nameKey name := by
  unfold Sessions.eraseNamed Sessions.toList
  rw [List.mem_filter]
  simp [Sessions.isOf]

/-- The invalidation is right if the user's sessions are those that carry the name. -/
theorem invalidationReaches_iff (registered : service.state.Registered) {user : EntityId} :
    service.InvalidationReaches name user ↔
      ∀ session ∈ service.state.sessions.toList, session.user.id = user ↔
        session.user.key = nameKey name := by
  have differ : (service.state.sessions.eraseNamed name).ids.Nodup :=
    registered.ids_nodup.sublist (List.filter_sublist.map _)
  simp only [InvalidationReaches, sessions_invalidate, Sessions.countFor_eq_zero_iff]
  constructor
  · rintro ⟨closed, kept⟩ session mem
    constructor
    · intro same
      by_contra other
      exact closed session (mem_eraseNamed.mpr ⟨mem, other⟩) same
    · intro carries
      by_contra other
      obtain ⟨still, -⟩ := Sessions.of_get? (kept session mem other)
      exact (mem_eraseNamed.mp still).2 carries
  · intro carry
    constructor
    · intro session left
      obtain ⟨mem, other⟩ := mem_eraseNamed.mp left
      exact mt (carry session mem).mp other
    · intro session mem other
      exact Sessions.get?_of_mem differ (mem_eraseNamed.mpr ⟨mem, mt (carry session mem).mpr other⟩)

theorem Reachable.carries_iff (reachable : service.Reachable)
    (stored : record ∈ service.state.store.users.toList)
    (named : record.key = nameKey name) {user : User} :
    (user.id = record.id ↔ user.key = nameKey name) ↔
      (user.id = record.id ∨ user.key = nameKey name → service.state.store.Knows user) := by
  have agrees : service.state.store.users.Agrees := reachable.sound.tables .user
  constructor
  · intro same concerned
    have id : user.id = record.id := concerned.elim (fun id => id) same.mpr
    exact ⟨record, stored, id.symm, named.trans (same.mp id).symm⟩
  · intro known
    constructor
    · intro id
      obtain ⟨held, listed, same_id, same_key⟩ := known (.inl id)
      obtain rfl := agrees.eq_of_id_eq listed stored (same_id.trans id)
      exact same_key.symm.trans named
    · intro key
      obtain ⟨held, listed, same_id, same_key⟩ := known (.inr key)
      obtain rfl := agrees.eq_of_key_eq listed stored (same_key.trans (key.trans named.symm))
      exact same_id.symm

theorem Reachable.reaches_iff (reachable : service.Reachable)
    (stored : record ∈ service.state.store.users.toList)
    (named : record.key = nameKey name) : service.InvalidationReaches name record.id ↔
      ∀ session ∈ service.state.sessions.toList, session.user.id = record.id ∨
        session.user.key = nameKey name →
        service.state.store.Knows session.user := by
  rw [invalidationReaches_iff reachable.registered]
  exact forall₂_congr fun session _ => reachable.carries_iff stored named

/-- As long as nobody is renamed or removed while having a session open, invalidations reach the right user. -/
theorem Steady.invalidation_reaches (steady : service.Steady)
    (stored : record ∈ service.state.store.users.toList)
    (named : record.key = nameKey name) : service.InvalidationReaches name record.id :=
  (steady.reachable.reaches_iff stored named).mpr fun session mem _ => steady.fresh session mem

/-- An invalidation closes the sessions that carry the name, leaves the others as they are, and tells how
many it closed. It reaches the user whom the name stands for if and only if the user's sessions, and those
that carry the name, are of users still stored under the name they carry; so it does in every run in which
nobody is renamed or removed while having a session open. -/
theorem Reachable.invalidation_exact (reachable : service.Reachable)
    (stored : record ∈ service.state.store.users.toList)
    (named : record.key = nameKey name) :
    (service.run (invalidate name)).1 =
      .ok (service.state.sessions.toList.countP (·.user.key = nameKey name)) ∧
    (service.perform (.invalidate name)).state.sessions.toList =
      service.state.sessions.toList.filter (·.user.key ≠ nameKey name) ∧
    (service.InvalidationReaches name record.id ↔
      ∀ session ∈ service.state.sessions.toList, session.user.id = record.id ∨
        session.user.key = nameKey name →
        service.state.store.Knows session.user) ∧
    (service.Steady → service.InvalidationReaches name record.id) := by
  refine ⟨?_, ?_, reachable.reaches_iff stored named, fun steady => steady.invalidation_reaches stored named⟩
  · rw [(service.run_invalidate name).1]
    rfl
  · rw [sessions_invalidate]
    refine List.filter_congr fun session _ => ?_
    simp [Sessions.isOf, beq_eq_decide]

/-- Whoever is renamed while having a session open cannot be reached under the new name. -/
theorem invalidation_misses_renamed :
    let service := (⟨{}, {}⟩ : Service).performAll [.addUser "alice" "pw", .login "alice" "pw",
      .rename (.user { id := ⟨0⟩, name := "alice" }) "alicia"]
    ⟨⟨0⟩, "alicia"⟩ ∈ service.state.store.users.toList ∧ service.state.sessions.countFor ⟨0⟩ = 1 ∧
      (service.run (invalidate "alicia")).1 = .ok 0 ∧ ¬ service.InvalidationReaches "alicia" ⟨0⟩ := by
  intro service
  have started : Service.start {} {} = .ok ⟨{}, {}⟩ := rfl
  have reachable : service.Reachable := (Reachable.start 0 0 0 ⟨0⟩ started).performAll _
  have stored : ⟨⟨0⟩, "alicia"⟩ ∈ service.state.store.users.toList := by decide +kernel
  have named : (⟨⟨0⟩, "alicia"⟩ : Record).key = nameKey "alicia" := rfl
  obtain ⟨closed, -, reaches, -⟩ := Reachable.invalidation_exact reachable stored named
  exact ⟨stored, by decide +kernel, closed.trans (by decide +kernel), mt reaches.mp (by decide +kernel)⟩

end Service

end Entitlement
