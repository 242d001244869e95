import Entitlement.Proofs.Session.Registry
import Entitlement.Proofs.Store.Frame

/-!
A session keeps the name that its user had at the login or at the last refresh. It is fresh as long as
the user is stored under that name. Logins and refreshes make it fresh, and only a rename or a removal
of somebody who has a session open can undo it.
-/

namespace Entitlement

open Entitlement.Action

/-- The user is stored under the name that it has here. -/
def Store.Knows (store : Store) (user : User) : Prop :=
  ∃ record ∈ store.users.toList, record.id = user.id ∧ record.key = user.key

instance (store : Store) (user : User) : Decidable (store.Knows user) :=
  inferInstanceAs
    (Decidable (∃ record ∈ store.users.toList, record.id = user.id ∧ record.key = user.key))

def State.Fresh (state : State) : Prop :=
  ∀ session ∈ state.sessions.toList, state.store.Knows session.user

theorem Store.knows_of_stored {store : Store} {user : User}
    (stored : user.toRecord ∈ store.users.toList) : store.Knows user :=
  ⟨user.toRecord, stored, rfl, rfl⟩

theorem Sessions.countFor_eq_zero_iff {sessions : Sessions} {user : EntityId} :
    sessions.countFor user = 0 ↔ ∀ session ∈ sessions.toList, session.user.id ≠ user := by
  unfold countFor toList
  rw [List.countP_eq_zero]
  simp only [decide_eq_true_eq, ne_eq]

/-! ### Operations on sessions -/

section OnSessions

variable {context : Context} {users : Roster Record}

theorem State.Fresh.invariant (users : Roster Record) :
    Invariant (fun request => ∃ user credentials, request = .saveCredentials user credentials)
      fun state => state.store.users = users ∧ state.Fresh where
  answered := by
    rintro state request result store ⟨user, credentials, rfl⟩ ⟨same, fresh⟩ answered
    rcases result with e | answer
    · obtain rfl := Store.answer_refused (by nofun) answered
      exact ⟨same, fresh⟩
    · obtain ⟨-, -, done⟩ := Store.attempt_bind_eq_ok.mp answered
      cases done
      exact ⟨same, fresh⟩
  aside := by
    rintro state later aside ⟨same, fresh⟩
    refine ⟨by rw [aside.store, same], fun session mem => ?_⟩
    rw [aside.sessions] at mem
    rw [aside.store]
    exact fresh session mem

theorem State.Fresh.keepsOpen (users : Roster Record) :
    KeepsOpen (fun state => state.store.users = users ∧ state.Fresh)
      fun user => user.toRecord ∈ users.toList where
  opened := by
    rintro state user acl time held ⟨rfl, fresh⟩
    refine ⟨rfl, fun session mem => ?_⟩
    rcases Sessions.mem_insert mem with rfl | old
    · exact Store.knows_of_stored held
    · exact fresh session old
  closed := by
    rintro state stays ⟨same, fresh⟩
    exact ⟨same, fun session mem => fresh session (List.mem_filter.mp mem).1⟩
  renewed := by
    rintro state session user acl time held ⟨rfl, fresh⟩
    refine ⟨rfl, fun other mem => ?_⟩
    rcases Sessions.mem_replace mem with rfl | old
    · exact Store.knows_of_stored held
    · exact fresh other old

namespace Action.Invariant

variable {Allowed : Request → Prop} {I : State → Prop} (invariant : Invariant Allowed I)
include invariant

theorem loadUser_stored {record : Record} (stored : record ∈ users.toList) :
    Keeps context I (User.load record) (·.toRecord ∈ users.toList) :=
  (invariant.loadUser_record record).mono fun _ same => same ▸ stored

variable (agrees : users.Agrees) (of_state : ∀ state, I state → state.store.users = users)
include agrees of_state

theorem named_stored (name : String) :
    Keeps context I (Entity.named name : Action User) (·.toRecord ∈ users.toList) := by
  have tells : Keeps context I (ask (.findNamed .user name))
      fun found => ∀ record, found = some record → record ∈ users.toList := by
    refine invariant.told (.inl trivial) ?_ fun answer hidden => by cases hidden; exact nofun
    intro state answer store holds answered record same
    cases answered
    obtain rfl := of_state state holds
    exact (agrees.named?_eq_some_iff.mp same).1
  refine tells.bind fun found listed => ?_
  cases found with
  | none => exact keeps_throw _
  | some record => exact invariant.loadUser_stored (listed record rfl)

theorem withId_stored (id : EntityId) :
    Keeps context I (Entity.withId id : Action User) (·.toRecord ∈ users.toList) := by
  have tells : Keeps context I (ask (.find .user id))
      fun found => ∀ record, found = some record → record ∈ users.toList := by
    refine invariant.told (.inl trivial) ?_ fun answer hidden => by cases hidden; exact nofun
    intro state answer store holds answered record same
    cases answered
    obtain rfl := of_state state holds
    exact (agrees.get?_eq_some_iff.mp same).1
  refine tells.bind fun found listed => ?_
  cases found with
  | none => exact keeps_throw _
  | some record => exact invariant.loadUser_stored (listed record rfl)

theorem namedWithPassword_stored
    (saves : ∀ user credentials, Allowed (.saveCredentials user credentials))
    (name password : String) :
    Keeps context I (User.namedWithPassword name password) (·.toRecord ∈ users.toList) := by
  refine (invariant.named_stored agrees of_state name).bind fun user stored => ?_
  refine (invariant.authenticate user password).bind fun _ _ => ?_
  exact (invariant.recordLogin saves user).bind fun time _ => keeps_pure stored

end Action.Invariant

end OnSessions

/-! ### Operations on the graph -/

/-- The operation renames and removes nobody who has a session open. -/
def Operation.Spares (sessions : Sessions) : Operation → Prop
  | .rename entity _ | .remove entity => entity.endpoint.kind = .user →
    sessions.countFor entity.endpoint.id = 0
  | .add .. | .addUser .. | .enter .. | .changePassword .. | .forcePassword .. | .anonymous | .grant .. | .revoke .. |
    .withdraw .. | .revokeAll _ | .globalGroup | .replaceRole .. | .login .. | .logout _ | .refresh _ | .invalidate _ |
    .buildAcl _ | .applySeed _ => True

theorem Operation.Spares.displaced {sessions : Sessions} {operation : Operation}
    (spares : operation.Spares sessions)
    {request : Request} (sent : request.SentBy operation) {user : EntityId}
    (displaced : request.Displaces .user user) :
    sessions.countFor user = 0 := by
  cases request with
  | rename kind id name | delete kind id =>
    obtain ⟨rfl, rfl⟩ := displaced
    obtain ⟨entity, rfl, users, rfl⟩ := sent
    exact spares users
  | findNamed | find | list | create | loadCredentials | saveCredentials | edgesOf | insertEdge | eraseEdge =>
    exact displaced.elim

theorem Operation.Spares.invariant {model : Model} {sessions : Sessions} {operation : Operation}
    (spares : operation.Spares sessions) :
    Invariant (fun request => request.Admissible model ∧ request.SentBy operation)
      fun state => state.sessions = sessions ∧ state.store.Sound model ∧ state.Fresh where
  answered := by
    rintro state request result store ⟨admissible, sent⟩ ⟨rfl, sound, fresh⟩ answered
    rcases result with e | answer
    · obtain rfl := sound.refused answered
      exact ⟨rfl, sound, fresh⟩
    refine ⟨rfl, sound.answer admissible answered, fun session mem => ?_⟩
    obtain ⟨record, stored, same_id, same_key⟩ := fresh session mem
    have spared : ¬ request.Displaces .user record.id := fun displaced =>
      Sessions.countFor_eq_zero_iff.mp (spares.displaced sent displaced) session mem same_id.symm
    exact ⟨record, sound.stays answered spared stored, same_id, same_key⟩
  aside := by
    rintro state later aside ⟨same, sound, fresh⟩
    refine ⟨by rw [aside.sessions, same], by rwa [aside.store], fun session mem => ?_⟩
    rw [aside.sessions] at mem
    rw [aside.store]
    exact fresh session mem

namespace Service

variable {service : Service}

theorem fresh_perform (reachable : service.Reachable) (fresh : service.state.Fresh)
    {operation : Operation}
    (spares : operation.Spares service.state.sessions) (outage : Outage) :
    (service.perform operation outage).state.Fresh := by
  let context : Context := { settings := service.settings, outage }
  by_cases on : operation.OnSessions
  · let users := service.state.store.users
    have invariant := State.Fresh.invariant users
    have agrees : users.Agrees := reachable.sound.tables .user
    have keeps : Keeps context (fun state => state.store.users = users ∧ state.Fresh)
        operation.action fun _ => True := by
      refine invariant.onSessions (State.Fresh.keepsOpen users) (fun _ name password => ?_)
        (fun id => ?_) on
      · refine invariant.namedWithPassword_stored agrees (fun _ holds => holds.1)
          (fun user credentials => ?_) name password
        exact ⟨user, credentials, rfl⟩
      · exact invariant.withId_stored agrees (fun _ holds => holds.1) id
    exact (keeps service.state ⟨rfl, fresh⟩).1.2
  · let I : State → Prop := fun state =>
      state.sessions = service.state.sessions ∧ state.store.Sound service.settings.model ∧ state.Fresh
    have invariant : Invariant _ I := spares.invariant
    have keeps : Keeps context I operation.action fun _ => True := by
      refine invariant.operation operation (fun _ admissible sent => ⟨admissible, sent⟩) ?_
        fun impossible => absurd impossible on
      rintro state ⟨same, sound, fresh⟩
      exact ⟨same, sound.mint, fresh⟩
    exact (keeps service.state ⟨rfl, reachable.sound, fresh⟩).1.2.2

/-- A run in which nobody is renamed or removed while having a session open. -/
inductive Steady : Service → Prop where
  | start {settings : Settings} {service : Service} (nextId nextSession nextSalt : Nat)
    (clock : Moment) :
    Service.start settings { store := { nextId }, nextSession, nextSalt, clock } = .ok service →
      Steady service
  | step {service : Service} {operation : Operation} (outage : Outage)
    (spares : operation.Spares service.state.sessions) :
    Steady service → Steady (service.perform operation outage)

theorem Steady.reachable (steady : service.Steady) : service.Reachable := by
  induction steady with
  | start nextId nextSession nextSalt clock started =>
    exact .start nextId nextSession nextSalt clock started
  | step outage spares _ reachable => exact reachable.step _ outage

theorem Steady.fresh (steady : service.Steady) : service.state.Fresh := by
  induction steady with
  | start nextId nextSession nextSalt clock started =>
    obtain ⟨-, rfl⟩ := start_eq_ok started
    exact fun session mem => absurd mem List.not_mem_nil
  | step outage spares steady fresh => exact fresh_perform steady.reachable fresh spares outage

end Service

end Entitlement
