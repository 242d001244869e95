import Entitlement.Proofs.Action.Writing
import Entitlement.Proofs.Store.Soundness
import Entitlement.Service

/-!
The operations of a service and the services that they lead to. Entities are handed over as values: a
caller may hold one that is out of date, was removed or has never been stored.
-/

namespace Entitlement

open Entitlement.Action

/-- An entity in the hands of a caller. -/
inductive Handle where
  | user (user : User)
  | group (group : Group)
  | role (role : Role)
  | permission (permission : Permission)

def Handle.endpoint : Handle → Endpoint
  | .user held => Entity.endpoint held
  | .group held => Entity.endpoint held
  | .role held => Entity.endpoint held
  | .permission held => Entity.endpoint held

inductive Operation where
  | add (kind : Kind) (name : String)
  | addUser (name password : String)
  | rename (entity : Handle) (name : String)
  | remove (entity : Handle)
  | enter (name password : String)
  | changePassword (user : User) (old new : String)
  | forcePassword (user : User) (new : String)
  /-- A principal that is not stored takes an identity. -/
  | anonymous
  /-- A model's manager grants the edges of that model. -/
  | grant (manager : Model) (edge : Edge Record) (known : edge.relation.belongsTo manager)
  | revoke (manager : Model) (edge : Edge Record) (known : edge.relation.belongsTo manager)
  | withdraw (delegator delegatee : Record)
  | revokeAll (entity : Endpoint)
  | globalGroup
  | replaceRole (user old new : Record)
  | login (name password : String)
  | logout (session : SessionId)
  | refresh (session : SessionId)
  | invalidate (name : String)
  | buildAcl (user : User)
  | applySeed (seed : Seed)

namespace Operation

def action : Operation → Action Unit
  | add .user name => discard (Entity.add name : Action User)
  | add .group name => discard (Entity.add name : Action Group)
  | add .role name => discard (Entity.add name : Action Role)
  | add .permission name => discard (Entity.add name : Action Permission)
  | addUser name password => discard (User.addWithPassword name password)
  | rename (.user user) name => discard (Entity.rename user name)
  | rename (.group group) name => discard (Entity.rename group name)
  | rename (.role role) name => discard (Entity.rename role name)
  | rename (.permission permission) name => discard (Entity.rename permission name)
  | remove (.user user) => discard (Entity.remove user)
  | remove (.group group) => discard (Entity.remove group)
  | remove (.role role) => discard (Entity.remove role)
  | remove (.permission permission) => discard (Entity.remove permission)
  | enter name password => discard (User.namedWithPassword name password)
  | changePassword user old new => user.changePassword old new
  | forcePassword user new => user.forcePassword new
  | anonymous => discard User.anonymous
  | grant manager edge _ => requireModel manager >>= fun _ => discard (Entitlement.grant edge)
  | revoke manager edge _ => requireModel manager >>= fun _ => discard (Entitlement.revoke edge)
  | withdraw delegator delegatee => DynamicManager.removeDelegate delegator delegatee
  | revokeAll entity => discard (Entitlement.revokeAll entity)
  | globalGroup => requireModel .turbine >>= fun _ => discard Entitlement.globalGroup
  | replaceRole user old new => TurbineManager.replace user old new
  | login name password => discard (Entitlement.login name password)
  | logout session => discard (Entitlement.logout session)
  | refresh session => discard (Entitlement.refresh session)
  | invalidate name => discard (Entitlement.invalidate name)
  | buildAcl user => discard (Acl.build user)
  | applySeed seed => discard seed.apply

variable {manager : Model} {edge : Edge Record} {method : Action Bool}

/-- Each method by which a manager grants is an operation, -/
theorem action_of_grantMethod (found : grantMethod? manager edge = some method) :
    ∃ known, (grant manager edge known).action = discard method := by
  rw [grantMethod?_eq] at found
  split at found
  · next known =>
    cases found
    exact ⟨known, (map_bind (fun _ => ()) (requireModel manager) fun _ => Entitlement.grant edge).symm⟩
  · cases found

/-- and so is each method by which it revokes. -/
theorem action_of_revokeMethod (found : revokeMethod? manager edge = some method) :
    ∃ known, (revoke manager edge known).action = discard method := by
  rw [revokeMethod?_eq] at found
  split at found
  · next known =>
    cases found
    exact ⟨known.1, (map_bind (fun _ => ()) (requireModel manager) fun _ => Entitlement.revoke edge).symm⟩
  · cases found

/-- The names that the operation may give to users. -/
def userNames : Operation → List String
  | add .user name | addUser name _ | rename (.user _) name => [name]
  | applySeed seed => seed.users.map (·.name)
  | add .group _ | add .role _ | add .permission _ | rename (.group _) _ | rename (.role _) _ | rename (.permission _) _ |
    remove _ | enter .. | changePassword .. | forcePassword .. | anonymous | grant .. | revoke .. | withdraw .. |
    revokeAll _ | globalGroup | replaceRole .. | login .. | logout _ | refresh _ | invalidate _ | buildAcl _ => []

/-- The operations that open, close or renew sessions. -/
def OnSessions : Operation → Prop
  | login .. | logout _ | refresh _ | invalidate _ => True
  | add .. | addUser .. | rename .. | remove _ | enter .. | changePassword .. | forcePassword .. | anonymous | grant .. |
    revoke .. | withdraw .. | revokeAll _ | globalGroup | replaceRole .. | buildAcl _ | applySeed _ => False

/-- The operations that may take edges out. -/
def TakesOut : Operation → Prop
  | remove _ | revoke .. | withdraw .. | revokeAll _ | replaceRole .. => True
  | add .. | addUser .. | rename .. | enter .. | changePassword .. | forcePassword .. | anonymous | grant .. | globalGroup |
    login .. | logout _ | refresh _ | invalidate _ | buildAcl _ | applySeed _ => False

/-- The operations that may set a password or note the time of a login. -/
def SavesCredentials : Operation → Prop
  | addUser .. | enter .. | changePassword .. | forcePassword .. | login .. | applySeed _ => True
  | add .. | rename .. | remove _ | anonymous | grant .. | revoke .. | withdraw .. | revokeAll _ | globalGroup |
    replaceRole .. | logout _ | refresh _ | invalidate _ | buildAcl _ => False

end Operation

/-- An entity is renamed and deleted only by the operation that is told to, a user is created only under a name that
the operation was given, and only some operations take edges out or save credentials. -/
def Request.SentBy (operation : Operation) : Request → Prop
  | .rename kind id name => ∃ entity : Handle, operation = .rename entity name ∧
    entity.endpoint.kind = kind ∧ entity.endpoint.id = id
  | .delete kind id => ∃ entity : Handle, operation = .remove entity ∧
    entity.endpoint.kind = kind ∧ entity.endpoint.id = id
  | .eraseEdge _ => operation.TakesOut
  | .saveCredentials .. => operation.SavesCredentials
  | .create kind name => kind = .user → name ∈ operation.userNames
  | .findNamed .. | .find .. | .list _ | .loadCredentials _ | .edgesOf .. | .insertEdge _ => True

namespace Action.Invariant

variable {context : Context} {I : State → Prop} {Allowed : Request → Prop}
  (invariant : Invariant Allowed I)
include invariant

theorem onSessions {Held : User → Prop} (kept : KeepsOpen I Held)
    {operation : Operation} (enters : operation.SavesCredentials → ∀ name password,
      Keeps context I (User.namedWithPassword name password) Held)
    (finds : ∀ id : EntityId, Keeps context I (Entity.withId id : Action User) Held)
    (on : operation.OnSessions) : Keeps context I operation.action fun _ => True := by
  cases operation with
  | login name password => exact (invariant.login kept (enters trivial name password)).map fun _ _ => trivial
  | logout session => exact (invariant.logout kept session).map fun _ _ => trivial
  | refresh session => exact (invariant.refresh kept finds session).map fun _ _ => trivial
  | invalidate name => exact (invariant.invalidate kept name).map fun _ _ => trivial
  | add | addUser | rename | remove | enter | changePassword | forcePassword | anonymous | grant | revoke | withdraw |
    revokeAll | globalGroup | replaceRole | buildAcl | applySeed => exact on.elim

theorem operation (operation : Operation)
    (admits : ∀ request : Request, request.Admissible context.settings.model →
      request.SentBy operation → Allowed request)
    (mints : ∀ state : State, I state → I { state with store :=
      { state.store with nextId := state.store.nextId + 1 } })
    (opens : operation.OnSessions → Keeps context I operation.action fun _ => True) :
    Keeps context I operation.action fun _ => True := by
  have creates : ∀ kind name, kind ≠ .user → Text.blank name = false → Allowed (.create kind name) :=
    fun kind name apart visible => admits (.create kind name) visible fun same => absurd same apart
  have createsUser : ∀ name ∈ operation.userNames, Text.blank name = false → Allowed (.create .user name) :=
    fun name given visible => admits (.create .user name) visible fun _ => given
  have founds : ∀ name, Text.blank name = false → Allowed (.create .group name) :=
    fun name => creates .group name nofun
  have saves : operation.SavesCredentials → ∀ user credentials, Allowed (.saveCredentials user credentials) :=
    fun saves user credentials => admits (.saveCredentials user credentials) trivial saves
  have inserts : ∀ edge : Edge EntityId, edge.relation.belongsTo context.settings.model →
    Allowed (.insertEdge edge) :=
    fun edge shape => admits (.insertEdge edge) shape trivial
  have erases : operation.TakesOut → ∀ edge : Edge EntityId, Allowed (.eraseEdge edge) :=
    fun takes edge => admits (.eraseEdge edge) trivial takes
  cases operation with
  | add kind name =>
    cases kind with
    | user =>
      have created := createsUser name (List.mem_singleton_self name)
      exact (invariant.add invariant.loadUser created).map fun _ _ => trivial
    | group => exact (invariant.add invariant.loadGroup (founds name)).map fun _ _ => trivial
    | role => exact (invariant.add invariant.loadRole (creates .role name nofun)).map fun _ _ => trivial
    | permission =>
      exact (invariant.add invariant.loadPermission (creates .permission name nofun)).map fun _ _ => trivial
  | addUser name password =>
    have created := createsUser name (List.mem_singleton_self name)
    exact (invariant.addWithPassword created (saves trivial) password).map fun _ _ => trivial
  | rename entity name =>
    have renames : Text.blank name = false → Allowed
      (.rename entity.endpoint.kind entity.endpoint.id name) :=
      fun visible => admits (.rename _ _ name) visible ⟨entity, rfl, rfl, rfl⟩
    cases entity with
    | user user => exact (invariant.rename invariant.loadUser renames).map fun _ _ => trivial
    | group group => exact (invariant.rename invariant.loadGroup renames).map fun _ _ => trivial
    | role role => exact (invariant.rename invariant.loadRole renames).map fun _ _ => trivial
    | permission permission =>
      exact (invariant.rename invariant.loadPermission renames).map fun _ _ => trivial
  | remove entity =>
    have deletes : Allowed (.delete entity.endpoint.kind entity.endpoint.id) :=
      admits (.delete _ _) trivial ⟨entity, rfl, rfl, rfl⟩
    cases entity with
    | user | group | role | permission => exact (invariant.remove (erases trivial) deletes).map fun _ _ => trivial
  | enter name password => exact (invariant.namedWithPassword (saves trivial) name password).map fun _ _ => trivial
  | changePassword user old new => exact invariant.changePassword (saves trivial) user old new
  | forcePassword user new => exact invariant.forcePassword (saves trivial) user new
  | anonymous =>
    have takes : Keeps context I User.anonymous fun _ => True :=
      keeps_of_run fun state holds => mints state holds
    exact takes.map fun _ _ => trivial
  | grant manager edge known =>
    refine (requireModel manager).bind fun _ same => ?_
    have allowed : Allowed (.insertEdge edge.ids) := inserts _ (by rwa [Edge.ids_relation, same])
    exact (invariant.grant allowed).map fun _ _ => trivial
  | revoke manager edge known =>
    exact (requireModel manager).bind fun _ _ => (invariant.revoke (erases trivial _)).map fun _ _ => trivial
  | withdraw delegator delegatee =>
    exact (requireModel .dynamic).bind fun _ _ => invariant.withdraw (erases trivial _)
  | revokeAll entity => exact (invariant.revokeAll (erases trivial) entity).map fun _ _ => trivial
  | globalGroup =>
    exact (requireModel .turbine).bind fun _ _ =>
      (invariant.globalGroup founds).map fun _ _ => trivial
  | replaceRole user old new =>
    refine (requireModel .turbine).bind fun _ same => ?_
    refine invariant.replaceRole founds (erases trivial)
      (fun user group role => inserts _ ?_) user old new
    rw [same]
    rfl
  | login | logout | refresh | invalidate => exact opens trivial
  | buildAcl user => exact (invariant.buildAcl user).map fun _ _ => trivial
  | applySeed seed =>
    have createsUsers : ∀ user ∈ seed.users, Text.blank user.name = false → Allowed (.create .user user.name) :=
      fun user listed => createsUser user.name (List.mem_map_of_mem listed)
    exact (invariant.applySeed createsUsers creates (saves trivial) inserts).map fun _ _ => trivial

end Action.Invariant

namespace Service

def perform (service : Service) (operation : Operation) (outage : Outage := Outage.never) : Service :=
  (service.run operation.action outage).2

/-- What an action leaves behind does not depend on whether its answer is looked at. -/
theorem run_discard {α : Type} (service : Service) (action : Action α) (outage : Outage) :
    (service.run (discard action) outage).2 = (service.run action outage).2 := by
  have mapped : (discard action : Action Unit) = (fun _ => ()) <$> action := rfl
  unfold run
  rw [mapped, run_map]

def performAll (service : Service) (operations : List Operation) : Service :=
  operations.foldl (·.perform ·) service

@[simp]
theorem settings_perform (service : Service) (operation : Operation) (outage : Outage) :
    (service.perform operation outage).settings = service.settings := rfl

/-- What every request keeps that the operation may send is kept by the operation. The store is in order all the
while, so that what is refused changes nothing. -/
theorem holds_perform {P : Store → Prop} {service : Service} {operation : Operation}
    (ordered : ∀ {store : Store}, P store → store.Sound service.settings.model)
    (answered : ∀ {store later : Store} {request : Request} {answer : request.Answer},
      request.Admissible service.settings.model → request.SentBy operation → P store →
        store.answer request = (.ok answer, later) → P later)
    (mints : ∀ store : Store, P store → P { store with nextId := store.nextId + 1 }) (holds : P service.state.store)
    (outage : Outage) : P (service.perform operation outage).state.store := by
  let context : Context := { settings := service.settings, outage }
  let Allowed (request : Request) : Prop := request.Admissible service.settings.model ∧ request.SentBy operation
  let I (state : State) : Prop := P state.store
  have aside (state later : State) (moved : Action.Aside state later) (holds : P state.store) : P later.store := by
    rwa [moved.store]
  have kept {state : State} {request : Request} {result : Except Error request.Answer} {store : Store}
      (allowed : Allowed request) (holds : P state.store) (done : state.store.answer request = (result, store)) :
      P store := by
    rcases result with e | answer
    · exact (ordered holds).refused done ▸ holds
    · exact answered allowed.1 allowed.2 holds done
  have invariant : Action.Invariant Allowed I := ⟨kept, aside⟩
  have opens : Action.KeepsOpen I fun _ => True :=
    ⟨fun _ _ _ _ _ holds => holds, fun _ _ holds => holds, fun _ _ _ _ _ _ holds => holds⟩
  have keeps : Action.Keeps context I operation.action fun _ => True := by
    refine invariant.operation operation (fun _ admissible sent => ⟨admissible, sent⟩) (fun _ => mints _) fun on => ?_
    refine invariant.onSessions opens (fun saves name password => ?_) (fun id => ?_) on
    · exact invariant.namedWithPassword (fun _ _ => ⟨trivial, saves⟩) name password
    · exact invariant.withId invariant.loadUser id
  exact (keeps service.state holds).1

theorem performAll_snoc (service : Service) (operations : List Operation) (operation : Operation) :
    service.performAll (operations ++ [operation]) = (service.performAll operations).perform operation := by
  unfold performAll
  rw [List.foldl_append]
  rfl

@[simp]
theorem settings_performAll (service : Service) (operations : List Operation) :
    (service.performAll operations).settings = service.settings := by
  induction operations generalizing service with
  | nil => rfl
  | cons operation operations ih => exact ih (service.perform operation)

/-- A service started over an empty store, after operations that may have succeeded or failed and may
have met any disruption. -/
inductive Reachable : Service → Prop where
  | start {settings : Settings} {service : Service} (nextId nextSession nextSalt : Nat)
    (clock : Moment) :
    Service.start settings { store := { nextId }, nextSession, nextSalt, clock } = .ok service →
      Reachable service
  | step {service : Service} (operation : Operation) (outage : Outage) :
    Reachable service → Reachable (service.perform operation outage)

theorem Reachable.performAll {service : Service} (reachable : service.Reachable)
    (operations : List Operation) :
    (service.performAll operations).Reachable := by
  induction operations generalizing service with
  | nil => exact reachable
  | cons operation operations ih => exact ih (reachable.step operation Outage.never)

theorem start_eq_ok {settings : Settings} {state : State} {service : Service}
    (started : start settings state = .ok service) :
    settings.validate = .ok () ∧ service = ⟨settings, state⟩ := by
  obtain ⟨⟨⟩, valid, done⟩ := except_bind_eq_ok.mp started
  cases done
  exact ⟨valid, rfl⟩

end Service

end Entitlement
