import Entitlement.Proofs.Action.Forwarding
import Entitlement.Proofs.Granting.Replacement
import Entitlement.Proofs.Service.Graph

/-!
A service over a backend that fails. Whatever is asked of the service, a request that fails decides the
result: it is the error of the first one, in the backend's own words, and the sessions are left as they
were. Only a replacement sends another request after a failure, to put the old role back.
-/

namespace Entitlement

open Entitlement.Action

/-- Questions that change nothing. -/
inductive Query where
  | named (kind : Kind) (name : String)
  | withId (kind : Kind) (id : EntityId)
  | all (kind : Kind)
  | existsNamed (kind : Kind) (name : String)
  | existsId (kind : Kind) (id : EntityId)
  | authenticate (user : User) (password : String)
  | buildFor (model : Model) (globalGroup : String) (user : User)
  | forName (name : String)

/-- What is done for every type of entity, done for the one of this kind. -/
def Kind.act (act : (E : Type) → [Entity E] → Action Unit) : Kind → Action Unit
  | .user => act User
  | .group => act Group
  | .role => act Role
  | .permission => act Permission

def Query.action : Query → Action Unit
  | named kind name => kind.act fun E _ => discard (Entity.named name : Action E)
  | withId kind id => kind.act fun E _ => discard (Entity.withId id : Action E)
  | all kind => kind.act fun E _ => discard (Entity.all E)
  | existsNamed kind name => kind.act fun E _ => discard (Entity.existsNamed E name)
  | existsId kind id => kind.act fun E _ => discard (Entity.existsId E id)
  | authenticate user password => user.authenticate password
  | buildFor model globalGroup user => discard (Acl.buildFor model globalGroup user)
  | forName name => discard (Acl.forName name)

/-- Whatever is asked of a service. -/
inductive Task where
  | operation (operation : Operation)
  | query (query : Query)

namespace Task

def action : Task → Action Unit
  | operation performed => performed.action
  | query asked => asked.action

/-- The new role of a replacement could not be written, and with the next request the old one not be put back. -/
def Strands (outage : Outage) (first second : String) : Task → Prop
  | operation (.replaceRole user old new) => ∃ number store group,
    outage number store (.insertEdge (.userGroupRole user.id group new.id)) = some (.fail (.backend first)) ∧
      outage (number + 1) store (.insertEdge (.userGroupRole user.id group old.id)) = some (.fail (.backend second))
  | operation _ | query _ => False

end Task

/-- How a task ends that starts in the state. No request is sent after one that failed, unless both failures are
such as `strands` tells. -/
inductive Surfaces {α : Type} (strands : String → String → Prop) (state : State) : Except Error α → State → Prop where
  | quiet {result : Except Error α} {later : State} (same : later.disrupted = state.disrupted) :
    Surfaces strands state result later
  | failed {detail : String} {later : State} (noted : later.disrupted = state.disrupted ++ [.backend detail])
    (sessions : later.sessions = state.sessions) : Surfaces strands state (.error (.backend detail)) later
  | unrestored {first second : String} {later : State} (stranded : strands first second)
    (noted : later.disrupted = state.disrupted ++ [.backend first, .backend second])
    (sessions : later.sessions = state.sessions) : Surfaces strands state (.error (.backend second)) later

/-- How a request ends that the store does not refuse. -/
inductive Met (outage : Outage) (state : State) {request : Request} (answer : request.Answer) (store : Store) :
    Except Error request.Answer → State → Prop where
  | answered {later : State} (kept : later.store = store) (quiet : later.disrupted = state.disrupted)
    (sessions : later.sessions = state.sessions) : Met outage state answer store (.ok answer) later
  | failed {detail : String} {later : State}
    (hit : outage state.requests state.store request = some (.fail (.backend detail)))
    (kept : later.store = state.store) (counted : later.requests = state.requests + 1)
    (noted : later.disrupted = state.disrupted ++ [.backend detail]) (sessions : later.sessions = state.sessions) :
    Met outage state answer store (.error (.backend detail)) later

namespace Action

variable {α β : Type} {context : Context} {strands : String → String → Prop}

def Surfaced (strands : String → String → Prop) (context : Context) (state : State) (action : Action α) : Prop :=
  ∀ ⦃later : State⦄ ⦃result : Except Error α⦄, action.run context state = (result, later) →
    Surfaces strands state result later

theorem Forwards.surfaced {action : Action α} (forwards : Forwards context action) (state : State) :
    Surfaced strands context state action := by
  intro later result ran
  cases forwards ran with
  | done quiet _ | refused quiet => exact .quiet quiet
  | failed noted sessions => exact .failed noted sessions

theorem surfaced_of_run {action : Action α} {state : State}
    (quiet : (action.run context state).2.disrupted = state.disrupted) : Surfaced strands context state action := by
  intro later result ran
  rw [ran] at quiet
  exact .quiet quiet

/-- What comes after an action that passes failures on is looked at only where that action succeeds. -/
theorem Forwards.surfaced_bind {action : Action α} {next : α → Action β} (first : Forwards context action)
    {state : State} (rest : ∀ a between, action.run context state = (.ok a, between) →
      Surfaced strands context between (next a)) : Surfaced strands context state (action >>= next) := by
  intro later result ran
  rw [run_bind] at ran
  rcases begun : action.run context state with ⟨e | a, between⟩
  · rw [begun] at ran
    cases ran
    cases first begun with
    | refused same => exact .quiet same
    | failed noted sessions => exact .failed noted sessions
  · rw [begun] at ran
    have ended := rest a between begun ran
    cases first begun with
    | done quiet sessions =>
      cases ended with
      | quiet same => exact .quiet (same.trans quiet)
      | failed noted sessions' => exact .failed (quiet ▸ noted) (sessions'.trans sessions)
      | unrestored stranded noted sessions' => exact .unrestored stranded (quiet ▸ noted) (sessions'.trans sessions)

theorem Surfaced.discard {action : Action α} {state : State} (surfaced : Surfaced strands context state action) :
    Surfaced strands context state (discard action) := by
  intro later result ran
  have mapped : (Functor.discard action : Action Unit) = (fun _ => ()) <$> action := rfl
  rw [mapped, run_map] at ran
  rcases begun : action.run context state with ⟨e | a, between⟩
  all_goals
    rw [begun] at ran
    cases ran
    have ended := surfaced begun
  · cases ended with
    | quiet same => exact .quiet same
    | failed noted sessions => exact .failed noted sessions
    | unrestored stranded noted sessions => exact .unrestored stranded noted sessions
  · cases ended with
    | quiet same => exact .quiet same

/-- What is done without a request does not hide that one failed before it. -/
theorem Surfaced.bind_quiet {action : Action α} {next : α → Action β} {state : State}
    (first : Surfaced strands context state action)
    (quiet : ∀ a between, ((next a).run context between).2.disrupted = between.disrupted) :
    Surfaced strands context state (action >>= next) := by
  intro later result ran
  rw [run_bind] at ran
  rcases begun : action.run context state with ⟨e | a, between⟩
  · rw [begun] at ran
    cases ran
    cases first begun with
    | quiet same => exact .quiet same
    | failed noted sessions => exact .failed noted sessions
    | unrestored stranded noted sessions => exact .unrestored stranded noted sessions
  · rw [begun] at ran
    change (next a).run context between = _ at ran
    have still := quiet a between
    rw [ran] at still
    cases first begun with
    | quiet same => exact .quiet (still.trans same)

section Forwarding

variable (backend : context.outage.OnlyBackend)
include backend

/-! ### Entities and grants -/

section Entities

variable {E : Type} [Entity E] (loads : ∀ record : Record, Sends Request.Reads (Entity.load record : Action E))
include loads

theorem forwards_named (name : String) : Forwards context (Entity.named name : Action E) :=
  (compositional_forwards context).named (fun record => (loads record).forwards backend)
    (fun _ _ => forwards_ask backend _) name

theorem forwards_withId (id : EntityId) : Forwards context (Entity.withId id : Action E) :=
  (compositional_forwards context).withId (fun record => (loads record).forwards backend)
    (fun _ _ => forwards_ask backend _) id

theorem forwards_add (name : String) : Forwards context (Entity.add name : Action E) :=
  (compositional_forwards context).add (fun record => (loads record).forwards backend)
    (fun _ _ => forwards_ask backend _) fun _ => forwards_ask backend _

theorem forwards_rename (entity : E) (name : String) : Forwards context (Entity.rename entity name) :=
  (compositional_forwards context).rename (fun record => (loads record).forwards backend) fun _ => forwards_ask backend _

theorem forwards_all : Forwards context (Entity.all E) :=
  (compositional_forwards context).all (fun record => (loads record).forwards backend) (forwards_ask backend _)

omit loads in
theorem forwards_remove (entity : E) : Forwards context (Entity.remove entity) :=
  (compositional_forwards context).remove (fun _ _ => forwards_ask backend _) (fun _ _ => forwards_ask backend _)
    (fun _ => forwards_ask backend _) (forwards_ask backend _)

theorem forwards_ensure {add : Action E} (adds : Forwards context add) (count : Nat) (name : String) :
    Forwards context (Seed.ensure E add count name) := by
  have composes := compositional_forwards context
  exact composes.ensure (fun _ _ => forwards_ask backend _) (composes.map (forwards_named backend loads name))
    (composes.map adds) count

end Entities

theorem forwards_globalGroup : Forwards context globalGroup :=
  (compositional_forwards context).globalGroup (fun _ => forwards_ask backend _) fun _ _ => forwards_ask backend _

theorem forwards_grant (edge : Edge Record) : Forwards context (grant edge) :=
  (compositional_forwards context).grant (fun _ _ => forwards_ask backend _) (forwards_ask backend _)

theorem forwards_revoke (edge : Edge Record) : Forwards context (revoke edge) :=
  (compositional_forwards context).revoke (fun _ _ => forwards_ask backend _) (forwards_ask backend _)

theorem forwards_withdraw (edge : Edge Record) : Forwards context (withdraw edge) :=
  (compositional_forwards context).withdraw (fun _ _ => forwards_ask backend _) (forwards_ask backend _)

theorem forwards_revokeAll (entity : Endpoint) : Forwards context (revokeAll entity) :=
  (compositional_forwards context).revokeAll (fun _ _ => forwards_ask backend _) (fun _ _ => forwards_ask backend _)
    (fun _ => forwards_ask backend _) entity

/-! ### Users -/

omit backend in
theorem forwards_encodePassword (password : String) : Forwards context (User.encodePassword password) :=
  forwards_of_run (fun _ => rfl) fun _ => rfl

omit backend in
theorem forwards_authenticate (user : User) (password : String) : Forwards context (user.authenticate password) := by
  have composes := compositional_forwards context
  refine composes.configured <| composes.check fun fits _ => ?_
  cases fits with
  | true => exact composes.report _
  | false => exact composes.bind (composes.report _) fun _ => composes.throw _

theorem forwards_addWithPassword (name password : String) :
    Forwards context (User.addWithPassword name password) := by
  have adds : Forwards context (Entity.add name : Action User) := forwards_add backend sends_loadUser name
  refine adds.bind fun user => (forwards_encodePassword password).bind fun stored => ?_
  exact (forwards_ask backend _).bind fun _ => (compositional_forwards context).pure _

theorem forwards_recordLogin (user : User) : Forwards context user.recordLogin := by
  have now : Forwards context now := forwards_of_run (fun _ => rfl) fun _ => rfl
  refine (forwards_ask backend _).bind fun credentials => now.bind fun time => ?_
  exact (forwards_ask backend _).bind fun _ => (compositional_forwards context).pure _

theorem forwards_namedWithPassword (name password : String) :
    Forwards context (User.namedWithPassword name password) := by
  have finds : Forwards context (Entity.named name : Action User) := forwards_named backend sends_loadUser name
  refine finds.bind fun user => (forwards_authenticate user password).bind fun _ => ?_
  exact (forwards_recordLogin backend user).bind fun _ => (compositional_forwards context).pure _

theorem forwards_forcePassword (user : User) (new : String) : Forwards context (user.forcePassword new) := by
  refine (forwards_ask backend _).bind fun credentials => (forwards_encodePassword new).bind fun stored => ?_
  exact (forwards_ask backend _).bind fun _ => (compositional_forwards context).report _

theorem forwards_changePassword (user : User) (old new : String) :
    Forwards context (user.changePassword old new) := by
  have finds : Forwards context (Entity.withId user.id : Action User) := forwards_withId backend sends_loadUser user.id
  refine finds.bind fun stored => (forwards_authenticate stored old).bind fun _ => ?_
  exact forwards_forcePassword backend stored new

/-! ### Seeds -/

theorem forwards_endpointRecord (kind : Kind) (name : String) : Forwards context (Seed.endpointRecord kind name) := by
  have composes := compositional_forwards context
  cases kind with
  | user => exact (forwards_named backend sends_loadUser name).bind fun _ => composes.pure _
  | group => exact (forwards_named backend sends_loadGroup name).bind fun _ => composes.pure _
  | role => exact (forwards_named backend sends_loadRole name).bind fun _ => composes.pure _
  | permission => exact (forwards_named backend sends_loadPermission name).bind fun _ => composes.pure _

theorem forwards_applySeed (seed : Seed) : Forwards context seed.apply := by
  have composes := compositional_forwards context
  refine composes.applySeed (forwards_endpointRecord backend) (forwards_globalGroup backend)
    (fun _ _ => forwards_ask backend _) ?_ fun edge _ => forwards_grant backend edge
  apply composes.addEntities
  · intro name password
    exact fun count => forwards_ensure backend sends_loadUser (forwards_addWithPassword backend name password) count name
  · exact fun name count => forwards_ensure backend sends_loadGroup (forwards_add backend sends_loadGroup name) count name
  · exact fun name count => forwards_ensure backend sends_loadRole (forwards_add backend sends_loadRole name) count name
  · exact fun name count =>
      forwards_ensure backend sends_loadPermission (forwards_add backend sends_loadPermission name) count name

/-! ### Sessions -/

/-- A session is closed only if its user is unknown, and that is no failure of the backend. -/
theorem forwards_sessionUser (session : Session) : Forwards context (sessionUser session) := by
  have finds : Forwards context (Entity.withId session.user.id : Action User) :=
    forwards_withId backend sends_loadUser session.user.id
  intro state later result ran
  rw [sessionUser, run_tryCatch] at ran
  rcases begun : (Entity.withId session.user.id : Action User).run context state with ⟨e | user, between⟩
  · rw [begun] at ran
    cases finds begun with
    | refused quiet =>
      cases unknown : e.isUnknownEntity <;>
      · simp only [unknown] at ran
        cases ran
        exact .refused quiet
    | failed noted sessions =>
      cases ran
      exact .failed noted sessions
  · rw [begun] at ran
    cases ran
    exact finds begun

theorem surfaced_login (name password : String) (state : State) :
    Surfaced strands context state (login name password) := by
  apply (forwards_namedWithPassword backend name password).surfaced_bind
  intro user entered _
  apply ((sends_buildAcl user).forwards backend).surfaced_bind
  intro acl built _
  exact surfaced_of_run rfl

theorem surfaced_refresh (session : SessionId) (state : State) :
    Surfaced strands context state (refresh session) := by
  have opens : Forwards context (openSession? session) := forwards_of_run (fun _ => rfl) fun _ => rfl
  apply opens.surfaced_bind
  intro found same _
  cases found with
  | none => exact surfaced_of_run rfl
  | some session =>
    apply (forwards_sessionUser backend session).surfaced_bind
    intro user looked _
    apply ((sends_buildAcl user).forwards backend).surfaced_bind
    intro acl built _
    exact surfaced_of_run rfl

omit backend in
theorem surfaced_logout (session : SessionId) (state : State) : Surfaced strands context state (logout session) := by
  have opens : Forwards context (openSession? session) := forwards_of_run (fun _ => rfl) fun _ => rfl
  apply opens.surfaced_bind
  intro found same _
  cases found with
  | none => exact surfaced_of_run rfl
  | some session => exact surfaced_of_run rfl

omit backend in
theorem surfaced_invalidate (name : String) (state : State) : Surfaced strands context state (invalidate name) := by
  apply surfaced_of_run
  simp only [invalidate, run_bind, run_get, Sessions.modifyOpen, run_modify]
  split <;> rfl

/-! ### Replacements -/

theorem met_ask {request : Request} {answer : request.Answer} {store : Store} {state later : State}
    {result : Except Error request.Answer} (answered : state.store.answer request = (.ok answer, store))
    (ran : (ask request).run context state = (result, later)) :
    Met context.outage state answer store result later := by
  rw [run_ask] at ran
  rcases disrupted : context.outage state.requests state.store request with _ | disruption
  · rw [disrupted] at ran
    let counted : State := { state with requests := state.requests + 1 }
    change (serve request).run context counted = (result, later) at ran
    rw [run_serve_of_ok context counted answered] at ran
    obtain ⟨rfl, rfl⟩ := Prod.mk.inj ran
    exact .answered rfl rfl rfl
  · obtain ⟨detail, rfl⟩ := backend _ _ _ _ disrupted
    rw [disrupted] at ran
    cases ran
    exact .failed disrupted rfl rfl rfl rfl

/-- An edge is written in the place of another, which is put back if that fails. -/
theorem surfaced_insertInPlace {state : State} {before after : Edge EntityId}
    (strand : ∀ number store first second, context.outage number store (.insertEdge after) = some (.fail (.backend first)) →
      context.outage (number + 1) store (.insertEdge before) = some (.fail (.backend second)) → strands first second)
    {isNew isBack : Bool} {store store' : Store}
    (inserted : state.store.answer (.insertEdge after) = (.ok isNew, store))
    (restoring : state.store.answer (.insertEdge before) = (.ok isBack, store')) (wasThere : Bool) :
    Surfaced strands context state (tryCatch (ask (.insertEdge after)) fun e => do
      if wasThere then discard <| ask (.insertEdge before)
      throw e) := by
  intro later result ran
  rw [run_tryCatch] at ran
  rcases inserting : (ask (.insertEdge after)).run context state with ⟨e | _, met⟩
  all_goals rw [inserting] at ran
  · obtain _ | ⟨hit, kept, counted, noted, sessions⟩ := met_ask backend inserted inserting
    rename_i detail
    cases wasThere with
    | false =>
      cases ran
      exact .failed noted sessions
    | true =>
      change ((fun _ => ()) <$> ask (.insertEdge before) >>= fun _ => throw (.backend detail)).run context met = _ at ran
      rw [run_bind, run_map] at ran
      rw [← kept] at restoring
      rcases putting : (ask (.insertEdge before)).run context met with ⟨e | _, final⟩
      all_goals rw [putting] at ran
      · obtain _ | ⟨hit', -, -, noted', sessions'⟩ := met_ask backend restoring putting
        rename_i further
        rw [counted, kept] at hit'
        cases ran
        have both : later.disrupted = state.disrupted ++ [.backend detail, .backend further] := by
          rw [noted', noted, List.append_assoc, List.singleton_append]
        exact .unrestored (strand _ _ _ _ hit hit') both (sessions'.trans sessions)
      · obtain ⟨-, quiet, sessions'⟩ := met_ask backend restoring putting
        cases ran
        exact .failed (quiet.trans noted) (sessions'.trans sessions)
  · obtain ⟨-, same, -⟩ := met_ask backend inserted inserting
    cases ran
    exact .quiet same

theorem surfaced_replaceRole {state : State} (sound : state.store.Sound context.settings.model)
    (user old new : Record) : Surfaced ((Task.operation (.replaceRole user old new)).Strands context.outage) context state
      (replaceRole user old new) := by
  have composes := compositional_forwards context
  have keeps : Keeps context (fun state => state.store.Sound context.settings.model) globalGroup fun _ => True :=
    (Store.Sound.invariant _).globalGroup fun _ visible => visible
  -- Up to the two writes every failure is passed on; the checks tell that the store will not refuse those.
  apply (forwards_globalGroup backend).surfaced_bind
  intro group founded ran
  have founded_sound := (keeps state sound).1
  rw [ran] at founded_sound
  let before : Edge Record := .userGroupRole user group old
  let after : Edge Record := .userGroupRole user group new
  let endpoints := before.endpoints ++ [(.role, new)]
  change Surfaced _ _ founded (requireEndpoints before >>= fun _ => requireStored .role new >>= fun _ => _)
  rw [← bind_assoc, requireEndpoints_also]
  have checks : Forwards context (endpoints.forM fun stored => requireStored stored.1 stored.2) :=
    composes.forM fun stored _ => composes.requireStored (fun _ _ => forwards_ask backend _) stored.1 stored.2
  apply checks.surfaced_bind
  intro _ checked ran
  have known : founded.store.stranger? endpoints = none ∧ checked.store = founded.store := by
    have ended := atomic_requireEach founded_sound backend.onlyFails endpoints founded rfl
    rw [ran] at ended
    obtain ⟨-, same, accepted⟩ | ⟨_, _, _, ⟨⟩, _⟩ := ended
    exact ⟨Store.check_eq_ok_iff.mp accepted.symm, same⟩
  obtain ⟨known, same⟩ := known
  rw [← same] at known founded_sound
  have within : after.endpoints ⊆ endpoints := by simp [endpoints, before, after, Edge.endpoints]
  have before_stored := Store.stored_of_known known (List.subset_append_left before.endpoints _)
  have after_stored := Store.stored_of_known known within
  obtain ⟨wasThere, freed, erased, -, ⟨isNew, _, inserted, -⟩, isBack, _, restoring, -⟩ :=
    founded_sound.answer_exchange_back before_stored after_stored
  apply (forwards_ask backend (.eraseEdge before.ids)).surfaced_bind
  intro found between ran
  obtain ⟨rfl, -, -⟩ := met_ask backend erased ran
  have strand (number : Nat) (store : Store) (first second : String)
      (hit : context.outage number store (.insertEdge after.ids) = some (.fail (.backend first)))
      (hit' : context.outage (number + 1) store (.insertEdge before.ids) = some (.fail (.backend second))) :
      (Task.operation (.replaceRole user old new)).Strands context.outage first second :=
    ⟨number, store, group.id, hit, hit'⟩
  exact (surfaced_insertInPlace backend strand inserted restoring wasThere).bind_quiet fun _ _ => rfl

/-! ### Tasks -/

omit backend in
theorem forwards_act {act : (E : Type) → [Entity E] → Action Unit} (kind : Kind)
    (acts : ∀ (E : Type) [Entity E], (∀ record : Record, Sends Request.Reads (Entity.load record : Action E)) →
      Forwards context (act E)) : Forwards context (kind.act act) := by
  cases kind with
  | user => exact acts User sends_loadUser
  | group => exact acts Group sends_loadGroup
  | role => exact acts Role sends_loadRole
  | permission => exact acts Permission sends_loadPermission

theorem forwards_query (query : Query) : Forwards context query.action := by
  have composes := compositional_forwards context
  have asks (request : Request) : Forwards context (ask request) := forwards_ask backend request
  cases query with
  | named kind name =>
    refine @forwards_act _ (fun E _ => discard (Entity.named name : Action E)) kind fun E _ loads => ?_
    exact composes.map (forwards_named backend loads name)
  | withId kind id =>
    refine @forwards_act _ (fun E _ => discard (Entity.withId id : Action E)) kind fun E _ loads => ?_
    exact composes.map (forwards_withId backend loads id)
  | all kind =>
    refine @forwards_act _ (fun E _ => discard (Entity.all E)) kind fun E _ loads => ?_
    exact composes.map (forwards_all backend loads)
  | existsNamed kind name =>
    refine @forwards_act _ (fun E _ => discard (Entity.existsNamed E name)) kind fun E _ _ => ?_
    exact composes.map (composes.existsNamed (fun _ _ => asks _) name)
  | existsId kind id =>
    refine @forwards_act _ (fun E _ => discard (Entity.existsId E id)) kind fun E _ _ => ?_
    exact composes.map (composes.existsId (fun _ _ => asks _) id)
  | authenticate user password => exact forwards_authenticate user password
  | buildFor model globalGroup user => exact composes.map ((sends_buildFor model globalGroup user).forwards backend)
  | forName name =>
    have finds : Forwards context (Entity.named name : Action User) := forwards_named backend sends_loadUser name
    exact composes.map (finds.bind fun user => (sends_buildAcl user).forwards backend)

theorem surfaced_operation {state : State} (sound : state.store.Sound context.settings.model) (operation : Operation) :
    Surfaced ((Task.operation operation).Strands context.outage) context state operation.action := by
  have composes := compositional_forwards context
  cases operation with
  | add kind name =>
    cases kind with
    | user => exact ((forwards_add backend sends_loadUser name).surfaced state).discard
    | group => exact ((forwards_add backend sends_loadGroup name).surfaced state).discard
    | role => exact ((forwards_add backend sends_loadRole name).surfaced state).discard
    | permission => exact ((forwards_add backend sends_loadPermission name).surfaced state).discard
  | addUser name password => exact ((forwards_addWithPassword backend name password).surfaced state).discard
  | rename entity name =>
    cases entity with
    | user user => exact ((forwards_rename backend sends_loadUser user name).surfaced state).discard
    | group group => exact ((forwards_rename backend sends_loadGroup group name).surfaced state).discard
    | role role => exact ((forwards_rename backend sends_loadRole role name).surfaced state).discard
    | permission permission =>
      exact ((forwards_rename backend sends_loadPermission permission name).surfaced state).discard
  | remove entity =>
    cases entity with
    | user held | group held | role held | permission held =>
      exact ((forwards_remove backend held).surfaced state).discard
  | enter name password => exact ((forwards_namedWithPassword backend name password).surfaced state).discard
  | changePassword user old new => exact (forwards_changePassword backend user old new).surfaced state
  | forcePassword user new => exact (forwards_forcePassword backend user new).surfaced state
  | anonymous => exact surfaced_of_run rfl
  | grant manager edge known =>
    exact ((composes.requireModel manager).bind fun _ => composes.map (forwards_grant backend edge)).surfaced state
  | revoke manager edge known =>
    exact ((composes.requireModel manager).bind fun _ => composes.map (forwards_revoke backend edge)).surfaced state
  | withdraw delegator delegatee =>
    exact ((composes.requireModel .dynamic).bind fun _ => forwards_withdraw backend _).surfaced state
  | revokeAll entity => exact ((forwards_revokeAll backend entity).surfaced state).discard
  | globalGroup =>
    exact ((composes.requireModel .turbine).bind fun _ => composes.map (forwards_globalGroup backend)).surfaced state
  | replaceRole user old new =>
    have keeps : Keeps context (fun state => state.store.Sound context.settings.model) (requireModel .turbine)
      fun _ => context.settings.model = .turbine := Invariant.requireModel .turbine
    have required : Forwards context (requireModel .turbine) := composes.requireModel .turbine
    apply required.surfaced_bind
    intro _ between ran
    have sound' := (keeps state sound).1
    rw [ran] at sound'
    exact surfaced_replaceRole backend sound' user old new
  | login name password => exact (surfaced_login backend name password state).discard
  | logout session => exact (surfaced_logout session state).discard
  | refresh session => exact (surfaced_refresh backend session state).discard
  | invalidate name => exact (surfaced_invalidate name state).discard
  | buildAcl user => exact (composes.map ((sends_buildAcl user).forwards backend)).surfaced state
  | applySeed seed => exact ((forwards_applySeed backend seed).surfaced state).discard

end Forwarding

end Action

namespace Service

/-- Whatever is asked of a service over a backend that fails as it pleases. -/
theorem Reachable.failures_surface {service : Service} (reachable : service.Reachable) {outage : Outage}
    (backend : outage.OnlyBackend) (task : Task) :
    Surfaces (task.Strands outage) service.state (service.run task.action outage).1
      (service.run task.action outage).2.state := by
  let context : Context := { settings := service.settings, outage }
  have backend : context.outage.OnlyBackend := backend
  have surfaced : Surfaced (task.Strands outage) context service.state task.action := by
    cases task with
    | operation operation => exact surfaced_operation backend reachable.sound operation
    | query query => exact (forwards_query backend query).surfaced service.state
  exact surfaced rfl

/-- Ann's role is replaced while no edge can be written, not even the one that is to be put back. -/
theorem failures_surface_from_replacement :
    let ann : Record := ⟨⟨0⟩, "Ann"⟩
    let clerk : Record := ⟨⟨1⟩, "clerk"⟩
    let judge : Record := ⟨⟨2⟩, "judge"⟩
    let service := (⟨{ model := .turbine }, {}⟩ : Service).performAll
      [.addUser "Ann" "pw", .add .role "clerk", .add .role "judge", .globalGroup,
        .grant .turbine (.userGroupRole ann ⟨⟨3⟩, "global"⟩ clerk) rfl]
    let outage : Outage := fun _ _ request =>
      match request with
      | .insertEdge (.userGroupRole _ _ role) => some (.fail (.backend (if role = judge.id then "lost" else "gone")))
      | _ => none
    let task : Task := .operation (.replaceRole ann clerk judge)
    (service.run task.action outage).1 = .error (.backend "gone") ∧
      (service.run task.action outage).2.state.disrupted = [.backend "lost", .backend "gone"] ∧
      Surfaces (task.Strands outage) service.state (service.run task.action outage).1
        (service.run task.action outage).2.state := by
  intro ann clerk judge service outage task
  have started : Service.start { model := .turbine } {} = .ok ⟨{ model := .turbine }, {}⟩ := rfl
  have reachable : service.Reachable := (Reachable.start 0 0 0 ⟨0⟩ started).performAll _
  have backend : outage.OnlyBackend := by
    intro number store request disruption met
    simp only [outage] at met
    split at met
    · exact ⟨_, (Option.some.inj met).symm⟩
    · cases met
  exact ⟨by decide +kernel, by decide +kernel, Reachable.failures_surface reachable backend task⟩

end Service

end Entitlement
