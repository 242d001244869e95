import Entitlement.Proofs.Action.Matching
import Entitlement.Proofs.Service.Graph

/-!
Credentials play no part in the authorization core. Two services with the same graph, whatever passwords and
logins they know of, load the same entities, build the same lists, and come to the same with every change of
the graph, after which they have the same graph again.
-/

namespace Entitlement

open Entitlement.Action

/-! ### Tasks -/

/-- What the core of a service is asked for. -/
inductive CoreTask where
  | named (kind : Kind) (name : String)
  | withId (kind : Kind) (id : EntityId)
  | all (kind : Kind)
  | buildFor (model : Model) (globalGroup : String) (user : User)
  /-- The list of a user that is loaded for it. -/
  | listFor (model : Model) (globalGroup name : String)
  | add (kind : Kind) (name : String)
  | addUser (name password : String)
  | rename (entity : Handle) (name : String)
  | remove (entity : Handle)
  | grant (manager : Model) (edge : Edge Record) (known : edge.relation.belongsTo manager)
  | revoke (manager : Model) (edge : Edge Record) (known : edge.relation.belongsTo manager)
  | withdraw (delegator delegatee : Record)
  | revokeAll (entity : Endpoint)
  | globalGroup
  | replaceRole (user old new : Record)
  | applySeed (seed : Seed)

inductive CoreAnswer where
  | entity (held : Handle)
  | entities (held : List Handle)
  | acl (acl : Acl)
  | record (record : Record)
  | flag (answer : Bool)
  | count (answer : Nat)
  | applied (summary : SeedSummary)
  | done

namespace Handle

def bare : Handle → Handle
  | user held => user held.bare
  | held => held

def json : Handle → Json
  | user held => held.json
  | group held => held.json
  | role held => held.json
  | permission held => held.json

/-- A user as if it had never logged in. -/
def withoutLogin : Handle → Handle
  | user held => user { held with lastLogin := none }
  | held => held

/-- The password is no part of the JSON. -/
theorem json_bare (held : Handle) : held.bare.withoutLogin.json = held.withoutLogin.json := by
  cases held <;> rfl

end Handle

namespace CoreAnswer

/-- The answer without any user's credentials. -/
def bare : CoreAnswer → CoreAnswer
  | entity held => entity held.bare
  | entities held => entities (held.map Handle.bare)
  | answer => answer

/-- The JSON of the entities in the answer, as if no user had ever logged in. -/
def json : CoreAnswer → List Json
  | entity held => [held.withoutLogin.json]
  | entities held => held.map fun held => held.withoutLogin.json
  | _ => []

theorem json_bare (answer : CoreAnswer) : answer.bare.json = answer.json := by
  cases answer with
  | entity held => exact congrArg ([·]) held.json_bare
  | entities held =>
    simp only [bare, json, List.map_map]
    exact List.map_congr_left fun held _ => held.json_bare
  | _ => rfl

end CoreAnswer

/-- What is done for every type of entity, done for the one of this kind. -/
def Kind.hold (act : (E : Type) → [Entity E] → Action E) : Kind → Action Handle
  | .user => Handle.user <$> act User
  | .group => Handle.group <$> act Group
  | .role => Handle.role <$> act Role
  | .permission => Handle.permission <$> act Permission

theorem buildFor_bare (model : Model) (globalGroup : String) (user : User) :
    Acl.buildFor model globalGroup user.bare = Acl.buildFor model globalGroup user := by
  cases model <;> rfl

namespace CoreTask

/-- The task without the credentials of a user that is handed over. -/
def bare : CoreTask → CoreTask
  | buildFor model group user => buildFor model group user.bare
  | rename entity name => rename entity.bare name
  | remove entity => remove entity.bare
  | task => task

def action : CoreTask → Action CoreAnswer
  | named kind name => .entity <$> kind.hold fun _ => Entity.named name
  | withId kind id => .entity <$> kind.hold fun _ => Entity.withId id
  | all .user => (fun roster => .entities (roster.toList.map .user)) <$> Entity.all User
  | all .group => (fun roster => .entities (roster.toList.map .group)) <$> Entity.all Group
  | all .role => (fun roster => .entities (roster.toList.map .role)) <$> Entity.all Role
  | all .permission => (fun roster => .entities (roster.toList.map .permission)) <$> Entity.all Permission
  | buildFor model group user => .acl <$> Acl.buildFor model group user
  | listFor model group name => do return .acl (← Acl.buildFor model group (← Entity.named name))
  | add kind name => .entity <$> kind.hold fun _ => Entity.add name
  | addUser name password => (fun user => .entity (.user user)) <$> User.addWithPassword name password
  | rename (.user held) name => (fun held => .entity (.user held)) <$> Entity.rename held name
  | rename (.group held) name => (fun held => .entity (.group held)) <$> Entity.rename held name
  | rename (.role held) name => (fun held => .entity (.role held)) <$> Entity.rename held name
  | rename (.permission held) name => (fun held => .entity (.permission held)) <$> Entity.rename held name
  | remove (.user held) => .count <$> Entity.remove held
  | remove (.group held) => .count <$> Entity.remove held
  | remove (.role held) => .count <$> Entity.remove held
  | remove (.permission held) => .count <$> Entity.remove held
  | grant manager edge _ => requireModel manager >>= fun _ => .flag <$> Entitlement.grant edge
  | revoke manager edge _ => requireModel manager >>= fun _ => .flag <$> Entitlement.revoke edge
  | withdraw delegator delegatee =>
    requireModel .dynamic >>= fun _ => (fun _ => .done) <$> Entitlement.withdraw (.delegation delegator delegatee)
  | revokeAll entity => .count <$> Entitlement.revokeAll entity
  | globalGroup => requireModel .turbine >>= fun _ => .record <$> Entitlement.globalGroup
  | replaceRole user old new =>
    requireModel .turbine >>= fun _ => (fun _ => .done) <$> Entitlement.replaceRole user old new
  | applySeed seed => .applied <$> seed.apply

/-- Nothing looks at the credentials of a user that is handed over. -/
theorem action_bare (task : CoreTask) : task.bare.action = task.action := by
  cases task with
  | buildFor model group user => exact congrArg (CoreAnswer.acl <$> ·) (buildFor_bare model group user)
  | rename entity name | remove entity => cases entity <;> rfl
  | _ => rfl

end CoreTask

/-! ### Blind tasks -/

namespace Action

variable {settings : Settings}

theorem matches_requireModel {α : Type} {related : α → α → Prop} {model : Model} {next : Unit → Action α}
    (rest : settings.model = model → Matches settings related (next ()) (next ())) :
    Matches settings related (requireModel model >>= next) (requireModel model >>= next) := by
  have composes := compositional_blind settings
  by_cases same : settings.model = model
  · exact Blind.matches_bind (composes.requireModel model) fun _ => rest same
  · intro left right mirrors
    have refused (state : State) : (requireModel model >>= next).run { settings } state =
        (.error (.wrongModel model settings.model), state) := by
      simp [requireModel, run_bind, same]
    rw [refused, refused]
    exact .failed mirrors

theorem blind_insertEdge {edge : Edge Record} (belongs : edge.relation.belongsTo settings.model) :
    Blind settings (ask (.insertEdge edge.ids)) := by
  have admissible : (Request.insertEdge edge.ids).Admissible settings.model := by
    rwa [Request.Admissible, Edge.ids_relation]
  exact blind_ask admissible trivial

theorem blind_replaceRole (turbine : settings.model = .turbine) (user old new : Record) :
    Blind settings (replaceRole user old new) := by
  have composes := compositional_blind settings
  have inserts (group role : Record) : Blind settings (ask (.insertEdge (Edge.userGroupRole user group role).ids)) :=
    blind_insertEdge (by rw [turbine]; rfl)
  -- A failed replacement is blind as well.
  have exchanges (group : Record) (wasThere : Bool) :
      Blind settings (tryCatch (ask (.insertEdge (Edge.userGroupRole user group new).ids)) fun e => do
        if wasThere then discard <| ask (.insertEdge (Edge.userGroupRole user group old).ids)
        throw e) := by
    refine Matches.rescue (inserts group new) fun e => ?_
    cases wasThere with
    | true => exact composes.bind (composes.map (inserts group old)) fun _ => composes.throw e
    | false => exact composes.throw e
  have founds : Blind settings globalGroup := composes.globalGroup (blind_findNamed .group) (blind_create .group)
  refine composes.bind founds fun group => composes.bind (composes.requireEndpoints blind_find _) fun _ => ?_
  refine composes.bind (composes.requireStored blind_find _ _) fun _ => ?_
  refine composes.bind (blind_eraseEdge _) fun wasThere => composes.bind (exchanges group wasThere) fun isNew => ?_
  exact composes.bind (composes.report _) fun _ => composes.report _

theorem blind_endpointRecord (kind : Kind) (name : String) : Blind settings (Seed.endpointRecord kind name) := by
  have composes := compositional_blind settings
  cases kind with
  | user =>
    refine (matches_named matches_loadUser name).bind fun user other same => ?_
    obtain ⟨_, _, rfl⟩ := User.bare_eq_iff.mp same
    exact matches_pure rfl
  | group => exact composes.bind (matches_named blind_loadGroup name) fun _ => composes.pure _
  | role => exact composes.bind (matches_named blind_loadRole name) fun _ => composes.pure _
  | permission => exact composes.bind (matches_named blind_loadPermission name) fun _ => composes.pure _

theorem blind_ensure {E : Type} [Entity E] {related : E → E → Prop} {add : Action E}
    (loads : ∀ record : Record, Matches settings related (Entity.load record) (Entity.load record))
    (adds : Matches settings related add add) (name : String) (count : Nat) :
    Blind settings (Seed.ensure E add count name) := by
  have finds : Blind settings (discard (Entity.named name : Action E)) := (matches_named loads name).map fun _ _ _ => rfl
  have added : Blind settings (discard add) := adds.map fun _ _ _ => rfl
  exact (compositional_blind settings).ensure blind_findNamed finds added count

theorem blind_applySeed (seed : Seed) : Blind settings seed.apply := by
  have composes := compositional_blind settings
  have founds : Blind settings globalGroup := composes.globalGroup (blind_findNamed .group) (blind_create .group)
  refine composes.applySeed blind_endpointRecord founds blind_findNamed ?_ fun edge belongs => ?_
  · apply composes.addEntities
    · exact fun name password => blind_ensure matches_loadUser (matches_addWithPassword name password) name
    · exact fun name => blind_ensure blind_loadGroup (matches_add blind_loadGroup name) name
    · exact fun name => blind_ensure blind_loadRole (matches_add blind_loadRole name) name
    · exact fun name => blind_ensure blind_loadPermission (matches_add blind_loadPermission name) name
  · exact composes.grant blind_find (blind_insertEdge belongs)

theorem matches_hold {act : (E : Type) → [Entity E] → Action E} (kind : Kind)
    (acts : ∀ (E : Type) [Entity E] (related : E → E → Prop),
      (∀ record : Record, Matches settings related (Entity.load record) (Entity.load record)) →
        Matches settings related (act E) (act E)) :
    Matches settings (fun held other => held.bare = other.bare) (kind.hold act) (kind.hold act) := by
  cases kind with
  | user => exact (acts User SameUser matches_loadUser).map fun _ _ same => congrArg Handle.user same
  | group => exact (acts Group Eq blind_loadGroup).map fun _ _ same => congrArg (Handle.bare ∘ Handle.group) same
  | role => exact (acts Role Eq blind_loadRole).map fun _ _ same => congrArg (Handle.bare ∘ Handle.role) same
  | permission =>
    exact (acts Permission Eq blind_loadPermission).map fun _ _ same => congrArg (Handle.bare ∘ Handle.permission) same

theorem blind_all {E : Type} [Entity E] (loads : ∀ record : Record, Blind settings (Entity.load record : Action E)) :
    Matches settings (fun a b => a.toList = b.toList) (Entity.all E) (Entity.all E) := by
  have all : Matches settings (fun a b => a.toList.map id = b.toList.map id) (Entity.all E) (Entity.all E) :=
    matches_all (fun a b same => congrArg Named.record same) loads
  exact all.mono fun a b same => by rwa [List.map_id, List.map_id] at same

abbrev SameAnswer (answer other : CoreAnswer) : Prop := answer.bare = other.bare

theorem matches_task (task : CoreTask) : Matches settings SameAnswer task.action task.action := by
  have composes := compositional_blind settings
  have blind {α : Type} {action : Action α} {f : α → CoreAnswer} (runs : Blind settings action) :
      Matches settings SameAnswer (f <$> action) (f <$> action) :=
    Matches.map runs fun _ _ same => congrArg (CoreAnswer.bare ∘ f) same
  have holds {action : Action Handle} (runs : Matches settings (fun held other => held.bare = other.bare) action action) :
      Matches settings SameAnswer (.entity <$> action) (.entity <$> action) :=
    runs.map fun _ _ same => congrArg CoreAnswer.entity same
  cases task with
  | named kind name => exact holds (matches_hold kind fun _ _ _ loads => matches_named loads name)
  | withId kind id => exact holds (matches_hold kind fun _ _ _ loads => matches_withId loads id)
  | add kind name => exact holds (matches_hold kind fun _ _ _ loads => matches_add loads name)
  | all kind =>
    cases kind with
    | user =>
      refine (matches_all ?_ matches_loadUser).map fun a b same => ?_
      · intro user other same
        obtain ⟨_, _, rfl⟩ := User.bare_eq_iff.mp same
        rfl
      · have handles (users : List User) :
            (users.map Handle.user).map Handle.bare = (users.map User.bare).map Handle.user := by
          rw [List.map_map, List.map_map]
          rfl
        simp only [SameAnswer, CoreAnswer.bare, handles, same]
    | group => exact (blind_all blind_loadGroup).map fun a b same => by rw [SameAnswer, same]
    | role => exact (blind_all blind_loadRole).map fun a b same => by rw [SameAnswer, same]
    | permission => exact (blind_all blind_loadPermission).map fun a b same => by rw [SameAnswer, same]
  | buildFor model group user => exact blind (blind_buildFor model group user)
  | listFor model group name =>
    refine (matches_named matches_loadUser name).bind fun user other same => ?_
    have bare : Acl.buildFor model group user = Acl.buildFor model group other := by
      rw [← buildFor_bare model group user, ← buildFor_bare model group other, same]
    rw [bare]
    exact (blind_buildFor model group other).matches_bind fun _ => matches_pure rfl
  | addUser name password =>
    exact (matches_addWithPassword name password).map fun _ _ same => congrArg (CoreAnswer.entity ∘ Handle.user) same
  | rename entity name =>
    cases entity with
    | user held =>
      exact (matches_rename matches_loadUser held name).map fun _ _ same => congrArg (CoreAnswer.entity ∘ Handle.user) same
    | group held => exact blind (matches_rename blind_loadGroup held name)
    | role held => exact blind (matches_rename blind_loadRole held name)
    | permission held => exact blind (matches_rename blind_loadPermission held name)
  | remove entity =>
    cases entity with
    | user | group | role | permission =>
      exact blind (composes.remove blind_find blind_edgesOf blind_eraseEdge (blind_ask trivial trivial))
  | grant manager edge known =>
    refine matches_requireModel fun same => ?_
    subst same
    exact blind (composes.grant blind_find (blind_insertEdge known))
  | revoke manager edge known => exact matches_requireModel fun _ => blind (composes.revoke blind_find (blind_eraseEdge _))
  | withdraw delegator delegatee =>
    exact matches_requireModel fun _ => blind (composes.withdraw blind_find (blind_eraseEdge _))
  | revokeAll entity => exact blind (composes.revokeAll blind_find blind_edgesOf blind_eraseEdge entity)
  | globalGroup =>
    exact matches_requireModel fun _ => blind (composes.globalGroup (blind_findNamed .group) (blind_create .group))
  | replaceRole user old new => exact matches_requireModel fun same => blind (blind_replaceRole same user old new)
  | applySeed seed => exact blind (blind_applySeed seed)

end Action

namespace Service

/-- The service with the identities from a number on still to be drawn. -/
def drawing (service : Service) (next : Nat) : Service :=
  { service with state := { service.state with store := { service.state.store with nextId := next } } }

/-- Two runs come to the same up to credentials, and so do the graphs that they leave. -/
structure SameCore (left right : Except Error CoreAnswer × Service) : Prop where
  answers : left.1.map CoreAnswer.bare = right.1.map CoreAnswer.bare
  json : left.1.map CoreAnswer.json = right.1.map CoreAnswer.json
  tables : ∀ kind, (left.2.state.store.table kind).toList = (right.2.state.store.table kind).toList
  edges : left.2.state.store.edges.toList = right.2.state.store.edges.toList

theorem sameCore_of_matches {left right : Service} (configured : left.settings = right.settings)
    (mirrors : left.state.store.Mirrors left.settings.model right.state.store) {action : Action CoreAnswer}
    (runs : Action.Matches left.settings Action.SameAnswer action action) :
    SameCore (left.run action) (right.run action) := by
  unfold run
  rw [← configured]
  obtain ⟨e, later, later', ran, ran', mirrors⟩ | ⟨answer, answer', later, later', ran, ran', held, mirrors⟩ :=
    (runs left.state right.state mirrors).results
  all_goals rw [ran, ran']
  · exact ⟨rfl, rfl, mirrors.tables, mirrors.edges⟩
  · have json : answer.json = answer'.json := by rw [← answer.json_bare, held, answer'.json_bare]
    exact ⟨congrArg Except.ok held, congrArg Except.ok json, mirrors.tables, mirrors.edges⟩

/-- Whatever the credentials in two services with the same settings and the same graph are, and whichever
identities both draw that neither has used. -/
theorem Reachable.core_blind {left right : Service} (reachable : left.Reachable) (reachable' : right.Reachable)
    (configured : left.settings = right.settings)
    (tables : ∀ kind, (left.state.store.table kind).toList = (right.state.store.table kind).toList)
    (edges : left.state.store.edges.toList = right.state.store.edges.toList) {next : Nat}
    (unused : left.state.store.nextId ≤ next) (unused' : right.state.store.nextId ≤ next) {task task' : CoreTask}
    (same : task.bare = task'.bare) :
    SameCore ((left.drawing next).run task.action) ((right.drawing next).run task'.action) := by
  have actions : task.action = task'.action := by rw [← task.action_bare, same, task'.action_bare]
  have sound' := reachable'.sound
  rw [← configured] at sound'
  have mirrors : (left.drawing next).state.store.Mirrors left.settings.model (right.drawing next).state.store := by
    refine ⟨reachable.sound.draw unused, sound'.draw unused', fun kind => ?_, edges, rfl⟩
    have listed := tables kind
    cases kind <;> exact listed
  have configured : (left.drawing next).settings = (right.drawing next).settings := configured
  rw [actions]
  exact sameCore_of_matches configured mirrors (Action.matches_task task')

/-- Ann has another password in each service, and has logged in to one of them only. -/
theorem core_blind_to_login :
    let ann : Record := ⟨⟨0⟩, "Ann"⟩
    let clerk : Record := ⟨⟨1⟩, "clerk"⟩
    let left := (⟨{}, {}⟩ : Service).performAll
      [.addUser "Ann" "pw", .add .role "clerk", .grant .dynamic (.userRole ann clerk) rfl]
    let right := (⟨{}, {}⟩ : Service).performAll
      [.addUser "Ann" "word", .add .role "clerk", .enter "Ann" "word", .grant .dynamic (.userRole ann clerk) rfl]
    left.state.store.credentials[ann.id]? ≠ right.state.store.credentials[ann.id]? ∧
      SameCore ((left.drawing 2).run (CoreTask.listFor .dynamic "staff" "Ann").action)
        ((right.drawing 2).run (CoreTask.listFor .dynamic "staff" "Ann").action) := by
  intro ann clerk left right
  have started : Service.start {} {} = .ok ⟨{}, {}⟩ := rfl
  have reachable : left.Reachable := (Reachable.start 0 0 0 ⟨0⟩ started).performAll _
  have reachable' : right.Reachable := (Reachable.start 0 0 0 ⟨0⟩ started).performAll _
  have tables (kind : Kind) : (left.state.store.table kind).toList = (right.state.store.table kind).toList := by
    cases kind <;> decide +kernel
  have edges : left.state.store.edges.toList = right.state.store.edges.toList := by decide +kernel
  have unused : left.state.store.nextId ≤ 2 := by decide +kernel
  have unused' : right.state.store.nextId ≤ 2 := by decide +kernel
  have configured : left.settings = right.settings := by
    rw [settings_performAll, settings_performAll]
  refine ⟨by decide +kernel, ?_⟩
  exact Reachable.core_blind reachable reachable' configured tables edges unused unused' rfl

end Service

end Entitlement
