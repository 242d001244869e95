import Entitlement.Proofs.Acl.SameAnswers
import Entitlement.Proofs.Granting.Atomicity
import Mathlib.Data.List.Induction

/-!
Calls to grant and to revoke edges between stored entities. For every edge only the last call on it counts:
the graph and the answers of all lists are the same whatever calls came before, and in whatever order the
calls on different edges came.
-/

namespace Entitlement

open Entitlement.Action

/-- The manager of a model is called to grant an edge or to revoke it. -/
structure Call where
  manager : Model
  edge : Edge EntityId
  grants : Bool
deriving DecidableEq

def Operation.call? : Operation → Option Call
  | grant manager edge _ => some ⟨manager, edge.ids, true⟩
  | revoke manager edge _ => some ⟨manager, edge.ids, false⟩
  | withdraw delegator delegatee => some ⟨.dynamic, .delegation delegator.id delegatee.id, false⟩
  | add .. | addUser .. | rename .. | remove _ | enter .. | changePassword .. | forcePassword .. | anonymous |
    revokeAll _ | globalGroup | replaceRole .. | login .. | logout _ | refresh _ | invalidate _ | buildAcl _ |
    applySeed _ => none

/-- Whether the last call on the edge grants it, if there is one. -/
def lastCall? (operations : List Operation) (edge : Edge EntityId) : Option Bool :=
  ((operations.filterMap Operation.call?).filter (·.edge = edge)).getLast?.map Call.grants

theorem lastCall?_snoc {operation : Operation} {call : Call} (called : operation.call? = some call)
    (operations : List Operation) (edge : Edge EntityId) :
    lastCall? (operations ++ [operation]) edge =
      if call.edge = edge then some call.grants else lastCall? operations edge := by
  simp only [lastCall?, List.filterMap_append, List.filterMap_cons_some called, List.filterMap_nil,
    List.filter_append]
  by_cases same : call.edge = edge
  · simp [same]
  · simp [same]

theorem lastCall?_pair {one another : Operation} {call call' : Call} (called : one.call? = some call)
    (called' : another.call? = some call') (edge : Edge EntityId) : lastCall? [one, another] edge =
      if call'.edge = edge then some call'.grants else if call.edge = edge then some call.grants else none := by
  have first := lastCall?_snoc called [] edge
  have both := lastCall?_snoc called' [one] edge
  rw [List.nil_append] at first
  rw [List.singleton_append, first] at both
  exact both

namespace Store

/-- What a call does to the store. -/
inductive Obeys (store : Store) : Call → Store → Prop where
  | granted {manager : Model} {edge : Edge EntityId} {isNew : Bool} {later : Store}
    (inserts : store.Inserts edge isNew later) : Obeys store ⟨manager, edge, true⟩ later
  | revoked {manager : Model} {edge : Edge EntityId} {wasThere : Bool} {later : Store}
    (erases : store.Erases edge wasThere later) : Obeys store ⟨manager, edge, false⟩ later

namespace Obeys

variable {store later last : Store} {call : Call} (obeys : store.Obeys call later)
include obeys

theorem table (kind : Kind) : later.table kind = store.table kind := by
  cases obeys with
  | granted inserts => exact inserts.table kind
  | revoked erases => exact erases.table kind

theorem credentials : later.credentials = store.credentials := by
  cases obeys with
  | granted inserts => exact inserts.credentials
  | revoked erases => exact erases.credentials

theorem mem_edges (edge : Edge EntityId) : edge ∈ later.edges.toList ↔
    if call.edge = edge then call.grants = true else edge ∈ store.edges.toList := by
  cases obeys with
  | granted inserts => grind [inserts.mem_edges edge]
  | revoked erases => grind [erases.mem_edges edge]

/-- There is nothing left to do for the same call again. -/
theorem again (repeated : later.Obeys call last) : last = later := by
  have there := obeys.mem_edges call.edge
  rw [if_pos rfl] at there
  cases repeated with
  | granted inserts =>
    cases inserts with
    | present _ => rfl
    | added absent _ => exact absurd (there.mpr rfl) absent
  | revoked erases =>
    cases erases with
    | absent _ => rfl
    | removed still _ => cases there.mp still

end Obeys

/-- What some calls have made of the store. -/
structure After (store : Store) (operations : List Operation) (later : Store) : Prop where
  tables : ∀ kind, later.table kind = store.table kind
  credentials : later.credentials = store.credentials
  edges : ∀ edge, edge ∈ later.edges.toList ↔
    lastCall? operations edge = some true ∨ lastCall? operations edge = none ∧ edge ∈ store.edges.toList

variable {store later last : Store} {operations : List Operation} {operation : Operation} {call : Call}

theorem After.start (store : Store) : store.After [] store :=
  ⟨fun _ => rfl, rfl, fun edge => by simp [lastCall?]⟩

theorem After.snoc (after : store.After operations later) (called : operation.call? = some call)
    (obeys : later.Obeys call last) : store.After (operations ++ [operation]) last where
  tables kind := (obeys.table kind).trans (after.tables kind)
  credentials := obeys.credentials.trans after.credentials
  edges edge := by
    rw [obeys.mem_edges, lastCall?_snoc called, after.edges]
    split <;> simp

theorem After.sameGraph {operations' : List Operation} {later' : Store} (after : store.After operations later)
    (after' : store.After operations' later') (same : ∀ edge, lastCall? operations edge = lastCall? operations' edge) :
    later.SameGraph later' where
  tables kind := (after.tables kind).trans (after'.tables kind).symm
  edges edge := by rw [after.edges, after'.edges, same]

end Store

namespace Service

variable {service other : Service} {operation : Operation} {call : Call}

/-- The call is for the manager of the active model, and the endpoints of the edge are stored. -/
def Accepts (service : Service) (call : Call) : Prop :=
  call.manager = service.settings.model ∧
    ∀ end' ∈ call.edge.endpoints, end'.2 ∈ (service.state.store.table end'.1).ids

instance (service : Service) (call : Call) : Decidable (service.Accepts call) :=
  inferInstanceAs (Decidable (_ ∧ _))

/-- The operation is a call that is accepted. -/
def Takes (service : Service) (operation : Operation) : Prop := ∃ call ∈ operation.call?, service.Accepts call

instance (service : Service) (operation : Operation) : Decidable (service.Takes operation) :=
  inferInstanceAs (Decidable (∃ call ∈ operation.call?, service.Accepts call))

/-- The same graph, and lists that answer alike for every stored user. -/
structure Alike (service other : Service) : Prop where
  graph : service.state.store.SameGraph other.state.store
  credentials : service.state.store.credentials = other.state.store.credentials
  lists : ∀ record ∈ service.state.store.users.toList,
    service.Builds record fun a => other.Builds record fun b => a.SameAnswers b

/-! ### One call -/

theorem leaves_requireModel {settings : Settings} {model : Model} (active : model = settings.model) (store : Store) :
    Leaves { settings } store (requireModel model) fun result later => result = .ok () ∧ later = store := by
  refine leaves_settings.bind_eq ?_
  rw [if_neg (not_not_intro active.symm)]
  exact leaves_pure ⟨rfl, rfl⟩

section Call

variable {settings : Settings} {model : Model} {store : Store} (sound : store.Sound model) {edge : Edge Record}
include sound

theorem leaves_revoke (known : store.stranger? edge.endpoints = none) :
    Leaves { settings } store (revoke edge) fun result later =>
      ∃ wasThere, result = .ok wasThere ∧ store.Erases edge.ids wasThere later :=
  (atomic_revoke sound Outage.never_onlyFails edge).leaves.mono fun _ _ revokes => revokes.of_known known

theorem leaves_withdraw (known : store.stranger? edge.endpoints = none) :
    Leaves { settings } store (withdraw edge) fun _ later => ∃ wasThere, store.Erases edge.ids wasThere later := by
  apply (atomic_withdraw sound Outage.never_onlyFails edge).leaves.mono
  intro result later revokes
  obtain ⟨wasThere, -, erases⟩ := revokes.of_known known
  exact ⟨wasThere, erases⟩

end Call

theorem Accepts.leaves (accepts : service.Accepts call) (called : operation.call? = some call)
    (sound : service.state.store.Sound service.settings.model) :
    Leaves { settings := service.settings } service.state.store operation.action fun _ later =>
      service.state.store.Obeys call later := by
  obtain ⟨active, stored⟩ := accepts
  cases operation with
  | grant manager edge known =>
    cases called
    refine (leaves_requireModel active _).bind_eq ?_
    have belongs : edge.relation.belongsTo service.settings.model := active ▸ known
    apply (leaves_grant sound (Store.stranger?_of_stored stored) belongs).map.mono
    rintro _ later ⟨_, -, isNew, -, inserts, -⟩
    exact .granted inserts
  | revoke manager edge known =>
    cases called
    refine (leaves_requireModel active _).bind_eq ?_
    apply (leaves_revoke sound (Store.stranger?_of_stored stored)).map.mono
    rintro _ later ⟨_, -, wasThere, -, erases⟩
    exact .revoked erases
  | withdraw delegator delegatee =>
    cases called
    refine (leaves_requireModel active _).bind_eq ?_
    let edge : Edge Record := .delegation delegator delegatee
    have known : service.state.store.stranger? edge.endpoints = none := Store.stranger?_of_stored stored
    apply (leaves_withdraw sound known).mono
    rintro _ later ⟨wasThere, erases⟩
    exact .revoked erases
  | add | addUser | rename | remove | enter | changePassword | forcePassword | anonymous | revokeAll | globalGroup |
    replaceRole | login | logout | refresh | invalidate | buildAcl | applySeed => cases called

theorem Accepts.obeys (accepts : service.Accepts call) (called : operation.call? = some call)
    (sound : service.state.store.Sound service.settings.model) :
    service.state.store.Obeys call (service.perform operation).state.store :=
  (accepts.leaves called sound service.state rfl).2

/-- A call is accepted as long as the tables and the model stay. -/
theorem Accepts.mono (accepts : service.Accepts call) (settings : other.settings = service.settings)
    (tables : ∀ kind, other.state.store.table kind = service.state.store.table kind) : other.Accepts call := by
  refine ⟨by rw [settings, accepts.1], fun end' mem => ?_⟩
  rw [tables]
  exact accepts.2 end' mem

/-! ### Many calls -/

theorem Reachable.after (reachable : service.Reachable) {operations : List Operation}
    (calls : ∀ operation ∈ operations, service.Takes operation) :
    service.state.store.After operations (service.performAll operations).state.store := by
  induction operations using List.reverseRecOn with
  | nil => exact .start _
  | append_singleton operations operation ih =>
    obtain ⟨before, last⟩ := List.forall_mem_append.mp calls
    obtain ⟨call, called, accepts⟩ := last operation (List.mem_singleton_self operation)
    have after := ih before
    have still := accepts.mono (settings_performAll service operations) after.tables
    rw [performAll_snoc]
    exact after.snoc called (still.obeys called (reachable.performAll operations).sound)

theorem Reachable.alike (reachable : service.Reachable) (reachable' : other.Reachable)
    (settings : service.settings = other.settings) (graph : service.state.store.SameGraph other.state.store)
    (credentials : service.state.store.credentials = other.state.store.credentials) : service.Alike other := by
  refine ⟨graph, credentials, fun record stored => ?_⟩
  have users : service.state.store.users = other.state.store.users := graph.tables .user
  have stored' : record ∈ other.state.store.users.toList := by rwa [← users]
  refine reachable.builds stored fun user same current => ?_
  refine (reachable.sound.answers_buildAcl current).mono fun a tells => ?_
  refine reachable'.builds stored' fun user' same' current' => ?_
  refine (reachable'.sound.answers_buildAcl current').mono fun b tells' => ?_
  have same_id : user'.id = user.id := congrArg Record.id (same'.trans same.symm)
  rw [same_id, ← settings] at tells'
  exact (tells.congr graph).sameAnswers tells' reachable'.sound.tables reachable.globalGroup_visible

theorem Reachable.alike_performAll (reachable : service.Reachable) {first second : List Operation}
    (calls : ∀ operation ∈ first, service.Takes operation) (calls' : ∀ operation ∈ second, service.Takes operation)
    (same : ∀ edge, lastCall? first edge = lastCall? second edge) :
    (service.performAll first).Alike (service.performAll second) := by
  have after := reachable.after calls
  have after' := reachable.after calls'
  refine (reachable.performAll first).alike (reachable.performAll second) (by simp) (after.sameGraph after' same) ?_
  rw [after.credentials, after'.credentials]

section Two

variable {one another : Operation} {call' : Call} (reachable : service.Reachable) (takes : service.Takes one)
  (takes' : service.Takes another)
include takes takes'

theorem forall_takes_pair : ∀ operation ∈ [one, another], service.Takes operation := by
  simpa using ⟨takes, takes'⟩

include reachable

theorem alike_undone {manager manager' : Model} {edge : Edge EntityId} (grants : one.call? = some ⟨manager, edge, true⟩)
    (revokes : another.call? = some ⟨manager', edge, false⟩) (absent : edge ∉ service.state.store.edges.toList) :
    (service.performAll [one, another]).Alike service := by
  have after := reachable.after (forall_takes_pair takes takes')
  refine (reachable.performAll _).alike reachable (by simp) ⟨after.tables, fun other => ?_⟩ after.credentials
  rw [after.edges, lastCall?_pair grants revokes]
  by_cases same : edge = other
  · subst same
    simp [absent]
  · simp [same]

theorem alike_swapped (called : one.call? = some call) (called' : another.call? = some call')
    (apart : call.edge ≠ call'.edge) :
    (service.performAll [one, another]).Alike (service.performAll [another, one]) := by
  refine reachable.alike_performAll (forall_takes_pair takes takes') (forall_takes_pair takes' takes) fun edge => ?_
  rw [lastCall?_pair called called', lastCall?_pair called' called]
  by_cases same : call.edge = edge
  · have other : call'.edge ≠ edge := same ▸ apart.symm
    simp [same, other]
  · simp [same]

end Two

theorem Reachable.store_repeated (reachable : service.Reachable) (takes : service.Takes operation) :
    ((service.perform operation).perform operation).state.store = (service.perform operation).state.store := by
  obtain ⟨call, called, accepts⟩ := takes
  have obeys := accepts.obeys called reachable.sound
  have still := accepts.mono (settings_perform service operation Outage.never) obeys.table
  exact obeys.again (still.obeys called (reachable.step operation Outage.never).sound)

/-- Of the calls on an edge only the last one counts. To grant an edge that is not there and then revoke it
changes no answer, to repeat a call changes nothing, and calls on different edges may change places. -/
theorem Reachable.last_calls_decide (reachable : service.Reachable) :
    (∀ first second : List Operation, (∀ operation ∈ first, service.Takes operation) →
      (∀ operation ∈ second, service.Takes operation) → (∀ edge, lastCall? first edge = lastCall? second edge) →
      (service.performAll first).Alike (service.performAll second)) ∧
    (∀ (one another : Operation) (manager manager' : Model) (edge : Edge EntityId), service.Takes one →
      service.Takes another → one.call? = some ⟨manager, edge, true⟩ → another.call? = some ⟨manager', edge, false⟩ →
      edge ∉ service.state.store.edges.toList → (service.performAll [one, another]).Alike service) ∧
    (∀ operation, service.Takes operation →
      ((service.perform operation).perform operation).state.store = (service.perform operation).state.store) ∧
    ∀ (one another : Operation) (call call' : Call), service.Takes one → service.Takes another →
      one.call? = some call → another.call? = some call' → call.edge ≠ call'.edge →
      (service.performAll [one, another]).Alike (service.performAll [another, one]) := by
  refine ⟨?_, ?_, ?_, ?_⟩
  · exact fun _ _ => reachable.alike_performAll
  · exact fun _ _ _ _ _ takes takes' => alike_undone reachable takes takes'
  · exact fun _ => reachable.store_repeated
  · exact fun _ _ _ _ => alike_swapped reachable

/-- Ann's role comes before her group or after it, and a delegation to her is withdrawn in both runs. -/
theorem last_calls_decide_about_ann :
    let ann : Record := ⟨⟨0⟩, "Ann"⟩
    let bob : Record := ⟨⟨1⟩, "Bob"⟩
    let staff : Record := ⟨⟨2⟩, "Staff"⟩
    let clerk : Record := ⟨⟨3⟩, "clerk"⟩
    let service := (⟨{}, {}⟩ : Service).performAll
      [.addUser "Ann" "pw", .addUser "Bob" "pw", .add .group "Staff", .add .role "clerk"]
    let first : List Operation := [.withdraw bob ann, .grant .dynamic (.userRole ann clerk) rfl,
      .grant .dynamic (.userGroup ann staff) rfl]
    let second : List Operation := [.grant .dynamic (.userGroup ann staff) rfl,
      .grant .dynamic (.delegation bob ann) rfl, .grant .dynamic (.userRole ann clerk) rfl, .withdraw bob ann]
    (service.performAll first).state.store.edges.toList = [.userRole ⟨0⟩ ⟨3⟩, .userGroup ⟨0⟩ ⟨2⟩] ∧
      (service.performAll second).state.store.edges.toList = [.userGroup ⟨0⟩ ⟨2⟩, .userRole ⟨0⟩ ⟨3⟩] ∧
      (service.performAll first).Alike (service.performAll second) := by
  intro ann bob staff clerk service first second
  have started : Service.start {} {} = .ok ⟨{}, {}⟩ := rfl
  have reachable : service.Reachable := (Reachable.start 0 0 0 ⟨0⟩ started).performAll _
  have calls : ∀ operation ∈ first, service.Takes operation := by decide +kernel
  have calls' : ∀ operation ∈ second, service.Takes operation := by decide +kernel
  have same : ∀ edge, lastCall? first edge = lastCall? second edge := by
    intro edge
    by_cases group : .userGroup ⟨0⟩ ⟨2⟩ = edge
    · subst group
      rfl
    by_cases role : .userRole ⟨0⟩ ⟨3⟩ = edge
    · subst role
      rfl
    by_cases delegation : .delegation ⟨1⟩ ⟨0⟩ = edge
    · subst delegation
      rfl
    simp [lastCall?, first, second, Operation.call?, Edge.ids, Edge.map, ann, bob, staff, clerk, group, role, delegation]
  exact ⟨by decide +kernel, by decide +kernel, reachable.last_calls_decide.1 first second calls calls' same⟩

end Service

end Entitlement
