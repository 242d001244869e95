import Entitlement.Proofs.Action.Writing
import Entitlement.Proofs.Seed.Checking

/-!
Properties of actions that pass from the parts of an action to the whole. Once such a property is known of
the requests it is known of the operations that are put together from requests, checks and reports.
-/

namespace Entitlement.Action

structure Compositional (settings : Settings) (P : {α : Type} → Action α → Prop) : Prop where
  pure : ∀ {α : Type} (a : α), P (Pure.pure a)
  throw : ∀ {α : Type} (e : Error), P (MonadExcept.throw e : Action α)
  configured : ∀ {α : Type} {next : Settings → Action α}, P (next settings) → P (Action.settings >>= next)
  report : ∀ event : AuditEvent, P (Action.report event)
  bind : ∀ {α β : Type} {action : Action α} {next : α → Action β},
    P action → (∀ a, P (next a)) → P (action >>= next)

namespace Compositional

variable {settings : Settings} {P : {α : Type} → Action α → Prop} (composes : Compositional settings P) {α β : Type}
include composes

theorem map {f : α → β} {action : Action α} (first : P action) : P (f <$> action) := by
  rw [← bind_pure_comp]
  exact composes.bind first fun a => composes.pure (f a)

/-- What follows a check is done only if the check is passed. -/
theorem check {result : Except Error α} {next : α → Action β} (rest : ∀ a, result = .ok a → P (next a)) :
    P (liftM result >>= next) := by
  cases result with
  | error e => exact composes.throw e
  | ok a => exact rest a rfl

theorem throw_bind (e : Error) (next : α → Action β) : P (MonadExcept.throw e >>= next) := composes.throw e

theorem liftExcept (result : Except Error α) : P (liftM result : Action α) := by
  rw [← bind_pure (liftM result)]
  exact composes.check fun a _ => composes.pure a

omit composes in
theorem ite {p : Prop} [Decidable p] {action other : Action α} (first : p → P action) (second : ¬ p → P other) :
    P (if p then action else other) := by
  split
  · exact first ‹_›
  · exact second ‹_›

theorem foldlM {f : β → α → Action β} {list : List α} (step : ∀ b, ∀ a ∈ list, P (f b a)) (b : β) :
    P (list.foldlM f b) := by
  induction list generalizing b with
  | nil => exact composes.pure b
  | cons a list ih =>
    rw [List.foldlM_cons]
    refine composes.bind (step b a List.mem_cons_self) fun next => ?_
    exact ih (fun b a mem => step b a (List.mem_cons_of_mem _ mem)) next

theorem forM {f : α → Action PUnit} {list : List α} (step : ∀ a ∈ list, P (f a)) : P (forM list f) := by
  induction list with
  | nil => exact composes.pure _
  | cons a list ih =>
    rw [List.forM_cons]
    refine composes.bind (step a List.mem_cons_self) fun _ => ?_
    exact ih fun a mem => step a (List.mem_cons_of_mem _ mem)

/-! ### Grants -/

section Grants

theorem requireModel (model : Model) : P (requireModel model) :=
  composes.configured <| ite (fun _ => composes.throw _) fun _ => composes.pure _

variable (finds : ∀ kind id, P (ask (.find kind id)))
include finds

theorem requireStored (kind : Kind) (record : Record) : P (requireStored kind record) :=
  composes.bind (finds kind record.id) fun _ => ite (fun _ => composes.throw _) fun _ => composes.pure _

theorem requireEndpoints (edge : Edge Record) : P (requireEndpoints edge) :=
  composes.forM fun (kind, record) _ => composes.requireStored finds kind record

theorem grant {edge : Edge Record} (inserts : P (ask (.insertEdge edge.ids))) : P (grant edge) := by
  refine composes.bind (composes.requireEndpoints finds edge) fun _ => composes.bind inserts fun isNew => ?_
  exact composes.configured <| composes.bind (composes.report _) fun _ => composes.pure _

theorem revoke {edge : Edge Record} (erases : P (ask (.eraseEdge edge.ids))) : P (revoke edge) := by
  refine composes.bind (composes.requireEndpoints finds edge) fun _ => composes.bind erases fun wasThere => ?_
  exact composes.configured <| composes.bind (composes.report _) fun _ => composes.pure _

theorem withdraw {edge : Edge Record} (erases : P (ask (.eraseEdge edge.ids))) : P (withdraw edge) :=
  composes.bind (composes.revoke finds erases) fun _ => ite (fun _ => composes.pure _) fun _ => composes.throw _

omit finds in
theorem eraseGrants (erases : ∀ edge, P (ask (.eraseEdge edge))) (model : Model) (edges : List (Edge EntityId)) :
    P (eraseGrants model edges) :=
  composes.foldlM (fun _ edge _ => ite
    (fun _ => composes.bind (erases edge) fun _ => composes.pure _) fun _ => composes.pure _) 0

theorem revokeAll (edges : ∀ kind id, P (ask (.edgesOf kind id))) (erases : ∀ edge, P (ask (.eraseEdge edge)))
    (entity : Endpoint) : P (revokeAll entity) := by
  refine composes.bind (composes.requireStored finds entity.kind entity.toRecord) fun _ => ?_
  refine composes.bind (edges entity.kind entity.id) fun listed => composes.configured ?_
  refine composes.bind (composes.eraseGrants erases settings.model listed) fun count => ?_
  exact composes.bind (composes.report _) fun _ => composes.pure count

end Grants

theorem globalGroup (names : ∀ name, P (ask (.findNamed .group name)))
    (creates : ∀ name, Text.blank name = false → P (ask (.create .group name))) : P globalGroup := by
  refine composes.configured <| composes.check fun _ visible => ?_
  refine composes.bind (names settings.globalGroup) fun found => ?_
  cases found with
  | some group => exact composes.pure group
  | none =>
    refine composes.bind (creates settings.globalGroup (checkName_eq_ok.mp visible)) fun group => ?_
    exact composes.bind (composes.report _) fun _ => composes.pure group

/-! ### Entities -/

section Entities

variable {E : Type} [Entity E]

theorem existsNamed (names : ∀ kind name, P (ask (.findNamed kind name))) (name : String) :
    P (Entity.existsNamed E name) :=
  composes.bind (names (Entity.kind E) name) fun _ => composes.pure _

theorem existsId (finds : ∀ kind id, P (ask (.find kind id))) (id : EntityId) : P (Entity.existsId E id) :=
  composes.bind (finds (Entity.kind E) id) fun _ => composes.pure _

theorem remove (finds : ∀ kind id, P (ask (.find kind id))) (edges : ∀ kind id, P (ask (.edgesOf kind id)))
    (erases : ∀ edge, P (ask (.eraseEdge edge))) {entity : E}
    (deletes : P (ask (.delete (Entity.kind E) (Entity.id entity)))) : P (Entity.remove entity) := by
  refine composes.bind (composes.revokeAll finds edges erases (Entity.endpoint entity)) fun count => ?_
  exact composes.bind deletes fun _ => composes.bind (composes.report _) fun _ => composes.pure count

variable (loads : ∀ record : Record, P (Entity.load record : Action E))
include loads

theorem named (names : ∀ kind name, P (ask (.findNamed kind name))) (name : String) :
    P (Entity.named name : Action E) := by
  refine composes.bind (names (Entity.kind E) name) fun found => ?_
  cases found with
  | none => exact composes.throw _
  | some record => exact loads record

theorem withId (finds : ∀ kind id, P (ask (.find kind id))) (id : EntityId) : P (Entity.withId id : Action E) := by
  refine composes.bind (finds (Entity.kind E) id) fun found => ?_
  cases found with
  | none => exact composes.throw _
  | some record => exact loads record

theorem all (lists : P (ask (.list (Entity.kind E)))) : P (Entity.all E) :=
  composes.bind lists fun _ => composes.foldlM (fun _ record _ =>
    composes.bind (loads record) fun _ => composes.liftExcept _) _

theorem add (names : ∀ kind name, P (ask (.findNamed kind name))) {name : String}
    (creates : Text.blank name = false → P (ask (.create (Entity.kind E) name))) :
    P (Entity.add name : Action E) := by
  refine composes.check fun _ visible => composes.bind (composes.existsNamed names name) fun taken => ?_
  refine ite (fun _ => composes.throw_bind _ _) fun _ => ?_
  refine composes.bind (creates (checkName_eq_ok.mp visible)) fun record => ?_
  exact composes.bind (composes.report _) fun _ => loads record

theorem rename {entity : E} {name : String}
    (renames : Text.blank name = false → P (ask (.rename (Entity.kind E) (Entity.id entity) name))) :
    P (Entity.rename entity name) := by
  refine composes.check fun _ visible => composes.bind (renames (checkName_eq_ok.mp visible)) fun record => ?_
  exact composes.bind (composes.report _) fun _ => loads record

end Entities

/-! ### Seeds -/

section Seeds

theorem ensure {E : Type} [Entity E] (names : ∀ kind name, P (ask (.findNamed kind name))) {add : Action E}
    {name : String} (found : P (discard (Entity.named name : Action E))) (added : P (discard add)) (count : Nat) :
    P (Seed.ensure E add count name) := by
  refine composes.bind (composes.existsNamed names name) fun present => ite (fun _ => ?_) fun _ => ?_
  · exact composes.bind found fun _ => composes.pure _
  · exact composes.bind added fun _ => composes.pure _

theorem addEntities
    (users : ∀ name password count, P (Seed.ensure User (User.addWithPassword name password) count name))
    (groups : ∀ name count, P (Seed.ensure Group (Entity.add name) count name))
    (roles : ∀ name count, P (Seed.ensure Role (Entity.add name) count name))
    (permissions : ∀ name count, P (Seed.ensure Permission (Entity.add name) count name)) (seed : Seed) :
    P seed.addEntities := by
  refine composes.bind (composes.foldlM (fun count user _ => users user.name user.password count) 0) fun count => ?_
  refine composes.bind (composes.foldlM (fun count name _ => groups name count) count) fun count => ?_
  refine composes.bind (composes.foldlM (fun count name _ => roles name count) count) fun count => ?_
  exact composes.foldlM (fun count name _ => permissions name count) count

theorem checkReferences (names : ∀ kind name, P (ask (.findNamed kind name))) (seed : Seed)
    (edges : List (Edge String)) : P (seed.checkReferences edges) := by
  refine composes.forM fun edge _ => composes.forM fun (kind, name) _ => ite (fun _ => composes.pure _) fun _ => ?_
  exact composes.bind (names kind name) fun _ => ite (fun _ => composes.throw _) fun _ => composes.pure _

/-- What follows the search for the endpoints of an edge is done for an edge of the same relation. -/
theorem resolved {find : Kind → String → Action Record} (finds : ∀ kind name, P (find kind name))
    {edge : Edge String} {next : Edge Record → Action β}
    (rest : ∀ found : Edge Record, found.relation = edge.relation → P (next found)) :
    P (edge.resolve find >>= next) := by
  cases edge with
  | userGroup | userRole | groupRole | rolePermission | delegation =>
    simp only [Edge.resolve, bind_assoc, pure_bind]
    exact composes.bind (finds _ _) fun _ => composes.bind (finds _ _) fun _ => rest _ rfl
  | userGroupRole user group role =>
    simp only [Edge.resolve, bind_assoc, pure_bind]
    refine composes.bind (finds _ _) fun _ => composes.bind (finds _ _) fun _ => ?_
    exact composes.bind (finds _ _) fun _ => rest _ rfl

variable (finds : ∀ kind name, P (Seed.endpointRecord kind name)) (founds : P Entitlement.globalGroup)
include finds founds

theorem resolve {model : Model} {edge : Edge String} (seedable : edge.relation.seedable model)
    {next : Edge Record → Action β} (rest : ∀ found : Edge Record, found.relation.belongsTo model → P (next found)) :
    P (Seed.resolve model edge >>= next) := by
  unfold Seed.resolve
  split
  · simp only [bind_assoc, pure_bind]
    refine composes.bind founds fun group => composes.bind (finds _ _) fun user => ?_
    exact composes.bind (finds _ _) fun role => rest _ rfl
  · rename_i apart
    refine composes.resolved finds fun found same => rest found ?_
    rw [same]
    refine Relation.belongsTo_of_seedable seedable ?_
    rintro ⟨rfl, bare⟩
    cases edge with
    | userRole user role => exact apart user role rfl rfl
    | userGroup | groupRole | rolePermission | userGroupRole | delegation => cases bare

theorem addGrants {model : Model} (grants : ∀ edge : Edge Record, edge.relation.belongsTo model → P (Entitlement.grant edge))
    (edges : List (Edge String)) : P (Seed.addGrants model edges) := by
  refine composes.foldlM (fun count edge _ => composes.check fun _ checked => ?_) 0
  refine composes.resolve finds founds (Seed.checkModel_eq_ok_iff.mp checked) fun found belongs => ?_
  exact composes.bind (grants found belongs) fun _ => composes.pure _

theorem applySeed {seed : Seed} (names : ∀ kind name, P (ask (.findNamed kind name))) (adds : P seed.addEntities)
    (grants : ∀ edge : Edge Record, edge.relation.belongsTo settings.model → P (Entitlement.grant edge)) :
    P seed.apply := by
  refine composes.configured <| composes.check fun _ _ => composes.check fun edges _ => ?_
  refine composes.bind (composes.checkReferences names seed edges) fun _ => composes.bind adds fun entities => ?_
  exact composes.bind (composes.addGrants finds founds grants edges) fun _ => composes.pure _

end Seeds

end Compositional

end Entitlement.Action
