import Entitlement.Proofs.Action.Spending
import Entitlement.Proofs.Service.Graph

/-!
Taking out all edges of an entity, and then the entity, while any request may fail. The edges are taken out
one by one and none is put back, so a failure after the first of them leaves the others behind.
-/

namespace Entitlement

namespace Store

/-- The store after some edges were taken out. -/
def without (store : Store) (edges : List (Edge EntityId)) : Store :=
  { store with edges := store.edges.eraseAll edges }

theorem table_without (store : Store) (edges : List (Edge EntityId)) (kind : Kind) :
    (store.without edges).table kind = store.table kind := by
  cases kind <;> rfl

/-- How it ends to take out edges one after the other, if `count` were taken out before. -/
inductive Strips (store : Store) (given : Error → Prop) (edges : List (Edge EntityId)) (count : Nat) :
    Nat → Except Error Nat → Store → Prop where
  | stopped {taken : Nat} {e : Error} (gives : given e) (left : taken < edges.length) :
    Strips store given edges count (taken + 1) (.error e) (store.without (edges.take taken))
  | all : Strips store given edges count edges.length (.ok (count + edges.length)) (store.without edges)

/-- How it ends to take out the edges of an entity, if `more` requests are sent after that and `finishes` tells
what they come to. -/
inductive Withdraws (store : Store) (given : Error → Prop) (entity : Endpoint) (more : Nat)
    (finishes : Store → Store → Prop) : Nat → Except Error Nat → Store → Prop where
  | stranger (unknown : entity.id ∉ (store.table entity.kind).ids) :
    Withdraws store given entity more finishes 1 (.error (.noEntityNamed entity.kind entity.name)) store
  | stopped {sent : Nat} {e : Error} (gives : given e)
    (early : sent ≤ 2 + (store.edges.touching entity.id).length + more) :
    Withdraws store given entity more finishes sent (.error e)
      (store.without ((store.edges.touching entity.id).take (sent - 3)))
  | finished {later : Store} (known : entity.id ∈ (store.table entity.kind).ids)
    (finish : finishes (store.without (store.edges.touching entity.id)) later) :
    Withdraws store given entity more finishes (2 + (store.edges.touching entity.id).length + more)
      (.ok (store.edges.touching entity.id).length) later

namespace Sound

variable {model : Model} {store : Store} (sound : store.Sound model)
include sound

theorem without (edges : List (Edge EntityId)) : (store.without edges).Sound model := by
  obtain ⟨agrees, listed⟩ := sound.log.eraseAll edges
  refine sound.withEdges agrees fun edge mem => .inl ?_
  rw [listed] at mem
  exact List.mem_of_mem_filter mem

theorem answer_eraseEdge_of_mem {edge : Edge EntityId} (there : edge ∈ store.edges.toList) :
    store.answer (.eraseEdge edge) = (.ok true, store.without [edge]) := by
  have required := sound.requireEndpoints_ok_iff.mpr (sound.stored edge there)
  obtain ⟨rest, erased, -, -⟩ := sound.log.erase_of_mem there
  simp only [Store.answer, required, Store.without, EdgeLog.eraseAll, List.foldl_cons, List.foldl_nil, erased]
  rfl

/-- To take out the first of the edges that touch an entity changes the store unless it is to take out none. -/
theorem without_take_eq_iff {id : EntityId} {taken : Nat} (within : taken ≤ (store.edges.touching id).length) :
    store.without ((store.edges.touching id).take taken) = store ↔ taken = 0 := by
  constructor
  · intro same
    by_contra positive
    rcases touching : store.edges.touching id with _ | ⟨edge, rest⟩
    · rw [touching, List.length_nil] at within
      omega
    · have there : edge ∈ store.edges.toList := by
        have mem : edge ∈ store.edges.touching id := by rw [touching]; exact List.mem_cons_self
        rw [sound.log.touching_eq] at mem
        exact List.mem_of_mem_filter mem
      have taken_out : edge ∈ (store.edges.touching id).take taken := by
        obtain ⟨taken, rfl⟩ := Nat.exists_eq_succ_of_ne_zero positive
        rw [touching, List.take_succ_cons]
        exact List.mem_cons_self
      rw [← same] at there
      have listed := (sound.log.eraseAll ((store.edges.touching id).take taken)).2
      rw [Store.without, listed, List.mem_filter, decide_eq_true_eq] at there
      exact there.2 taken_out
  · rintro rfl
    rfl

end Sound

theorem Withdraws.stopped_at {store : Store} {given : Error → Prop} {entity : Endpoint} {more sent taken : Nat}
    {finishes : Store → Store → Prop} {e : Error} (gives : given e) (taking : sent - 3 = taken)
    (early : sent ≤ 2 + (store.edges.touching entity.id).length + more) :
    store.Withdraws given entity more finishes sent (.error e)
      (store.without ((store.edges.touching entity.id).take taken)) := by
  subst taking
  exact .stopped gives early

theorem Withdraws.stopped_last {store : Store} {given : Error → Prop} {entity : Endpoint}
    {finishes : Store → Store → Prop} {e : Error} (gives : given e) :
    store.Withdraws given entity 1 finishes (2 + (store.edges.touching entity.id).length + 1) (.error e)
      (store.without (store.edges.touching entity.id)) := by
  have stops : store.Withdraws given entity 1 finishes (2 + (store.edges.touching entity.id).length + 1) (.error e)
    (store.without ((store.edges.touching entity.id).take (store.edges.touching entity.id).length)) :=
      .stopped_at gives (by omega) (Nat.le_refl _)
  rwa [List.take_length] at stops

/-- One more request at most comes after the edges. -/
theorem Withdraws.spares_iff {model : Model} {store later : Store} {given : Error → Prop} {entity : Endpoint}
    {more sent : Nat} {finishes : Store → Store → Prop} {e : Error}
    (withdraws : store.Withdraws given entity more finishes sent (.error e) later) (sound : store.Sound model)
    (few : more ≤ 1) : later = store ↔ sent ≤ 3 := by
  cases withdraws with
  | stranger unknown => simp
  | stopped gives early =>
    rw [sound.without_take_eq_iff (by omega)]
    omega

end Store

namespace Action

variable {context : Context} {store : Store} (sound : store.Sound context.settings.model)
  (onlyFails : context.outage.OnlyFails)

/-- One step of taking out edges one after the other. -/
def eraseGrant (model : Model) (count : Nat) (edge : Edge EntityId) : Action Nat := do
  if edge.relation.belongsTo model then
    return if ← ask (.eraseEdge edge) then count + 1 else count
  else return count

theorem eraseGrants_eq (model : Model) (edges : List (Edge EntityId)) :
    eraseGrants model edges = edges.foldlM (eraseGrant model) 0 := rfl

include sound onlyFails

theorem spends_eraseEach {edges : List (Edge EntityId)} (there : ∀ edge ∈ edges, edge ∈ store.edges.toList)
    (once : edges.Nodup) (count : Nat) :
    Spends context store (edges.foldlM (eraseGrant context.settings.model) count)
      (store.Strips context.outage.Gives edges count) := by
  -- The store changes with every edge; what keeps is that the edges still to come are in it.
  induction edges generalizing store count with
  | nil => exact spends_pure .all
  | cons edge rest ih =>
    obtain ⟨first, others⟩ := List.forall_mem_cons.mp there
    obtain ⟨new, once⟩ := List.nodup_cons.mp once
    have erased := sound.answer_eraseEdge_of_mem first
    have remain : ∀ other ∈ rest, other ∈ (store.without [edge]).edges.toList := by
      intro other mem
      rw [Store.without, (sound.log.eraseAll [edge]).2, List.mem_filter]
      refine ⟨others other mem, decide_eq_true ?_⟩
      rw [List.mem_singleton]
      rintro rfl
      exact new mem
    rw [List.foldlM_cons, eraseGrant, if_pos (sound.shapes edge first), bind_assoc]
    refine .ask_of_ok onlyFails erased ?_ fun e gives => @Store.Strips.stopped _ _ _ _ 0 e gives (Nat.succ_pos _)
    rw [pure_bind, if_pos rfl]
    refine (ih (sound.without [edge]) remain once (count + 1)).mono ?_
    intro sent result later strips
    cases strips with
    | @stopped taken e gives left =>
      rw [Nat.add_comm]
      exact @Store.Strips.stopped _ _ _ _ (taken + 1) e gives (Nat.succ_lt_succ left)
    | all =>
      rw [Nat.add_comm 1, Nat.add_right_comm]
      exact .all

theorem spends_eraseGrants {edges : List (Edge EntityId)} (there : ∀ edge ∈ edges, edge ∈ store.edges.toList)
    (once : edges.Nodup) : Spends context store (eraseGrants context.settings.model edges)
      (store.Strips context.outage.Gives edges 0) := by
  rw [eraseGrants_eq]
  exact spends_eraseEach sound onlyFails there once 0

theorem spends_revokeAll (entity : Endpoint) :
    Spends context store (revokeAll entity) (store.Withdraws context.outage.Gives entity 0 Eq) := by
  have stopped {sent : Nat} (early : sent ≤ 2) : ∀ e, context.outage.Gives e →
      store.Withdraws context.outage.Gives entity 0 Eq sent (.error e) store := by
    intro e gives
    have none_taken : sent - 3 = 0 := by omega
    exact .stopped_at gives none_taken (by omega)
  have found : store.answer (.find entity.kind entity.id) = (.ok ((store.table entity.kind).get? entity.id), store) := rfl
  rw [revokeAll, requireStored, bind_assoc]
  refine .ask_of_ok onlyFails found ?_ (stopped (by omega))
  by_cases known : entity.id ∈ (store.table entity.kind).ids
  · have listed : store.answer (.edgesOf entity.kind entity.id) = (.ok (store.edges.touching entity.id), store) := by
      simp only [Store.answer, sound.require_ok_iff.mpr known]
      rfl
    have there : ∀ edge ∈ store.edges.touching entity.id, edge ∈ store.edges.toList := by
      rw [sound.log.touching_eq]
      exact fun _ mem => List.mem_of_mem_filter mem
    have once : (store.edges.touching entity.id).Nodup := by
      rw [sound.log.touching_eq]
      exact sound.log.nodup.filter _
    have present : ((store.table entity.kind).get? entity.id).isNone = false := by
      rw [Option.isNone_eq_false_iff, Option.isSome_iff_ne_none, ne_eq, (sound.tables _).get?_eq_none_iff]
      exact not_not_intro known
    rw [if_neg (by simp [present]), pure_bind]
    refine .ask_of_ok onlyFails listed (.settings ?_) (stopped (by omega))
    refine (spends_eraseGrants sound onlyFails there once).bind ?_ ?_
    · intro sent count later strips
      cases strips
      refine .report (spends_pure ?_)
      rw [Nat.zero_add, ← Nat.add_assoc]
      exact .finished known rfl
    · intro sent e later strips
      cases strips with
      | stopped gives left => exact .stopped_at gives (by omega) (by omega)
  · rw [(sound.tables _).get?_eq_none_iff.mpr known]
    exact spends_throw (.stranger known)

theorem spends_remove {E : Type} [Entity E] (entity : E) :
    Spends context store (Entity.remove entity)
      (store.Withdraws context.outage.Gives (Entity.endpoint entity) 1 fun stripped later =>
        stripped.answer (.delete (Entity.kind E) (Entity.id entity)) = (.ok (), later)) := by
  refine (spends_revokeAll sound onlyFails (Entity.endpoint entity)).bind ?_ ?_
  · intro sent count stripped withdraws
    cases withdraws with
    | finished known same =>
      subst same
      let stripped := store.without (store.edges.touching (Entity.endpoint entity).id)
      have still_known : Entity.id entity ∈ (stripped.table (Entity.kind E)).ids := by
        rw [Store.table_without]
        exact known
      have deleted : stripped.answer (.delete (Entity.kind E) (Entity.id entity)) = _ :=
        Store.attempt_eq_ok.mpr ((sound.without _).delete_stored still_known)
      refine .ask_of_ok onlyFails deleted (.report (spends_pure (.finished known deleted))) fun e gives => ?_
      exact .stopped_last gives
  · intro sent e later withdraws
    cases withdraws with
    | stranger unknown => exact .stranger unknown
    | stopped gives early => exact .stopped gives (by omega)

end Action

namespace Service

/-- A failed revocation or removal leaves the store as it was if and only if the request that failed was one of
the first three: the check of the entity, the search for its edges and what is sent next. -/
theorem Reachable.removals_stop {service : Service} (reachable : service.Reachable) {outage : Outage}
    (onlyFails : outage.OnlyFails) {E : Type} [Entity E] (entity : E) :
    let context : Context := { settings := service.settings, outage }
    let store := service.state.store
    let endpoint := Entity.endpoint entity
    Action.Spends context store (revokeAll endpoint) (fun sent result later =>
        store.Withdraws outage.Gives endpoint 0 Eq sent result later ∧
          ∀ e, result = .error e → (later = store ↔ sent ≤ 3)) ∧
      Action.Spends context store (Entity.remove entity) fun sent result later =>
        store.Withdraws outage.Gives endpoint 1 (fun stripped later =>
            stripped.answer (.delete (Entity.kind E) (Entity.id entity)) = (.ok (), later)) sent result later ∧
          ∀ e, result = .error e → (later = store ↔ sent ≤ 3) := by
  intro context store endpoint
  have sound : store.Sound context.settings.model := reachable.sound
  constructor
  · refine (Action.spends_revokeAll sound onlyFails endpoint).mono fun sent result later withdraws => ?_
    refine ⟨withdraws, fun e failed => ?_⟩
    subst failed
    exact withdraws.spares_iff sound (Nat.zero_le 1)
  · refine (Action.spends_remove sound onlyFails entity).mono fun sent result later withdraws => ?_
    refine ⟨withdraws, fun e failed => ?_⟩
    subst failed
    exact withdraws.spares_iff sound (Nat.le_refl 1)

/-- Ann is to be removed while the edge to the second of her roles cannot be taken out. -/
theorem removal_stops_at_second_role :
    let ann : Record := ⟨⟨0⟩, "Ann"⟩
    let clerk : Record := ⟨⟨1⟩, "clerk"⟩
    let judge : Record := ⟨⟨2⟩, "judge"⟩
    let service := (⟨{}, {}⟩ : Service).performAll
      [.addUser "Ann" "pw", .add .role "clerk", .add .role "judge", .grant .dynamic (.userRole ann clerk) rfl,
        .grant .dynamic (.userRole ann judge) rfl]
    let lost : Error := .reported .dataBackend "lost"
    let outage : Outage := fun _ _ request =>
      match request with
      | .eraseEdge edge => if edge = .userRole ann.id judge.id then some (.fail lost) else none
      | _ => none
    let removed := (Entity.remove ({ ann with } : User)).run { settings := service.settings, outage } service.state
    removed.1 = .error lost ∧ removed.2.store.edges.toList = [.userRole ⟨0⟩ ⟨2⟩] ∧
      removed.2.store ≠ service.state.store := by
  intro ann clerk judge service lost outage removed
  have started : Service.start {} {} = .ok ⟨{}, {}⟩ := rfl
  have reachable : service.Reachable := (Reachable.start 0 0 0 ⟨0⟩ started).performAll _
  have onlyFails : outage.OnlyFails := by
    intro number store request
    cases request with
    | eraseEdge edge => simp only [outage]; split <;> exact nofun
    | _ => exact nofun
  have failed : removed.1 = .error lost := by decide +kernel
  refine ⟨failed, by decide +kernel, fun same => ?_⟩
  have fourth : removed.2.requests = service.state.requests + 4 := by decide +kernel
  have spends := (Reachable.removals_stop reachable onlyFails ({ ann with } : User)).2 service.state rfl
  have ran : (Entity.remove ({ ann with } : User)).run { settings := service.settings, outage } service.state = removed :=
    rfl
  rw [ran] at spends
  obtain ⟨sent, counted, -, spared_iff⟩ := spends
  have few := (spared_iff lost failed).mp same
  omega

end Service

end Entitlement
