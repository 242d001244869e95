import Entitlement.Proofs.Service.Graph
import Entitlement.Proofs.Store.Edges
import Mathlib.Data.List.Induction

/-!
Operations that only add. Through them, and whatever disruptions they meet, every entity keeps its name
and its place, and so does every edge.
-/

namespace Entitlement

/-- The request takes nothing out and changes no name. -/
def Request.Adds : Request → Prop
  | .rename .. | .delete .. | .eraseEdge _ => False
  | .findNamed .. | .find .. | .list _ | .create .. | .loadCredentials _ | .saveCredentials .. | .edgesOf .. |
    .insertEdge _ => True

/-- The operation takes nothing out and changes no name. -/
def Operation.Adds : Operation → Prop
  | rename .. | remove _ | revoke .. | withdraw .. | revokeAll _ | replaceRole .. => False
  | add .. | addUser .. | enter .. | changePassword .. | forcePassword .. | anonymous | grant .. | globalGroup | login .. |
    logout _ | refresh _ | invalidate _ | buildAcl _ | applySeed _ => True

theorem Operation.Adds.takes_nothing {operation : Operation} (adds : operation.Adds) : ¬ operation.TakesOut := by
  cases operation with
  | remove | revoke | withdraw | revokeAll | replaceRole => exact adds.elim
  | add | addUser | rename | enter | changePassword | forcePassword | anonymous | grant | globalGroup | login | logout |
    refresh | invalidate | buildAcl | applySeed => exact id

theorem Operation.Adds.request {operation : Operation} (adds : operation.Adds) {request : Request}
    (sent : request.SentBy operation) : request.Adds := by
  cases request with
  | rename kind id name | delete kind id =>
    obtain ⟨entity, rfl, -⟩ := sent
    exact adds.elim
  | eraseEdge edge => exact absurd sent adds.takes_nothing
  | findNamed | find | list | create | loadCredentials | saveCredentials | edgesOf | insertEdge => trivial

theorem Store.Sound.within {model : Model} {store later : Store} (sound : store.Sound model) {request : Request}
    (adds : request.Adds) {answer : request.Answer} (answered : store.answer request = (.ok answer, later)) :
    store.Within later := by
  cases request with
  | findNamed | find | list | loadCredentials | edgesOf =>
    have same : later = store := by
      refine Store.answer_reads ?_ answered
      trivial
    exact same ▸ .refl store
  | create kind name => exact ((sound.creates_of_answer answered).grows sound).within
  | saveCredentials user credentials =>
    obtain ⟨⟨⟩, -, done⟩ := attempt_bind_eq_ok.mp answered
    cases done
    exact .of_eq (fun kind => table_withGraph ..) rfl
  | insertEdge edge =>
    obtain ⟨⟨⟩, stored, -⟩ := attempt_bind_eq_ok.mp answered
    obtain ⟨isNew, last, answered', inserts⟩ := sound.answer_insertEdge (sound.requireEndpoints_ok_iff.mp stored)
    cases answered'.symm.trans answered
    exact inserts.grows.within
  | rename | delete | eraseEdge => exact adds.elim

namespace Service

variable {service later : Service}

theorem within_perform (sound : service.state.store.Sound service.settings.model) {operation : Operation}
    (adds : operation.Adds) (outage : Outage) :
    service.state.store.Within (service.perform operation outage).state.store := by
  let Kept (store : Store) : Prop := store.Sound service.settings.model ∧ service.state.store.Within store
  have kept : Kept (service.perform operation outage).state.store := by
    refine holds_perform (P := Kept) And.left ?_ ?_ ⟨sound, .refl _⟩ outage
    · rintro store later request answer admissible sent ⟨sound, within⟩ answered
      exact ⟨sound.answer admissible answered, within.trans (sound.within (adds.request sent) answered)⟩
    · rintro store ⟨sound, within⟩
      exact ⟨sound.mint, within.trans (.of_eq (fun kind => Store.table_withGraph ..) rfl)⟩
  exact kept.2

/-- What a service may be after operations that only add, whatever disruptions they meet. -/
inductive Grown (service : Service) : Service → Prop where
  | refl : Grown service service
  | step {later : Service} (grown : Grown service later) (operation : Operation) (adds : operation.Adds)
    (outage : Outage) : Grown service (later.perform operation outage)

namespace Grown

theorem settings (grown : service.Grown later) : later.settings = service.settings := by
  induction grown with
  | refl => rfl
  | step _ operation _ outage ih => rw [settings_perform, ih]

theorem reachable (grown : service.Grown later) (reachable : service.Reachable) : later.Reachable := by
  induction grown with
  | refl => exact reachable
  | step _ operation _ outage ih => exact ih.step operation outage

theorem within (grown : service.Grown later) (reachable : service.Reachable) :
    service.state.store.Within later.state.store := by
  induction grown with
  | refl => exact .refl _
  | step grown operation adds outage ih =>
    exact ih.trans (within_perform (grown.reachable reachable).sound adds outage)

theorem performAll (operations : List Operation) (adds : ∀ operation ∈ operations, operation.Adds) :
    service.Grown (service.performAll operations) := by
  induction operations using List.reverseRecOn with
  | nil => exact .refl
  | append_singleton operations last ih =>
    rw [List.forall_mem_append] at adds
    rw [performAll_snoc]
    exact .step (ih adds.1) last (adds.2 last (List.mem_singleton_self last)) Outage.never

end Grown

end Service

end Entitlement
