import Entitlement.Proofs.Action.Atomic
import Entitlement.Proofs.Service.Graph
import Entitlement.Proofs.Store.Edges

/-!
Grants and revokes are exact and atomic. An edge whose endpoints are stored is appended if it is new and
taken out if it is there; nothing is changed when an endpoint is unknown or a request fails.
-/

namespace Entitlement

namespace Store

/-- What becomes of granting an edge. -/
inductive Grants (store : Store) (edge : Edge Record) : Except Error Bool → Store → Prop where
  | stranger {kind : Kind} {record : Record} (unknown : store.stranger? edge.endpoints = some (kind, record)) :
    Grants store edge (.error (.noEntityNamed kind record.name)) store
  | inserted {isNew : Bool} {later : Store} (known : store.stranger? edge.endpoints = none)
    (inserts : store.Inserts edge.ids isNew later) : Grants store edge (.ok isNew) later

/-- What becomes of revoking an edge, where `answer` tells what is answered if it was there or was not. -/
inductive Revokes {α : Type} (store : Store) (edge : Edge Record) (answer : Bool → Except Error α) :
    Except Error α → Store → Prop where
  | stranger {kind : Kind} {record : Record} (unknown : store.stranger? edge.endpoints = some (kind, record)) :
    Revokes store edge answer (.error (.noEntityNamed kind record.name)) store
  | erased {wasThere : Bool} {later : Store} (known : store.stranger? edge.endpoints = none)
    (erases : store.Erases edge.ids wasThere later) : Revokes store edge answer (answer wasThere) later

theorem Grants.of_known {store : Store} {edge : Edge Record} {result : Except Error Bool} {later : Store}
    (grants : store.Grants edge result later) (known : store.stranger? edge.endpoints = none) :
    ∃ isNew, result = .ok isNew ∧ store.Inserts edge.ids isNew later := by
  cases grants with
  | stranger unknown => cases known.symm.trans unknown
  | inserted _ inserts => exact ⟨_, rfl, inserts⟩

theorem Revokes.of_known {store : Store} {edge : Edge Record} {α : Type} {answer : Bool → Except Error α}
    {result : Except Error α} {later : Store} (revokes : store.Revokes edge answer result later)
    (known : store.stranger? edge.endpoints = none) :
    ∃ wasThere, result = answer wasThere ∧ store.Erases edge.ids wasThere later := by
  cases revokes with
  | stranger unknown => cases known.symm.trans unknown
  | erased _ erases => exact ⟨_, rfl, erases⟩

end Store

namespace Action

variable {model : Model} {store : Store} {context : Context}
  (sound : store.Sound model) (onlyFails : context.outage.OnlyFails)
include sound onlyFails

theorem atomic_requireStored (kind : Kind) (record : Record) :
    Atomic context store store (requireStored kind record)
      fun result later => later = store ∧ result = store.check [(kind, record)] := by
  have answered : store.answer (.find kind record.id) = (.ok ((store.table kind).get? record.id), store) := rfl
  refine (atomic_ask onlyFails answered).bind_eq (Leaves.atomic ?_)
  by_cases stored : record.id ∈ (store.table kind).ids
  · have found : ((store.table kind).get? record.id).isNone = false := by
      rw [Option.isNone_eq_false_iff, Option.isSome_iff_ne_none, ne_eq, (sound.tables kind).get?_eq_none_iff]
      exact not_not_intro stored
    have accepted : store.check [(kind, record)] = .ok () := Store.check_cons_of_stored stored
    rw [found, accepted]
    exact leaves_pure ⟨rfl, rfl⟩
  · rw [(sound.tables kind).get?_eq_none_iff.mpr stored]
    exact leaves_throw ⟨rfl, (Store.check_cons_of_absent stored).symm⟩

/-- Endpoints are checked one after the other, and nothing is written. -/
theorem atomic_requireEach (endpoints : List (Kind × Record)) :
    Atomic context store store (endpoints.forM fun (kind, record) => requireStored kind record)
      fun result later => later = store ∧ result = store.check endpoints := by
  rw [← Store.forM_check]
  exact atomic_forM fun (kind, record) _ => atomic_requireStored sound onlyFails kind record

/-- What follows the check of some endpoints is done if all of them are stored. -/
theorem atomic_afterCheck {α : Type} {rest : Action α} {post : Except Error α → Store → Prop}
    (endpoints : List (Kind × Record))
    (refused : ∀ kind record, store.stranger? endpoints = some (kind, record) →
      post (.error (.noEntityNamed kind record.name)) store)
    (accepted : store.stranger? endpoints = none → Atomic context store store rest post) :
    Atomic context store store
      ((endpoints.forM fun (kind, record) => requireStored kind record) >>= fun _ => rest) post := by
  apply (atomic_requireEach sound onlyFails endpoints).bind
  · intro _ later ⟨same, checked⟩
    subst same
    exact accepted (Store.check_eq_ok_iff.mp checked.symm)
  · intro e later ⟨same, checked⟩
    subst same
    obtain ⟨kind, record, unknown, rfl⟩ := Store.of_check_eq_error checked.symm
    exact refused kind record unknown

theorem atomic_grant (edge : Edge Record) :
    Atomic context store store (grant edge) (store.Grants edge) := by
  apply atomic_afterCheck sound onlyFails edge.endpoints
  · intro kind record unknown
    exact .stranger unknown
  · intro known
    have stored := Store.stored_of_known known (List.Subset.refl edge.endpoints)
    obtain ⟨isNew, later, answered, inserts⟩ := sound.answer_insertEdge stored
    refine (atomic_ask onlyFails answered).bind_eq (Leaves.atomic ?_)
    exact leaves_settings.bind_eq ((leaves_report _).bind_eq (leaves_pure (.inserted known inserts)))

omit onlyFails in
/-- An edge of the model between stored entities is granted without fail. -/
theorem leaves_grant {settings : Settings} {edge : Edge Record} (known : store.stranger? edge.endpoints = none)
    (belongs : edge.relation.belongsTo model) :
    Leaves { settings } store (grant edge) fun result later =>
      ∃ isNew, result = .ok isNew ∧ store.Inserts edge.ids isNew later ∧ later.Sound model := by
  have allowed : (Request.insertEdge edge.ids).Admissible model := by
    rwa [Request.Admissible, Edge.ids_relation]
  have keeps : Keeps { settings } (fun state => state.store.Sound model) (grant edge) fun _ => True :=
    (Store.Sound.invariant model).grant allowed
  intro state same
  subst same
  have sound' := (keeps state sound).1
  obtain ⟨quiet, grants⟩ := (atomic_grant sound Outage.never_onlyFails edge).leaves state rfl
  obtain ⟨isNew, done, inserts⟩ := grants.of_known known
  exact ⟨quiet, isNew, done, inserts, sound'⟩

theorem atomic_revoke (edge : Edge Record) :
    Atomic context store store (revoke edge) (store.Revokes edge .ok) := by
  apply atomic_afterCheck sound onlyFails edge.endpoints
  · intro kind record unknown
    exact .stranger unknown
  · intro known
    have stored := Store.stored_of_known known (List.Subset.refl edge.endpoints)
    obtain ⟨wasThere, later, answered, erases⟩ := sound.answer_eraseEdge stored
    refine (atomic_ask onlyFails answered).bind_eq (Leaves.atomic ?_)
    exact leaves_settings.bind_eq ((leaves_report _).bind_eq (leaves_pure (.erased known erases)))

/-- Alone among the revokes, this one fails if there is no edge to take out. -/
theorem atomic_withdraw (edge : Edge Record) :
    Atomic context store store (withdraw edge) (store.Revokes edge fun wasThere =>
      if wasThere then .ok () else .error (.noGrant edge.relation edge.subject)) := by
  apply (atomic_revoke sound onlyFails edge).bind
  · intro wasThere later held
    cases held with
    | erased known erases =>
      cases wasThere with
      | true => exact (leaves_pure (.erased known erases)).atomic
      | false => exact (leaves_throw (.erased known erases)).atomic
  · intro e later held
    cases held with
    | stranger unknown => exact .stranger unknown

end Action

namespace Service

end Service

end Entitlement
