import Entitlement.Proofs.Store.Soundness

/-!
What a request leaves alone: a record stays in its table unless it is the one to be renamed or deleted.
-/

namespace Entitlement

/-- The request renames or deletes the entity. -/
def Request.Displaces (kind : Kind) (id : EntityId) : Request → Prop
  | .rename other target _ | .delete other target => other = kind ∧ target = id
  | .findNamed .. | .find .. | .list _ | .create .. | .loadCredentials _ | .saveCredentials .. | .edgesOf .. |
    .insertEdge _ | .eraseEdge _ => False

namespace Store

variable {model : Model} {store later : Store} {kind : Kind} {record : Record}

theorem mem_table_of_exchange {other : Kind} {table : Roster Record}
    (same : later.table kind = (store.setTable other table).table kind)
    (kept : other = kind → record ∈ table.toList) (stored : record ∈ (store.table kind).toList) :
    record ∈ (later.table kind).toList := by
  rw [same, table_setTable]
  split
  · rename_i equal
    exact kept equal.symm
  · exact stored

theorem Sound.stays (sound : store.Sound model) {request : Request} {answer : request.Answer}
    (answered : store.answer request = (.ok answer, later)) (spared : ¬ request.Displaces kind record.id)
    (stored : record ∈ (store.table kind).toList) : record ∈ (later.table kind).toList := by
  cases request with
  | findNamed | find | list =>
    cases answered
    exact stored
  | create other name =>
    obtain ⟨table, -, listed, rfl⟩ := sound.of_create (attempt_eq_ok.mp answered)
    refine mem_table_of_exchange (table_withGraph ..) (fun same => ?_) stored
    subst same
    rw [listed]
    exact List.mem_append_left _ stored
  | rename other id name =>
    obtain ⟨-, table, -, listed, rfl⟩ := sound.of_rename answered
    refine mem_table_of_exchange rfl (fun same => ?_) stored
    subst same
    have differ : record.id ≠ id := fun equal => spared ⟨rfl, equal.symm⟩
    rw [listed]
    exact List.mem_append_left _ (List.mem_filter.mpr ⟨stored, decide_eq_true differ⟩)
  | delete other id =>
    obtain ⟨-, rfl⟩ := sound.of_delete (attempt_eq_ok.mp answered)
    refine mem_table_of_exchange (table_withGraph ..) (fun same => ?_) stored
    subst same
    have differ : record.id ≠ id := fun equal => spared ⟨rfl, equal.symm⟩
    rw [((sound.tables other).erase id).2]
    exact List.mem_filter.mpr ⟨stored, decide_eq_true differ⟩
  | loadCredentials | edgesOf | saveCredentials | insertEdge | eraseEdge =>
    obtain ⟨-, -, done⟩ := attempt_bind_eq_ok.mp answered
    cases done
    exact stored

end Store

end Entitlement
