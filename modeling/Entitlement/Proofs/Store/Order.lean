import Entitlement.Proofs.Store.Growth
import Entitlement.Proofs.Store.Losing
import Entitlement.Proofs.Store.Users

/-!
The order of the tables from request to request. Only a renaming moves anybody: every other request leaves those
who stay where they are and puts whoever is new behind them.
-/

namespace Entitlement

/-- The request is not that somebody be renamed. -/
def Request.KeepsOrder : Request → Prop
  | .rename .. => False
  | .findNamed .. | .find .. | .list _ | .create .. | .delete .. | .loadCredentials _ | .saveCredentials .. | .edgesOf .. |
    .insertEdge _ | .eraseEdge _ => True

namespace Store

/-- Who is left of each table stands in the old order, and behind them those who have come since, in the order of
their identities. -/
def Continues (first store : Store) : Prop :=
  ∀ kind, ∃ left new, (store.table kind).ids = left ++ new ∧ left.Sublist (first.table kind).ids ∧
    (∀ id ∈ new, first.nextId ≤ id.number) ∧ new.Pairwise (·.number < ·.number)

variable {model : Model} {first store later : Store} {request : Request} {answer : request.Answer}

namespace Continues

theorem refl (store : Store) : store.Continues store :=
  fun kind => ⟨(store.table kind).ids, [], (List.append_nil _).symm, List.Sublist.refl _, by simp, List.Pairwise.nil⟩

theorem of_tables (continues : first.Continues store) (tables : ∀ kind, later.table kind = store.table kind) :
    first.Continues later := fun kind => tables kind ▸ continues kind

variable (continues : first.Continues store)
include continues

theorem creates {kind : Kind} {name : String} {credentials : Credentials} {record : Record}
    (creates : store.Creates kind name credentials record later) (sound : store.Sound model)
    (grown : first.nextId ≤ store.nextId) : first.Continues later := by
  intro other
  by_cases same : other = kind
  · subst same
    obtain ⟨left, new, split, within, since, increasing⟩ := continues other
    refine ⟨left, new ++ [record.id], ?_, within, ?_, ?_⟩
    · rw [Roster.ids, creates.table, List.map_append, List.map_singleton, ← List.append_assoc, ← split]
      rfl
    · rw [creates.made]
      simpa [or_imp, forall_and] using ⟨since, grown⟩
    · refine List.pairwise_append.mpr ⟨increasing, List.pairwise_singleton _ _, fun id mem last is_last => ?_⟩
      have listed : id ∈ (store.table other).ids := split ▸ List.mem_append_right left mem
      rw [List.mem_singleton.mp is_last, creates.made]
      exact sound.issued listed
  · rw [creates.others other same]
    exact continues other

theorem loses {kind : Kind} {gone : EntityId} (loses : store.Loses kind gone later) : first.Continues later := by
  intro other
  by_cases same : other = kind
  · subst same
    obtain ⟨left, new, split, within, since, increasing⟩ := continues other
    have filtered : (later.table other).ids = (store.table other).ids.filter (· ≠ gone) := by
      rw [Roster.ids, loses.table, Roster.ids, List.filter_map]
      rfl
    refine ⟨left.filter (· ≠ gone), new.filter (· ≠ gone), ?_, ?_, ?_, increasing.filter _⟩
    · rw [filtered, split, List.filter_append]
    · exact List.filter_sublist.trans within
    · exact fun id mem => since id (List.mem_of_mem_filter mem)
  · rw [loses.others other same]
    exact continues other

theorem answered (sound : store.Sound model) (grown : first.nextId ≤ store.nextId) (keeps : request.KeepsOrder)
    (done : store.answer request = (.ok answer, later)) : first.Continues later := by
  cases request with
  | findNamed | find | list | loadCredentials | edgesOf =>
    have same : later = store := by
      refine Store.answer_reads ?_ done
      trivial
    exact same ▸ continues
  | create kind name => exact continues.creates (sound.creates_of_answer done) sound grown
  | delete kind id => exact continues.loses (sound.loses_of_delete done)
  | saveCredentials | insertEdge | eraseEdge =>
    obtain ⟨⟨⟩, -, same⟩ := attempt_bind_eq_ok.mp done
    cases same
    exact continues.of_tables fun kind => table_withGraph ..
  | rename => exact keeps.elim

end Continues

end Store

end Entitlement
