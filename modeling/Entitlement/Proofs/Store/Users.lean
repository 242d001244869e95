import Entitlement.Proofs.Store.Growth
import Entitlement.Proofs.Store.Losing
import Entitlement.Proofs.Store.Renaming

/-!
Records and users from request to request. What is stored after a request was stored before, or is created by it
under an identity that had not been given yet, or has its name from it; credentials change only if they are saved.
-/

namespace Entitlement.Store

/-- The credentials of a user; somebody who is not stored has none. -/
def credentialsOf (store : Store) (user : EntityId) : Credentials := store.credentials.getD user {}

/-- How it comes that a user is stored after a request. -/
inductive ComesBy (store : Store) (user : EntityId) (later : Store) : Request → Prop where
  | kept {request : Request} (stored : user ∈ store.users.ids)
    (same : later.credentialsOf user = store.credentialsOf user) : ComesBy store user later request
  | saved {credentials : Credentials} (stored : user ∈ store.users.ids) :
    ComesBy store user later (.saveCredentials user credentials)
  | created {name : String} (new : user = ⟨store.nextId⟩) (empty : later.credentialsOf user = {}) :
    ComesBy store user later (.create .user name)

variable {model : Model} {store later : Store} {user : EntityId} {request : Request} {answer : request.Answer}

theorem credentialsOf_congr (same : later.credentials[user]? = store.credentials[user]?) :
    later.credentialsOf user = store.credentialsOf user := by
  rw [credentialsOf, credentialsOf, Std.TreeMap.getD_eq_getD_getElem?, same, Std.TreeMap.getD_eq_getD_getElem?]

theorem credentialsOf_eq {credentials : Credentials} (stored : store.credentials[user]? = some credentials) :
    store.credentialsOf user = credentials := by
  rw [credentialsOf, Std.TreeMap.getD_eq_getD_getElem?, stored, Option.getD_some]

theorem credentialsOf_insert (store : Store) (user other : EntityId) (credentials : Credentials) :
    ({ store with credentials := store.credentials.insert user credentials } : Store).credentialsOf other =
      if other = user then credentials else store.credentialsOf other := by
  by_cases same : other = user
  · subst same
    rw [if_pos rfl]
    exact Std.TreeMap.getD_insert_self
  · rw [if_neg same]
    refine credentialsOf_congr ?_
    rw [Std.TreeMap.getElem?_insert, if_neg (by simpa using Ne.symm same)]

namespace Sound

variable (sound : store.Sound model)
include sound

theorem credentialsOf_absent (absent : user ∉ store.users.ids) : store.credentialsOf user = {} := by
  rw [← sound.credentials] at absent
  exact Std.TreeMap.getD_eq_fallback absent

theorem issued {kind : Kind} (stored : user ∈ (store.table kind).ids) : user.number < store.nextId := by
  obtain ⟨record, listed, rfl⟩ := Roster.mem_ids.mp stored
  exact sound.given kind record listed

theorem comesBy_of_answer (answered : store.answer request = (.ok answer, later)) (stored : user ∈ later.users.ids) :
    store.ComesBy user later request := by
  have stored : user ∈ (later.table .user).ids := stored
  cases request with
  | findNamed | find | list | loadCredentials | edgesOf =>
    have same : later = store := by
      refine Store.answer_reads ?_ answered
      trivial
    subst same
    exact .kept stored rfl
  | create kind name =>
    have creates := sound.creates_of_answer answered
    by_cases new : kind = .user ∧ user = answer.id
    · obtain ⟨rfl, rfl⟩ := new
      exact .created (by rw [creates.made]) (credentialsOf_eq (by rw [creates.credentials, if_pos ⟨rfl, rfl⟩]))
    · have before : user ∈ (store.table .user).ids := by
        refine ((creates.mem_ids .user user).mp stored).resolve_right ?_
        exact fun ⟨kind, same⟩ => new ⟨kind.symm, same⟩
      exact .kept before (credentialsOf_congr (by rw [creates.credentials, if_neg new]))
  | rename kind id name =>
    obtain ⟨present, renames⟩ := sound.renames_of_answer answered
    exact .kept ((renames.mem_ids present .user user).mp stored) (credentialsOf_congr (by rw [renames.credentials]))
  | delete kind id =>
    have loses := sound.loses_of_delete answered
    obtain ⟨record, listed, rfl⟩ := Roster.mem_ids.mp stored
    refine .kept (Roster.mem_ids.mpr ⟨record, loses.mem_of_mem listed, rfl⟩) (credentialsOf_congr ?_)
    rw [loses.credentials, if_neg]
    rintro ⟨rfl, same⟩
    rw [loses.table, List.mem_filter, decide_eq_true_eq] at listed
    exact listed.2 same
  | saveCredentials saved credentials =>
    obtain ⟨⟨⟩, -, done⟩ := attempt_bind_eq_ok.mp answered
    cases done
    by_cases same : user = saved
    · subst same
      exact .saved stored
    · exact .kept stored (by rw [credentialsOf_insert, if_neg same])
  | insertEdge | eraseEdge =>
    obtain ⟨⟨⟩, -, done⟩ := attempt_bind_eq_ok.mp answered
    cases done
    exact .kept stored rfl

/-- A record is stored already, or the request creates it or gives it its name. -/
theorem record_of_answer {kind : Kind} {record : Record} (answered : store.answer request = (.ok answer, later))
    (listed : record ∈ (later.table kind).toList) :
    record ∈ (store.table kind).toList ∨ record.id = ⟨store.nextId⟩ ∧ request = .create kind record.name ∨
      request = .rename kind record.id record.name := by
  cases request with
  | findNamed | find | list | loadCredentials | edgesOf =>
    have same : later = store := by
      refine Store.answer_reads ?_ answered
      trivial
    exact .inl (same ▸ listed)
  | create other name =>
    have creates := sound.creates_of_answer answered
    by_cases same : kind = other
    · subst same
      rw [creates.table, List.mem_append, List.mem_singleton] at listed
      refine listed.imp_right fun new => .inl ?_
      rw [new, creates.made]
      exact ⟨rfl, rfl⟩
    · exact .inl (creates.others kind same ▸ listed)
  | rename other id name =>
    obtain ⟨-, renames⟩ := sound.renames_of_answer answered
    by_cases same : kind = other
    · subst same
      refine (renames.mem_iff.mp listed).imp And.left fun renamed => .inr ?_
      rw [renamed]
    · exact .inl (renames.others kind same ▸ listed)
  | delete other id => exact .inl ((sound.loses_of_delete answered).mem_of_mem listed)
  | saveCredentials | insertEdge | eraseEdge =>
    obtain ⟨⟨⟩, -, done⟩ := attempt_bind_eq_ok.mp answered
    cases done
    exact .inl (by simpa only [table_withGraph] using listed)

theorem nextId_le (answered : store.answer request = (.ok answer, later)) : store.nextId ≤ later.nextId := by
  cases request with
  | findNamed | find | list | loadCredentials | edgesOf =>
    have same : later = store := by
      refine Store.answer_reads ?_ answered
      trivial
    exact same ▸ Nat.le_refl _
  | create kind name =>
    obtain ⟨table, -, -, rfl⟩ := sound.of_create (attempt_eq_ok.mp answered)
    exact Nat.le_succ _
  | rename kind id name => exact Nat.le_of_eq (sound.renames_of_answer answered).2.nextId.symm
  | delete kind id => exact Nat.le_of_eq (sound.loses_of_delete answered).nextId.symm
  | saveCredentials | insertEdge | eraseEdge =>
    obtain ⟨⟨⟩, -, done⟩ := attempt_bind_eq_ok.mp answered
    cases done
    exact Nat.le_refl _

end Sound

end Entitlement.Store
