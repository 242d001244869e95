import Entitlement.Proofs.Delegation.Search

/-!
The search as a loop that queues everyone who is next to somebody visited, as often as that happens, and
passes over those it has seen already. It ends, having visited the same identities in the same order.
-/

namespace Entitlement

/-- With these seen and these in the queue the loop ends after so many turns, having visited these. -/
inductive Traverses (next : EntityId → List EntityId) :
    List EntityId → List EntityId → List EntityId → Nat → Prop where
  | ended {seen : List EntityId} : Traverses next seen [] [] 0
  | again {seen queue visited : List EntityId} {id : EntityId} {turns : Nat} : id ∈ seen →
    Traverses next seen queue visited turns → Traverses next seen (id :: queue) visited (turns + 1)
  | visit {seen queue visited : List EntityId} {id : EntityId} {turns : Nat} : id ∉ seen →
    Traverses next (seen ++ [id]) (queue ++ next id) visited turns →
      Traverses next seen (id :: queue) (id :: visited) (turns + 1)

variable {next : EntityId → List EntityId} {start : EntityId}
  {everyone seen met queue further visited : List EntityId} {turns rounds : Nat}

theorem Traverses.turns_eq (traverses : Traverses next seen queue visited turns) :
    turns = (queue ++ visited.flatMap next).length := by
  -- Whatever is queued is taken out again, one a turn.
  induction traverses with
  | ended => rfl
  | again _ _ ih =>
    rw [ih]
    rfl
  | visit _ _ ih =>
    rw [ih, List.append_assoc, List.flatMap_cons]
    rfl

theorem Traverses.unique {visited' : List EntityId} {turns' : Nat} (traverses : Traverses next seen queue visited turns)
    (other : Traverses next seen queue visited' turns') : visited = visited' ∧ turns = turns' := by
  induction traverses generalizing visited' turns' with
  | ended =>
    cases other
    exact ⟨rfl, rfl⟩
  | again mem _ ih =>
    cases other with
    | again _ rest =>
      obtain ⟨rfl, rfl⟩ := ih rest
      exact ⟨rfl, rfl⟩
    | visit new _ => exact absurd mem new
  | visit new _ ih =>
    cases other with
    | again mem _ => exact absurd mem new
    | visit _ rest =>
      obtain ⟨rfl, rfl⟩ := ih rest
      exact ⟨rfl, rfl⟩

/-- The queue with none twice and none of those seen. -/
def unseen (seen queue : List EntityId) : List EntityId := (queue.filter (! seen.contains ·)).eraseDups

theorem unseen_cons_of_mem {id : EntityId} (mem : id ∈ seen) : unseen seen (id :: queue) = unseen seen queue := by
  simp [unseen, mem]

theorem unseen_cons_of_notMem {id : EntityId} (new : id ∉ seen) :
    unseen seen (id :: queue) = id :: unseen (seen ++ [id]) queue := by
  have kept : (id :: queue).filter (! seen.contains ·) = id :: queue.filter (! seen.contains ·) := by simp [new]
  rw [unseen, kept, List.eraseDups_cons, List.filter_filter, unseen]
  congr 3
  funext other
  simp [Bool.and_comm, beq_eq_decide]

theorem eraseDups_of_nodup {list : List EntityId} (nodup : list.Nodup) : list.eraseDups = list := by
  induction list with
  | nil => rfl
  | cons id list ih =>
    obtain ⟨new, nodup⟩ := List.nodup_cons.mp nodup
    have kept : list.filter (fun other => ! other == id) = list :=
      List.filter_eq_self.mpr fun other mem => by simpa using fun same : other = id => new (same ▸ mem)
    rw [List.eraseDups_cons, kept, ih nodup]

theorem unseen_append (nodup : further.Nodup) :
    unseen seen (queue ++ further) =
      unseen seen queue ++ further.filter (! (seen ++ unseen seen queue).contains ·) := by
  have rest : (further.filter (! seen.contains ·)).removeAll (queue.filter (! seen.contains ·)) =
      further.filter (! (seen ++ unseen seen queue).contains ·) := by
    rw [List.removeAll, List.filter_filter]
    congr 1
    funext id
    by_cases known : id ∈ seen <;> simp [unseen, known]
  rw [unseen, List.filter_append, List.eraseDups_append, rest, eraseDups_of_nodup (nodup.filter _), unseen]

/-- Once it has enough rounds the search does what the loop does. -/
theorem Searching.traverses {seen met queue : List EntityId} {rounds : Nat} (distinct : ∀ id, (next id).Nodup)
    (inside : ∀ id ∈ everyone, ∀ other ∈ next id, other ∈ everyone)
    (searching : Searching next start everyone seen met (unseen seen queue))
    (enough : everyone.length ≤ rounds + seen.length) :
    ∃ turns, Traverses next seen queue (search next rounds met (unseen seen queue)) turns := by
  -- Each turn either uses up a round or makes the queue shorter.
  cases queue with
  | nil => exact ⟨0, by cases rounds <;> exact .ended⟩
  | cons id queue =>
    by_cases mem : id ∈ seen
    · rw [unseen_cons_of_mem mem] at searching ⊢
      obtain ⟨turns, traverses⟩ := Searching.traverses distinct inside searching enough
      exact ⟨turns + 1, traverses.again mem⟩
    · rw [unseen_cons_of_notMem mem] at searching ⊢
      cases rounds with
      | zero => cases searching.queue_eq_nil (Nat.zero_add seen.length ▸ enough)
      | succ rounds =>
        have met_now : met = seen ++ [id] ++ unseen (seen ++ [id]) queue := by
          rw [searching.split, List.append_assoc, List.singleton_append]
        have queued_now : unseen (seen ++ [id]) (queue ++ next id) =
            unseen (seen ++ [id]) queue ++ (next id).filter (! met.contains ·) := by
          rw [unseen_append (distinct id), met_now]
        have stepped := searching.step distinct inside
        rw [← queued_now] at stepped
        have longer : everyone.length ≤ rounds + (seen ++ [id]).length := by
          rw [List.length_append, List.length_singleton]
          omega
        obtain ⟨turns, traverses⟩ := Searching.traverses distinct inside stepped longer
        rw [queued_now] at traverses
        exact ⟨turns + 1, traverses.visit mem⟩
termination_by (rounds, queue.length)

theorem search_traverses (distinct : ∀ id, (next id).Nodup)
    (inside : ∀ id ∈ everyone, ∀ other ∈ next id, other ∈ everyone)
    (present : start ∈ everyone) (enough : everyone.length ≤ rounds) :
    ∃ turns, Traverses next [] [start] (search next rounds [start] [start]) turns := by
  have begun : Searching next start everyone [] [start] (unseen [] [start]) := .initial present
  exact begun.traverses distinct inside enough

end Entitlement
