import Mathlib.Data.List.Induction
import Entitlement.Proofs.EdgeLog.Agreement

/-!
Edge logs that are changed one edge after the other, and the same changes made to the list of the edges.
Each change is answered alike on both sides, and the log keeps holding the list.
-/

namespace Entitlement.EdgeLog

open Std (TreeSet)

inductive Change where
  | insert (edge : Edge EntityId)
  | erase (edge : Edge EntityId)

namespace Change

def isInsert : Change → Bool
  | insert _ => true
  | erase _ => false

/-- Makes the change and tells whether there was anything to change. -/
def onLog (log : EdgeLog) : Change → Bool × EdgeLog
  | insert edge => log.insert edge
  | erase edge => log.erase edge

def onList (edges : List (Edge EntityId)) : Change → Bool × List (Edge EntityId)
  | insert edge => if edge ∈ edges then (false, edges) else (true, edges ++ [edge])
  | erase edge => if edge ∈ edges then (true, edges.filter (· ≠ edge)) else (false, edges)

/-- Makes one change after the other, starting from `start`; the answers are in the order of the changes. -/
def runAll {S : Type} (make : S → Change → Bool × S) (start : S) (changes : List Change) : List Bool × S :=
  changes.foldl (fun (answers, kept) change =>
    let (answer, later) := make kept change
    (answers ++ [answer], later)) ([], start)

theorem runAll_snoc {S : Type} (make : S → Change → Bool × S) (start : S) (changes : List Change)
    (change : Change) :
    runAll make start (changes ++ [change]) =
      ((runAll make start changes).1 ++ [(make (runAll make start changes).2 change).1],
        (make (runAll make start changes).2 change).2) := by
  unfold runAll
  rw [List.foldl_append]
  rfl

end Change

/-- What a log holds: edges that differ, each with a number of its own that was given out before, and for
every identity the numbers of the edges that touch it. An identity that no edge touches is not kept. -/
structure Holds (log : EdgeLog) (edges : List (Edge EntityId)) : Prop where
  toList : log.toList = edges
  once : edges.Nodup
  numberOf : ∀ (edge : Edge EntityId) (n : Nat), log.numberOf[edge]? = some n ↔ log.edges[n]? = some edge
  below : ∀ (n : Nat) (edge : Edge EntityId), log.edges[n]? = some edge → n < log.next
  byEndpoint : ∀ (id : EntityId) (numbers : TreeSet Nat), log.byEndpoint[id]? = some numbers →
    numbers.isEmpty = false ∧
      ∀ n : Nat, n ∈ numbers ↔ ∃ edge, log.edges[n]? = some edge ∧ edge.touches id
  untouched : ∀ id : EntityId, log.byEndpoint[id]? = none ↔ ∀ edge ∈ edges, edge.touches id = false
  contains : ∀ edge : Edge EntityId, log.contains edge ↔ edge ∈ edges
  touching : ∀ id : EntityId, log.touching id = edges.filter (·.touches id)
  size : log.size = edges.length

variable {log : EdgeLog}

theorem Agrees.untouched_iff (agrees : log.Agrees) (id : EntityId) :
    log.byEndpoint[id]? = none ↔ ∀ edge ∈ log.toList, edge.touches id = false := by
  constructor
  · intro missing edge mem
    obtain ⟨n, numbered⟩ := mem_toList.mp mem
    rw [Bool.eq_false_iff]
    intro touches
    have noted : n ∈ log.byEndpoint.getD id {} := (agrees.byEndpoint id n).mpr ⟨edge, numbered, touches⟩
    simp [Std.TreeMap.getD_eq_getD_getElem?, missing] at noted
  · intro apart
    rw [Option.eq_none_iff_forall_ne_some]
    intro numbers found
    -- A set that is kept has a number, and the edge of that number touches the identity.
    obtain ⟨n, mem⟩ := TreeSet.isEmpty_eq_false_iff_exists_mem.mp (agrees.populated id numbers found)
    have noted : n ∈ log.byEndpoint.getD id {} := by
      rwa [Std.TreeMap.getD_eq_getD_getElem?, found, Option.getD_some]
    obtain ⟨edge, numbered, touches⟩ := (agrees.byEndpoint id n).mp noted
    rw [apart edge (mem_toList.mpr ⟨n, numbered⟩)] at touches
    cases touches

theorem Agrees.holds (agrees : log.Agrees) : log.Holds log.toList where
  toList := rfl
  once := agrees.nodup
  numberOf := agrees.numberOf
  below := agrees.below
  byEndpoint id numbers found := by
    refine ⟨agrees.populated id numbers found, fun n => ?_⟩
    rw [← agrees.byEndpoint id n, Std.TreeMap.getD_eq_getD_getElem?, found, Option.getD_some]
  untouched := agrees.untouched_iff
  contains edge := agrees.contains_iff
  touching := agrees.touching_eq
  size := log.size_eq

namespace Change

/-- A change is answered alike on both sides, and the log remains that of the list. -/
theorem onLog_refines (agrees : log.Agrees) (change : Change) :
    (change.onLog log).1 = (change.onList log.toList).1 ∧ (change.onLog log).2.Agrees ∧
      (change.onLog log).2.toList = (change.onList log.toList).2 := by
  cases change with
  | insert edge =>
    by_cases present : edge ∈ log.toList
    · rw [onLog, agrees.insert_of_mem present, onList, if_pos present]
      exact ⟨rfl, agrees, rfl⟩
    · obtain ⟨grown, inserted, kept, listed⟩ := agrees.insert_of_new present
      rw [onLog, inserted, onList, if_neg present]
      exact ⟨rfl, kept, listed⟩
  | erase edge =>
    by_cases present : edge ∈ log.toList
    · obtain ⟨rest, erased, kept, listed⟩ := agrees.erase_of_mem present
      rw [onLog, erased, onList, if_pos present]
      exact ⟨rfl, kept, listed⟩
    · rw [onLog, agrees.erase_of_absent present, onList, if_neg present]
      exact ⟨rfl, agrees, rfl⟩

/-- Only an insertion gives out a number, and only one. -/
theorem next_onLog_le (log : EdgeLog) (change : Change) :
    (change.onLog log).2.next ≤ log.next + if change.isInsert then 1 else 0 := by
  cases change with
  | insert edge =>
    simp only [onLog, EdgeLog.insert, isInsert]
    split <;> simp
  | erase edge =>
    simp only [onLog, EdgeLog.erase, isInsert]
    split <;> simp

/-- Whatever is inserted and erased, and in whatever order, the log holds what the list holds; and it has
not given out more numbers than there were insertions. -/
theorem log_refines_list (changes : List Change) :
    (runAll onLog {} changes).1 = (runAll onList [] changes).1 ∧
      (runAll onLog {} changes).2.Holds (runAll onList [] changes).2 ∧
      (runAll onLog {} changes).2.next ≤ changes.countP isInsert := by
  have refines : (runAll onLog {} changes).1 = (runAll onList [] changes).1 ∧
      (runAll onLog {} changes).2.Agrees ∧
      (runAll onLog {} changes).2.toList = (runAll onList [] changes).2 ∧
      (runAll onLog {} changes).2.next ≤ changes.countP isInsert := by
    induction changes using List.reverseRecOn with
    | nil => exact ⟨rfl, Agrees.empty, rfl, Nat.le_refl _⟩
    | append_singleton changes change ih =>
      obtain ⟨answers, agrees, listed, issued⟩ := ih
      obtain ⟨answer, kept, listed_next⟩ := onLog_refines agrees change
      have issued_next := next_onLog_le (runAll onLog {} changes).2 change
      rw [listed] at answer listed_next
      rw [runAll_snoc, runAll_snoc, answers, answer, List.countP_append, List.countP_singleton]
      exact ⟨rfl, kept, listed_next, Nat.le_trans issued_next (Nat.add_le_add_right issued _)⟩
  obtain ⟨answers, agrees, listed, issued⟩ := refines
  exact ⟨answers, listed ▸ agrees.holds, issued⟩

/-- Who delegates to oneself is touched once, also after the delegation was taken back and made again. -/
example :
    let loop : Edge EntityId := .delegation ⟨0⟩ ⟨0⟩
    let other : Edge EntityId := .userRole ⟨0⟩ ⟨1⟩
    let (answers, log) := runAll onLog {} [.insert loop, .insert other, .erase loop, .insert loop, .insert loop]
    answers = [true, true, true, true, false] ∧ log.touching ⟨0⟩ = [other, loop] := by
  decide +kernel

end Change

end Entitlement.EdgeLog
