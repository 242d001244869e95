import Mathlib.Data.List.Basic
import Entitlement.EdgeLog

/-!
The four parts of an edge log agree: numbers lead to edges and edges to their numbers, no number is
given out twice, and an identity leads to the numbers of the edges that touch it. Under the agreement
the log is the list of its edges: to insert is to append, to erase is to filter, and the edges that
touch an identity are a filter of the list.
-/

namespace Entitlement

open Std (TreeMap TreeSet)

/-! ### Lists with ascending keys -/

theorem eq_of_ascending {α : Type} {number : α → Nat} {a b : List α}
    (left : a.Pairwise (number · < number ·)) (right : b.Pairwise (number · < number ·))
    (same : ∀ x, x ∈ a ↔ x ∈ b) : a = b := by
  have distinct : ∀ {l : List α}, l.Pairwise (number · < number ·) → l.Nodup :=
    List.Pairwise.imp fun below equal => absurd (congrArg number equal) (by omega)
  refine List.Perm.eq_of_pairwise (fun x y _ _ below above => ?_) left right
    ((List.perm_ext_iff_of_nodup (distinct left) (distinct right)).mpr same)
  omega

theorem toList_ascending {β : Type} (t : TreeMap Nat β) : t.toList.Pairwise (·.1 < ·.1) :=
  TreeMap.ordered_keys_toList.imp fun less => Nat.compare_eq_lt.mp less

theorem numbers_ascending (t : TreeSet Nat) : t.toList.Pairwise (· < ·) :=
  TreeSet.ordered_toList.imp fun less => Nat.compare_eq_lt.mp less

theorem mem_entries {β : Type} {t : TreeMap Nat β} {n : Nat} {b : β} :
    (n, b) ∈ t.toList ↔ t[n]? = some b :=
  TreeMap.mem_toList_iff_getElem?_eq_some

theorem toList_insert_last {β : Type} {t : TreeMap Nat β} {n : Nat} (b : β)
    (below : ∀ k c, t[k]? = some c → k < n) :
    (t.insert n b).toList = t.toList ++ [(n, b)] := by
  refine eq_of_ascending (toList_ascending _) ?_ fun ⟨k, c⟩ => ?_
  · rw [List.pairwise_append]
    refine ⟨toList_ascending t, List.pairwise_singleton .., fun (k, c) mem entry last => ?_⟩
    obtain rfl := List.mem_singleton.mp last
    exact below k c (mem_entries.mp mem)
  · rw [mem_entries, List.mem_append, mem_entries, List.mem_singleton, TreeMap.getElem?_insert]
    by_cases same : n = k
    · subst same
      have vacant : t[n]? ≠ some c := fun found => absurd (below n c found) (by omega)
      simp [vacant, eq_comm]
    · simp [same, Ne.symm same]

theorem toList_erase {β : Type} (t : TreeMap Nat β) (n : Nat) :
    (t.erase n).toList = t.toList.filter (·.1 ≠ n) := by
  refine eq_of_ascending (toList_ascending _) ((toList_ascending t).filter _) fun ⟨k, c⟩ => ?_
  rw [mem_entries, List.mem_filter, mem_entries, TreeMap.getElem?_erase]
  by_cases same : n = k
  · simp [same]
  · simp [same, Ne.symm same]

theorem Edge.touches_iff {edge : Edge EntityId} {id : EntityId} :
    edge.touches id ↔ ∃ kind, (kind, id) ∈ edge.endpoints := by
  simp [touches]

namespace EdgeLog

/-! ### The index of endpoints -/

variable {index : EndpointIndex} {id other : EntityId} {number n : Nat}

theorem mem_note : n ∈ (note index other number).getD id {} ↔
    (id = other ∧ n = number) ∨ n ∈ index.getD id {} := by
  rw [note, TreeMap.getD_insert]
  by_cases same : other = id
  · subst same
    simp [TreeSet.mem_insert, eq_comm (a := n)]
  · simp [same, Ne.symm same]

theorem mem_forget :
    n ∈ (forget index other number).getD id {} ↔ n ∈ index.getD id {} ∧ ¬ (id = other ∧ n = number) := by
  unfold forget
  split
  · rename_i missing
    by_cases same : id = other
    · subst same
      simp [TreeMap.getD_eq_getD_getElem?, missing]
    · simp [same]
  · rename_i numbers found
    by_cases same : other = id
    · subst same
      rw [TreeMap.getD_eq_getD_getElem? (t := index), found, Option.getD_some]
      dsimp only
      split
      · rename_i vacant
        have none_left : ¬ n ∈ numbers.erase number := fun mem =>
          absurd (TreeSet.isEmpty_eq_false_iff_exists_mem.mpr ⟨n, mem⟩) (by simp [vacant])
        simp only [TreeSet.mem_erase, ne_eq, Nat.compare_eq_eq] at none_left
        simp only [TreeMap.getD_erase_self, TreeSet.not_mem_emptyc, true_and, false_iff]
        rintro ⟨mem, differ⟩
        exact none_left ⟨fun eq => differ eq.symm, mem⟩
      · simp [TreeSet.mem_erase, eq_comm (a := n), and_comm]
    · dsimp only
      split <;> simp [TreeMap.getD_erase, TreeMap.getD_insert, same, Ne.symm same]

theorem mem_foldl_note (ends : List (Kind × EntityId)) :
    n ∈ (ends.foldl (fun index (_, id) => note index id number) index).getD id {} ↔
      (n = number ∧ ∃ kind, (kind, id) ∈ ends) ∨ n ∈ index.getD id {} := by
  induction ends generalizing index with
  | nil => simp
  | cons first rest ih =>
    rw [List.foldl_cons, ih, mem_note]
    simp only [List.mem_cons, Prod.ext_iff, exists_or]
    grind

theorem mem_foldl_forget (ends : List (Kind × EntityId)) :
    n ∈ (ends.foldl (fun index (_, id) => forget index id number) index).getD id {} ↔
      n ∈ index.getD id {} ∧ ¬ (n = number ∧ ∃ kind, (kind, id) ∈ ends) := by
  induction ends generalizing index with
  | nil => simp
  | cons first rest ih =>
    rw [List.foldl_cons, ih, mem_forget]
    simp only [List.mem_cons, Prod.ext_iff, exists_or]
    grind

/-- No identity is kept without a number. -/
def Populated (index : EndpointIndex) : Prop :=
  ∀ (id : EntityId) (numbers : TreeSet Nat), index[id]? = some numbers → numbers.isEmpty = false

theorem populated_note (populated : Populated index) (other : EntityId) (number : Nat) :
    Populated (note index other number) := by
  intro id numbers found
  rw [note, TreeMap.getElem?_insert] at found
  split at found
  · cases found
    exact TreeSet.isEmpty_insert
  · exact populated id numbers found

theorem populated_forget (populated : Populated index) (other : EntityId) (number : Nat) :
    Populated (forget index other number) := by
  unfold forget
  split
  · exact populated
  · dsimp only
    split <;> rename_i vacant <;> intro id numbers found
    · rw [TreeMap.getElem?_erase] at found
      split at found
      · cases found
      · exact populated id numbers found
    · rw [TreeMap.getElem?_insert] at found
      split at found
      · cases found
        exact Bool.eq_false_iff.mpr vacant
      · exact populated id numbers found

theorem populated_foldl (step : EndpointIndex → EntityId → EndpointIndex)
    (keeps : ∀ index id, Populated index → Populated (step index id)) (populated : Populated index)
    (ends : List (Kind × EntityId)) : Populated
      (ends.foldl (fun index (_, id) => step index id) index) := by
  induction ends generalizing index with
  | nil => exact populated
  | cons first rest ih => exact ih (keeps index first.2 populated)

/-! ### The log -/

variable {log : EdgeLog} {edge : Edge EntityId}

/-- The indexes of the log tell the same as its edges by number. -/
structure Agrees (log : EdgeLog) : Prop where
  numberOf : ∀ (edge : Edge EntityId) (n : Nat), log.numberOf[edge]? = some n ↔ log.edges[n]? = some edge
  below : ∀ (n : Nat) (edge : Edge EntityId), log.edges[n]? = some edge → n < log.next
  byEndpoint : ∀ (id : EntityId) (n : Nat),
    n ∈ log.byEndpoint.getD id {} ↔ ∃ edge, log.edges[n]? = some edge ∧ edge.touches id
  populated : Populated log.byEndpoint

theorem mem_toList : edge ∈ log.toList ↔ ∃ n : Nat, log.edges[n]? = some edge := by
  simp [toList]

theorem size_eq (log : EdgeLog) : log.size = log.toList.length := by
  rw [size, toList, List.length_map, TreeMap.length_toList]

namespace Agrees

theorem empty : ({} : EdgeLog).Agrees where
  numberOf := by simp
  below := by simp
  byEndpoint := by simp
  populated := by simp [Populated]

theorem contains_iff (agrees : log.Agrees) : log.contains edge ↔ edge ∈ log.toList := by
  rw [contains, TreeMap.contains_eq_isSome_getElem?, Option.isSome_iff_exists, mem_toList]
  simp only [agrees.numberOf]

theorem nodup (agrees : log.Agrees) : log.toList.Nodup := by
  rw [toList, List.Nodup, List.pairwise_map]
  refine (toList_ascending log.edges).imp_of_mem fun {a b} mem mem' below same => ?_
  have first := (agrees.numberOf _ _).mpr (mem_entries.mp (show (a.1, a.2) ∈ _ from mem))
  have second := (agrees.numberOf _ _).mpr (mem_entries.mp (show (b.1, b.2) ∈ _ from mem'))
  rw [same] at first
  have equal : a.1 = b.1 := Option.some.inj (first.symm.trans second)
  omega

/-! ### Inserting -/

theorem insert_of_mem (agrees : log.Agrees) (present : edge ∈ log.toList) :
    log.insert edge = (false, log) := by
  rw [insert, if_pos (agrees.contains_iff.mpr present)]

theorem insert_of_new (agrees : log.Agrees) (absent : edge ∉ log.toList) :
    ∃ grown, log.insert edge = (true, grown) ∧ grown.Agrees ∧ grown.toList = log.toList ++ [edge] := by
  have unnumbered : ∀ n : Nat, log.edges[n]? ≠ some edge :=
    fun n found => absent (mem_toList.mpr ⟨n, found⟩)
  have fresh : ∀ e, log.edges[log.next]? ≠ some e :=
    fun e found => Nat.lt_irrefl _ (agrees.below _ e found)
  let grown : EdgeLog := {
    next := log.next + 1
    edges := log.edges.insert log.next edge
    numberOf := log.numberOf.insert edge log.next
    byEndpoint := edge.endpoints.foldl (fun index (_, id) => note index id log.next) log.byEndpoint }
  have inserted : log.insert edge = (true, grown) := by
    rw [insert, if_neg (mt agrees.contains_iff.mp absent)]
  refine ⟨grown, inserted, ?_, by simp [grown, toList, toList_insert_last edge agrees.below]⟩
  constructor
  · intro e n
    have law := agrees.numberOf e n
    simp only [grown, TreeMap.getElem?_insert, Std.compare_eq_iff_eq]
    grind
  · intro n e found
    have law := agrees.below n e
    simp only [grown, TreeMap.getElem?_insert, Std.compare_eq_iff_eq] at found ⊢
    grind
  · intro id n
    simp only [grown, mem_foldl_note, agrees.byEndpoint, TreeMap.getElem?_insert, Std.compare_eq_iff_eq,
      ← Edge.touches_iff]
    grind
  · exact populated_foldl (note · · log.next) (fun _ id kept =>
      populated_note kept id _) agrees.populated _

/-! ### Erasing -/

theorem erase_of_absent (agrees : log.Agrees) (absent : edge ∉ log.toList) :
    log.erase edge = (false, log) := by
  have unnumbered : log.numberOf[edge]? = none := Option.eq_none_iff_forall_ne_some.mpr fun n found =>
    absent (mem_toList.mpr ⟨n, (agrees.numberOf edge n).mp found⟩)
  rw [erase, unnumbered]

theorem erase_of_mem (agrees : log.Agrees) (present : edge ∈ log.toList) :
    ∃ rest, log.erase edge = (true, rest) ∧ rest.Agrees ∧
      rest.toList = log.toList.filter (· ≠ edge) := by
  obtain ⟨number, found⟩ := mem_toList.mp present
  have only : ∀ n : Nat, log.edges[n]? = some edge → n = number := fun n other =>
    Option.some.inj (((agrees.numberOf edge n).mpr other).symm.trans
      ((agrees.numberOf edge number).mpr found))
  let rest : EdgeLog := {
    next := log.next
    edges := log.edges.erase number
    numberOf := log.numberOf.erase edge
    byEndpoint := edge.endpoints.foldl (fun index (_, id) => forget index id number) log.byEndpoint }
  have erased : log.erase edge = (true, rest) := by
    rw [erase, (agrees.numberOf edge number).mpr found]
  refine ⟨rest, erased, ?_, ?_⟩
  · constructor
    · intro e n
      have law := agrees.numberOf e n
      have law' := agrees.numberOf e number
      simp only [rest, TreeMap.getElem?_erase, Std.compare_eq_iff_eq]
      grind
    · intro n e kept
      have law := agrees.below n e
      simp only [rest, TreeMap.getElem?_erase, Std.compare_eq_iff_eq] at kept
      grind
    · intro id n
      simp only [rest, mem_foldl_forget, agrees.byEndpoint, TreeMap.getElem?_erase,
        Std.compare_eq_iff_eq,
        ← Edge.touches_iff]
      grind
    · exact populated_foldl (forget · · number)
        (fun _ id kept => populated_forget kept id _) agrees.populated _
  · rw [toList, toList, toList_erase, List.filter_map]
    refine congrArg _ (List.filter_congr fun (n, e) mem => decide_eq_decide.mpr (not_congr ⟨?_, ?_⟩))
    · rintro rfl
      exact Option.some.inj ((mem_entries.mp mem).symm.trans found)
    · rintro rfl
      exact only n (mem_entries.mp mem)

theorem erase (agrees : log.Agrees) (edge : Edge EntityId) :
    (log.erase edge).2.Agrees ∧ (log.erase edge).2.toList = log.toList.filter (· ≠ edge) := by
  by_cases present : edge ∈ log.toList
  · obtain ⟨rest, eq, kept, listed⟩ := agrees.erase_of_mem present
    rw [eq]
    exact ⟨kept, listed⟩
  · rw [agrees.erase_of_absent present]
    refine ⟨agrees, (List.filter_eq_self.mpr fun e mem => decide_eq_true ?_).symm⟩
    rintro rfl
    exact present mem

theorem eraseAll (agrees : log.Agrees) (edges : List (Edge EntityId)) :
    (log.eraseAll edges).Agrees ∧ (log.eraseAll edges).toList = log.toList.filter (· ∉ edges) := by
  induction edges generalizing log with
  | nil => exact ⟨agrees, (List.filter_eq_self.mpr fun e _ => by simp).symm⟩
  | cons edge edges ih =>
    obtain ⟨kept, listed⟩ := agrees.erase edge
    obtain ⟨after, listed'⟩ := ih kept
    refine ⟨after, listed'.trans ?_⟩
    rw [listed, List.filter_filter]
    exact List.filter_congr fun e _ => by simp [Bool.and_comm]

/-! ### The edges that touch an identity -/

theorem touching_eq (agrees : log.Agrees) (id : EntityId) :
    log.touching id = log.toList.filter (·.touches id) := by
  have numbers : (log.byEndpoint.getD id {}).toList =
    (log.edges.toList.filter (·.2.touches id)).map (·.1) := by
    refine @eq_of_ascending Nat (fun n => n) _ _ (numbers_ascending _) ?_ fun n => ?_
    · exact List.pairwise_map.mpr ((toList_ascending log.edges).filter _)
    · rw [TreeSet.mem_toList, agrees.byEndpoint]
      simp
  have looked_up : log.touching id = (log.byEndpoint.getD id {}).toList.filterMap (log.edges[·]?) := by
    rw [touching, TreeMap.getD_eq_getD_getElem?]
    cases log.byEndpoint[id]? <;> rfl
  rw [looked_up, numbers, List.filterMap_map, toList, List.filter_map, ← List.filterMap_eq_map]
  exact List.filterMap_congr fun (n, e) mem => mem_entries.mp (List.mem_filter.mp mem).1

end Agrees

end EdgeLog

end Entitlement
