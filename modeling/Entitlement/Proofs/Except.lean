/-!
Results that are put together: one after the other, and over a list.
-/

namespace Entitlement

variable {ε α β : Type}

theorem except_bind_eq_ok {x : Except ε α} {f : α → Except ε β} {b : β} :
    x >>= f = .ok b ↔ ∃ a, x = .ok a ∧ f a = .ok b := by
  cases x with
  | error e => exact ⟨nofun, nofun⟩
  | ok a =>
    constructor
    · exact fun done => ⟨a, rfl, done⟩
    · rintro ⟨_, ⟨⟩, done⟩
      exact done

theorem except_forM_ok_iff {f : α → Except ε Unit} {list : List α} :
    list.forM f = .ok () ↔ ∀ a ∈ list, f a = .ok () := by
  induction list with
  | nil => exact ⟨fun _ => by simp, fun _ => rfl⟩
  | cons first rest ih =>
    rw [List.forM_eq_forM, List.forM_cons, ← List.forM_eq_forM, except_bind_eq_ok, List.forall_mem_cons, ← ih]
    constructor
    · rintro ⟨⟨⟩, done, rest_done⟩
      exact ⟨done, rest_done⟩
    · rintro ⟨done, rest_done⟩
      exact ⟨(), done, rest_done⟩

theorem except_forM_error {f : α → Except ε Unit} {list : List α} {e : ε} (failed : list.forM f = .error e) :
    ∃ a ∈ list, f a = .error e := by
  induction list with
  | nil => cases failed
  | cons first rest ih =>
    rw [List.forM_eq_forM, List.forM_cons, ← List.forM_eq_forM] at failed
    cases here : f first with
    | error e' =>
      rw [here] at failed
      cases failed
      exact ⟨first, List.mem_cons_self, here⟩
    | ok done =>
      rw [here] at failed
      obtain ⟨a, mem, failed_there⟩ := ih failed
      exact ⟨a, List.mem_cons_of_mem _ mem, failed_there⟩

/-- What holds of the elements done so far and of what has been made of them holds at the end, and no
step fails. -/
theorem except_foldlM_ok (inv : List α → β → Prop) {f : β → α → Except ε β} {list : List α}
    (step : ∀ done a rest b, list = done ++ a :: rest → inv done b →
      ∃ next, f b a = .ok next ∧ inv (done ++ [a]) next)
    {b : β} (start : inv [] b) : ∃ last, list.foldlM f b = .ok last ∧ inv list last := by
  have goes_on : ∀ rest done b, list = done ++ rest → inv done b →
    ∃ last, rest.foldlM f b = .ok last ∧ inv list last := by
    intro rest
    induction rest with
    | nil =>
      intro done b split held
      rw [List.append_nil] at split
      exact ⟨b, rfl, split ▸ held⟩
    | cons a rest ih =>
      intro done b split held
      obtain ⟨next, stepped, held_next⟩ := step done a rest b split held
      obtain ⟨last, folded, held_last⟩ :=
        ih (done ++ [a]) next (by rw [split, List.append_assoc, List.singleton_append]) held_next
      refine ⟨last, ?_, held_last⟩
      rw [List.foldlM_cons, stepped]
      exact folded
  exact goes_on list [] b rfl start

/-- What every step that succeeds keeps holds at the end of a fold that succeeds. -/
theorem except_foldlM_inv (inv : List α → β → Prop) {f : β → α → Except ε β} {list : List α}
    (step : ∀ done a b next, a ∈ list → inv done b → f b a = .ok next → inv (done ++ [a]) next)
    {b last : β} (start : inv [] b) (folded : list.foldlM f b = .ok last) : inv list last := by
  have goes_on : ∀ rest done b, rest ⊆ list → inv done b → rest.foldlM f b = .ok last →
      inv (done ++ rest) last := by
    intro rest
    induction rest with
    | nil =>
      intro done b _ held folded
      cases folded
      rwa [List.append_nil]
    | cons a rest ih =>
      intro done b within held folded
      rw [List.foldlM_cons, except_bind_eq_ok] at folded
      obtain ⟨next, stepped, folded⟩ := folded
      obtain ⟨mem, within⟩ := List.cons_subset.mp within
      have later := ih (done ++ [a]) next within (step done a b next mem held stepped) folded
      rwa [List.append_assoc, List.singleton_append] at later
  exact goes_on list [] b (List.Subset.refl list) start folded

end Entitlement
