import Entitlement.Proofs.Roster.Drawn

/-!
Rosters in the making, in order. Members join at the end and only once, so the order of a roster is that of
the first times its members came.
-/

namespace Entitlement

theorem eraseDups_snoc {α : Type} [DecidableEq α] (list : List α) (a : α) :
    (list ++ [a]).eraseDups = if a ∈ list then list.eraseDups else list.eraseDups ++ [a] := by
  rw [List.eraseDups_append]
  by_cases mem : a ∈ list <;> simp [List.removeAll, mem, List.eraseDups_cons]

namespace Roster

variable {α : Type} [Named α] {P : α → Prop} {roster : Roster α} {member : α} {ids : List EntityId}

/-- The roster has members of the source, in the order in which their identities first came. -/
structure Arranges (P : α → Prop) (ids : List EntityId) (roster : Roster α) : Prop where
  drawn : roster.Drawn P
  ids : roster.ids = ids.eraseDups

namespace Arranges

theorem empty (P : α → Prop) : ({} : Roster α).Arranges P [] := ⟨Drawn.empty, rfl⟩

theorem collects (arranges : roster.Arranges P ids) : roster.Collects P (· ∈ ids) :=
  ⟨arranges.drawn, fun id => by rw [arranges.ids, List.mem_eraseDups]⟩

theorem join (arranges : roster.Arranges P ids) (coherent : Coherent P) (fits : P member) :
    ∃ grown, roster.join member = .ok grown ∧ grown.Arranges P (ids ++ [(Named.record member).id]) := by
  obtain ⟨grown, joined, drawn, listed⟩ := arranges.drawn.join coherent fits
  refine ⟨grown, joined, drawn, ?_⟩
  have grown_ids : grown.ids =
      if (Named.record member).id ∈ roster.ids then roster.ids else roster.ids ++ [(Named.record member).id] := by
    unfold Roster.ids at listed ⊢
    rw [listed]
    split
    · rfl
    · rw [List.map_append, List.map_singleton]
  rw [grown_ids, eraseDups_snoc, arranges.ids]
  simp only [List.mem_eraseDups]

theorem joinAll (arranges : roster.Arranges P ids) (coherent : Coherent P) {members : List α}
    (fit : ∀ member ∈ members, P member) : ∃ grown, roster.joinAll members = .ok grown ∧
      grown.Arranges P (ids ++ members.map fun member => (Named.record member).id) := by
  induction members generalizing roster ids with
  | nil => exact ⟨roster, rfl, by simpa using arranges⟩
  | cons member members ih =>
    obtain ⟨fits, fit⟩ := List.forall_mem_cons.mp fit
    obtain ⟨next, joined, next_arranges⟩ := arranges.join coherent fits
    obtain ⟨grown, rest, grown_arranges⟩ := ih next_arranges fit
    refine ⟨grown, ?_, by simpa using grown_arranges⟩
    rw [Roster.joinAll, List.foldlM_cons, joined]
    exact rest

/-- The records of the members are those of their identities in the table that they are from. -/
theorem records (arranges : roster.Arranges P ids) {table : Roster Record} (agrees : table.Agrees)
    (listed : ∀ member, P member → Named.record member ∈ table.toList) :
    (roster.toList.map Named.record).map some = ids.eraseDups.map table.get? := by
  rw [← arranges.ids, Roster.ids, List.map_map, List.map_map]
  refine List.map_congr_left fun member mem => ?_
  have stored := listed member (arranges.drawn.each member mem)
  exact (agrees.get?_eq_some_iff.mpr ⟨stored, rfl⟩).symm

theorem records_eq {other : Roster α} {Q : α → Prop} (arranges : roster.Arranges P ids)
    (arranges' : other.Arranges Q ids) {table : Roster Record} (agrees : table.Agrees)
    (listed : ∀ member, P member → Named.record member ∈ table.toList)
    (listed' : ∀ member, Q member → Named.record member ∈ table.toList) :
    roster.toList.map Named.record = other.toList.map Named.record := by
  have same := (arranges.records agrees listed).trans (arranges'.records agrees listed').symm
  exact (List.map_inj_right fun _ _ => Option.some.inj).mp same

end Arranges

end Roster

end Entitlement
