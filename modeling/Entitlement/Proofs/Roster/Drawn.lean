import Entitlement.Proofs.Roster.Agreement

/-!
Rosters whose members are drawn from a source where a name belongs to one identity. Into such a roster
a further member of the source can always be added: it is there already or its name is free.
-/

namespace Entitlement

namespace Roster

variable {α : Type} [Named α]

/-- Members of the same name are of the same identity. -/
def Coherent (P : α → Prop) : Prop :=
  ∀ a b, P a → P b → (Named.record a).key = (Named.record b).key →
    (Named.record a).id = (Named.record b).id

structure Drawn (P : α → Prop) (roster : Roster α) : Prop where
  agrees : roster.Agrees
  each : ∀ member ∈ roster.toList, P member

variable {P : α → Prop} {roster : Roster α} {member : α} {id : EntityId} {name : String}

theorem coherent_of_agrees {table : Roster α} (agrees : table.Agrees) : Coherent (· ∈ table.toList) :=
  fun a b mem mem' same => by rw [agrees.eq_of_key_eq mem mem' same]

namespace Drawn

theorem empty : ({} : Roster α).Drawn P := ⟨Agrees.empty, by simp [toList]⟩

theorem mono {Q : α → Prop} (drawn : roster.Drawn P) (implies : ∀ member, P member → Q member) :
    roster.Drawn Q :=
  ⟨drawn.agrees, fun member mem => implies member (drawn.each member mem)⟩

/-- A member is told by its identity if the source tells it so. -/
theorem mem_iff (drawn : roster.Drawn P)
    (tells : ∀ a b, P a → P b → (Named.record a).id = (Named.record b).id → a = b) :
    member ∈ roster.toList ↔ P member ∧ (Named.record member).id ∈ roster.ids := by
  constructor
  · intro mem
    exact ⟨drawn.each member mem, mem_ids.mpr ⟨member, mem, rfl⟩⟩
  · rintro ⟨fits, mem⟩
    obtain ⟨held, held_mem, same⟩ := mem_ids.mp mem
    rwa [tells member held fits (drawn.each held held_mem) same.symm]

/-- A further member of the source joins the roster, at its end unless it is there already. -/
theorem join (drawn : roster.Drawn P) (coherent : Coherent P) (fits : P member) :
    ∃ grown, roster.join member = .ok grown ∧ grown.Drawn P ∧ grown.toList =
      if (Named.record member).id ∈ roster.ids then roster.toList else roster.toList ++ [member] := by
  by_cases present : (Named.record member).id ∈ roster.ids
  · refine ⟨roster, ?_, drawn, by rw [if_pos present]⟩
    rw [Roster.join, drawn.agrees.add_of_mem present]
    rfl
  · have free : (Named.record member).key ∉ roster.keys := by
      intro taken
      obtain ⟨held, mem, same⟩ := mem_keys.mp taken
      exact present (mem_ids.mpr ⟨held, mem, coherent held member (drawn.each held mem) fits same⟩)
    obtain ⟨grown, added, agrees, listed⟩ := drawn.agrees.add_of_new present free
    have joined : roster.join member = .ok grown := by
      rw [Roster.join, added]
      rfl
    refine ⟨grown, joined, ⟨agrees, fun held mem => ?_⟩, by rw [if_neg present, listed]⟩
    rw [listed, List.mem_append, List.mem_singleton] at mem
    rcases mem with mem | rfl
    · exact drawn.each held mem
    · exact fits

end Drawn

/-- The roster has members of the source, and those of the given identities. -/
structure Collects (P : α → Prop) (S : EntityId → Prop) (roster : Roster α) : Prop where
  drawn : roster.Drawn P
  ids : ∀ id, id ∈ roster.ids ↔ S id

namespace Collects

variable {S T : EntityId → Prop} {table : Roster Record}

theorem congr (collects : roster.Collects P S) (same : ∀ id, S id ↔ T id) : roster.Collects P T :=
  ⟨collects.drawn, fun id => (collects.ids id).trans (same id)⟩

theorem mono {Q : α → Prop} (collects : roster.Collects P S)
    (implies : ∀ member, P member → Q member) : roster.Collects Q S :=
  ⟨collects.drawn.mono implies, collects.ids⟩

theorem containsName_iff (collects : roster.Collects P S) (agrees : table.Agrees)
    (listed : ∀ member, P member → Named.record member ∈ table.toList) :
    roster.containsName name ↔ ∃ record ∈ table.toList, record.key = nameKey name ∧ S record.id := by
  rw [collects.drawn.agrees.containsName_iff, mem_keys]
  constructor
  · rintro ⟨member, mem, same⟩
    have held : S (Named.record member).id := (collects.ids _).mp (mem_ids.mpr ⟨member, mem, rfl⟩)
    exact ⟨Named.record member, listed member (collects.drawn.each member mem), same, held⟩
  · rintro ⟨record, mem, same, held⟩
    obtain ⟨member, member_mem, same_id⟩ := mem_ids.mp ((collects.ids record.id).mpr held)
    have equal : Named.record member = record :=
      agrees.eq_of_id_eq (listed member (collects.drawn.each member member_mem)) mem same_id
    exact ⟨member, member_mem, equal ▸ same⟩

end Collects

end Roster

end Entitlement
