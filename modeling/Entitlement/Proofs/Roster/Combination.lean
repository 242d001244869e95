import Entitlement.Proofs.Roster.Refinement

/-!
Two rosters taken together. Intersection and difference go by identity and name, and they split a roster
between them. The union goes by identity alone: it passes over a copy of one of its members under another
name, so whether it succeeds can depend on which of the rosters comes first.
-/

namespace Entitlement.Roster

variable {α : Type} [Named α] {a b roster joined : Roster α} {x : α} {id : EntityId} {e : Error}

/-- The roster has a member with the identity and the key of this one. -/
def Bears (roster : Roster α) (x : α) : Prop :=
  ∃ held ∈ roster.toList, (Named.record held).id = (Named.record x).id ∧
    (Named.record held).key = (Named.record x).key

/-- What is in both rosters has the same key in both. -/
def Accords (a b : Roster α) : Prop :=
  ∀ x ∈ a.toList, ∀ y ∈ b.toList, (Named.record x).id = (Named.record y).id →
    (Named.record x).key = (Named.record y).key

instance : Decidable (roster.Bears x) :=
  inferInstanceAs (Decidable (∃ held ∈ roster.toList, _ ∧ _))

instance : Decidable (a.Accords b) :=
  inferInstanceAs (Decidable (∀ x ∈ a.toList, ∀ y ∈ b.toList, _ → _))

theorem Accords.symm (accords : a.Accords b) : b.Accords a :=
  fun x mem y mem' same => (accords y mem' x mem same.symm).symm

theorem bears_of_mem (mem : x ∈ roster.toList) : roster.Bears x := ⟨x, mem, rfl, rfl⟩

theorem bears_congr {y : α} (id : (Named.record x).id = (Named.record y).id)
    (key : (Named.record x).key = (Named.record y).key) : roster.Bears x ↔ roster.Bears y := by
  rw [Bears, Bears, id, key]

namespace Agrees

theorem holds_iff (agrees : roster.Agrees) : roster.holds x ↔ roster.Bears x := by
  rw [agrees.holds_eq]
  simp only [Listing.holds, List.any_eq_true, decide_eq_true_eq, Bears]

/-! ### Intersection and difference -/

/-- A test that only looks at identity and key decides which members a filter still bears. -/
theorem bears_filter {keep : α → Bool} {kept : α → Prop} (tells : ∀ y, keep y ↔ kept y)
    (respects : ∀ x y, (Named.record x).id = (Named.record y).id →
      (Named.record x).key = (Named.record y).key → (kept x ↔ kept y)) :
    (roster.filter keep).Bears x ↔ roster.Bears x ∧ kept x := by
  simp only [Bears, toList_filter, List.mem_filter, tells]
  constructor
  · rintro ⟨held, ⟨mem, stays⟩, id, key⟩
    exact ⟨⟨held, mem, id, key⟩, (respects held x id key).mp stays⟩
  · rintro ⟨⟨held, mem, id, key⟩, stays⟩
    exact ⟨held, ⟨mem, (respects held x id key).mpr stays⟩, id, key⟩

theorem bears_inter (others : b.Agrees) : (a.inter b).Bears x ↔ a.Bears x ∧ b.Bears x :=
  bears_filter (fun _ => others.holds_iff) fun _ _ => bears_congr

theorem bears_diff (others : b.Agrees) : (a.diff b).Bears x ↔ a.Bears x ∧ ¬ b.Bears x := by
  have tells : ∀ y, (!b.holds y) ↔ ¬ b.Bears y := fun y => by
    rw [Bool.not_eq_true', Bool.eq_false_iff, Ne, others.holds_iff]
  exact bears_filter tells fun _ _ id key => not_congr (bears_congr id key)

theorem inter_append_diff_perm (a b : Roster α) :
    ((a.inter b).toList ++ (a.diff b).toList).Perm a.toList := by
  rw [inter, diff, toList_filter, toList_filter]
  exact List.filter_append_perm b.holds a.toList

/-! ### Union -/

theorem toList_union (agrees : a.Agrees) (others : b.Agrees) (made : a.union b = .ok joined) :
    joined.Agrees ∧ joined.toList =
      a.toList ++ b.toList.filter fun y => (Named.record y).id ∉ a.ids := by
  obtain ⟨kept, listed⟩ := agrees.union_eq others
  refine ⟨kept joined made, ?_⟩
  rw [made, Listing.union] at listed
  split at listed
  · cases listed
  · exact Except.ok.inj listed

/-- The union is refused when a member of the second roster is new to the first and its name is not. -/
theorem union_isOk_iff (agrees : a.Agrees) (others : b.Agrees) :
    (∃ joined, a.union b = .ok joined) ↔
      ∀ y ∈ b.toList, (Named.record y).key ∈ a.keys → (Named.record y).id ∈ a.ids := by
  have listed := (agrees.union_eq others).2
  have fits : (∀ y ∈ b.toList, (Named.record y).key ∈ a.keys → (Named.record y).id ∈ a.ids) ↔
      b.toList.findSome? (Listing.refusal? a.toList) = none := by
    simp only [List.findSome?_eq_none_iff, agrees.refusal?_eq_none_iff, or_iff_not_imp_right, not_not]
  rw [fits]
  unfold Listing.union at listed
  constructor
  · rintro ⟨joined, made⟩
    rw [made] at listed
    split at listed
    · cases listed
    · assumption
  · intro none_refused
    rw [none_refused] at listed
    cases made : a.union b with
    | error e =>
      rw [made] at listed
      cases listed
    | ok joined => exact ⟨joined, rfl⟩

theorem union_error (agrees : a.Agrees) (others : b.Agrees) (refused : a.union b = .error e) :
    e.category = .entityExists := by
  have listed := (agrees.union_eq others).2
  rw [refused, Listing.union] at listed
  split at listed
  · rename_i first found
    cases listed
    obtain ⟨y, -, because⟩ := List.exists_of_findSome?_eq_some found
    unfold Listing.refusal? at because
    split at because
    · cases because
    · obtain ⟨held, -, rfl⟩ := Option.map_eq_some_iff.mp because
      rfl
  · cases listed

section Union

variable (agrees : a.Agrees) (others : b.Agrees) (made : a.union b = .ok joined)
include agrees others made

theorem bears_union :
    joined.Bears x ↔ a.Bears x ∨ b.Bears x ∧ (Named.record x).id ∉ a.ids := by
  obtain ⟨-, listed⟩ := agrees.toList_union others made
  simp only [Bears, listed, List.mem_append, List.mem_filter, decide_eq_true_eq]
  constructor
  · rintro ⟨held, mem | ⟨mem, new⟩, id, key⟩
    · exact .inl ⟨held, mem, id, key⟩
    · exact .inr ⟨⟨held, mem, id, key⟩, id ▸ new⟩
  · rintro (⟨held, mem, id, key⟩ | ⟨⟨held, mem, id, key⟩, new⟩)
    · exact ⟨held, .inl mem, id, key⟩
    · exact ⟨held, .inr ⟨mem, id ▸ new⟩, id, key⟩

theorem mem_ids_union : id ∈ joined.ids ↔ id ∈ a.ids ∨ id ∈ b.ids := by
  obtain ⟨-, listed⟩ := agrees.toList_union others made
  have split : joined.ids = a.ids ++ (b.toList.filter fun y => (Named.record y).id ∉ a.ids).map
      fun y => (Named.record y).id := by
    rw [ids, listed, List.map_append]
    rfl
  rw [split, List.mem_append, List.mem_map]
  constructor
  · rintro (mem | ⟨y, mem, rfl⟩)
    · exact .inl mem
    · exact .inr (mem_ids.mpr ⟨y, (List.mem_filter.mp mem).1, rfl⟩)
  · intro mem
    by_cases present : id ∈ a.ids
    · exact .inl present
    · obtain ⟨y, held, rfl⟩ := mem_ids.mp (mem.resolve_left present)
      exact .inr ⟨y, List.mem_filter.mpr ⟨held, decide_eq_true present⟩, rfl⟩

/-- The union bears what either roster bears just if no entity is in both under different names. -/
theorem union_exact_iff : (∀ x, joined.Bears x ↔ a.Bears x ∨ b.Bears x) ↔ a.Accords b := by
  simp only [agrees.bears_union others made]
  constructor
  · intro exact x mem y mem' same
    have present : (Named.record y).id ∈ a.ids := mem_ids.mpr ⟨x, mem, same⟩
    have borne := ((exact y).mpr (.inr (bears_of_mem mem'))).resolve_right fun new => new.2 present
    obtain ⟨held, held_mem, id, key⟩ := borne
    rw [agrees.eq_of_id_eq mem held_mem (same.trans id.symm)]
    exact key
  · intro accords x
    refine or_congr_right' fun absent => ?_
    refine and_iff_left_of_imp fun ⟨y, mem, id, key⟩ present => absent ?_
    obtain ⟨held, held_mem, same⟩ := mem_ids.mp present
    exact ⟨held, held_mem, same, (accords held held_mem y mem (same.trans id.symm)).trans key⟩

end Union

/-- Two rosters that agree on what they share clash the same way in either order. -/
theorem union_isOk_comm (agrees : a.Agrees) (others : b.Agrees) (accords : a.Accords b) :
    (∃ joined, a.union b = .ok joined) → ∃ joined, b.union a = .ok joined := by
  rw [agrees.union_isOk_iff others, others.union_isOk_iff agrees]
  intro fits x mem taken
  obtain ⟨y, mem', key⟩ := mem_keys.mp taken
  obtain ⟨held, held_mem, id⟩ := mem_ids.mp (fits y mem' (mem_keys.mpr ⟨x, mem, key.symm⟩))
  have same : held = x := agrees.eq_of_key_eq held_mem mem ((accords held held_mem y mem' id).trans key)
  exact mem_ids.mpr ⟨y, mem', by rw [← id, same]⟩

theorem sameMembers_union {reversed : Roster α} (agrees : a.Agrees) (others : b.Agrees)
    (made : a.union b = .ok joined) (made' : b.union a = .ok reversed) :
    joined.sameMembers reversed = true := by
  rw [(agrees.toList_union others made).1.sameMembers_eq (others.toList_union agrees made').1]
  have same : ∀ id, id ∈ joined.ids ↔ id ∈ reversed.ids := fun id => by
    rw [agrees.mem_ids_union others made, others.mem_ids_union agrees made', or_comm]
  simp only [Listing.sameMembers, Bool.and_eq_true, List.all_eq_true, decide_eq_true_eq]
  exact ⟨fun id mem => (same id).mp mem, fun id mem => (same id).mpr mem⟩

end Agrees

/-- What the operations on two rosters make of them. -/
structure Combines (a b : Roster α) : Prop where
  inter : ∀ x, (a.inter b).Bears x ↔ a.Bears x ∧ b.Bears x
  diff : ∀ x, (a.diff b).Bears x ↔ a.Bears x ∧ ¬ b.Bears x
  parts : ((a.inter b).toList ++ (a.diff b).toList).Perm a.toList
  apart : ∀ x, ¬ ((a.inter b).Bears x ∧ (a.diff b).Bears x)
  succeeds : (∃ joined, a.union b = .ok joined) ↔
    ∀ y ∈ b.toList, (Named.record y).key ∈ a.keys → (Named.record y).id ∈ a.ids
  refused : ∀ e, a.union b = .error e → e.category = .entityExists
  union : ∀ joined, a.union b = .ok joined → joined.Agrees ∧
    (∀ id, id ∈ joined.ids ↔ id ∈ a.ids ∨ id ∈ b.ids) ∧
    (∀ x, joined.Bears x ↔ a.Bears x ∨ b.Bears x ∧ (Named.record x).id ∉ a.ids) ∧
    ((∀ x, joined.Bears x ↔ a.Bears x ∨ b.Bears x) ↔ a.Accords b)
  symmetric : a.Accords b → ((∃ joined, a.union b = .ok joined) ↔ ∃ joined, b.union a = .ok joined)
  same : ∀ joined reversed, a.union b = .ok joined → b.union a = .ok reversed →
    joined.sameMembers reversed = true

/-- The operations fit together, except that a union passes over the copies of its own members: it bears
what either roster bears, and succeeds in either order, if copies of one entity have one name. -/
theorem Agrees.combination_exact (agrees : a.Agrees) (others : b.Agrees) : a.Combines b where
  inter _ := bears_inter others
  diff _ := bears_diff others
  parts := inter_append_diff_perm a b
  apart _ := fun ⟨both, one⟩ => ((bears_diff others).mp one).2 ((bears_inter others).mp both).2
  succeeds := agrees.union_isOk_iff others
  refused _ := agrees.union_error others
  union _ made := ⟨(agrees.toList_union others made).1, fun _ => agrees.mem_ids_union others made,
    fun _ => agrees.bears_union others made, agrees.union_exact_iff others made⟩
  symmetric accords :=
    ⟨agrees.union_isOk_comm others accords, others.union_isOk_comm agrees accords.symm⟩
  same _ _ := agrees.sameMembers_union others

/-- The first roster has `a` for another entity than the second, but knows the one of the second as `b`:
the union succeeds, loses that copy, and fails the other way round. -/
theorem union_passes_over_copy :
    let a : Roster Record := ofDistinct #[⟨⟨1⟩, "b"⟩, ⟨⟨2⟩, "a"⟩]
    let b : Roster Record := ofDistinct #[⟨⟨1⟩, "a"⟩]
    a.Agrees ∧ b.Agrees ∧ a.Combines b ∧ ¬ a.Accords b ∧ b.Bears (⟨⟨1⟩, "a"⟩ : Record) ∧
      (∃ joined, a.union b = .ok joined ∧ ¬ joined.Bears (⟨⟨1⟩, "a"⟩ : Record)) ∧
      ¬ ∃ joined, b.union a = .ok joined := by
  intro a b
  have agrees : a.Agrees := Agrees.ofDistinct (by decide) (by decide +kernel)
  have others : b.Agrees := Agrees.ofDistinct (by decide) (by decide)
  have combines : a.Combines b := agrees.combination_exact others
  have reversed : b.Combines a := others.combination_exact agrees
  obtain ⟨joined, made⟩ := combines.succeeds.mpr (by decide +kernel)
  have lost : ¬ joined.Bears (⟨⟨1⟩, "a"⟩ : Record) := by
    rw [(combines.union joined made).2.2.1]
    decide +kernel
  refine ⟨agrees, others, combines, by decide +kernel, by decide +kernel, ⟨joined, made, lost⟩, ?_⟩
  rw [reversed.succeeds]
  decide +kernel

end Entitlement.Roster
