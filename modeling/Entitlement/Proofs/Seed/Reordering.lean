import Mathlib.Algebra.GroupWithZero.Nat
import Entitlement.Proofs.Seed.Application

/-!
The order of the grants in a seed. What a seed is refused for is found by going over all of it, and what a
name in a grant leads to does not depend on the grants before; so only the order of the new edges tells in which
order they were granted.
-/

namespace Entitlement

open Entitlement.Action

/-- The stores differ at most in the order of their edges. -/
structure Store.Reorders (store other : Store) : Prop where
  edges : store.edges.toList.Perm other.edges.toList
  rest : other = { store with edges := other.edges }

namespace Seed

/-- Both fail for reasons of one category and change nothing, or both succeed with one summary and leave stores
that differ at most in the order of their edges. -/
inductive Coincide (store : Store) : Except Error SeedSummary → Store → Except Error SeedSummary → Store → Prop where
  | refused {e e' : Error} (category : e.category = e'.category) : Coincide store (.error e) store (.error e') store
  | applied {summary : SeedSummary} {later later' : Store} (reorders : later.Reorders later') :
    Coincide store (.ok summary) later (.ok summary) later'

variable {seed : Seed} {settings : Settings} {model : Model} {store later : Store}

/-! ### What the seed is refused for -/

section Refusals

variable {grants : List GrantLine} (reordered : seed.grants.Perm grants)
include reordered

theorem granted_perm : seed.granted.Perm { seed with grants }.granted := reordered.filterMap _

theorem faulty_reordered : { seed with grants }.Faulty ↔ seed.Faulty :=
  or_congr Iff.rfl (exists_congr fun line => and_congr_left' (reordered.mem_iff (a := line)).symm)

theorem unsupported_reordered : { seed with grants }.Unsupported model ↔ seed.Unsupported model :=
  exists_congr fun _ => and_congr_left' (granted_perm reordered).mem_iff.symm

theorem dangling_reordered : { seed with grants }.Dangling store ↔ seed.Dangling store :=
  exists_congr fun _ => and_congr_left' (granted_perm reordered).mem_iff.symm

end Refusals

/-! ### The requests before anything is written -/

/-- Over the store the action does nothing but send so many requests. -/
def Costs (settings : Settings) (store : Store) (action : Action Unit) (sent : Nat) : Prop :=
  ∀ state : State, state.store = store →
    action.run { settings } state = (.ok (), { state with requests := state.requests + sent })

theorem costs_forM {ι : Type} {f : ι → Action Unit} {sent : ι → Nat} {list : List ι}
    (each : ∀ a ∈ list, Costs settings store (f a) (sent a)) :
    Costs settings store (list.forM f) (list.map sent).sum := by
  induction list with
  | nil =>
    intro state same
    rfl
  | cons first rest ih =>
    rw [List.forall_mem_cons] at each
    intro state same
    have ran := ih each.2 { state with requests := state.requests + sent first } same
    rw [List.forM_eq_forM] at ran ⊢
    rw [List.forM_cons, run_bind, each.1 state same, List.map_cons, List.sum_cons, ← Nat.add_assoc]
    exact ran

/-- How often the check of an edge's names looks into the store: once for each name that is not listed. -/
def lookups (seed : Seed) (edge : Edge String) : Nat :=
  (edge.endpoints.map fun (kind, name) => if seed.lists kind name then 0 else 1).sum

theorem costs_checkReference {kind : Kind} {name : String} (accepted : seed.checked store kind name = .ok ()) :
    Costs settings store (seed.checkReference kind name) (if seed.lists kind name then 0 else 1) := by
  rintro state rfl
  unfold checkReference
  unfold checked at accepted
  cases listed : seed.lists kind name with
  | true => rfl
  | false =>
    have answered : state.store.answer (.findNamed kind name) =
      (.ok ((state.store.table kind).named? name), state.store) := rfl
    cases found : (state.store.table kind).named? name with
    | none =>
      rw [listed, found] at accepted
      cases accepted
    | some record =>
      rw [found] at answered
      simp [run_bind, run_ask_of_ok state settings answered]

theorem costs_checkReferences {edges : List (Edge String)} (accepted : seed.checkedAll store edges = .ok ()) :
    Costs settings store (seed.checkReferences edges) (edges.map seed.lookups).sum := by
  rw [checkedAll, except_forM_ok_iff] at accepted
  apply costs_forM
  intro edge mem
  apply costs_forM
  intro end' at_end
  exact costs_checkReference (except_forM_ok_iff.mp (accepted edge mem) end' at_end)

/-! ### Two orders -/

/-- What is left to do for a seed that is not refused. -/
def fill (seed : Seed) (model : Model) : Action SeedSummary := do
  let entities ← seed.addEntities
  let grants ← addGrants model seed.granted
  return { entities, grants }

theorem run_apply_of_known (sound : store.Sound settings.model) (sane : ¬ seed.Faulty)
    (supported : ¬ seed.Unsupported settings.model) (known : ¬ seed.Dangling store) {state : State}
    (same : state.store = store) : seed.apply.run { settings } state = (seed.fill settings.model).run { settings }
      { state with requests := state.requests + (seed.granted.map seed.lookups).sum } := by
  have checks : Costs settings store _ _ := costs_checkReferences ((checkedAll_eq_ok_iff sound).mpr known)
  rw [apply, run_bind, run_settings]
  simp only [run_bind, run_liftExcept, validateFor_eq_ok sane supported, edges_eq_ok sane, checks state same, fill]

theorem run_fill {state between : State} {entities : Nat}
    (added : seed.addEntities.run { settings } state = (.ok entities, between)) :
    (seed.fill settings.model).run { settings } state =
      ((fun grants => { entities, grants }) <$> addGrants settings.model seed.granted).run { settings } between := by
  rw [fill, run_bind, added]
  rfl

/-- The edges lead to the same records, whatever the order, so the same of them are new. -/
theorem Connects.reorders {populated later' : Store} {edges edges' : List (Edge String)}
    (reordered : edges.Perm edges') (connects : Connects settings populated edges later)
    (connects' : Connects settings populated edges' later') : later.Reorders later' := by
  have prepared : populated.prepared settings edges' = populated.prepared settings edges := by
    unfold Store.prepared
    simp only [reordered.mem_iff]
  have rest : later' = { later with edges := later'.edges } := by
    rw [connects.withEdges, ← prepared]
    exact connects'.withEdges
  have resolved : ∀ edge, later'.resolve? settings edge = later.resolve? settings edge := by
    intro edge
    rw [rest]
    unfold Store.resolve?
    simp only [Store.table_withGraph]
  refine ⟨(List.perm_ext_iff_of_nodup connects.sound.log.nodup connects'.sound.log.nodup).mpr fun id => ?_, rest⟩
  rw [connects.edges, connects'.edges]
  simp only [resolved, reordered.mem_iff]

theorem fill_reordered (sound : store.Sound settings.model) (visible : Text.blank settings.globalGroup = false)
    (sane : ¬ seed.Faulty) (supported : ¬ seed.Unsupported settings.model) (known : ¬ seed.Dangling store)
    {grants : List GrantLine} (reordered : seed.grants.Perm grants) {state : State} (same : state.store = store) :
    Coincide store ((seed.fill settings.model).run { settings } state).1
      ((seed.fill settings.model).run { settings } state).2.store
      (({ seed with grants }.fill settings.model).run { settings } state).1
      (({ seed with grants }.fill settings.model).run { settings } state).2.store := by
  have added := (leaves_addEntities sound (names_visible sane) state same).2
  rcases ran : seed.addEntities.run { settings } state with ⟨result, between⟩
  rw [ran] at added
  obtain ⟨entities, rfl, counted⟩ := added
  have populates := counted.populates
  have ran' : { seed with grants }.addEntities.run { settings } state = (.ok entities, between) := ran
  have granted := granted_perm reordered
  have seedable := seedable_of_supported supported
  have found := populates.known known
  obtain ⟨-, count, done, connects, size⟩ :=
    leaves_addGrants populates.sound visible seedable found between rfl
  obtain ⟨-, count', done', connects', size'⟩ :=
    leaves_addGrants populates.sound visible (fun edge mem => seedable edge (granted.mem_iff.mpr mem))
      (fun edge mem => found edge (granted.mem_iff.mpr mem)) between rfl
  have reorders := connects.reorders granted connects'
  have equal : count' = count := by
    have length := reorders.edges.length_eq
    rw [← EdgeLog.size_eq, ← EdgeLog.size_eq, size, size'] at length
    omega
  rw [run_fill ran, run_fill ran', run_map, run_map]
  simp only [done, done', equal]
  exact .applied reorders

theorem apply_reordered (sound : store.Sound settings.model) (visible : Text.blank settings.globalGroup = false)
    {grants : List GrantLine} (reordered : seed.grants.Perm grants) {state : State} (same : state.store = store) :
    Coincide store (seed.apply.run { settings } state).1 (seed.apply.run { settings } state).2.store
      ({ seed with grants }.apply.run { settings } state).1
      ({ seed with grants }.apply.run { settings } state).2.store := by
  have first := (leaves_apply sound visible seed state same).2
  have second := (leaves_apply sound visible { seed with grants } state same).2
  by_cases faulty : seed.Faulty
  · obtain ⟨e, failed, category, unchanged⟩ := first.of_faulty faulty
    obtain ⟨e', failed', category', unchanged'⟩ := second.of_faulty ((faulty_reordered reordered).mpr faulty)
    rw [failed, unchanged, failed', unchanged']
    exact .refused (category.trans category'.symm)
  have faulty' := mt (faulty_reordered reordered).mp faulty
  by_cases unsupported : seed.Unsupported settings.model
  · obtain ⟨e, failed, category, unchanged⟩ := first.of_unsupported faulty unsupported
    obtain ⟨e', failed', category', unchanged'⟩ :=
      second.of_unsupported faulty' ((unsupported_reordered reordered).mpr unsupported)
    rw [failed, unchanged, failed', unchanged']
    exact .refused (category.trans category'.symm)
  have supported' := mt (unsupported_reordered reordered).mp unsupported
  by_cases dangling : seed.Dangling store
  · obtain ⟨e, failed, category, unchanged⟩ := first.of_dangling faulty unsupported dangling
    obtain ⟨e', failed', category', unchanged'⟩ :=
      second.of_dangling faulty' supported' ((dangling_reordered reordered).mpr dangling)
    rw [failed, unchanged, failed', unchanged']
    exact .refused (category.trans category'.symm)
  have known' := mt (dangling_reordered reordered).mp dangling
  -- Both runs look up as many names, so they go on from the same state.
  have sent : ({ seed with grants }.granted.map { seed with grants }.lookups).sum =
      (seed.granted.map seed.lookups).sum := ((granted_perm reordered).map seed.lookups).sum_nat.symm
  rw [run_apply_of_known sound faulty unsupported dangling same, run_apply_of_known sound faulty' supported' known' same, sent]
  exact fill_reordered sound visible faulty unsupported dangling reordered same

end Seed

namespace Service

variable {service : Service}

/-- Two seeds that differ only in the order of their grants come to the same. -/
theorem Reachable.grants_commute (reachable : service.Reachable) (seed : Seed) {grants : List GrantLine}
    (reordered : seed.grants.Perm grants) :
    Seed.Coincide service.state.store (service.run seed.apply).1 (service.run seed.apply).2.state.store
      (service.run { seed with grants }.apply).1 (service.run { seed with grants }.apply).2.state.store :=
  Seed.apply_reordered reachable.sound reachable.globalGroup_visible reordered rfl

/-- A grant to a user as such, which makes the global group, and one that names the group itself. -/
theorem grants_commute_around_group :
    let first : GrantLine := { user := some "ann", role := some "clerk" }
    let second : GrantLine := { user := some "ann", group := some "Global", role := some "auditor" }
    let seed : Seed :=
      { users := [⟨"ann", "pw"⟩], groups := ["global"], roles := ["clerk", "auditor"], grants := [first, second] }
    let other : Seed := { seed with grants := [second, first] }
    let service : Service := ⟨{ model := .turbine }, {}⟩
    (service.run seed.apply).1 = .ok { entities := 4, grants := 2 } ∧
      (service.run seed.apply).2.state.store.edges.toList ≠ (service.run other.apply).2.state.store.edges.toList ∧
      Seed.Coincide service.state.store (service.run seed.apply).1 (service.run seed.apply).2.state.store
        (service.run other.apply).1 (service.run other.apply).2.state.store := by
  refine ⟨by decide +kernel, by decide +kernel, ?_⟩
  have started : Service.start { model := .turbine } {} = .ok ⟨{ model := .turbine }, {}⟩ := rfl
  exact Reachable.grants_commute (.start 0 0 0 ⟨0⟩ started) _ (.swap _ _ _)

end Service

end Entitlement
