import Entitlement.Proofs.Action.Atomic
import Entitlement.Proofs.Store.Soundness
import Entitlement.Seed.Apply

/-!
What a seed is refused for: blank names and lines that grant nothing, then grants that the model does not
know, then names that are neither listed nor stored. Nothing is written before all of it is checked.
-/

namespace Entitlement

namespace Seed

/-- The edges of the lines that grant one. -/
def granted (seed : Seed) : List (Edge String) := seed.grants.filterMap GrantLine.edge?

/-- One of the names, which are given with their kinds, has that kind and key. -/
def Names (names : List (Kind × String)) (kind : Kind) (key : String) : Prop :=
  ∃ name, (kind, name) ∈ names ∧ nameKey name = key

/-- A listed name is blank, or a line grants no edge. -/
def Faulty (seed : Seed) : Prop :=
  (∃ listed ∈ seed.listed, Text.blank listed.2) ∨ ∃ line ∈ seed.grants, line.edge? = none

def Unsupported (seed : Seed) (model : Model) : Prop := ∃ edge ∈ seed.granted, ¬ edge.relation.seedable model

/-- A grant names an entity that is neither listed nor stored. -/
def Dangling (seed : Seed) (store : Store) : Prop :=
  ∃ edge ∈ seed.granted, ∃ end' ∈ edge.endpoints,
    ¬ Names seed.listed end'.1 (nameKey end'.2) ∧ nameKey end'.2 ∉ (store.table end'.1).keys

theorem names_snoc {names : List (Kind × String)} {kind other : Kind} {name key : String} :
    Names (names ++ [(kind, name)]) other key ↔ Names names other key ∨ other = kind ∧ nameKey name = key := by
  simp only [Names, List.mem_append, List.mem_singleton, Prod.mk.injEq]
  constructor
  · rintro ⟨name', before | ⟨rfl, rfl⟩, same⟩
    · exact .inl ⟨name', before, same⟩
    · exact .inr ⟨rfl, same⟩
  · rintro (⟨name', before, same⟩ | ⟨rfl, same⟩)
    · exact ⟨name', .inl before, same⟩
    · exact ⟨name, .inr ⟨rfl, rfl⟩, same⟩

variable {seed : Seed} {model : Model} {settings : Settings} {store : Store}

/-! ### Names and lines -/

theorem checkNames_eq_ok_iff : seed.checkNames = .ok () ↔ ∀ listed ∈ seed.listed, Text.blank listed.2 = false := by
  rw [checkNames, except_forM_ok_iff]
  apply forall₂_congr
  intro ⟨kind, name⟩ mem
  cases blank : Text.blank name <;> simp [blank]

theorem of_checkNames_eq_error {e : Error} (refused : seed.checkNames = .error e) : e.category = .config := by
  obtain ⟨⟨kind, name⟩, mem, blank⟩ := except_forM_error refused
  simp only at blank
  split at blank
  · cases blank
    rfl
  · cases blank

theorem mapM_edgeOf_ok {lines : List GrantLine} (recognised : ∀ line ∈ lines, line.edge? ≠ none) :
    lines.mapM edgeOf = .ok (lines.filterMap GrantLine.edge?) := by
  induction lines with
  | nil => rfl
  | cons line rest ih =>
    rw [List.forall_mem_cons] at recognised
    obtain ⟨edge, granted⟩ := Option.ne_none_iff_exists'.mp recognised.1
    have read : edgeOf line = .ok edge := by rw [edgeOf, granted]
    rw [List.mapM_cons, read, ih recognised.2, List.filterMap_cons_some granted]
    rfl

theorem mapM_edgeOf_error {lines : List GrantLine} (unrecognised : ∃ line ∈ lines, line.edge? = none) :
    ∃ line, lines.mapM edgeOf = .error (.unrecognisedGrant line) := by
  induction lines with
  | nil => simp at unrecognised
  | cons line rest ih =>
    cases granted : line.edge? with
    | none =>
      have read : edgeOf line = .error (.unrecognisedGrant line) := by rw [edgeOf, granted]
      refine ⟨line, ?_⟩
      rw [List.mapM_cons, read]
      rfl
    | some edge =>
      have read : edgeOf line = .ok edge := by rw [edgeOf, granted]
      rw [List.exists_mem_cons_iff, granted] at unrecognised
      obtain ⟨other, failed⟩ := ih (unrecognised.resolve_left nofun)
      refine ⟨other, ?_⟩
      rw [List.mapM_cons, read, failed]
      rfl

theorem edges_eq_ok (sane : ¬ seed.Faulty) : seed.edges = .ok seed.granted :=
  mapM_edgeOf_ok fun line mem unrecognised => sane (.inr ⟨line, mem, unrecognised⟩)

theorem names_visible (sane : ¬ seed.Faulty) : ∀ listed ∈ seed.listed, Text.blank listed.2 = false := by
  intro listed mem
  rw [Bool.eq_false_iff]
  exact fun blank => sane (.inl ⟨listed, mem, blank⟩)

/-! ### Validation -/

theorem validateFor_faulty (faulty : seed.Faulty) (model : Model) :
    ∃ e, seed.validateFor model = .error e ∧ e.category = .config := by
  cases named : seed.checkNames with
  | error e =>
    refine ⟨e, ?_, of_checkNames_eq_error named⟩
    rw [validateFor, validate, named]
    rfl
  | ok done =>
    have visible := checkNames_eq_ok_iff.mp named
    have unrecognised : ∃ line ∈ seed.grants, line.edge? = none := by
      apply faulty.resolve_left
      intro ⟨listed, mem, blank⟩
      rw [visible listed mem] at blank
      cases blank
    obtain ⟨line, failed⟩ := mapM_edgeOf_error unrecognised
    refine ⟨.unrecognisedGrant line, ?_, rfl⟩
    rw [validateFor, validate, named, edges, failed]
    rfl

theorem validateFor_sane (sane : ¬ seed.Faulty) (model : Model) :
    seed.validateFor model = seed.granted.forM (checkModel model) := by
  have named := checkNames_eq_ok_iff.mpr (names_visible sane)
  rw [validateFor, validate, named, edges_eq_ok sane]
  rfl

theorem checkModel_eq_ok_iff {edge : Edge String} :
    checkModel model edge = .ok () ↔ edge.relation.seedable model := by
  unfold checkModel
  split <;> simp_all

theorem validateFor_eq_ok (sane : ¬ seed.Faulty) (supported : ¬ seed.Unsupported model) :
    seed.validateFor model = .ok () := by
  rw [validateFor_sane sane, except_forM_ok_iff]
  intro edge mem
  apply checkModel_eq_ok_iff.mpr
  by_contra unseedable
  exact supported ⟨edge, mem, unseedable⟩

theorem validateFor_unsupported (sane : ¬ seed.Faulty) (unsupported : seed.Unsupported model) :
    ∃ e, seed.validateFor model = .error e ∧ e.category = .accessControl := by
  rw [validateFor_sane sane]
  cases checked : seed.granted.forM (checkModel model) with
  | ok done =>
    obtain ⟨edge, mem, unseedable⟩ := unsupported
    exact absurd (checkModel_eq_ok_iff.mp (except_forM_ok_iff.mp checked edge mem)) unseedable
  | error e =>
    obtain ⟨edge, mem, refused⟩ := except_forM_error checked
    refine ⟨e, rfl, ?_⟩
    unfold checkModel at refused
    split at refused
    · cases refused
    · cases refused
      rfl

/-! ### References -/

theorem lists_iff {kind : Kind} {name : String} : seed.lists kind name ↔ Names seed.listed kind (nameKey name) := by
  simp [lists, Names]

/-- How a name in a grant is checked. -/
def checked (seed : Seed) (store : Store) (kind : Kind) (name : String) : Except Error Unit :=
  if seed.lists kind name || ((store.table kind).named? name).isSome then .ok () else .error (.noEntityNamed kind name)

theorem checked_eq_ok_iff (sound : store.Sound model) {kind : Kind} {name : String} :
    seed.checked store kind name = .ok () ↔
      Names seed.listed kind (nameKey name) ∨ nameKey name ∈ (store.table kind).keys := by
  have stored : ((store.table kind).named? name).isSome ↔ nameKey name ∈ (store.table kind).keys := by
    rw [Option.isSome_iff_ne_none, ne_eq, (sound.tables kind).named?_eq_none_iff, not_not]
  rw [checked, ← lists_iff, ← stored, ← Bool.or_eq_true]
  split <;> simp_all

/-- How all the names in some grants are checked. -/
def checkedAll (seed : Seed) (store : Store) (edges : List (Edge String)) : Except Error Unit :=
  edges.forM fun edge => edge.endpoints.forM fun (kind, name) => seed.checked store kind name

theorem checkedAll_eq_ok_iff (sound : store.Sound model) :
    seed.checkedAll store seed.granted = .ok () ↔ ¬ seed.Dangling store := by
  simp only [checkedAll, except_forM_ok_iff, checked_eq_ok_iff sound, Dangling, not_exists, not_and,
    not_not, or_iff_not_imp_left]

theorem of_checkedAll_eq_error {edges : List (Edge String)} {e : Error}
    (refused : seed.checkedAll store edges = .error e) : ∃ kind name, e = .noEntityNamed kind name := by
  obtain ⟨edge, mem, refused⟩ := except_forM_error refused
  obtain ⟨⟨kind, name⟩, at_end, refused⟩ := except_forM_error refused
  simp only [checked] at refused
  split at refused
  · cases refused
  · cases refused
    exact ⟨kind, name, rfl⟩

theorem leaves_checkReferences (edges : List (Edge String)) :
    Action.Leaves { settings } store (seed.checkReferences edges) fun result later => later = store ∧
      result = seed.checkedAll store edges := by
  have one : ∀ kind name, Action.Atomic { settings } store store (seed.checkReference kind name)
      fun result later => later = store ∧ result = seed.checked store kind name := by
    intro kind name
    apply Action.Leaves.atomic
    unfold checkReference checked
    cases listed : seed.lists kind name with
    | true => exact Action.leaves_pure ⟨rfl, rfl⟩
    | false =>
      have answered : store.answer (.findNamed kind name) = (.ok ((store.table kind).named? name), store) := rfl
      apply (Action.leaves_ask answered).bind_eq
      cases (store.table kind).named? name with
      | some record => exact Action.leaves_pure ⟨rfl, rfl⟩
      | none => exact Action.leaves_throw ⟨rfl, rfl⟩
  exact (Action.atomic_forM fun edge _ => Action.atomic_forM fun (kind, name) _ => one kind name).leaves

end Seed

end Entitlement
