import Entitlement.Proofs.Action.Atomic
import Entitlement.Proofs.Action.Writing
import Entitlement.Proofs.Store.Growth

/-!
The global group, which is created when it is first asked for.
-/

namespace Entitlement

namespace Store

/-- The group of that name is there, or is created. -/
inductive Founds (store : Store) (name : String) (group : Record) : Store → Prop where
  | there (found : store.groups.named? name = some group) : Founds store name group store
  | created {later : Store} (missing : store.groups.named? name = none)
    (creates : store.Creates .group name {} group later) : Founds store name group later

variable {model : Model} {store later : Store} {name : String} {group : Record}

namespace Founds

variable (founds : store.Founds name group later)
include founds

theorem others {kind : Kind} (apart : kind ≠ .group) : later.table kind = store.table kind := by
  cases founds with
  | there found => rfl
  | created missing creates => exact creates.others kind apart

theorem mem_group (sound : store.Sound model) : group ∈ (later.table .group).toList := by
  cases founds with
  | there found => exact ((sound.tables .group).named?_eq_some_iff.mp found).1
  | created missing creates => exact creates.mem_table

theorem found (sound : later.Sound model) : (later.table .group).named? name = some group := by
  cases founds with
  | there found => exact found
  | created missing creates =>
    have key : group.key = nameKey name := by rw [creates.made, Record.key]
    exact (sound.tables .group).named?_eq_some_iff.mpr ⟨creates.mem_table, key⟩

theorem unchanged_iff : later = store ↔ (store.groups.named? name).isSome := by
  cases founds with
  | there found => simp [found]
  | created missing creates =>
    have longer : (later.table .group).toList.length = (store.table .group).toList.length + 1 := by
      rw [creates.table, List.length_append, List.length_singleton]
    constructor
    · intro same
      rw [same] at longer
      omega
    · intro found
      rw [missing] at found
      cases found

/-- Nothing but the groups is touched. -/
theorem spares : (∀ kind, kind ≠ .group → later.table kind = store.table kind) ∧
    (∀ id : EntityId, later.credentials[id]? = store.credentials[id]?) ∧ later.edges = store.edges := by
  refine ⟨fun kind apart => founds.others apart, ?_⟩
  cases founds with
  | there found => exact ⟨fun _ => rfl, rfl⟩
  | created missing creates =>
    refine ⟨fun id => ?_, creates.edges⟩
    rw [creates.credentials, if_neg fun user => Kind.noConfusion user.1]

theorem grows (sound : store.Sound model) : store.Grows later := by
  cases founds with
  | there found => exact .refl store
  | created missing creates => exact creates.grows sound

theorem mem_keys (sound : store.Sound model) (key : String) : key ∈ (later.table .group).keys ↔
    key ∈ (store.table .group).keys ∨ nameKey name = key := by
  cases founds with
  | there found =>
    obtain ⟨listed, same⟩ := (sound.tables .group).named?_eq_some_iff.mp found
    have held : nameKey name ∈ (store.table .group).keys := Roster.mem_keys.mpr ⟨group, listed, same⟩
    exact (or_iff_left_of_imp fun key => key ▸ held).symm
  | created missing creates =>
    rw [creates.mem_keys]
    exact or_congr_right (and_iff_right rfl)

end Founds

/-! ### The store itself -/

/-- The store once the group of that name is there. -/
def founded (store : Store) (name : String) : Store :=
  (store.create .group name).toOption.elim store Prod.snd

theorem founded_of_created (created : store.answer (.create .group name) = (.ok group, later)) :
    store.founded name = later := by
  rw [founded, attempt_eq_ok.mp created]
  rfl

theorem Sound.founded_of_taken (sound : store.Sound model) (taken : nameKey name ∈ (store.table .group).keys) :
    store.founded name = store := by
  rw [founded, sound.create_taken taken]
  rfl

/-- The edges are not looked at. -/
theorem founded_withEdges (edges : EdgeLog) :
    ({ store with edges } : Store).founded name = { store.founded name with edges } := by
  unfold founded create
  simp only [table]
  cases store.groups.join (⟨⟨store.nextId⟩, name⟩ : Record) <;> rfl

end Store

namespace Action

theorem atomic_globalGroup {context : Context} {model : Model} {store : Store} (sound : store.Sound model)
    (onlyFails : context.outage.OnlyFails) (visible : Text.blank context.settings.globalGroup = false) :
    Atomic context store store globalGroup fun result later => ∃ group, result = .ok group ∧
      store.Founds context.settings.globalGroup group later ∧ later.Sound model ∧
      later = store.founded context.settings.globalGroup := by
  have named : Leaves context store (checkName context.settings.globalGroup) fun result later =>
    result = .ok () ∧ later = store := leaves_liftExcept ⟨checkName_eq_ok.mpr visible, rfl⟩
  have answered : store.answer (.findNamed .group context.settings.globalGroup) =
    (.ok (store.groups.named? context.settings.globalGroup), store) := rfl
  refine leaves_settings.atomic.bind_eq (named.atomic.bind_eq ((atomic_ask onlyFails answered).bind_eq ?_))
  cases found : store.groups.named? context.settings.globalGroup with
  | some group =>
    obtain ⟨listed, same⟩ := (sound.tables .group).named?_eq_some_iff.mp found
    have taken := sound.founded_of_taken (Roster.mem_keys.mpr ⟨group, listed, same⟩)
    exact Leaves.atomic (leaves_pure ⟨group, rfl, .there found, sound, taken.symm⟩)
  | none =>
    have free : nameKey context.settings.globalGroup ∉ (store.table .group).keys :=
      (sound.tables .group).named?_eq_none_iff.mp found
    obtain ⟨group, later, created, creates, sound'⟩ := sound.creates visible free
    have founded := Store.founded_of_created created
    apply (atomic_ask onlyFails created).bind_eq
    refine (leaves_report _).atomic.bind_eq (Leaves.atomic ?_)
    exact leaves_pure ⟨group, rfl, .created found creates, sound', founded.symm⟩

theorem leaves_globalGroup {settings : Settings} {model : Model} {store : Store} (sound : store.Sound model)
    (visible : Text.blank settings.globalGroup = false) :
    Leaves { settings } store globalGroup fun result later => ∃ group, result = .ok group ∧
      store.Founds settings.globalGroup group later ∧ later.Sound model ∧
      later = store.founded settings.globalGroup :=
  (atomic_globalGroup sound Outage.never_onlyFails visible).leaves

end Action

end Entitlement
