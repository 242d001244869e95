import Entitlement.Proofs.Seed.Connecting

/-!
A seed is applied as a whole or not at all. Once its names, its grants and their references are checked,
nothing that is left to do can fail.
-/

namespace Entitlement

open Entitlement.Action

namespace Seed

/-- What a seed makes of the store. Everything that was stored stays; the names that are listed are there
now, and every grant has its edge. -/
structure Applied (seed : Seed) (settings : Settings) (store later : Store) : Prop where
  grows : store.Grows later
  keys : ∀ kind key, key ∈ (later.table kind).keys ↔
    key ∈ (store.table kind).keys ∨ Names seed.listed kind key ∨
      kind = .group ∧ (∃ edge ∈ seed.granted, edge.Bare settings) ∧ nameKey settings.globalGroup = key
  passwords : ∀ record ∈ later.users.toList, record ∉ store.users.toList →
    ∃ user, seed.users.find? (nameKey ·.name == record.key) = some user ∧
      ∃ salt, later.credentials[record.id]? =
        some { password := some (settings.authenticator.encode salt user.password) }
  resolved : ∀ edge ∈ seed.granted, ∃ resolved, later.resolve? settings edge = some resolved
  edges : ∀ id, id ∈ later.edges.toList ↔
    id ∈ store.edges.toList ∨ ∃ edge ∈ seed.granted, (later.resolve? settings edge).map Edge.ids = some id
  once : later.edges.toList.Nodup

/-- What becomes of applying a seed. -/
inductive Outcome (seed : Seed) (settings : Settings) (store : Store) : Except Error SeedSummary → Store → Prop where
  | faulty {e : Error} (faulty : seed.Faulty) (category : e.category = .config) :
    Outcome seed settings store (.error e) store
  | unsupported {e : Error} (sane : ¬ seed.Faulty) (unsupported : seed.Unsupported settings.model)
    (category : e.category = .accessControl) : Outcome seed settings store (.error e) store
  | dangling {e : Error} (sane : ¬ seed.Faulty) (supported : ¬ seed.Unsupported settings.model)
    (dangling : seed.Dangling store) (category : e.category = .unknownEntity) :
    Outcome seed settings store (.error e) store
  | applied {summary : SeedSummary} {later : Store} (sane : ¬ seed.Faulty)
    (supported : ¬ seed.Unsupported settings.model) (known : ¬ seed.Dangling store)
    (applied : seed.Applied settings store later) : Outcome seed settings store (.ok summary) later

variable {seed : Seed} {settings : Settings} {store populated later : Store}

section Outcome

variable {result : Except Error SeedSummary} (outcome : seed.Outcome settings store result later)
include outcome

theorem Outcome.of_faulty (faulty : seed.Faulty) : ∃ e, result = .error e ∧ e.category = .config ∧ later = store := by
  cases outcome with
  | faulty _ category => exact ⟨_, rfl, category, rfl⟩
  | unsupported sane | dangling sane | applied sane => exact absurd faulty sane

theorem Outcome.of_unsupported (sane : ¬ seed.Faulty) (unsupported : seed.Unsupported settings.model) :
    ∃ e, result = .error e ∧ e.category = .accessControl ∧ later = store := by
  cases outcome with
  | faulty faulty => exact absurd faulty sane
  | unsupported _ _ category => exact ⟨_, rfl, category, rfl⟩
  | dangling _ supported | applied _ supported => exact absurd unsupported supported

theorem Outcome.of_dangling (sane : ¬ seed.Faulty) (supported : ¬ seed.Unsupported settings.model)
    (dangling : seed.Dangling store) : ∃ e, result = .error e ∧ e.category = .unknownEntity ∧ later = store := by
  cases outcome with
  | faulty faulty => exact absurd faulty sane
  | unsupported _ unsupported => exact absurd unsupported supported
  | dangling _ _ _ category => exact ⟨_, rfl, category, rfl⟩
  | applied _ _ known => exact absurd dangling known

theorem Outcome.same_or_applied : later = store ∨ seed.Applied settings store later := by
  cases outcome with
  | faulty | unsupported | dangling => exact .inl rfl
  | applied _ _ _ applied => exact .inr applied

end Outcome

theorem Populates.applied (populates : seed.Populates settings store seed.listed populated)
    (connects : Connects settings populated seed.granted later) : seed.Applied settings store later where
  grows := populates.grows.trans connects.grows
  keys kind key := by
    by_cases group : kind = .group
    · subst group
      rw [connects.groups, populates.keys, or_assoc]
      exact or_congr_right (or_congr_right (and_iff_right rfl).symm)
    · rw [connects.others kind group, populates.keys]
      simp only [group, false_and, or_false]
  passwords record mem new := by
    have users : later.table .user = populated.table .user := connects.others .user nofun
    have before : record ∈ (populated.table .user).toList := users ▸ mem
    obtain ⟨user, listing, salt, kept⟩ := populates.passwords record before new
    exact ⟨user, listing, salt, (connects.credentials record.id).trans kept⟩
  resolved := connects.resolved
  edges id := by rw [connects.edges, populates.edges]
  once := connects.sound.log.nodup

/-- A name that a grant refers to is there once the listed names are. -/
theorem Populates.known (populates : seed.Populates settings store seed.listed populated)
    (known : ¬ seed.Dangling store) : ∀ edge ∈ seed.granted, Known populated edge := by
  intro edge mem end' at_end
  rw [populates.keys]
  by_contra missing
  rw [not_or] at missing
  exact known ⟨edge, mem, end', at_end, missing.2, missing.1⟩

/-- A seed is applied in two parts: first its entities are added, then its grants are made. The summary
counts what each part added. -/
inductive Fills (seed : Seed) (settings : Settings) (store : Store) : SeedSummary → Store → Prop where
  | fills {summary : SeedSummary} {populated later : Store}
    (counted : seed.Counted settings store seed.listed summary.entities populated)
    (connects : Connects settings populated seed.granted later)
    (size : later.edges.size = populated.edges.size + summary.grants) : Fills seed settings store summary later

theorem seedable_of_supported (supported : ¬ seed.Unsupported settings.model) :
    ∀ edge ∈ seed.granted, edge.relation.seedable settings.model := by
  intro edge mem
  by_contra unseedable
  exact supported ⟨edge, mem, unseedable⟩

theorem leaves_apply_fills (sound : store.Sound settings.model)
    (visible : Text.blank settings.globalGroup = false) (seed : Seed) :
    Leaves { settings } store seed.apply fun result later => seed.Outcome settings store result later ∧
      ∀ summary, result = .ok summary → seed.Fills settings store summary later := by
  apply leaves_settings.bind_eq
  by_cases faulty : seed.Faulty
  · obtain ⟨e, refused, category⟩ := validateFor_faulty faulty settings.model
    exact Leaves.bind_error (leaves_liftExcept ⟨refused, rfl⟩) ⟨.faulty faulty category, nofun⟩
  by_cases unsupported : seed.Unsupported settings.model
  · obtain ⟨e, refused, category⟩ := validateFor_unsupported faulty unsupported
    exact Leaves.bind_error (leaves_liftExcept ⟨refused, rfl⟩) ⟨.unsupported faulty unsupported category, nofun⟩
  refine Leaves.bind_eq (leaves_liftExcept ⟨validateFor_eq_ok faulty unsupported, rfl⟩) ?_
  refine Leaves.bind_eq (leaves_liftExcept ⟨edges_eq_ok faulty, rfl⟩) ?_
  apply (leaves_checkReferences seed.granted).bind
  · intro _ unchanged ⟨same, accepted⟩
    subst same
    have known := (checkedAll_eq_ok_iff sound).mp accepted.symm
    apply (leaves_addEntities sound (names_visible faulty)).bind_ok
    intro entities populated counted
    have populates := counted.populates
    apply (leaves_addGrants populates.sound visible (seedable_of_supported unsupported)
      (populates.known known)).bind_ok
    intro grants later ⟨connects, size⟩
    refine leaves_pure ⟨.applied faulty unsupported known (populates.applied connects), ?_⟩
    rintro summary ⟨⟩
    exact .fills counted connects size
  · intro e unchanged ⟨same, refused⟩
    subst same
    have dangling : seed.Dangling unchanged := by
      by_contra known
      rw [(checkedAll_eq_ok_iff sound).mpr known] at refused
      cases refused
    obtain ⟨kind, name, rfl⟩ := of_checkedAll_eq_error refused.symm
    exact ⟨.dangling faulty unsupported dangling rfl, nofun⟩

theorem leaves_apply (sound : store.Sound settings.model) (visible : Text.blank settings.globalGroup = false)
    (seed : Seed) : Leaves { settings } store seed.apply (seed.Outcome settings store) :=
  (leaves_apply_fills sound visible seed).mono fun _ _ => And.left

end Seed

namespace Service

variable {service : Service}

theorem Reachable.applySeed (reachable : service.Reachable) (seed : Seed) :
    (service.run seed.apply).2.Reachable := by
  rw [← run_discard]
  exact reachable.step (.applySeed seed) Outage.never

theorem Reachable.applied (reachable : service.Reachable) {seed : Seed} {summary : SeedSummary}
    (done : (service.run seed.apply).1 = .ok summary) :
    seed.Applied service.settings service.state.store (service.run seed.apply).2.state.store := by
  have outcome := (Seed.leaves_apply reachable.sound reachable.globalGroup_visible seed service.state rfl).2
  have result : (seed.apply.run { settings := service.settings } service.state).1 = .ok summary := done
  rw [result] at outcome
  cases outcome with
  | applied _ _ _ applied => exact applied

/-- Whatever seed is applied to whatever service. -/
theorem Reachable.seed_exact (reachable : service.Reachable) (seed : Seed) :
    seed.Outcome service.settings service.state.store (service.run seed.apply).1
      (service.run seed.apply).2.state.store :=
  (Seed.leaves_apply reachable.sound reachable.globalGroup_visible seed service.state rfl).2

/-- A role is granted to a user as such, who is listed twice, while the global group is not there yet. -/
theorem seed_exact_with_bare_grant :
    let seed : Seed := {
      users := [⟨"Ann", " pw "⟩, ⟨"ANN", "other"⟩]
      roles := ["clerk"]
      grants := [{ user := some "ann", role := some "Clerk" }] }
    let service := (⟨{ model := .turbine }, {}⟩ : Service).performAll [.add .permission "read"]
    let later := (service.run seed.apply).2.state.store
    (service.run seed.apply).1 = .ok { entities := 2, grants := 1 } ∧ later.users.names = ["Ann"] ∧
      later.groups.names = ["global"] ∧ later.edges.toList = [.userGroupRole ⟨1⟩ ⟨3⟩ ⟨2⟩] ∧
      (later.credentials[(⟨1⟩ : EntityId)]?).map Credentials.password = some (some "pw") ∧
      seed.Outcome service.settings service.state.store (service.run seed.apply).1 later := by
  refine ⟨by decide +kernel, by decide +kernel, by decide +kernel, by decide +kernel, by decide +kernel, ?_⟩
  have started : Service.start { model := .turbine } {} = .ok ⟨{ model := .turbine }, {}⟩ := rfl
  exact Reachable.seed_exact ((Reachable.start 0 0 0 ⟨0⟩ started).performAll _) _

end Service

end Entitlement
