import Entitlement.Proofs.Seed.Application

/-!
The summary of a seed. It counts the listed entities that were added and the edges that are new. A grant to
a user as such may create the global group besides; nobody counts that one.
-/

namespace Entitlement

open Entitlement.Action

namespace Seed

/-- A grant makes the global group, which is neither stored nor listed. -/
def MakesGroup (seed : Seed) (settings : Settings) (store : Store) : Prop :=
  (∃ edge ∈ seed.granted, edge.Bare settings) ∧ nameKey settings.globalGroup ∉ store.groups.keys ∧
    ¬ Names seed.listed .group (nameKey settings.globalGroup)

/-- How the counts of a summary relate to what is stored. -/
structure Accounts (seed : Seed) (settings : Settings) (store : Store) (summary : SeedSummary) (later : Store) :
    Prop where
  grants : later.edges.size = store.edges.size + summary.grants
  entities : ¬ seed.MakesGroup settings store → later.population = store.population + summary.entities
  uncounted : seed.MakesGroup settings store → later.population = store.population + summary.entities + 1

variable {seed : Seed} {settings : Settings} {model : Model} {store populated later : Store}

theorem population_prepared (sound : store.Sound model) (visible : Text.blank settings.globalGroup = false)
    {edges : List (Edge String)} (needed : ∃ edge ∈ edges, edge.Bare settings)
    (missing : nameKey settings.globalGroup ∉ (store.table .group).keys) :
    (store.prepared settings edges).population = store.population + 1 := by
  obtain ⟨group, founded, created, creates, -⟩ := sound.creates visible missing
  rw [Store.prepared, if_pos needed, Store.founded_of_created created, creates.population]

theorem prepared_of_needless (sound : store.Sound model) {edges : List (Edge String)}
    (needless : (∃ edge ∈ edges, edge.Bare settings) →
      nameKey settings.globalGroup ∈ (store.table .group).keys) : store.prepared settings edges = store := by
  unfold Store.prepared
  split
  · next needed => exact sound.founded_of_taken (needless needed)
  · rfl

/-- The global group is missing from the populated store if it was neither stored nor listed. -/
theorem Populates.mem_groups (populates : seed.Populates settings store seed.listed populated) :
    nameKey settings.globalGroup ∈ (populated.table .group).keys ↔
      ¬ (nameKey settings.globalGroup ∉ store.groups.keys ∧
        ¬ Names seed.listed .group (nameKey settings.globalGroup)) := by
  rw [populates.keys, not_and_or, not_not, not_not]
  rfl

theorem Fills.accounts {summary : SeedSummary} (fills : seed.Fills settings store summary later)
    (visible : Text.blank settings.globalGroup = false) : seed.Accounts settings store summary later := by
  cases fills with | @fills populated _ counted connects size =>
  have sound := counted.populates.sound
  have groups := counted.populates.mem_groups
  have population : later.population = (populated.prepared settings seed.granted).population :=
    (congrArg Store.population connects.withEdges).trans rfl
  constructor
  · rw [size, counted.populates.edges]
  · intro spared
    have needless : (∃ edge ∈ seed.granted, edge.Bare settings) →
        nameKey settings.globalGroup ∈ (populated.table .group).keys :=
      fun needed => groups.mpr fun missing => spared ⟨needed, missing⟩
    rw [population, prepared_of_needless sound needless, counted.population]
  · intro ⟨needed, missing⟩
    rw [population, population_prepared sound visible needed (mt groups.mp (not_not_intro missing)),
      counted.population]

end Seed

namespace Service

variable {service : Service}

/-- The summary counts every edge that a seed adds and every entity but one: a global group that is made
for a grant alone. -/
theorem Reachable.summary_accounts (reachable : service.Reachable) {seed : Seed} {summary : SeedSummary}
    (applied : (service.run seed.apply).1 = .ok summary) :
    seed.Accounts service.settings service.state.store summary (service.run seed.apply).2.state.store := by
  have filled := (Seed.leaves_apply_fills reachable.sound reachable.globalGroup_visible seed service.state rfl).2.2
  exact (filled summary applied).accounts reachable.globalGroup_visible

/-- Three entities are stored after the seed, and the summary tells of two. -/
theorem summary_misses_group :
    let seed : Seed := {
      users := [⟨"ann", "pw"⟩]
      roles := ["clerk"]
      grants := [{ user := some "ann", role := some "clerk" }] }
    let service : Service := ⟨{ model := .turbine }, {}⟩
    let later := (service.run seed.apply).2.state.store
    (service.run seed.apply).1 = .ok { entities := 2, grants := 1 } ∧
      service.state.store.population = 0 ∧ later.population = 3 ∧ later.groups.names = ["global"] ∧
      seed.Accounts service.settings service.state.store { entities := 2, grants := 1 } later := by
  refine ⟨by decide +kernel, by decide +kernel, by decide +kernel, by decide +kernel, ?_⟩
  have started : Service.start { model := .turbine } {} = .ok ⟨{ model := .turbine }, {}⟩ := rfl
  exact Reachable.summary_accounts (.start 0 0 0 ⟨0⟩ started) (by decide +kernel)

end Service

end Entitlement
