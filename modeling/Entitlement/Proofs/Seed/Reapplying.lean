import Entitlement.Proofs.Seed.Application
import Entitlement.Proofs.Service.Growth

/-!
Seeds that are applied again. As long as nothing is taken out or renamed, all that a seed lists and grants stays
where it is, and to apply the seed once more adds nothing to it.
-/

namespace Entitlement

open Entitlement.Action

namespace Seed

/-- All that the seed lists and grants is there. -/
structure Stored (seed : Seed) (settings : Settings) (store : Store) : Prop where
  names : ∀ kind key, Names seed.listed kind key → key ∈ (store.table kind).keys
  edges : ∀ edge ∈ seed.granted, ∃ resolved, store.resolve? settings edge = some resolved ∧
    resolved.ids ∈ store.edges.toList

variable {seed : Seed} {settings : Settings} {model : Model} {store later : Store}

theorem Applied.stored (applied : seed.Applied settings store later) : seed.Stored settings later where
  names kind key named := (applied.keys kind key).mpr (.inr (.inl named))
  edges edge mem := by
    obtain ⟨resolved, found⟩ := applied.resolved edge mem
    exact ⟨resolved, found, (applied.edges _).mpr (.inr ⟨edge, mem, by rw [found, Option.map_some]⟩)⟩

theorem Stored.within (stored : seed.Stored settings store) (within : store.Within later)
    (sound : store.Sound model) (sound' : later.Sound model) : seed.Stored settings later where
  names kind key named := within.mem_keys (stored.names kind key named)
  edges edge mem := by
    obtain ⟨resolved, found, there⟩ := stored.edges edge mem
    exact ⟨resolved, within.resolve? sound sound' found, within.edges.mem there⟩

theorem not_dangling_within (known : ¬ seed.Dangling store) (within : store.Within later) :
    ¬ seed.Dangling later := by
  rintro ⟨edge, mem, end', at_end, unlisted, missing⟩
  exact known ⟨edge, mem, end', at_end, unlisted, fun held => missing (within.mem_keys held)⟩

theorem Stored.known (stored : seed.Stored settings store) (known : ¬ seed.Dangling store) :
    ∀ edge ∈ seed.granted, Known store edge := by
  intro edge mem end' at_end
  by_contra missing
  exact known ⟨edge, mem, end', at_end, fun named => missing (stored.names _ _ named), missing⟩

/-! ### Nothing to add -/

theorem leaves_ensure_stored {E : Type} [Entity E] (loads : Entity.Loads E model) (sound : store.Sound model)
    {ι : Type} (list : List ι) (name : ι → String) (add : ι → Action E)
    (held : ∀ a ∈ list, nameKey (name a) ∈ (store.table (Entity.kind E)).keys) :
    Leaves { settings } store (list.foldlM (fun count a => ensure E (add a) count (name a)) 0)
      fun result later => result = .ok 0 ∧ later = store := by
  apply (leaves_foldlM (fun (_ : List ι) count later => count = 0 ∧ later = store) ?_ ⟨rfl, rfl⟩).mono
  · rintro result later ⟨count, done, rfl, same⟩
    exact ⟨done, same⟩
  · rintro done a rest count later split ⟨rfl, rfl⟩
    have mem : a ∈ list := split ▸ List.mem_append_right _ List.mem_cons_self
    exact leaves_ensure loads sound (fun _ => ⟨rfl, rfl⟩) fun free => absurd (held a mem) free

theorem leaves_addEntities_stored (sound : store.Sound settings.model) (stored : seed.Stored settings store) :
    Leaves { settings } store seed.addEntities fun result later => result = .ok 0 ∧ later = store := by
  have held : ∀ listed ∈ seed.listed, nameKey listed.2 ∈ (store.table listed.1).keys :=
    fun listed mem => stored.names _ _ ⟨listed.2, mem, rfl⟩
  simp only [listed, List.forall_mem_append, List.forall_mem_map] at held
  obtain ⟨⟨⟨users, groups⟩, roles⟩, permissions⟩ := held
  apply (leaves_ensure_stored (User.loads settings.model) sound seed.users SeedUser.name
    (fun user => User.addWithPassword user.name user.password) users).bind_eq
  apply (leaves_ensure_stored (Group.loads settings.model) sound seed.groups id Entity.add groups).bind_eq
  apply (leaves_ensure_stored (Role.loads settings.model) sound seed.roles id Entity.add roles).bind_eq
  exact leaves_ensure_stored (Permission.loads settings.model) sound seed.permissions id Entity.add permissions

/-- A grant to a user as such that has its edge has the global group as well. -/
theorem prepared_of_stored (sound : store.Sound model) {edge : Edge String} {resolved : Edge Record}
    (found : store.resolve? settings edge = some resolved) : store.prepared settings [edge] = store := by
  unfold Store.prepared
  split
  · next needed =>
    obtain ⟨_, mem, bare⟩ := needed
    obtain rfl := List.mem_singleton.mp mem
    obtain ⟨user, role, rfl, within⟩ := Edge.of_bare bare
    rw [Store.resolve?, within] at found
    obtain ⟨group, named⟩ := Edge.resolve_known found (.group, settings.globalGroup) (by simp [Edge.endpoints])
    obtain ⟨listed, key⟩ := (sound.tables .group).named?_eq_some_iff.mp named
    exact sound.founded_of_taken (Roster.mem_keys.mpr ⟨group, listed, key⟩)
  · rfl

theorem leaves_addGrants_stored (sound : store.Sound settings.model)
    (visible : Text.blank settings.globalGroup = false) (supported : ¬ seed.Unsupported settings.model)
    (stored : seed.Stored settings store) (known : ¬ seed.Dangling store) :
    Leaves { settings } store (addGrants settings.model seed.granted)
      fun result later => result = .ok 0 ∧ later = store := by
  apply (leaves_foldlM (fun (_ : List (Edge String)) count later => count = 0 ∧ later = store) ?_ ⟨rfl, rfl⟩).mono
  · rintro result later ⟨count, done, rfl, same⟩
    exact ⟨done, same⟩
  rintro done edge rest count later split ⟨rfl, rfl⟩
  have mem : edge ∈ seed.granted := split ▸ List.mem_append_right _ List.mem_cons_self
  have seedable := seedable_of_supported supported edge mem
  obtain ⟨resolved, found, there⟩ := stored.edges edge mem
  refine Leaves.bind_eq (leaves_liftExcept ⟨checkModel_eq_ok_iff.mpr seedable, rfl⟩) ?_
  apply (leaves_resolve sound visible (stored.known known edge mem)).bind_ok
  intro resolved' readied ⟨_, _, found', prepared⟩
  rw [prepared_of_stored sound found] at prepared
  subst prepared
  cases found.symm.trans found'
  have belongs := belongsTo_of_resolve? seedable found
  apply (leaves_grant sound (strangers_of_resolve? sound found) belongs).bind_ok
  intro isNew last ⟨inserts, _⟩
  obtain ⟨rfl, rfl⟩ := inserts.of_mem there
  exact leaves_pure ⟨0, rfl, rfl, rfl⟩

theorem leaves_apply_stored (sound : store.Sound settings.model)
    (visible : Text.blank settings.globalGroup = false) (sane : ¬ seed.Faulty)
    (supported : ¬ seed.Unsupported settings.model) (stored : seed.Stored settings store)
    (known : ¬ seed.Dangling store) :
    Leaves { settings } store seed.apply fun result later => result = .ok {} ∧ later = store := by
  have checked := (checkedAll_eq_ok_iff sound).mpr known
  apply leaves_settings.bind_eq
  refine Leaves.bind_eq (leaves_liftExcept ⟨validateFor_eq_ok sane supported, rfl⟩) ?_
  refine Leaves.bind_eq (leaves_liftExcept ⟨edges_eq_ok sane, rfl⟩) ?_
  have checks : Leaves { settings } store (seed.checkReferences seed.granted)
      fun result later => result = .ok () ∧ later = store :=
    (leaves_checkReferences seed.granted).mono fun _ _ ⟨same, accepted⟩ => ⟨accepted.trans checked, same⟩
  apply checks.bind_eq
  apply (leaves_addEntities_stored sound stored).bind_eq
  exact (leaves_addGrants_stored sound visible supported stored known).bind_eq (leaves_pure ⟨rfl, rfl⟩)

end Seed

namespace Service

variable {service : Service}

/-- A seed that was applied once can be applied again after whatever was added since, and then nothing is added
or changed. -/
theorem Reachable.seed_reapplied (reachable : service.Reachable) {seed : Seed} {summary : SeedSummary}
    (applied : (service.run seed.apply).1 = .ok summary) {later : Service}
    (grown : (service.run seed.apply).2.Grown later) :
    (later.run seed.apply).1 = .ok { entities := 0, grants := 0 } ∧
      (later.run seed.apply).2.state.store = later.state.store := by
  have first : (service.run seed.apply).2.Reachable := by
    rw [← run_discard]
    exact reachable.step (.applySeed seed) Outage.never
  have reached := grown.reachable first
  have within := grown.within first
  have same : later.settings = service.settings := grown.settings
  have outcome := (Seed.leaves_apply reachable.sound reachable.globalGroup_visible seed service.state rfl).2
  have result : (seed.apply.run { settings := service.settings } service.state).1 = .ok summary := applied
  rw [result] at outcome
  have sound := reached.sound
  have visible := reached.globalGroup_visible
  rw [same] at sound visible
  cases outcome with
  | applied sane supported known applied =>
    have stored := applied.stored.within within first.sound sound
    have known' := Seed.not_dangling_within known (applied.grows.within.trans within)
    have again := Seed.leaves_apply_stored sound visible sane supported stored known' later.state rfl
    rw [← same] at again
    exact again.2

/-- The names are listed in two ways each, one of them is stored already, and the global group is made for the
grant. The seed is applied again after Bob has come and has become a clerk too. -/
theorem seed_reapplied_after_bob :
    let seed : Seed := {
      users := [⟨"Ann", "pw"⟩, ⟨"ANN", "other"⟩]
      roles := ["clerk", "Clerk"]
      grants := [{ user := some "ann", role := some "CLERK" }] }
    let bob : Record := ⟨⟨3⟩, "bob"⟩
    let service := (⟨{ model := .turbine }, {}⟩ : Service).performAll [.add .role "CLERK"]
    let later := (service.run seed.apply).2.performAll [.addUser "bob" "pw",
      .grant .turbine (.userGroupRole bob ⟨⟨2⟩, "global"⟩ ⟨⟨0⟩, "CLERK"⟩) rfl]
    (service.run seed.apply).1 = .ok { entities := 1, grants := 1 } ∧ later.state.store.edges.size = 2 ∧
      (later.run seed.apply).1 = .ok { entities := 0, grants := 0 } ∧
      (later.run seed.apply).2.state.store = later.state.store := by
  intro seed bob service later
  have started : Service.start { model := .turbine } {} = .ok ⟨{ model := .turbine }, {}⟩ := rfl
  have reachable : service.Reachable := (Reachable.start 0 0 0 ⟨0⟩ started).performAll _
  have applied : (service.run seed.apply).1 = .ok { entities := 1, grants := 1 } := by decide +kernel
  have grown : (service.run seed.apply).2.Grown later := .performAll _ (by simp [Operation.Adds])
  exact ⟨applied, by decide +kernel, reachable.seed_reapplied applied grown⟩

end Service

end Entitlement
