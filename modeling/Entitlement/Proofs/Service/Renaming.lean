import Entitlement.Proofs.Acl.Fresh
import Entitlement.Proofs.Action.Atomic
import Entitlement.Proofs.Loading.Totality
import Entitlement.Proofs.Seed.Populating
import Entitlement.Proofs.Store.Renaming

/-!
Renaming an entity changes its name and nothing else. Whoever may do what is a matter of identities and edges:
every list is the same as before, and what it says of a renamed group it says under the new name.
-/

namespace Entitlement

open Entitlement.Action

/-- The group that goes by the one name before a group is renamed goes by the other after that. -/
def Relabels (old new group other : String) : Prop :=
  nameKey group = nameKey old ∧ nameKey other = nameKey new ∨
    nameKey group = nameKey other ∧ nameKey group ≠ nameKey old ∧ nameKey group ≠ nameKey new

namespace Service

/-- The entity has the new name and is found under it, the old one is free, and the lists are as they were. -/
structure Renamed {E : Type} [Entity E] (service : Service) (entity : E) (name : String) (renamed : E)
    (later : Service) : Prop where
  record : Named.record renamed = ⟨Entity.id entity, name⟩
  handed : later.HandsOut renamed
  store : service.state.store.Renames (Entity.kind E) (Entity.id entity) name later.state.store
  found : ∀ same, nameKey same = nameKey name → (later.run (Entity.named same : Action E)).1 = .ok renamed
  freed : ∀ old ∈ (service.state.store.table (Entity.kind E)).toList, old.id = Entity.id entity →
    ∀ same, nameKey same = old.key → nameKey same ≠ nameKey name →
      (later.run (Entity.named same : Action E)).1 = .error (.noEntityNamed (Entity.kind E) same)
  lists : ∀ model globalGroup, ∀ user ∈ service.state.store.users.ids, ∃ before after,
    (service.run (Acl.fresh model globalGroup user)).1 = .ok before ∧
      (later.run (Acl.fresh model globalGroup user)).1 = .ok after ∧ before.SameIds after ∧
        (Entity.kind E = .group → ∀ old ∈ service.state.store.groups.toList, old.id = Entity.id entity →
          before.SameWithin (Relabels old.name name) after)

/-- A renaming is refused with the first reason that there is, and then nothing is changed. -/
structure Renames {E : Type} [Entity E] (service : Service) (entity : E) (name : String)
    (ended : Except Error E × Service) : Prop where
  refused : ∀ category, (∃ e, ended.1 = .error e ∧ e.category = category) ↔
    service.state.store.RefusesName (Entity.kind E) (Entity.id entity) name category
  unchanged : ∀ e, ended.1 = .error e → ended.2.state.store = service.state.store
  renamed : ∀ renamed, ended.1 = .ok renamed → service.Renamed entity name renamed ended.2

end Service

variable {settings : Settings} {model : Model} {store later : Store} {name : String}

/-! ### What a renaming comes to -/

section Entity

variable {E : Type} [Entity E] {entity : E}

/-- How a renaming ends. -/
inductive Store.EndsRenaming (settings : Settings) (store : Store) (entity : E) (name : String) :
    Except Error E → Store → Prop where
  | refused {e : Error} (refuses : store.RefusesName (Entity.kind E) (Entity.id entity) name e.category) :
    EndsRenaming settings store entity name (.error e) store
  | renamed {renamed : E} {later : Store} (visible : Text.blank name = false)
    (free : store.Free (Entity.kind E) (Entity.id entity) name)
    (present : Entity.id entity ∈ (store.table (Entity.kind E)).ids)
    (record : Named.record renamed = ⟨Entity.id entity, name⟩)
    (renames : store.Renames (Entity.kind E) (Entity.id entity) name later) (sound : later.Sound settings.model)
    (stays : Answers settings later (Entity.load ⟨Entity.id entity, name⟩ : Action E) (· = renamed)) :
    EndsRenaming settings store entity name (.ok renamed) later

theorem leaves_rename (loads : Entity.Loads E settings.model)
    (sends : ∀ record : Record, Sends Request.Reads (Entity.load record : Action E)) (sound : store.Sound settings.model)
    (entity : E) (name : String) :
    Leaves { settings } store (Entity.rename entity name) (store.EndsRenaming settings entity name) := by
  rcases blank : Text.blank name with _ | _
  swap
  · have refused : checkName name = .error .blankName := by
      rw [checkName, blank]
      rfl
    exact Leaves.bind_error (leaves_liftExcept ⟨refused, rfl⟩) (.refused (.blank blank))
  refine Leaves.bind_eq (leaves_liftExcept ⟨checkName_eq_ok.mpr blank, rfl⟩) ?_
  by_cases free : store.Free (Entity.kind E) (Entity.id entity) name
  swap
  · simp only [Store.Free, Classical.not_forall] at free
    obtain ⟨held, mem, same, other⟩ := free
    exact Leaves.bind_error (leaves_ask_error (sound.rename_taken mem same other))
      (.refused (.taken blank mem same other))
  by_cases present : Entity.id entity ∈ (store.table (Entity.kind E)).ids
  swap
  · exact Leaves.bind_error (leaves_ask_error (sound.rename_absent free present))
      (.refused (.unknown blank free present))
  obtain ⟨later, answered, renames⟩ := sound.renames free present
  have sound' : later.Sound settings.model := sound.rename blank answered
  have mem : ⟨Entity.id entity, name⟩ ∈ (later.table (Entity.kind E)).toList := renames.mem_iff.mpr (.inr rfl)
  obtain ⟨renamed, record, stays⟩ := ((sends _).settled_over settings later).answers (loads sound' mem)
  refine (leaves_ask answered).bind_eq ((leaves_report _).bind_eq (stays.leaves.mono ?_))
  rintro _ _ ⟨_, rfl, rfl, rfl⟩
  exact .renamed blank free present record renames sound' stays

end Entity

/-! ### What is as it was -/

theorem Store.Renames.translates {id : EntityId} (renames : store.Renames .group id name later)
    (sound : store.Sound model) (sound' : later.Sound model) {old : Record}
    (stored : old ∈ (store.table .group).toList) (same : old.id = id) (visible : Text.blank name = false) :
    store.Translates later (Relabels old.name name) where
  blank group other := by
    rintro (⟨before, after⟩ | ⟨alike, -⟩)
    · rw [Text.blank_congr before, Text.blank_congr after, visible]
      exact sound.named .group old stored
    · exact Text.blank_congr alike
  idOf group other := by
    rintro (⟨before, after⟩ | ⟨alike, not_old, not_new⟩)
    · have held : store.idOf .group (nameKey old.name) = some id :=
        sound.idOf_eq_some_iff.mpr ⟨old, stored, rfl, same⟩
      have holds : later.idOf .group (nameKey name) = some id :=
        sound'.idOf_eq_some_iff.mpr ⟨⟨id, name⟩, renames.mem_iff.mpr (.inr rfl), rfl, rfl⟩
      rw [before, after, held, holds]
    · rw [← alike, renames.idOf_of_ne sound sound' stored same not_old not_new]

namespace Service

variable {service last : Service}

theorem run_of_answers {α : Type} {action : Action α} {post : α → Prop}
    (answers : Answers service.settings service.state.store action post) :
    ∃ a, (service.run action).1 = .ok a ∧ post a := by
  obtain ⟨a, _, ran, held⟩ := answers service.state rfl
  exact ⟨a, by simp only [Service.run, ran], held⟩

theorem lists_of_renames {kind : Kind} {id : EntityId}
    (renames : service.state.store.Renames kind id name last.state.store) (sound : service.state.store.Sound model) (sound' : last.state.store.Sound model)
    (present : id ∈ (service.state.store.table kind).ids) (visible : Text.blank name = false)
    (model : Model) (globalGroup : String) {user : EntityId} (stored : user ∈ service.state.store.users.ids) :
    ∃ before after, (service.run (Acl.fresh model globalGroup user)).1 = .ok before ∧
      (last.run (Acl.fresh model globalGroup user)).1 = .ok after ∧ before.SameIds after ∧
        (kind = .group → ∀ old ∈ service.state.store.groups.toList, old.id = id →
          before.SameWithin (Relabels old.name name) after) := by
  have stored' : user ∈ (last.state.store.table .user).ids := (renames.mem_ids present .user user).mpr stored
  obtain ⟨before, ran, ordered⟩ := run_of_answers (sound.answers_fresh stored model globalGroup)
  obtain ⟨after, ran', ordered'⟩ := run_of_answers (sound'.answers_fresh stored' model globalGroup)
  have count := renames.size sound sound' present .user
  refine ⟨before, after, ran, ran', ordered.sameIds renames.edges count ordered', ?_⟩
  rintro rfl old listed same
  have ranking := Store.ranking_congr renames.edges count model user
  have translates := renames.translates sound sound' listed same visible
  exact ordered.sameWithin ordered' sound sound' ranking translates renames.edges (renames.others .role nofun)
    (renames.others .permission nofun)

theorem renamed_of_ends {E : Type} [Entity E] (sound : service.state.store.Sound service.settings.model)
    {entity renamed : E} (settings : last.settings = service.settings)
    (ends : service.state.store.EndsRenaming service.settings entity name (.ok renamed) last.state.store) :
    service.Renamed entity name renamed last := by
  cases ends with | renamed visible free present record renames sound' stays =>
  have mem : ⟨Entity.id entity, name⟩ ∈ (last.state.store.table (Entity.kind E)).toList :=
    renames.mem_iff.mpr (.inr rfl)
  have same_id : Entity.id renamed = (⟨Entity.id entity, name⟩ : Record).id := by rw [Entity.id, record]
  rw [← settings] at stays
  constructor
  case record => exact record
  case handed =>
    rw [HandsOut, same_id]
    exact sound'.answers_withId mem stays
  case store => exact renames
  case found =>
    intro same key
    obtain ⟨_, ran, rfl⟩ := run_of_answers (sound'.answers_named mem key.symm stays)
    exact ran
  case freed =>
    intro old stored same other key differs
    have free : nameKey other ∉ (last.state.store.table (Entity.kind E)).keys :=
      key ▸ renames.freed sound stored same (key ▸ differs)
    have absent := (sound'.tables (Entity.kind E)).named?_eq_none_iff.mpr free
    simp only [Service.run, run_named_absent last.settings absent]
  case lists =>
    exact fun model globalGroup user => lists_of_renames renames sound sound' present visible model globalGroup

theorem renames_of_loads {E : Type} [Entity E] (loads : Entity.Loads E service.settings.model)
    (sends : ∀ record : Record, Sends Request.Reads (Entity.load record : Action E))
    (sound : service.state.store.Sound service.settings.model) (entity : E) (name : String) :
    service.Renames entity name (service.run (Entity.rename entity name)) := by
  have ends : service.state.store.EndsRenaming service.settings entity name
      (service.run (Entity.rename entity name)).1 (service.run (Entity.rename entity name)).2.state.store :=
    (leaves_rename loads sends sound entity name service.state rfl).2
  constructor
  case renamed => exact fun renamed done => renamed_of_ends sound rfl (done ▸ ends)
  case unchanged =>
    intro e failed
    rw [failed] at ends
    generalize (service.run (Entity.rename entity name)).2.state.store = last at ends ⊢
    cases ends
    rfl
  case refused =>
    intro category
    generalize (service.run (Entity.rename entity name)).2.state.store = last at ends
    generalize (service.run (Entity.rename entity name)).1 = result at ends ⊢
    cases ends with
    | refused refuses =>
      constructor
      · rintro ⟨_, ⟨⟩, rfl⟩
        exact refuses
      · exact fun again => ⟨_, rfl, refuses.unique again⟩
    | renamed visible free present =>
      constructor
      · rintro ⟨_, ⟨⟩, -⟩
      · exact fun refuses => absurd present (refuses.not_accepted visible free)

/-- Whatever entity is renamed, and whatever has become of it in the meantime, the renaming is refused for a
reason, or the entity has the new name and every user may do what the user could do before. -/
theorem Reachable.renames_only (reachable : service.Reachable) :
    (∀ (user : User) name, service.Renames user name (service.run (Entity.rename user name))) ∧
      (∀ (group : Group) name, service.Renames group name (service.run (Entity.rename group name))) ∧
        (∀ (role : Role) name, service.Renames role name (service.run (Entity.rename role name))) ∧
          ∀ (permission : Permission) name,
            service.Renames permission name (service.run (Entity.rename permission name)) :=
  have sound := reachable.sound
  ⟨renames_of_loads (User.loads _) sends_loadUser sound, renames_of_loads (Group.loads _) sends_loadGroup sound,
    renames_of_loads (Role.loads _) sends_loadRole sound,
    renames_of_loads (Permission.loads _) sends_loadPermission sound⟩

/-- Ann is a clerk within her group, which gets a new name while an old record of it is in use. -/
theorem clerk_stays_in_renamed_group :
    let ann : Record := ⟨⟨0⟩, "Ann"⟩
    let staff : Record := ⟨⟨1⟩, "Staff"⟩
    let clerk : Record := ⟨⟨2⟩, "clerk"⟩
    let service := (⟨{}, {}⟩ : Service).performAll
      [.addUser "Ann" "pw", .add .group "Staff", .add .role "clerk", .grant .dynamic (.userGroup ann staff) rfl,
        .grant .dynamic (.groupRole staff clerk) rfl, .rename (.group { staff with }) "Crew"]
    let ended := service.run (Entity.rename ({ staff with } : Group) "Club")
    ended.2.state.store.groups.names = ["Club"] ∧ ∃ before after : Acl,
      (service.run (Acl.fresh .dynamic "global" ⟨0⟩)).1 = .ok before ∧
        (ended.2.run (Acl.fresh .dynamic "global" ⟨0⟩)).1 = .ok after ∧ before.SameIds after ∧
          before.hasRoleIn "clerk" "CREW" = .ok true ∧ after.hasRoleIn "clerk" "club" = .ok true := by
  intro ann staff clerk service ended
  have started : Service.start {} {} = .ok ⟨{}, {}⟩ := rfl
  have reachable : service.Reachable := (Reachable.start 0 0 0 ⟨0⟩ started).performAll _
  have groups : service.state.store.groups.toList = [⟨⟨1⟩, "Crew"⟩] := by decide +kernel
  have names : ended.2.state.store.groups.names = ["Club"] := by decide +kernel
  have users : service.state.store.users.ids = [⟨0⟩] := by decide +kernel
  have renames : service.Renames ({ staff with } : Group) "Club" ended :=
    (Reachable.renames_only reachable).2.1 { staff with } "Club"
  rcases done : ended.1 with e | renamed
  · have named : ended.2.state.store.groups.names = ["Crew"] := by
      rw [renames.unchanged e done, Roster.names, groups]
      rfl
    exact absurd (named.symm.trans names) (by decide)
  obtain ⟨before, after, ran, ran', same, within⟩ :=
    (renames.renamed renamed done).lists .dynamic "global" ⟨0⟩ (by simp [users])
  have asked : ((service.run (Acl.fresh .dynamic "global" ⟨0⟩)).1 >>= (·.hasRoleIn "clerk" "CREW")) = .ok true := by
    decide +kernel
  rw [ran] at asked
  have related : Relabels "Crew" "Club" "CREW" "club" := .inl ⟨by decide +kernel, by decide +kernel⟩
  have kept := (within rfl ⟨⟨1⟩, "Crew"⟩ (by simp [groups]) rfl).hasRoleIn "clerk" "CREW" "club" related
  exact ⟨names, before, after, ran, ran', same, asked, kept ▸ asked⟩

end Service

end Entitlement
