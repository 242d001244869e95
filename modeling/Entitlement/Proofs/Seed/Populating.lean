import Entitlement.Proofs.Action.Writing
import Entitlement.Proofs.Loading.Exactness
import Entitlement.Proofs.Seed.Checking
import Entitlement.Proofs.Store.Growth

/-!
Adding the entities that a seed lists. Each name is looked for before it is added, so of several listings
only the first can make an entity, and whatever was stored is left as it is.
-/

namespace Entitlement

open Entitlement.Action
open Std (TreeMap)

variable {model : Model} {settings : Settings} {store : Store}

/-- The stored entities of the type can be loaded. -/
def Entity.Loads (E : Type) [Entity E] (model : Model) : Prop :=
  ∀ {settings : Settings} {store : Store} {record : Record}, store.Sound model →
    record ∈ (store.table (Entity.kind E)).toList →
    Answers settings store (Entity.load record : Action E) fun entity => Named.record entity = record

theorem User.loads (model : Model) : Entity.Loads User model :=
  fun sound mem => (sound.answers_loadUser mem).mono fun _ follows => follows.self

theorem Group.loads (model : Model) : Entity.Loads Group model :=
  fun sound mem => (sound.answers_loadGroup mem).mono fun _ follows => follows.self

theorem Role.loads (model : Model) : Entity.Loads Role model :=
  fun sound mem => (sound.answers_loadRole mem).mono fun _ follows => follows.self

theorem Permission.loads (model : Model) : Entity.Loads Permission model :=
  fun sound mem => (sound.answers_loadPermission mem).mono fun _ follows => follows.self

section Entity

variable {E : Type} [Entity E] {name : String}

theorem leaves_existsNamed : Leaves { settings } store (Entity.existsNamed E name) fun result later =>
    result = .ok ((store.table (Entity.kind E)).named? name).isSome ∧ later = store := by
  have answered : store.answer (.findNamed (Entity.kind E) name) =
    (.ok ((store.table (Entity.kind E)).named? name), store) := rfl
  exact (leaves_ask answered).bind_eq (leaves_pure ⟨rfl, rfl⟩)

theorem leaves_add (loads : Entity.Loads E model) (sound : store.Sound model)
    (visible : Text.blank name = false) (free : nameKey name ∉ (store.table (Entity.kind E)).keys) :
    Leaves { settings } store (Entity.add name : Action E) fun result later => ∃ entity, result = .ok entity ∧
      store.Creates (Entity.kind E) name {} (Named.record entity) later ∧ later.Sound model := by
  have named : checkName name = .ok () := checkName_eq_ok.mpr visible
  have missing := (sound.tables (Entity.kind E)).named?_eq_none_iff.mpr free
  obtain ⟨record, later, created, creates, sound'⟩ := sound.creates visible free
  have listed := creates.mem_table
  apply Leaves.bind_eq (leaves_liftExcept ⟨named, rfl⟩)
  apply leaves_existsNamed.bind_eq
  rw [missing]
  apply (leaves_ask created).bind_eq
  apply (leaves_report _).bind_eq
  apply (loads sound' listed).leaves.mono
  intro result last ⟨entity, done, same, own⟩
  exact ⟨entity, done, same ▸ own ▸ creates, same ▸ sound'⟩

theorem leaves_add_refused (sound : store.Sound model)
    (refused : Text.blank name = true ∨ nameKey name ∈ (store.table (Entity.kind E)).keys) :
    Leaves { settings } store (Entity.add name : Action E) fun result later =>
      ∃ e, result = .error e ∧ later = store := by
  rcases checked : checkName name with e | ⟨⟩
  · exact Leaves.bind_error (leaves_liftExcept ⟨checked, rfl⟩) ⟨e, rfl, rfl⟩
  · have taken := refused.resolve_left (by rw [checkName_eq_ok.mp checked]; nofun)
    have found : ((store.table (Entity.kind E)).named? name).isSome = true := by
      rw [Option.isSome_iff_ne_none, ne_eq, (sound.tables (Entity.kind E)).named?_eq_none_iff]
      exact not_not_intro taken
    apply Leaves.bind_eq (leaves_liftExcept ⟨checked, rfl⟩)
    apply leaves_existsNamed.bind_eq
    rw [found]
    exact leaves_throw ⟨_, rfl, rfl⟩

end Entity

theorem leaves_encodePassword (password : String) :
    Leaves { settings } store (User.encodePassword password) fun result later =>
      ∃ stored, result = .ok stored ∧ (∃ salt, stored = settings.authenticator.encode salt password) ∧
        later = store := by
  intro state same
  subst same
  exact ⟨rfl, _, rfl, ⟨state.nextSalt, rfl⟩, rfl⟩

theorem Store.Creates.save {name : String} {record : Record} {before credentials : Credentials}
    {later : Store} (creates : store.Creates .user name before record later) :
    store.Creates .user name credentials record
      { later with credentials := later.credentials.insert record.id credentials } where
  made := creates.made
  table := creates.table
  others other apart := by
    rw [Store.table_withCredentials]
    exact creates.others other apart
  credentials id := by
    simp only [TreeMap.getElem?_insert, Std.compare_eq_iff_eq, true_and]
    by_cases same : id = record.id
    · rw [if_pos same.symm, if_pos same]
    · rw [if_neg (Ne.symm same), if_neg same, creates.credentials, if_neg fun user => same user.2]
  edges := creates.edges

theorem leaves_addWithPassword {name : String} (sound : store.Sound model)
    (visible : Text.blank name = false) (free : nameKey name ∉ (store.table .user).keys) (password : String) :
    Leaves { settings } store (User.addWithPassword name password) fun result later =>
      ∃ user, result = .ok user ∧ (∃ salt, store.Creates .user name
        { password := some (settings.authenticator.encode salt password) } user.toRecord later) ∧
        later.Sound model := by
  have adds : Leaves { settings } store (Entity.add name : Action User) _ :=
    leaves_add (User.loads model) sound visible free
  apply adds.bind_ok
  intro user between ⟨creates, sound'⟩
  apply (leaves_encodePassword password).bind_ok
  intro stored later ⟨⟨salt, encoded⟩, same⟩
  subst same
  have present : user.id ∈ (later.table .user).ids := (creates.mem_ids _ _).mpr (.inr ⟨rfl, rfl⟩)
  apply (leaves_ask (sound'.saveCredentials_answered present _)).bind_eq
  apply leaves_pure
  subst encoded
  exact ⟨_, rfl, ⟨salt, creates.save⟩, sound'.saveCredentials _ present⟩

theorem leaves_addWithPassword_refused {name : String} (sound : store.Sound model)
    (refused : Text.blank name = true ∨ nameKey name ∈ (store.table .user).keys) (password : String) :
    Leaves { settings } store (User.addWithPassword name password) fun result later =>
      ∃ e, result = .error e ∧ later = store := by
  have adds : Leaves { settings } store (Entity.add name : Action User) _ := leaves_add_refused sound refused
  refine adds.bind ?_ ?_
  · rintro user later ⟨_, ⟨⟩, -⟩
  · rintro e later ⟨_, ⟨⟩, same⟩
    exact ⟨e, rfl, same⟩

/-- A user is added with the password or not at all. -/
theorem leaves_addUser (sound : store.Sound model)
    (name password : String) :
    Leaves { settings } store (User.addWithPassword name password) fun result later =>
      (∃ e, result = .error e ∧ later = store) ∨
        ∃ user salt, result = .ok user ∧ store.Creates .user name
          { password := some (settings.authenticator.encode salt password) } user.toRecord later := by
  by_cases refused : Text.blank name = true ∨ nameKey name ∈ (store.table .user).keys
  · exact (leaves_addWithPassword_refused sound refused password).mono fun _ _ => .inl
  · rw [not_or, Bool.not_eq_true] at refused
    refine (leaves_addWithPassword sound refused.1 refused.2 password).mono ?_
    rintro result later ⟨user, done, ⟨salt, creates⟩, -⟩
    exact .inr ⟨user, salt, done, creates⟩

namespace Seed

variable {seed : Seed}

theorem leaves_ensure {E : Type} [Entity E] (loads : Entity.Loads E model) (sound : store.Sound model)
    {add : Action E} {name : String} {count : Nat} {post : Nat → Store → Prop}
    (present : nameKey name ∈ (store.table (Entity.kind E)).keys → post count store)
    (adds : nameKey name ∉ (store.table (Entity.kind E)).keys →
      Leaves { settings } store add fun result later => ∃ entity, result = .ok entity ∧ post (count + 1) later) :
    Leaves { settings } store (ensure E add count name) fun result later =>
      ∃ next, result = .ok next ∧ post next later := by
  apply leaves_existsNamed.bind_eq
  cases found : (store.table (Entity.kind E)).named? name with
  | some record =>
    obtain ⟨listed, same⟩ := (sound.tables _).named?_eq_some_iff.mp found
    have held : nameKey name ∈ (store.table (Entity.kind E)).keys := Roster.mem_keys.mpr ⟨record, listed, same⟩
    have finds : Answers settings store (discard (Entity.named name : Action E)) fun _ => True :=
      (sound.answers_named listed same (loads sound listed)).map fun _ _ => trivial
    exact finds.leaves_bind fun _ _ => leaves_pure ⟨count, rfl, present held⟩
  | none =>
    have free := (sound.tables _).named?_eq_none_iff.mp found
    have added : Leaves { settings } store (discard add) _ := (adds free).map
    apply added.bind_ok
    intro _ later ⟨entity, _, held⟩
    exact leaves_pure ⟨count + 1, rfl, held⟩

/-! ### All the listed entities -/

/-- What the store is once the given names are there, each under its kind: nothing of what was stored has
changed, and a new user has the password of its first listing. -/
structure Populates (seed : Seed) (settings : Settings) (store : Store) (names : List (Kind × String))
    (later : Store) : Prop where
  sound : later.Sound settings.model
  grows : store.Grows later
  edges : later.edges = store.edges
  keys : ∀ kind key, key ∈ (later.table kind).keys ↔ key ∈ (store.table kind).keys ∨ Names names kind key
  passwords : ∀ record ∈ later.users.toList, record ∉ store.users.toList →
    ∃ user, seed.users.find? (nameKey ·.name == record.key) = some user ∧
      ∃ salt, later.credentials[record.id]? =
        some { password := some (settings.authenticator.encode salt user.password) }

namespace Populates

variable {names : List (Kind × String)} {later last : Store} {kind : Kind} {name : String}

theorem start (seed : Seed) (sound : store.Sound settings.model) : seed.Populates settings store [] store where
  sound := sound
  grows := .refl store
  edges := rfl
  keys kind key := by simp [Names]
  passwords record mem new := absurd mem new

variable (populates : seed.Populates settings store names later)
include populates

theorem held (held : nameKey name ∈ (later.table kind).keys) :
    seed.Populates settings store (names ++ [(kind, name)]) later where
  sound := populates.sound
  grows := populates.grows
  edges := populates.edges
  keys other key := by
    rw [populates.keys, names_snoc, ← or_assoc, ← populates.keys]
    exact (or_iff_left_of_imp fun ⟨same, key⟩ => same ▸ key ▸ held).symm
  passwords := populates.passwords

theorem created {credentials : Credentials} {record : Record}
    (creates : later.Creates kind name credentials record last) (sound : last.Sound settings.model)
    (first : kind = .user → ∃ user, seed.users.find? (nameKey ·.name == nameKey name) = some user ∧
      ∃ salt, credentials = { password := some (settings.authenticator.encode salt user.password) }) :
    seed.Populates settings store (names ++ [(kind, name)]) last where
  sound := sound
  grows := populates.grows.trans (creates.grows populates.sound)
  edges := creates.edges.trans populates.edges
  keys other key := by rw [creates.mem_keys, populates.keys, names_snoc, or_assoc]
  passwords member mem new := by
    by_cases user : kind = .user
    · subst user
      have listed : last.users.toList = later.users.toList ++ [record] := creates.table
      rw [listed, List.mem_append, List.mem_singleton] at mem
      rcases mem with before | rfl
      · obtain ⟨user, listing, salt, kept⟩ := populates.passwords member before new
        have apart : member.id ≠ record.id := by
          intro same
          have given : record.id ∈ (later.table .user).ids := Roster.mem_ids.mpr ⟨member, before, same⟩
          rw [creates.made] at given
          exact populates.sound.next_absent given
        refine ⟨user, listing, salt, ?_⟩
        rw [creates.credentials, if_neg fun new => apart new.2, kept]
      · obtain ⟨user, listing, salt, encoded⟩ := first rfl
        have key : member.key = nameKey name := by rw [creates.made, Record.key]
        refine ⟨user, key ▸ listing, salt, ?_⟩
        rw [creates.credentials, if_pos ⟨rfl, rfl⟩, encoded]
    · have users : last.table .user = later.table .user := creates.others _ (Ne.symm user)
      have before : member ∈ (later.table .user).toList := users ▸ mem
      obtain ⟨listing, found, salt, kept⟩ := populates.passwords member before new
      refine ⟨listing, found, salt, ?_⟩
      rw [creates.credentials, if_neg fun new => user new.1, kept]

end Populates

/-- The names are there now, and the count is of the entities that were not there before. -/
structure Counted (seed : Seed) (settings : Settings) (store : Store) (names : List (Kind × String)) (count : Nat)
    (later : Store) : Prop where
  populates : seed.Populates settings store names later
  population : later.population = store.population + count

theorem Counted.held {names : List (Kind × String)} {count : Nat} {later : Store} {kind : Kind} {name : String}
    (counted : seed.Counted settings store names count later) (held : nameKey name ∈ (later.table kind).keys) :
    seed.Counted settings store (names ++ [(kind, name)]) count later :=
  ⟨counted.populates.held held, counted.population⟩

theorem leaves_ensureUsers (sound : store.Sound settings.model)
    (visible : ∀ user ∈ seed.users, Text.blank user.name = false) :
    Leaves { settings } store (seed.users.foldlM (fun count user =>
        ensure User (User.addWithPassword user.name user.password) count user.name) 0)
      fun result later => ∃ count, result = .ok count ∧
        seed.Counted settings store (seed.users.map fun user => (.user, user.name)) count later := by
  refine leaves_foldlM (fun (done : List SeedUser) count later =>
    seed.Counted settings store (done.map fun user => (.user, user.name)) count later) ?_ ⟨.start seed sound, (Nat.add_zero _).symm⟩
  intro done user rest count later split counted
  rw [List.map_append]
  refine leaves_ensure (User.loads settings.model) counted.populates.sound counted.held fun free => ?_
  have mem : user ∈ seed.users := split ▸ List.mem_append_right _ List.mem_cons_self
  -- None of the users before this one has its name, or it would be taken.
  have first : seed.users.find? (nameKey ·.name == nameKey user.name) = some user := by
    have others : done.find? (nameKey ·.name == nameKey user.name) = none := by
      rw [List.find?_eq_none]
      intro other before same
      apply free
      refine (counted.populates.keys .user _).mpr (.inr ⟨other.name, ?_, by simpa using same⟩)
      exact List.mem_map.mpr ⟨other, before, rfl⟩
    rw [split, List.find?_append, others, Option.none_or]
    exact List.find?_cons_of_pos (beq_self_eq_true _)
  apply (leaves_addWithPassword counted.populates.sound (visible user mem) free user.password).mono
  intro result last ⟨entity, done, ⟨salt, creates⟩, sound'⟩
  refine ⟨entity, done, counted.populates.created creates sound' fun _ => ⟨user, first, salt, rfl⟩, ?_⟩
  rw [creates.population, counted.population, Nat.add_assoc]

theorem leaves_ensureAll {E : Type} [Entity E] (loads : Entity.Loads E settings.model)
    (apart : Entity.kind E ≠ .user) {before : List (Kind × String)} {count : Nat} {between : Store}
    (counted : seed.Counted settings store before count between) {names : List String}
    (visible : ∀ name ∈ names, Text.blank name = false) :
    Leaves { settings } between (names.foldlM (fun count name =>
        ensure E (Entity.add name) count name) count)
      fun result later => ∃ next, result = .ok next ∧
        seed.Counted settings store (before ++ names.map (Entity.kind E, ·)) next later := by
  refine leaves_foldlM (fun (done : List String) count later =>
    seed.Counted settings store (before ++ done.map (Entity.kind E, ·)) count later) ?_ (by simpa using counted)
  intro done name rest count later split counted
  rw [List.map_append, ← List.append_assoc]
  refine leaves_ensure loads counted.populates.sound counted.held fun free => ?_
  have mem : name ∈ names := split ▸ List.mem_append_right _ List.mem_cons_self
  apply (leaves_add loads counted.populates.sound (visible name mem) free).mono
  intro result last ⟨entity, done, creates, sound'⟩
  refine ⟨entity, done, counted.populates.created creates sound' fun user => absurd user apart, ?_⟩
  rw [creates.population, counted.population, Nat.add_assoc]

theorem leaves_addEntities (sound : store.Sound settings.model)
    (visible : ∀ listed ∈ seed.listed, Text.blank listed.2 = false) :
    Leaves { settings } store seed.addEntities fun result later =>
      ∃ count, result = .ok count ∧ seed.Counted settings store seed.listed count later := by
  simp only [listed, List.forall_mem_append, List.forall_mem_map] at visible
  obtain ⟨⟨⟨users, groups⟩, roles⟩, permissions⟩ := visible
  apply (leaves_ensureUsers sound users).bind_ok
  intro count between counted
  apply (leaves_ensureAll (Group.loads _) nofun counted groups).bind_ok
  intro count between counted
  apply (leaves_ensureAll (Role.loads _) nofun counted roles).bind_ok
  intro count between counted
  exact leaves_ensureAll (Permission.loads _) nofun counted permissions

end Seed

end Entitlement
