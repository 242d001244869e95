import Entitlement.Proofs.Granting.Atomicity
import Entitlement.Proofs.Granting.GlobalGroup
import Entitlement.Proofs.Seed.Populating
import Mathlib.Data.List.Forall2

/-!
Granting the edges of a seed. The names of a grant are looked up in the store as it is when the grant's
turn comes; they lead to the same entities ever after, because the store only grows.
-/

namespace Entitlement

open Entitlement.Action

/-! ### Edges between what the names lead to -/

namespace Edge

variable {ν μ : Type} {f g : Kind → ν → Option μ} {edge : Edge ν} {resolved : Edge μ}

/-- Each endpoint is replaced in its place by what is found for it. -/
theorem resolve_eq_some_iff : edge.resolve f = some resolved ↔ edge.relation = resolved.relation ∧
    List.Forall₂ (fun named found => named.1 = found.1 ∧ f named.1 named.2 = some found.2)
      edge.endpoints resolved.endpoints := by
  cases edge <;> cases resolved <;> simp [resolve, relation, endpoints, Option.bind_eq_some_iff]

theorem resolve_found (done : edge.resolve f = some resolved) :
    ∀ end' ∈ resolved.endpoints, ∃ name, f end'.1 name = some end'.2 := by
  obtain ⟨-, paired⟩ := resolve_eq_some_iff.mp done
  generalize edge.endpoints = names, resolved.endpoints = found at *
  induction paired with
  | nil => simp
  | cons head _ ih => exact List.forall_mem_cons.mpr ⟨⟨_, head.1 ▸ head.2⟩, ih⟩

theorem resolve_known (done : edge.resolve f = some resolved) :
    ∀ end' ∈ edge.endpoints, ∃ a, f end'.1 end'.2 = some a := by
  obtain ⟨-, paired⟩ := resolve_eq_some_iff.mp done
  generalize edge.endpoints = names, resolved.endpoints = found at *
  induction paired with
  | nil => simp
  | cons head _ ih => exact List.forall_mem_cons.mpr ⟨⟨_, head.2⟩, ih⟩

theorem resolve_mono (implies : ∀ kind name a, f kind name = some a → g kind name = some a)
    (done : edge.resolve f = some resolved) : edge.resolve g = some resolved := by
  obtain ⟨same, paired⟩ := resolve_eq_some_iff.mp done
  exact resolve_eq_some_iff.mpr ⟨same, paired.imp fun named found ⟨kind, held⟩ => ⟨kind, implies _ _ _ held⟩⟩

theorem resolve_relation (done : edge.resolve f = some resolved) : resolved.relation = edge.relation :=
  (resolve_eq_some_iff.mp done).1.symm

/-- Under Turbine a role granted to a user as such is granted within the global group. -/
def within (settings : Settings) : Edge String → Edge String
  | .userRole user role =>
    if settings.model = .turbine then .userGroupRole user settings.globalGroup role else .userRole user role
  | edge => edge

/-- The grant is one to a user as such that is made within the global group. -/
def Bare (edge : Edge String) (settings : Settings) : Prop :=
  settings.model = .turbine ∧ edge.relation = .userRole

instance (edge : Edge String) (settings : Settings) : Decidable (edge.Bare settings) :=
  inferInstanceAs (Decidable (_ ∧ _))

theorem of_bare {edge : Edge String} {settings : Settings} (bare : edge.Bare settings) :
    ∃ user role, edge = .userRole user role ∧ edge.within settings = .userGroupRole user settings.globalGroup role := by
  obtain ⟨turbine, shape⟩ := bare
  cases edge with
  | userRole user role => exact ⟨user, role, rfl, if_pos turbine⟩
  | userGroup | groupRole | rolePermission | userGroupRole | delegation => cases shape

theorem within_of_plain {edge : Edge String} {settings : Settings} (plain : ¬ edge.Bare settings) :
    edge.within settings = edge := by
  cases edge with
  | userRole user role => exact if_neg fun turbine => plain ⟨turbine, rfl⟩
  | userGroup | groupRole | rolePermission | userGroupRole | delegation => rfl

end Edge

namespace Store

/-- The edge that a grant stands for, between the entities its names lead to. -/
def resolve? (store : Store) (settings : Settings) (edge : Edge String) : Option (Edge Record) :=
  (edge.within settings).resolve fun kind name => (store.table kind).named? name

/-- The global group is there if the grant needs it; else nothing is changed. -/
inductive Readies (store : Store) (settings : Settings) (edge : Edge String) : Store → Prop where
  | bare {group : Record} {later : Store} (bare : edge.Bare settings)
    (founds : store.Founds settings.globalGroup group later) : Readies store settings edge later
  | plain (plain : ¬ edge.Bare settings) : Readies store settings edge store

/-- The store once the global group is there, if one of the grants needs it. -/
def prepared (store : Store) (settings : Settings) (edges : List (Edge String)) : Store :=
  if ∃ edge ∈ edges, edge.Bare settings then store.founded settings.globalGroup else store

end Store

variable {model : Model} {settings : Settings} {store later : Store}

namespace Store

theorem Within.resolve? (within : store.Within later) (sound : store.Sound model) (sound' : later.Sound model)
    {edge : Edge String} {resolved : Edge Record} (found : store.resolve? settings edge = some resolved) :
    later.resolve? settings edge = some resolved :=
  Edge.resolve_mono (fun _ _ _ named => within.named? sound sound' named) found

namespace Readies

variable {edge : Edge String} (readies : store.Readies settings edge later)
include readies

theorem grows (sound : store.Sound model) : store.Grows later := by
  cases readies with
  | bare bare founds => exact founds.grows sound
  | plain plain => exact .refl store

theorem spares : (∀ kind, kind ≠ .group → later.table kind = store.table kind) ∧
    (∀ id : EntityId, later.credentials[id]? = store.credentials[id]?) ∧ later.edges = store.edges := by
  cases readies with
  | bare bare founds => exact founds.spares
  | plain plain => exact ⟨fun _ _ => rfl, fun _ => rfl, rfl⟩

theorem mem_keys (sound : store.Sound model) (key : String) : key ∈ (later.table .group).keys ↔
    key ∈ (store.table .group).keys ∨ edge.Bare settings ∧ nameKey settings.globalGroup = key := by
  cases readies with
  | bare bare founds =>
    rw [founds.mem_keys sound]
    exact or_congr_right (and_iff_right bare).symm
  | plain plain => exact (or_iff_left fun needed => plain needed.1).symm

end Readies

end Store

namespace Seed

theorem answers_recordNamed {E : Type} [Entity E] (loads : Entity.Loads E model) (sound : store.Sound model)
    {name : String} {record : Record} (found : (store.table (Entity.kind E)).named? name = some record) :
    Answers settings store (do return Named.record (← (Entity.named name : Action E))) (· = record) := by
  obtain ⟨listed, same⟩ := (sound.tables _).named?_eq_some_iff.mp found
  exact (sound.answers_named listed same (loads sound listed)).bind fun _ own => answers_pure own

theorem answers_endpointRecord (sound : store.Sound model) {kind : Kind} {name : String} {record : Record}
    (found : (store.table kind).named? name = some record) :
    Answers settings store (endpointRecord kind name) (· = record) := by
  cases kind with
  | user => exact answers_recordNamed (User.loads model) sound found
  | group => exact answers_recordNamed (Group.loads model) sound found
  | role => exact answers_recordNamed (Role.loads model) sound found
  | permission => exact answers_recordNamed (Permission.loads model) sound found

/-- The names that an edge gives are all stored. -/
def Known (store : Store) (edge : Edge String) : Prop :=
  ∀ end' ∈ edge.endpoints, nameKey end'.2 ∈ (store.table end'.1).keys

theorem found_of_known (sound : store.Sound model) {edge : Edge String} (known : Known store edge) :
    ∀ end' ∈ edge.endpoints, ∃ record, (store.table end'.1).named? end'.2 = some record := by
  intro end' mem
  rw [← Option.isSome_iff_exists, Option.isSome_iff_ne_none, ne_eq, (sound.tables end'.1).named?_eq_none_iff, not_not]
  exact known end' mem

theorem answers_resolve (sound : store.Sound model) {edge : Edge String} (known : Known store edge) :
    Answers settings store (edge.resolve endpointRecord)
      fun resolved => edge.resolve (fun kind name => (store.table kind).named? name) = some resolved := by
  have found := found_of_known sound known
  cases edge with
  | userGroup first second | userRole first second | groupRole first second | rolePermission first second
  | delegation first second =>
    obtain ⟨one, one_found⟩ := found _ List.mem_cons_self
    obtain ⟨two, two_found⟩ := found _ (List.mem_cons_of_mem _ List.mem_cons_self)
    refine (answers_endpointRecord sound one_found).bind fun _ same => ?_
    refine (answers_endpointRecord sound two_found).bind fun _ same' => ?_
    subst same same'
    exact answers_pure (by simp [Edge.resolve, one_found, two_found])
  | userGroupRole user group role =>
    obtain ⟨one, one_found⟩ := found _ List.mem_cons_self
    obtain ⟨two, two_found⟩ := found _ (List.mem_cons_of_mem _ List.mem_cons_self)
    obtain ⟨three, three_found⟩ := found _ (List.mem_cons_of_mem _ (List.mem_cons_of_mem _ List.mem_cons_self))
    refine (answers_endpointRecord sound one_found).bind fun _ same => ?_
    refine (answers_endpointRecord sound two_found).bind fun _ same' => ?_
    refine (answers_endpointRecord sound three_found).bind fun _ same'' => ?_
    subst same same' same''
    exact answers_pure (by simp [Edge.resolve, one_found, two_found, three_found])

theorem resolve_turbine (user role : String) : resolve .turbine (.userRole user role) =
    (globalGroup >>= fun group => endpointRecord .user user >>= fun user =>
      endpointRecord .role role >>= fun role => pure (.userGroupRole user group role)) := rfl

theorem resolve_of_plain {edge : Edge String} (plain : ¬ edge.Bare settings) :
    resolve settings.model edge = edge.resolve endpointRecord := by
  cases active : settings.model with
  | turbine =>
    cases edge with
    | userRole user role => exact absurd ⟨active, rfl⟩ plain
    | userGroup | groupRole | rolePermission | userGroupRole | delegation => rfl
  | basic | dynamic => cases edge <;> rfl

theorem leaves_resolve (sound : store.Sound settings.model) (visible : Text.blank settings.globalGroup = false)
    {edge : Edge String} (known : Known store edge) :
    Leaves { settings } store (resolve settings.model edge) fun result later => ∃ resolved, result = .ok resolved ∧
      store.Readies settings edge later ∧ later.Sound settings.model ∧
      later.resolve? settings edge = some resolved ∧ later = store.prepared settings [edge] := by
  by_cases bare : edge.Bare settings
  · obtain ⟨user, role, rfl, within⟩ := Edge.of_bare bare
    rw [bare.1, resolve_turbine, ← bare.1]
    apply (leaves_globalGroup sound visible).bind_ok
    intro group later ⟨founds, sound', founded⟩
    have known' : Known later (.userRole user role) :=
      fun end' mem => (founds.grows sound).within.mem_keys (known end' mem)
    have found := found_of_known sound' known'
    obtain ⟨one, one_found⟩ := found _ List.mem_cons_self
    obtain ⟨two, two_found⟩ := found _ (List.mem_cons_of_mem _ List.mem_cons_self)
    refine (answers_endpointRecord sound' one_found).leaves_bind fun _ same => ?_
    refine (answers_endpointRecord sound' two_found).leaves_bind fun _ same' => ?_
    subst same same'
    apply leaves_pure
    refine ⟨_, rfl, .bare bare founds, sound', ?_, ?_⟩
    · simp [Store.resolve?, within, Edge.resolve, one_found, two_found, founds.found sound']
    · rw [Store.prepared, if_pos ⟨_, List.mem_singleton_self _, bare⟩, founded]
  · rw [resolve_of_plain bare]
    apply (answers_resolve sound known).leaves.mono
    intro result later ⟨resolved, done, unchanged, found⟩
    subst unchanged
    refine ⟨resolved, done, .plain bare, sound, ?_, ?_⟩
    · rw [Store.resolve?, Edge.within_of_plain bare, found]
    · rw [Store.prepared, if_neg]
      simpa using bare

/-! ### All the grants -/

/-- What the store is after some grants: the names of each lead to an edge, and these edges are the new ones. -/
structure Connects (settings : Settings) (store : Store) (done : List (Edge String)) (later : Store) : Prop where
  sound : later.Sound settings.model
  grows : store.Grows later
  others : ∀ kind, kind ≠ .group → later.table kind = store.table kind
  credentials : ∀ id : EntityId, later.credentials[id]? = store.credentials[id]?
  groups : ∀ key, key ∈ (later.table .group).keys ↔ key ∈ (store.table .group).keys ∨
    (∃ edge ∈ done, edge.Bare settings) ∧ nameKey settings.globalGroup = key
  resolved : ∀ edge ∈ done, ∃ resolved, later.resolve? settings edge = some resolved
  edges : ∀ id, id ∈ later.edges.toList ↔
    id ∈ store.edges.toList ∨ ∃ edge ∈ done, (later.resolve? settings edge).map Edge.ids = some id
  withEdges : later = { store.prepared settings done with edges := later.edges }

namespace Connects

variable {done : List (Edge String)} {readied last : Store} {edge : Edge String}

theorem start (sound : store.Sound settings.model) : Connects settings store [] store where
  sound := sound
  grows := .refl store
  others _ _ := rfl
  credentials _ := rfl
  groups key := by simp
  resolved edge mem := by simp at mem
  edges id := by simp
  withEdges := by simp [Store.prepared]

/-- The global group is created at most once, whichever grants need it. -/
theorem prepared_snoc (connects : Connects settings store done later) (edge : Edge String) :
    later.prepared settings [edge] =
      { store.prepared settings (done ++ [edge]) with edges := later.edges } := by
  simp only [Store.prepared, List.mem_append, List.mem_singleton, or_and_right, exists_or, exists_eq_left]
  have same := connects.withEdges
  unfold Store.prepared at same
  by_cases bare : edge.Bare settings
  · rw [if_pos bare, if_pos (.inr bare)]
    by_cases before : ∃ edge ∈ done, edge.Bare settings
    · have taken := (connects.groups (nameKey settings.globalGroup)).mpr (.inr ⟨before, rfl⟩)
      rw [connects.sound.founded_of_taken taken]
      rwa [if_pos before] at same
    · rw [if_neg before] at same
      rw [same, Store.founded_withEdges]
  · rw [if_neg bare]
    simpa only [bare, or_false] using same

theorem snoc (connects : Connects settings store done later) (readies : later.Readies settings edge readied)
    (readied_sound : readied.Sound settings.model) {resolved : Edge Record}
    (found : readied.resolve? settings edge = some resolved)
    (prepared : readied = later.prepared settings [edge]) {isNew : Bool}
    (inserts : readied.Inserts resolved.ids isNew last) (last_sound : last.Sound settings.model) :
    Connects settings store (done ++ [edge]) last := by
  have readied_grows := readies.grows connects.sound
  have last_grows := readied_grows.trans inserts.grows
  obtain ⟨others, credentials, edges⟩ := readies.spares
  have found_last := inserts.grows.within.resolve? readied_sound last_sound found
  have same : ∀ named ∈ done, last.resolve? settings named = later.resolve? settings named := by
    intro named mem
    obtain ⟨before, found_before⟩ := connects.resolved named mem
    rw [found_before]
    exact last_grows.within.resolve? connects.sound last_sound found_before
  constructor
  · exact last_sound
  · exact connects.grows.trans last_grows
  · intro kind apart
    rw [inserts.table, others kind apart, connects.others kind apart]
  · intro id
    rw [inserts.credentials, credentials, connects.credentials]
  · intro key
    rw [inserts.table, readies.mem_keys connects.sound, connects.groups, or_assoc, ← or_and_right]
    simp only [List.mem_append, List.mem_singleton, or_and_right, exists_or, exists_eq_left]
  · intro named mem
    rcases List.mem_append.mp mem with before | new
    · rw [same named before]
      exact connects.resolved named before
    · rw [List.mem_singleton.mp new]
      exact ⟨resolved, found_last⟩
  · intro id
    rw [inserts.mem_edges, edges, connects.edges, or_assoc]
    simp only [List.mem_append, List.mem_singleton, or_and_right, exists_or, exists_eq_left, found_last,
      Option.map_some, Option.some.injEq]
    have before : ∀ named, named ∈ done ∧ (later.resolve? settings named).map Edge.ids = some id ↔
        named ∈ done ∧ (last.resolve? settings named).map Edge.ids = some id :=
      fun named => and_congr_right fun mem => by rw [same named mem]
    exact or_congr_right (or_congr (exists_congr before) eq_comm)
  · have same := inserts.withEdges
    rw [prepared, connects.prepared_snoc edge] at same
    exact same

end Connects

theorem strangers_of_resolve? (sound : store.Sound model) {edge : Edge String} {resolved : Edge Record}
    (found : store.resolve? settings edge = some resolved) : store.stranger? resolved.endpoints = none := by
  rw [Store.stranger?_eq_none_iff]
  intro end' mem
  obtain ⟨name, named⟩ := Edge.resolve_found found end' mem
  obtain ⟨listed, -⟩ := (sound.tables end'.1).named?_eq_some_iff.mp named
  exact Roster.mem_ids.mpr ⟨end'.2, listed, rfl⟩

theorem belongsTo_of_resolve? {edge : Edge String} {resolved : Edge Record}
    (seedable : edge.relation.seedable settings.model)
    (found : store.resolve? settings edge = some resolved) : resolved.relation.belongsTo settings.model := by
  rw [Edge.resolve_relation found]
  by_cases bare : edge.Bare settings
  · obtain ⟨user, role, rfl, within⟩ := Edge.of_bare bare
    rw [within, bare.1]
    rfl
  · rw [Edge.within_of_plain bare]
    exact Relation.belongsTo_of_seedable seedable bare

theorem leaves_addGrants (sound : store.Sound settings.model) (visible : Text.blank settings.globalGroup = false)
    {edges : List (Edge String)} (seedable : ∀ edge ∈ edges, edge.relation.seedable settings.model)
    (known : ∀ edge ∈ edges, Known store edge) :
    Leaves { settings } store (addGrants settings.model edges) fun result later =>
      ∃ count, result = .ok count ∧ Connects settings store edges later ∧
        later.edges.size = store.edges.size + count := by
  refine leaves_foldlM (fun (done : List (Edge String)) count later =>
    Connects settings store done later ∧ later.edges.size = store.edges.size + count) ?_
    ⟨.start sound, (Nat.add_zero _).symm⟩
  intro done edge rest count later split ⟨connects, size⟩
  have mem : edge ∈ edges := split ▸ List.mem_append_right _ List.mem_cons_self
  have known_later : Known later edge :=
    fun end' at_end => connects.grows.within.mem_keys (known edge mem end' at_end)
  have accepted : checkModel settings.model edge = .ok () := checkModel_eq_ok_iff.mpr (seedable edge mem)
  refine Leaves.bind_eq (leaves_liftExcept ⟨accepted, rfl⟩) ?_
  apply (leaves_resolve connects.sound visible known_later).bind_ok
  intro resolved readied ⟨readies, readied_sound, found, prepared⟩
  have belongs := belongsTo_of_resolve? (seedable edge mem) found
  apply (leaves_grant readied_sound (strangers_of_resolve? readied_sound found) belongs).bind_ok
  intro isNew last ⟨inserts, last_sound⟩
  refine leaves_pure ⟨_, rfl, connects.snoc readies readied_sound found prepared inserts last_sound, ?_⟩
  rw [inserts.size, readies.spares.2.2, size]
  split <;> rfl

end Seed

end Entitlement
