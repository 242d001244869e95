import Entitlement.Proofs.Action.Composing
import Entitlement.Proofs.Store.Mirroring

/-!
Two runs, over stores that differ in nothing but the credentials. An action that is blind to credentials comes
to the same in both; what is loaded of a user is the same up to the user's own credentials.
-/

namespace Entitlement

/-- The user without its credentials. -/
def User.bare (user : User) : User := { user with password := none, lastLogin := none }

theorem User.bare_eq_iff {user other : User} :
    user.bare = other.bare ↔ ∃ password lastLogin, other = { user with password, lastLogin } := by
  constructor
  · intro same
    refine ⟨other.password, other.lastLogin, ?_⟩
    cases user
    cases other
    simp_all [bare]
  · rintro ⟨_, _, rfl⟩
    rfl

namespace Roster

variable {α β : Type} [Named α] {f : α → β} {a b : Roster α} {member other : α}

/-- Rosters with the same members, as far as `f` tells them apart, at the same places. -/
structure Alike (f : α → β) (a b : Roster α) : Prop where
  members : a.toList.map f = b.toList.map f
  byId : a.byId = b.byId
  byName : a.byName = b.byName

omit [Named α] in
theorem Alike.memberAt? (alike : Alike f a b) (place : Option Nat) :
    (a.memberAt? place).map f = (b.memberAt? place).map f := by
  rw [memberAt?_eq, memberAt?_eq]
  cases place with
  | none => rfl
  | some place =>
    simp only [Option.bind_some]
    rw [← List.getElem?_map, ← List.getElem?_map, alike.members]

/-- What a roster makes of a new member depends on no more than the members' records. -/
theorem Alike.join (alike : Alike f a b) (records : ∀ a b, f a = f b → Named.record a = Named.record b)
    (same : f member = f other) :
    (∃ e, a.join member = .error e ∧ b.join other = .error e) ∨
      ∃ grown grown', a.join member = .ok grown ∧ b.join other = .ok grown' ∧ Alike f grown grown' := by
  -- The name is free in both rosters, or taken in both by members of the same name.
  have record := records member other same
  have held := alike.memberAt? b.byName[nameKey (Named.record other).name]?
  have size : a.members.size = b.members.size := by simpa [toList] using congrArg List.length alike.members
  simp only [Roster.join, Roster.add, named?, record, alike.byId, alike.byName]
  by_cases there : b.byId.contains (Named.record other).id
  · simp only [there, if_true]
    exact .inr ⟨a, b, rfl, rfl, alike⟩
  · simp only [there]
    rcases found : a.memberAt? b.byName[nameKey (Named.record other).name]? with _ | holder
    all_goals
      rcases found' : b.memberAt? b.byName[nameKey (Named.record other).name]? with _ | holder'
      all_goals rw [found, found'] at held
    · refine .inr ⟨_, _, rfl, rfl, ?_, ?_, ?_⟩
      · simpa [toList, same] using alike.members
      · simp only [size]
      · simp only [size]
    · cases held
    · cases held
    · refine .inl ⟨.collision (Named.record other).name (Named.record holder').name, ?_, rfl⟩
      rw [← records holder holder' (Option.some.inj held)]
      rfl

end Roster

namespace Action

/-- Both runs fail for the same reason or have results that are related, and the stores mirror each other. -/
inductive Ended (model : Model) {α β : Type} (related : α → β → Prop) :
    Except Error α × State → Except Error β × State → Prop where
  | failed {e : Error} {left right : State} (mirrors : left.store.Mirrors model right.store) :
    Ended model related (.error e, left) (.error e, right)
  | done {a : α} {b : β} {left right : State} (held : related a b) (mirrors : left.store.Mirrors model right.store) :
    Ended model related (.ok a, left) (.ok b, right)

theorem Ended.mono {model : Model} {α β : Type} {related weaker : α → β → Prop} {ran : Except Error α × State}
    {ran' : Except Error β × State} (ended : Ended model related ran ran') (implies : ∀ a b, related a b → weaker a b) :
    Ended model weaker ran ran' := by
  cases ended with
  | failed mirrors => exact .failed mirrors
  | done held mirrors => exact .done (implies _ _ held) mirrors

theorem Ended.results {model : Model} {α β : Type} {related : α → β → Prop} {ran : Except Error α × State}
    {ran' : Except Error β × State} (ended : Ended model related ran ran') :
    (∃ e left right, ran = (.error e, left) ∧ ran' = (.error e, right) ∧ left.store.Mirrors model right.store) ∨
      ∃ a b left right, ran = (.ok a, left) ∧ ran' = (.ok b, right) ∧ related a b ∧
        left.store.Mirrors model right.store := by
  cases ended with
  | failed mirrors => exact .inl ⟨_, _, _, rfl, rfl, mirrors⟩
  | done held mirrors => exact .inr ⟨_, _, _, _, rfl, rfl, held, mirrors⟩

/-- Over stores that mirror each other the two actions end alike. -/
def Matches (settings : Settings) {α β : Type} (related : α → β → Prop) (action : Action α) (other : Action β) : Prop :=
  ∀ left right : State, left.store.Mirrors settings.model right.store →
    Ended settings.model related (action.run { settings } left) (other.run { settings } right)

/-- The action does not depend on credentials. -/
def Blind (settings : Settings) {α : Type} (action : Action α) : Prop := Matches settings Eq action action

variable {settings : Settings} {α β α' β' : Type}

section Rules

variable {related : α → β → Prop} {related' : α' → β' → Prop} {action : Action α} {other : Action β}

theorem Matches.mono {weaker : α → β → Prop} (runs : Matches settings related action other)
    (implies : ∀ a b, related a b → weaker a b) : Matches settings weaker action other :=
  fun left right mirrors => (runs left right mirrors).mono implies

theorem matches_pure {a : α} {b : β} (held : related a b) : Matches settings related (pure a) (pure b) :=
  fun _ _ mirrors => .done held mirrors

theorem matches_throw (e : Error) : Matches settings related (throw e) (throw e) :=
  fun _ _ mirrors => .failed mirrors

theorem matches_liftExcept {result : Except Error α} {result' : Except Error β}
    (results : (∃ e, result = .error e ∧ result' = .error e) ∨ ∃ a b, result = .ok a ∧ result' = .ok b ∧ related a b) :
    Matches settings related (liftM result) (liftM result') := by
  obtain ⟨e, rfl, rfl⟩ | ⟨a, b, rfl, rfl, held⟩ := results
  · exact matches_throw e
  · exact matches_pure held

theorem Matches.bind {next : α → Action α'} {next' : β → Action β'} (first : Matches settings related action other)
    (second : ∀ a b, related a b → Matches settings related' (next a) (next' b)) :
    Matches settings related' (action >>= next) (other >>= next') := by
  intro left right mirrors
  rw [run_bind, run_bind]
  obtain ⟨e, later, later', ran, ran', mirrors⟩ | ⟨a, b, later, later', ran, ran', held, mirrors⟩ :=
    (first left right mirrors).results
  all_goals rw [ran, ran']
  · exact .failed mirrors
  · exact second a b held later later' mirrors

theorem matches_check {result : Except Error α} {next : α → Action α'} {next' : α → Action β'}
    (rest : ∀ a, result = .ok a → Matches settings related' (next a) (next' a)) :
    Matches settings related' (liftM result >>= next) (liftM result >>= next') := by
  cases result with
  | error e => exact matches_throw e
  | ok a => exact rest a rfl

theorem Blind.matches_bind {next : α → Action α'} {next' : α → Action β'} (first : Blind settings action)
    (second : ∀ a, Matches settings related' (next a) (next' a)) :
    Matches settings related' (action >>= next) (action >>= next') := by
  apply Matches.bind first
  rintro a _ rfl
  exact second a

theorem Matches.map {f : α → α'} {g : β → β'} (runs : Matches settings related action other)
    (implies : ∀ a b, related a b → related' (f a) (g b)) : Matches settings related' (f <$> action) (g <$> other) := by
  rw [← bind_pure_comp, ← bind_pure_comp]
  exact runs.bind fun a b held => matches_pure (implies a b held)

theorem Matches.rescue {rescue : Error → Action α} {rescue' : Error → Action β}
    (runs : Matches settings related action other) (second : ∀ e, Matches settings related (rescue e) (rescue' e)) :
    Matches settings related (tryCatch action rescue) (tryCatch other rescue') := by
  intro left right mirrors
  rw [run_tryCatch, run_tryCatch]
  obtain ⟨e, later, later', ran, ran', mirrors⟩ | ⟨a, b, later, later', ran, ran', held, mirrors⟩ :=
    (runs left right mirrors).results
  all_goals rw [ran, ran']
  · exact second e later later' mirrors
  · exact .done held mirrors

theorem Matches.whileLoading (runs : Matches settings related action other) (part : String) :
    Matches settings related (whileLoading part action) (whileLoading part other) :=
  runs.rescue fun e => matches_throw (e.whileLoading part)

theorem matches_foldlM {ι : Type} {f : α → ι → Action α} {g : β → ι → Action β} {list : List ι}
    (step : ∀ a b i, related a b → Matches settings related (f a i) (g b i)) :
    ∀ {a b}, related a b → Matches settings related (list.foldlM f a) (list.foldlM g b) := by
  induction list with
  | nil => exact matches_pure
  | cons i list ih =>
    intro a b held
    rw [List.foldlM_cons, List.foldlM_cons]
    exact (step a b i held).bind fun _ _ => ih

theorem matches_ask {request request' : Request} {related : request.Answer → request'.Answer → Prop}
    (answers : ∀ left right : Store, left.Mirrors settings.model right →
      Store.Answered settings.model related (left.answer request) (right.answer request')) :
    Matches settings related (ask request) (ask request') := by
  intro left right mirrors
  have answered := answers left.store right.store mirrors
  rw [run_ask_never, run_ask_never]
  rcases asked : left.store.answer request with ⟨result, store⟩
  rcases asked' : right.store.answer request' with ⟨result', store'⟩
  rw [asked, asked'] at answered
  rw [run_serve, asked, run_serve, asked']
  cases answered with
  | refused e mirrors => exact .failed mirrors
  | answered held mirrors => exact .done held mirrors

end Rules

/-! ### Blind actions -/

theorem compositional_blind (settings : Settings) : Compositional settings (Blind settings) where
  pure _ := matches_pure rfl
  throw e := matches_throw e
  configured rest := rest
  report _ := fun _ _ mirrors => .done rfl mirrors
  bind first second := first.matches_bind second

theorem blind_ask {request : Request} (admissible : request.Admissible settings.model) (isPublic : request.Public) :
    Blind settings (ask request) :=
  matches_ask fun _ _ mirrors => mirrors.answer admissible isPublic

theorem blind_find (kind : Kind) (id : EntityId) : Blind settings (ask (.find kind id)) := blind_ask trivial trivial

theorem blind_findNamed (kind : Kind) (name : String) : Blind settings (ask (.findNamed kind name)) :=
  blind_ask trivial trivial

theorem blind_create (kind : Kind) (name : String) (visible : Text.blank name = false) :
    Blind settings (ask (.create kind name)) := blind_ask visible trivial

theorem blind_edgesOf (kind : Kind) (id : EntityId) : Blind settings (ask (.edgesOf kind id)) :=
  blind_ask trivial trivial

theorem blind_eraseEdge (edge : Edge EntityId) : Blind settings (ask (.eraseEdge edge)) := blind_ask trivial trivial

theorem matches_loadCredentials (user : EntityId) :
    Matches settings (fun _ _ => True) (ask (.loadCredentials user)) (ask (.loadCredentials user)) :=
  matches_ask fun _ _ mirrors => mirrors.answer_loadCredentials user

theorem matches_saveCredentials (user : EntityId) (credentials credentials' : Credentials) :
    Matches settings (fun _ _ => True) (ask (.saveCredentials user credentials))
      (ask (.saveCredentials user credentials')) :=
  matches_ask fun _ _ mirrors => mirrors.answer_saveCredentials user credentials credentials'

theorem blind_count {next : Nat → Action α} (rest : ∀ users, Blind settings (next users)) :
    Blind settings (get >>= fun state => next state.store.users.size) := by
  intro left right mirrors
  rw [run_bind, run_bind, run_get, run_get]
  simp only [mirrors.users_size]
  exact rest _ left right mirrors

theorem Sends.blind {action : Action α} (sends : Sends Request.ReadsGraph action) : Blind settings action := by
  have composes := compositional_blind settings
  induction sends with
  | pure a => exact composes.pure a
  | throw e => exact composes.throw e
  | liftExcept result => exact composes.liftExcept result
  | settings => exact composes.configured (composes.pure settings)
  | @ask request reads =>
    cases request with
    | findNamed | find | list | edgesOf => exact blind_ask trivial trivial
    | create | rename | delete | loadCredentials | saveCredentials | insertEdge | eraseEdge => exact reads.elim
  | count _ ih => exact blind_count ih
  | bind _ _ ih_first ih_rest => exact composes.bind ih_first ih_rest
  | whileLoading part _ ih => exact ih.whileLoading part

theorem blind_loadGroup (record : Record) : Blind settings (Group.load record) := (graph_loadGroup record).blind

theorem blind_loadRole (record : Record) : Blind settings (Role.load record) := (graph_loadRole record).blind

theorem blind_loadPermission (record : Record) : Blind settings (Permission.load record) :=
  (graph_loadPermission record).blind

/-! ### Users -/

/-- The same user up to its credentials. -/
abbrev SameUser (user other : User) : Prop := user.bare = other.bare

theorem matches_alongUser {user other : User} (edge : Edge EntityId) (same : SameUser user other) :
    Matches settings SameUser (user.along edge) (other.along edge) := by
  obtain ⟨password, lastLogin, rfl⟩ := User.bare_eq_iff.mp same
  have attaches (kind : Kind) (id : EntityId) (neighbours : Roster Record) : Blind settings (attach kind id neighbours) :=
    (sends_attach finds_readsGraph kind id neighbours).blind
  cases edge with
  | userGroup _ group => exact (attaches .group group _).matches_bind fun _ => matches_pure rfl
  | userRole _ role => exact (attaches .role role _).matches_bind fun _ => matches_pure rfl
  | userGroupRole u group role =>
    exact (sends_loadAssignment finds_readsGraph u group role).blind.matches_bind fun _ => matches_pure rfl
  | delegation delegator delegatee =>
    simp only [User.along]
    split
    · exact (attaches .user delegator _).matches_bind fun _ => matches_pure rfl
    · exact (attaches .user delegatee _).matches_bind fun _ => matches_pure rfl
  | groupRole | rolePermission => exact matches_pure rfl

theorem matches_loadUser (record : Record) : Matches settings SameUser (User.load record) (User.load record) := by
  refine (matches_loadCredentials record.id).bind fun credentials credentials' _ => ?_
  refine (blind_edgesOf .user record.id).matches_bind fun edges => ?_
  exact matches_foldlM (fun _ _ edge same => matches_alongUser edge same) rfl

section Entities

variable {E : Type} [Entity E] {related : E → E → Prop}
  (loads : ∀ record : Record, Matches settings related (Entity.load record) (Entity.load record))
include loads

theorem matches_named (name : String) : Matches settings related (Entity.named name) (Entity.named name) := by
  refine (blind_findNamed _ name).matches_bind fun found => ?_
  cases found with
  | none => exact matches_throw _
  | some record => exact loads record

theorem matches_withId (id : EntityId) : Matches settings related (Entity.withId id) (Entity.withId id) := by
  refine (blind_find _ id).matches_bind fun found => ?_
  cases found with
  | none => exact matches_throw _
  | some record => exact loads record

theorem matches_add (name : String) : Matches settings related (Entity.add name) (Entity.add name) := by
  have composes := compositional_blind settings
  refine matches_check fun _ visible => ?_
  refine (composes.existsNamed blind_findNamed name).matches_bind fun taken => ?_
  cases taken with
  | true => exact matches_throw _
  | false =>
    refine (blind_create _ name (checkName_eq_ok.mp visible)).matches_bind fun record => ?_
    exact Blind.matches_bind (composes.report _) fun _ => loads record

theorem matches_rename (entity : E) (name : String) :
    Matches settings related (Entity.rename entity name) (Entity.rename entity name) := by
  have composes := compositional_blind settings
  refine matches_check fun _ visible => ?_
  have renames : Blind settings (ask (.rename (Entity.kind E) (Entity.id entity) name)) :=
    blind_ask (checkName_eq_ok.mp visible) trivial
  refine renames.matches_bind fun record => ?_
  exact Blind.matches_bind (composes.report _) fun _ => loads record

omit loads in
/-- A whole table is loaded alike if its entities are, as far as `f` tells them apart. -/
theorem matches_all {f : E → α} (records : ∀ a b : E, f a = f b → Named.record a = Named.record b)
    (loads : ∀ record : Record, Matches settings (fun a b : E => f a = f b) (Entity.load record) (Entity.load record)) :
    Matches settings (fun a b => a.toList.map f = b.toList.map f) (Entity.all E) (Entity.all E) := by
  have lists : Blind settings (ask (.list (Entity.kind E))) := blind_ask trivial trivial
  refine lists.matches_bind fun listed => ?_
  have joins : Matches settings (Roster.Alike f)
      (listed.foldlM (fun entities record => do entities.join (← Entity.load record)) {})
      (listed.foldlM (fun entities record => do entities.join (← Entity.load record)) {}) := by
    refine matches_foldlM (fun a b record alike => (loads record).bind fun loaded loaded' same => ?_) ⟨rfl, rfl, rfl⟩
    exact matches_liftExcept (alike.join records same)
  exact joins.mono fun a b alike => alike.members

end Entities

theorem matches_addWithPassword (name password : String) :
    Matches settings SameUser (User.addWithPassword name password) (User.addWithPassword name password) := by
  have encodes : Matches settings (fun _ _ => True) (User.encodePassword password) (User.encodePassword password) :=
    fun _ _ mirrors => .done trivial mirrors
  refine (matches_add matches_loadUser name).bind fun user other same => ?_
  obtain ⟨password, lastLogin, rfl⟩ := User.bare_eq_iff.mp same
  refine encodes.bind fun stored stored' _ => ?_
  exact (matches_saveCredentials _ _ _).bind fun _ _ _ => matches_pure rfl

/-! ### Lists -/

theorem matches_delegatorsFrom (rounds : Nat) (met queue : List EntityId) :
    Matches settings (fun users others => users.map User.bare = others.map User.bare)
      (delegatorsFrom rounds met queue) (delegatorsFrom rounds met queue) := by
  induction rounds generalizing met queue with
  | zero => exact matches_pure rfl
  | succ rounds ih =>
    cases queue with
    | nil => exact matches_pure rfl
    | cons id queue =>
      refine ((matches_withId matches_loadUser id).whileLoading "delegator").bind fun user other same => ?_
      obtain ⟨password, lastLogin, rfl⟩ := User.bare_eq_iff.mp same
      refine (ih _ _).bind fun users others rest => matches_pure ?_
      rw [List.map_cons, List.map_cons, rest]
      rfl

/-- Of the delegators only what is not secret goes into the list. -/
theorem foldlM_addPrincipal_bare (users : List User) (draft : DynamicAcl.Draft) :
    users.foldlM (DynamicAcl.Draft.addPrincipal false) draft =
      (users.map User.bare).foldlM (DynamicAcl.Draft.addPrincipal false) draft := by
  rw [List.foldlM_map]
  rfl

theorem map_toRecord_bare (users : List User) : users.map User.toRecord = (users.map User.bare).map User.toRecord := by
  rw [List.map_map]
  rfl

theorem blind_buildDynamic (user : User) : Blind settings (DynamicAcl.build user) := by
  -- The delegators of the two runs differ; everything after them is done with the same bare users.
  have composes := compositional_blind settings
  have delegators : Matches settings (fun users others => users.map User.bare = others.map User.bare)
      (delegatorsOf user) (delegatorsOf user) := by
    intro left right mirrors
    simp only [delegatorsOf, run_bind, run_get, mirrors.users_size]
    exact matches_delegatorsFrom _ _ _ left right mirrors
  refine (graph_requireUser user).blind.matches_bind fun _ => delegators.bind fun users others same => ?_
  simp only [foldlM_addPrincipal_bare users, foldlM_addPrincipal_bare others, map_toRecord_bare users,
    map_toRecord_bare others, same]
  refine (graph_addPrincipal true {} user).blind.matches_bind fun draft => ?_
  have adds : Blind settings ((others.map User.bare).foldlM (DynamicAcl.Draft.addPrincipal false) draft) :=
    (Sends.foldlM (fun draft user => graph_addPrincipal false draft user) _ draft).blind
  refine adds.matches_bind fun draft => Blind.matches_bind (composes.liftExcept _) fun _ => ?_
  exact composes.liftExcept _

theorem blind_buildFor (model : Model) (globalGroup : String) (user : User) :
    Blind settings (Acl.buildFor model globalGroup user) := by
  have composes := compositional_blind settings
  cases model with
  | basic => exact composes.map (graph_buildBasic user).blind
  | dynamic => exact composes.map (blind_buildDynamic user)
  | turbine => exact composes.map (graph_buildTurbine user globalGroup).blind

end Action

end Entitlement
