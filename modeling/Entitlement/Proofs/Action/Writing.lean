import Entitlement.Login
import Entitlement.Proofs.Action.Reading
import Entitlement.Seed.Apply

/-!
The writes of the services. An invariant that the writes of an action keep is kept by the action, even
where it fails between two writes.
-/

namespace Entitlement

theorem checkName_eq_ok {name : String} : checkName name = .ok () ↔ Text.blank name = false := by
  unfold checkName
  split <;> simp_all

@[simp]
theorem Edge.ids_relation (edge : Edge Record) : edge.ids.relation = edge.relation :=
  edge.map_relation Record.id

theorem Relation.belongsTo_of_seedable {relation : Relation} {model : Model}
    (seedable : relation.seedable model)
    (apart : ¬ (model = .turbine ∧ relation = .userRole)) : relation.belongsTo model := by
  simp only [Relation.seedable, Bool.or_eq_true, Bool.and_eq_true, beq_iff_eq] at seedable
  exact seedable.resolve_right apart

/-- What the services do to the open sessions keeps `I`, as long as users that are loaded for a session are
as `Held` says. -/
structure Action.KeepsOpen (I : State → Prop) (Held : User → Prop) : Prop where
  opened : ∀ (state : State) (user : User) (acl : Acl) (time : Moment), Held user → I state →
    I { state with
    nextSession := state.nextSession + 1
    sessions := state.sessions.insert { id := ⟨state.nextSession⟩, user, acl, createdAt := time } }
  closed : ∀ (state : State) (stays : Session → Bool), I state →
    I { state with sessions := ⟨state.sessions.items.filter stays⟩ }
  renewed : ∀ (state : State) (session : Session) (user : User) (acl : Acl) (time : Moment),
    Held user → I state → I { state with
      sessions := state.sessions.replace { session with user, acl, refreshedAt := some time } }

namespace Action.Invariant

variable {context : Context} {I : State → Prop} {Allowed : Request → Prop}
  (invariant : Invariant Allowed I)
include invariant

/-! ### Grants -/

omit invariant in
theorem requireModel (model : Model) :
    Keeps context I (requireModel model) fun _ => context.settings.model = model := by
  refine keeps_settings.bind fun settings same => ?_
  subst same
  exact Keeps.ite (fun _ => keeps_throw _) fun same => keeps_pure (Decidable.not_not.mp same)

omit invariant in
theorem checkName (name : String) :
    Keeps context I (liftM (checkName name) : Action Unit) fun _ => Text.blank name = false :=
  (keeps_liftExcept _).mono fun _ passed => checkName_eq_ok.mp passed

theorem requireStored (kind : Kind) (record : Record) :
    Keeps context I (requireStored kind record) fun _ => True := by
  refine (invariant.read (.find kind record.id) trivial).bind fun found _ => ?_
  exact Keeps.ite (fun _ => keeps_throw _) fun _ => keeps_pure trivial

theorem requireEndpoints (edge : Edge Record) : Keeps context I (requireEndpoints edge) fun _ => True :=
  keeps_forM fun (kind, record) _ => invariant.requireStored kind record

theorem grant {edge : Edge Record} (allowed : Allowed (.insertEdge edge.ids)) :
    Keeps context I (grant edge) fun _ => True := by
  refine (invariant.requireEndpoints edge).bind fun _ _ => ?_
  refine (invariant.write _ allowed).bind fun isNew _ => keeps_settings.bind fun settings _ => ?_
  exact (invariant.report _).bind fun _ _ => keeps_pure trivial

theorem revoke {edge : Edge Record} (allowed : Allowed (.eraseEdge edge.ids)) :
    Keeps context I (revoke edge) fun _ => True := by
  refine (invariant.requireEndpoints edge).bind fun _ _ => ?_
  refine (invariant.write _ allowed).bind fun wasThere _ => keeps_settings.bind fun settings _ => ?_
  exact (invariant.report _).bind fun _ _ => keeps_pure trivial

theorem withdraw {edge : Edge Record} (allowed : Allowed (.eraseEdge edge.ids)) :
    Keeps context I (withdraw edge) fun _ => True := by
  refine (invariant.revoke allowed).bind fun wasThere _ => ?_
  exact Keeps.ite (fun _ => keeps_pure trivial) fun _ => keeps_throw _

theorem eraseGrants {model : Model} (erases : ∀ edge : Edge EntityId, Allowed (.eraseEdge edge))
    (edges : List (Edge EntityId)) : Keeps context I (eraseGrants model edges) fun _ => True := by
  refine keeps_foldlM (fun count _ edge _ => Keeps.ite (fun _ => ?_) fun _ => keeps_pure trivial) trivial
  exact (invariant.write _ (erases edge)).bind fun wasThere _ => keeps_pure trivial

theorem revokeAll (erases : ∀ edge : Edge EntityId, Allowed (.eraseEdge edge)) (entity : Endpoint) :
    Keeps context I (revokeAll entity) fun _ => True := by
  refine (invariant.requireStored entity.kind entity.toRecord).bind fun _ _ => ?_
  refine (invariant.read (.edgesOf entity.kind entity.id) trivial).bind fun edges _ => ?_
  refine keeps_settings.bind fun settings _ =>
    (invariant.eraseGrants erases edges).bind fun count _ => ?_
  exact (invariant.report _).bind fun _ _ => keeps_pure trivial

theorem globalGroup (creates : ∀ name, Text.blank name = false → Allowed (.create .group name)) :
    Keeps context I globalGroup fun _ => True := by
  refine keeps_settings.bind fun settings _ => (checkName settings.globalGroup).bind fun _ visible => ?_
  refine (invariant.read (.findNamed .group settings.globalGroup) trivial).bind fun found _ => ?_
  cases found with
  | some record => exact keeps_pure trivial
  | none =>
    refine (invariant.write _ (creates settings.globalGroup visible)).bind fun record _ => ?_
    exact (invariant.report _).bind fun _ _ => keeps_pure trivial

theorem replaceRole (creates : ∀ name, Text.blank name = false → Allowed (.create .group name))
    (erases : ∀ edge : Edge EntityId, Allowed (.eraseEdge edge))
    (inserts : ∀ user group role, Allowed (.insertEdge (.userGroupRole user group role)))
    (user old new : Record) :
    Keeps context I (replaceRole user old new) fun _ => True := by
  refine (invariant.globalGroup creates).bind fun group _ => ?_
  refine (invariant.requireEndpoints _).bind fun _ _ =>
    (invariant.requireStored .role new).bind fun _ _ => ?_
  refine (invariant.write _ (erases _)).bind fun wasThere _ => ?_
  have replaced : Keeps context I (tryCatch (Action.ask
    (.insertEdge (Edge.userGroupRole user group new).ids)) fun e => do
      if wasThere then discard <| Action.ask (.insertEdge (Edge.userGroupRole user group old).ids)
      throw e) fun _ => True := by
    have puts_back : Keeps context I (discard <| Action.ask
      (.insertEdge (Edge.userGroupRole user group old).ids))
        fun _ => True := (invariant.write _ (inserts ..)).map fun _ _ => trivial
    refine (invariant.write _ (inserts ..)).rescue fun e => Keeps.ite (fun _ => ?_) fun _ =>
      keeps_throw e
    exact puts_back.bind fun _ _ => keeps_throw e
  refine replaced.bind fun isNew _ => (invariant.report _).bind fun _ _ => ?_
  exact invariant.report _

/-! ### Entities -/

section Entity

variable {E : Type} [Entity E]
  (loads : ∀ record : Record, Keeps context I (Entity.load record : Action E) fun _ => True)

theorem existsNamed (name : String) : Keeps context I (Entity.existsNamed E name) fun _ => True :=
  (invariant.read (.findNamed (Entity.kind E) name) trivial).bind fun _ _ => keeps_pure trivial

include loads

theorem add {name : String}
    (creates : Text.blank name = false → Allowed (.create (Entity.kind E) name)) :
    Keeps context I (Entity.add name : Action E) fun _ => True := by
  refine (checkName name).bind fun _ visible => (invariant.existsNamed name).bind fun taken _ => ?_
  refine Keeps.ite (fun _ => keeps_throw_bind _ _) fun _ => ?_
  refine (invariant.write _ (creates visible)).bind fun record _ => ?_
  exact (invariant.report _).bind fun _ _ => loads record

theorem rename {entity : E} {name : String}
    (renames : Text.blank name = false → Allowed (.rename (Entity.kind E) (Entity.id entity) name)) :
    Keeps context I (Entity.rename entity name) fun _ => True := by
  refine (checkName name).bind fun _ visible =>
    (invariant.write _ (renames visible)).bind fun record _ => ?_
  exact (invariant.report _).bind fun _ _ => loads record

omit loads in
theorem remove {entity : E} (erases : ∀ edge : Edge EntityId, Allowed (.eraseEdge edge))
    (deletes : Allowed (.delete (Entity.kind E) (Entity.id entity))) :
    Keeps context I (Entity.remove entity) fun _ => True := by
  refine (invariant.revokeAll erases _).bind fun count _ =>
    (invariant.write _ deletes).bind fun _ _ => ?_
  exact (invariant.report _).bind fun _ _ => keeps_pure trivial

end Entity

/-! ### Users -/

theorem encodePassword (password : String) :
    Keeps context I (User.encodePassword password) fun _ => True := by
  refine invariant.exchange (fun _ => ⟨rfl, rfl, Nat.le_refl _⟩) fun state =>
    keeps_settings.bind fun settings _ => ?_
  exact keeps_pure trivial

theorem addWithPassword {name : String}
    (creates : Text.blank name = false → Allowed (.create .user name))
    (saves : ∀ user credentials, Allowed (.saveCredentials user credentials)) (password : String) :
    Keeps context I (User.addWithPassword name password) fun _ => True := by
  have adds : Keeps context I (Entity.add name : Action User) fun _ => True :=
    invariant.add invariant.loadUser creates
  refine adds.bind fun user _ => (invariant.encodePassword password).bind fun stored _ => ?_
  exact (invariant.write _ (saves ..)).bind fun _ _ => keeps_pure trivial

theorem authenticate (user : User) (password : String) :
    Keeps context I (user.authenticate password) fun _ => True := by
  refine keeps_settings.bind fun settings _ => (keeps_liftExcept _).trivial.bind fun fits _ => ?_
  refine Keeps.ite (fun _ => invariant.report _) fun _ => (invariant.report _).bind fun _ _ =>
    keeps_throw _

theorem recordLogin (saves : ∀ user credentials, Allowed (.saveCredentials user credentials))
    (user : User) :
    Keeps context I user.recordLogin fun _ => True := by
  refine (invariant.read (.loadCredentials user.id) trivial).bind fun credentials _ => ?_
  refine invariant.now.bind fun time _ => (invariant.write _ (saves ..)).bind fun _ _ =>
    keeps_pure trivial

theorem namedWithPassword (saves : ∀ user credentials, Allowed (.saveCredentials user credentials))
    (name password : String) : Keeps context I (User.namedWithPassword name password) fun _ => True := by
  have finds : Keeps context I (Entity.named name : Action User) fun _ => True :=
    invariant.named invariant.loadUser name
  refine finds.bind fun user _ => (invariant.authenticate user password).bind fun _ _ => ?_
  exact (invariant.recordLogin saves user).bind fun _ _ => keeps_pure trivial

theorem forcePassword (saves : ∀ user credentials, Allowed (.saveCredentials user credentials))
    (user : User)
    (password : String) : Keeps context I (user.forcePassword password) fun _ => True := by
  refine (invariant.read (.loadCredentials user.id) trivial).bind fun credentials _ => ?_
  refine (invariant.encodePassword password).bind fun stored _ =>
    (invariant.write _ (saves ..)).bind fun _ _ => ?_
  exact invariant.report _

theorem changePassword (saves : ∀ user credentials, Allowed (.saveCredentials user credentials))
    (user : User)
    (old new : String) : Keeps context I (user.changePassword old new) fun _ => True := by
  have finds : Keeps context I (Entity.withId user.id : Action User) fun _ => True :=
    invariant.withId invariant.loadUser user.id
  refine finds.bind fun stored _ => (invariant.authenticate stored old).bind fun _ _ => ?_
  exact invariant.forcePassword saves stored new

/-! ### Seeds -/

omit invariant in
/-- An edge that a seed may grant is of a relation of the model once its endpoints are found. -/
theorem resolved {model : Model} {edge : Edge String}
    (apart : ¬ (model = .turbine ∧ edge.relation = .userRole))
    (seedable : edge.relation.seedable model) (found :
      ∀ kind name, Keeps context I (Seed.endpointRecord kind name) fun _ => True) :
    Keeps context I (edge.resolve Seed.endpointRecord)
      fun resolved => resolved.relation.belongsTo model := by
  have shape := Relation.belongsTo_of_seedable seedable apart
  cases edge with
  | userGroup | userRole | groupRole | rolePermission | delegation =>
    refine (found _ _).bind fun _ _ => (found _ _).bind fun _ _ => ?_
    exact keeps_pure shape
  | userGroupRole user group role =>
    refine (found _ _).bind fun _ _ => (found _ _).bind fun _ _ => (found _ _).bind fun _ _ => ?_
    exact keeps_pure shape

theorem endpointRecord (kind : Kind) (name : String) :
    Keeps context I (Seed.endpointRecord kind name) fun _ => True := by
  cases kind with
  | user => exact (invariant.named invariant.loadUser name).bind fun _ _ => keeps_pure trivial
  | group => exact (invariant.named invariant.loadGroup name).bind fun _ _ => keeps_pure trivial
  | role => exact (invariant.named invariant.loadRole name).bind fun _ _ => keeps_pure trivial
  | permission =>
    exact (invariant.named invariant.loadPermission name).bind fun _ _ => keeps_pure trivial

theorem resolve (creates : ∀ name, Text.blank name = false → Allowed (.create .group name))
    {model : Model}
    {edge : Edge String} (seedable : edge.relation.seedable model) :
    Keeps context I (Seed.resolve model edge) fun resolved => resolved.relation.belongsTo model := by
  unfold Seed.resolve
  split
  · refine (invariant.globalGroup creates).bind fun group _ =>
      (invariant.endpointRecord _ _).bind fun user _ => ?_
    exact (invariant.endpointRecord _ _).bind fun role _ => keeps_pure rfl
  · rename_i apart
    refine resolved ?_ seedable invariant.endpointRecord
    rintro ⟨rfl, same⟩
    cases edge with
    | userRole user role => exact apart user role rfl rfl
    | userGroup | groupRole | rolePermission | userGroupRole | delegation => cases same

theorem addGrants (creates : ∀ name, Text.blank name = false → Allowed (.create .group name))
    {model : Model}
    (inserts : ∀ edge : Edge EntityId, edge.relation.belongsTo model → Allowed (.insertEdge edge))
    (edges : List (Edge String)) : Keeps context I (Seed.addGrants model edges) fun _ => True := by
  refine keeps_foldlM (fun count _ edge _ => ?_) trivial
  refine (keeps_liftExcept _).bind fun _ checked => ?_
  have seedable : edge.relation.seedable model := by
    unfold Seed.checkModel at checked
    split at checked
    · assumption
    · cases checked
  refine (invariant.resolve creates seedable).bind fun resolved shape => ?_
  have allowed : Allowed (.insertEdge resolved.ids) := inserts _ (by rwa [Edge.ids_relation])
  exact (invariant.grant allowed).bind fun isNew _ => keeps_pure trivial

section Ensure

variable {E : Type} [Entity E]

theorem ensure (loads : ∀ record : Record, Keeps context I (Entity.load record : Action E) fun _ => True)
    {add : Action E} (adds : Keeps context I add fun _ => True) (count : Nat) (name : String) :
    Keeps context I (Seed.ensure E add count name) fun _ => True := by
  refine (invariant.existsNamed name).bind fun present _ => Keeps.ite (fun _ => ?_) fun _ => ?_
  · have finds : Keeps context I (discard <| (Entity.named name : Action E)) fun _ => True :=
      (invariant.named loads name).map fun _ _ => trivial
    exact finds.bind fun _ _ => keeps_pure trivial
  · have added : Keeps context I (discard add) fun _ => True := adds.map fun _ _ => trivial
    exact added.bind fun _ _ => keeps_pure trivial

theorem ensureAll
    (loads : ∀ record : Record, Keeps context I (Entity.load record : Action E) fun _ => True)
    (creates : ∀ name, Text.blank name = false → Allowed (.create (Entity.kind E) name))
    (names : List String) (count : Nat) :
    Keeps context I (names.foldlM (fun count name =>
      Seed.ensure E (Entity.add name) count name) count) fun _ => True :=
  keeps_foldlM (fun count _ name _ => invariant.ensure loads
    (invariant.add loads (creates name)) count name) trivial

end Ensure

theorem addEntities {seed : Seed}
    (createsUsers : ∀ user ∈ seed.users, Text.blank user.name = false → Allowed (.create .user user.name))
    (creates : ∀ kind name, kind ≠ .user → Text.blank name = false → Allowed (.create kind name))
    (saves : ∀ user credentials, Allowed (.saveCredentials user credentials)) :
    Keeps context I seed.addEntities fun _ => True := by
  have users : Keeps context I (seed.users.foldlM (fun count user =>
      Seed.ensure User (User.addWithPassword user.name user.password) count user.name) 0) fun _ =>
        True := by
    refine keeps_foldlM (fun count _ user listed => ?_) trivial
    exact invariant.ensure invariant.loadUser (invariant.addWithPassword
      (createsUsers user listed) saves _) count _
  have adds {kind : Kind} (apart : kind ≠ .user) (name : String) (visible : Text.blank name = false) :
      Allowed (.create kind name) := creates kind name apart visible
  refine users.bind fun count _ => ?_
  refine (invariant.ensureAll invariant.loadGroup (adds nofun) seed.groups count).bind
    fun count _ => ?_
  refine (invariant.ensureAll invariant.loadRole (adds nofun) seed.roles count).bind fun count _ => ?_
  exact invariant.ensureAll invariant.loadPermission (adds nofun) seed.permissions count

theorem checkReferences (seed : Seed) (edges : List (Edge String)) :
    Keeps context I (seed.checkReferences edges) fun _ => True := by
  refine keeps_forM fun edge _ => keeps_forM fun (kind, name) _ =>
    Keeps.ite (fun _ => keeps_pure trivial) fun _ => ?_
  refine (invariant.read (.findNamed kind name) trivial).bind fun found _ => ?_
  exact Keeps.ite (fun _ => keeps_throw _) fun _ => keeps_pure trivial

theorem applySeed {seed : Seed}
    (createsUsers : ∀ user ∈ seed.users, Text.blank user.name = false → Allowed (.create .user user.name))
    (creates : ∀ kind name, kind ≠ .user → Text.blank name = false → Allowed (.create kind name))
    (saves : ∀ user credentials, Allowed (.saveCredentials user credentials))
    (inserts : ∀ edge : Edge EntityId, edge.relation.belongsTo context.settings.model →
      Allowed (.insertEdge edge)) : Keeps context I seed.apply fun _ => True := by
  refine keeps_settings.bind fun settings same => (keeps_liftExcept _).trivial.bind fun _ _ => ?_
  subst same
  refine (keeps_liftExcept _).trivial.bind fun edges _ =>
    (invariant.checkReferences seed edges).bind fun _ _ => ?_
  refine (invariant.addEntities createsUsers creates saves).bind fun entities _ => ?_
  have founds (name : String) : Text.blank name = false → Allowed (.create .group name) := creates .group name nofun
  exact (invariant.addGrants founds inserts edges).bind fun grants _ => keeps_pure trivial

/-! ### Sessions -/

section Sessions

variable {Held : User → Prop} (kept : KeepsOpen I Held)
include kept

omit invariant in
theorem close (stays : Session → Bool) :
    Keeps context I (Sessions.modifyOpen fun sessions => ⟨sessions.items.filter stays⟩) fun _ => True :=
  keeps_of_run fun state holds => kept.closed state stays holds

omit invariant kept in
theorem openFor (user : EntityId) : Keeps context I (Sessions.openFor user) fun _ => True :=
  keeps_get.bind fun _ _ => keeps_pure trivial

omit invariant kept in
theorem openSession (id : SessionId) : Keeps context I (openSession? id) fun _ => True :=
  keeps_get.bind fun _ _ => keeps_pure trivial

theorem opening {user : User} {acl : Acl} {next : Session → Action Session} (held : Held user)
    (rest : ∀ session, Keeps context I (next session) fun _ => True) :
    Keeps context I (do
      let session ← Session.create user acl
      Sessions.modifyOpen (·.insert session)
      next session) fun _ => True := by
  intro state holds
  let timed : State := { state with clock := ⟨state.clock.seconds + 1⟩ }
  have aside : I timed := invariant.aside state timed ⟨rfl, rfl, Nat.le_refl _⟩ holds
  exact rest _ _ (kept.opened timed user acl state.clock held aside)

theorem login {name password : String}
    (finds : Keeps context I (User.namedWithPassword name password) Held) :
    Keeps context I (login name password) fun _ => True := by
  refine finds.bind fun user held => (invariant.buildAcl user).bind fun acl _ => ?_
  refine invariant.opening kept held fun session => ?_
  refine (openFor _).bind fun count _ => (invariant.report _).bind fun _ _ => keeps_pure trivial

theorem logout (id : SessionId) : Keeps context I (logout id) fun _ => True := by
  refine (openSession id).bind fun found _ => ?_
  cases found with
  | none => exact keeps_pure trivial
  | some session =>
    refine (close kept _).bind fun _ _ => (openFor _).bind fun count _ => ?_
    exact (invariant.report _).bind fun _ _ => keeps_pure trivial

theorem invalidate (name : String) : Keeps context I (invalidate name) fun _ => True := by
  refine keeps_get.bind fun before _ => (close kept _).bind fun _ _ =>
    Keeps.ite (fun _ => ?_) fun _ => ?_
  · exact (invariant.report _).bind fun _ _ => keeps_pure trivial
  · exact keeps_pure trivial

theorem refresh (finds : ∀ id : EntityId, Keeps context I (Entity.withId id : Action User) Held)
    (id : SessionId) :
    Keeps context I (refresh id) fun _ => True := by
  refine (openSession id).bind fun found _ => ?_
  cases found with
  | none => exact keeps_throw _
  | some session =>
    have looks : Keeps context I (sessionUser session) Held := by
      refine (finds session.user.id).rescue fun e => Keeps.ite (fun _ => ?_) fun _ => keeps_throw e
      exact (close kept _).bind fun _ _ => (invariant.report _).bind fun _ _ => keeps_throw e
    refine looks.bind fun user held => (invariant.buildAcl user).bind fun acl _ => ?_
    have renews : Keeps context I (session.renewed user acl)
        fun renewed => ∃ time, renewed = { session with user, acl, refreshedAt := some time } :=
      invariant.now.bind fun time _ => keeps_pure ⟨time, rfl⟩
    refine renews.bind fun renewed same => ?_
    obtain ⟨time, rfl⟩ := same
    have replaces : Keeps context I (Sessions.modifyOpen
        (·.replace { session with user, acl, refreshedAt := some time })) fun _ => True :=
      keeps_of_run fun state holds => kept.renewed state session user acl time held holds
    refine replaces.bind fun _ _ => (openFor _).bind fun count _ => ?_
    exact (invariant.report _).bind fun _ _ => keeps_pure trivial

end Sessions

end Action.Invariant

end Entitlement
