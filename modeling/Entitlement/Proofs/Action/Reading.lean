import Entitlement.Acl.Build
import Entitlement.Proofs.Action.Sending

/-!
To load entities and to build lists only reads the store: every invariant is kept.
-/

namespace Entitlement.Action

/-! ### Neighbours -/

section Neighbours

variable {Sent : Request → Prop} (finds : ∀ kind id, Sent (.find kind id))
include finds

theorem sends_loadEnd (kind : Kind) (id : EntityId) : Sends Sent (loadEnd kind id) := by
  refine (Sends.ask (finds kind id)).bind fun found => ?_
  cases found with
  | none => exact .throw _
  | some record => exact .pure record

theorem sends_attach (kind : Kind) (id : EntityId) (neighbours : Roster Record) :
    Sends Sent (attach kind id neighbours) :=
  (sends_loadEnd finds kind id).bind fun _ => .liftExcept _

theorem sends_loadAssignment (user group role : EntityId) :
    Sends Sent (loadAssignment user group role) := by
  refine (sends_loadEnd finds .user user).bind fun _ => ?_
  refine (sends_loadEnd finds .group group).bind fun _ => ?_
  exact (sends_loadEnd finds .role role).bind fun _ => .pure _

theorem sends_alongUser (user : User) (edge : Edge EntityId) : Sends Sent (user.along edge) := by
  cases edge with
  | userGroup _ group => exact (sends_attach finds .group group _).bind fun _ => .pure _
  | userRole _ role => exact (sends_attach finds .role role _).bind fun _ => .pure _
  | userGroupRole u group role => exact (sends_loadAssignment finds u group role).bind fun _ => .pure _
  | delegation delegator delegatee =>
    apply Sends.ite
    · exact (sends_attach finds .user delegator _).bind fun _ => .pure _
    · exact (sends_attach finds .user delegatee _).bind fun _ => .pure _
  | groupRole | rolePermission => exact .pure user

theorem sends_alongGroup (group : Group) (edge : Edge EntityId) : Sends Sent (group.along edge) := by
  cases edge with
  | userGroup user _ => exact (sends_attach finds .user user _).bind fun _ => .pure _
  | groupRole _ role => exact (sends_attach finds .role role _).bind fun _ => .pure _
  | userGroupRole user g role => exact (sends_loadAssignment finds user g role).bind fun _ => .pure _
  | userRole | rolePermission | delegation => exact .pure group

theorem sends_alongRole (role : Role) (edge : Edge EntityId) : Sends Sent (role.along edge) := by
  cases edge with
  | rolePermission _ permission => exact (sends_attach finds .permission permission _).bind fun _ => .pure _
  | groupRole group _ => exact (sends_attach finds .group group _).bind fun _ => .pure _
  | userRole user _ => exact (sends_attach finds .user user _).bind fun _ => .pure _
  | userGroupRole user group r => exact (sends_loadAssignment finds user group r).bind fun _ => .pure _
  | userGroup | delegation => exact .pure role

theorem sends_alongPermission (permission : Permission) (edge : Edge EntityId) :
    Sends Sent (permission.along edge) := by
  cases edge with
  | rolePermission role _ => exact (sends_attach finds .role role _).bind fun _ => .pure _
  | userGroup | userRole | groupRole | userGroupRole | delegation => exact .pure permission

end Neighbours

end Entitlement.Action

namespace Entitlement

/-- The request reads the graph, and no credentials. -/
def Request.ReadsGraph : Request → Prop
  | .findNamed .. | .find .. | .list _ | .edgesOf .. => True
  | .create .. | .rename .. | .delete .. | .loadCredentials _ | .saveCredentials .. | .insertEdge _ | .eraseEdge _ => False

theorem Request.ReadsGraph.reads {request : Request} (reads : request.ReadsGraph) : request.Reads := by
  cases request with
  | findNamed | find | list | edgesOf => trivial
  | create | rename | delete | loadCredentials | saveCredentials | insertEdge | eraseEdge => exact reads.elim

/-- The user without the neighbours. -/
def User.alone (user : User) : User :=
  { user.toRecord with password := user.password, lastLogin := user.lastLogin }

end Entitlement

namespace Entitlement.Action

/-! ### Entities -/

theorem finds_reads (kind : Kind) (id : EntityId) : (Request.find kind id).Reads := trivial

theorem finds_readsGraph (kind : Kind) (id : EntityId) : (Request.find kind id).ReadsGraph := trivial

theorem sends_read (request : Request) (reads : request.Reads) : Sends Request.Reads (ask request) := .ask reads

theorem sends_readGraph (request : Request) (reads : request.ReadsGraph) : Sends Request.ReadsGraph (ask request) :=
  .ask reads

theorem sends_loadUser (record : Record) : Sends Request.Reads (User.load record) := by
  refine (sends_read (.loadCredentials record.id) trivial).bind fun credentials => ?_
  refine (sends_read (.edgesOf .user record.id) trivial).bind fun edges => ?_
  exact .foldlM (sends_alongUser finds_reads) edges _

theorem graph_loadGroup (record : Record) : Sends Request.ReadsGraph (Group.load record) :=
  (sends_readGraph (.edgesOf .group record.id) trivial).bind fun edges =>
    .foldlM (sends_alongGroup finds_readsGraph) edges _

theorem graph_loadRole (record : Record) : Sends Request.ReadsGraph (Role.load record) :=
  (sends_readGraph (.edgesOf .role record.id) trivial).bind fun edges =>
    .foldlM (sends_alongRole finds_readsGraph) edges _

theorem graph_loadPermission (record : Record) : Sends Request.ReadsGraph (Permission.load record) :=
  (sends_readGraph (.edgesOf .permission record.id) trivial).bind fun edges =>
    .foldlM (sends_alongPermission finds_readsGraph) edges _

theorem sends_loadGroup (record : Record) : Sends Request.Reads (Group.load record) :=
  (graph_loadGroup record).mono fun _ reads => reads.reads

theorem sends_loadRole (record : Record) : Sends Request.Reads (Role.load record) :=
  (graph_loadRole record).mono fun _ reads => reads.reads

theorem sends_loadPermission (record : Record) : Sends Request.Reads (Permission.load record) :=
  (graph_loadPermission record).mono fun _ reads => reads.reads

section Entity

variable {E : Type} [Entity E] {Sent : Request → Prop} (finds : ∀ kind id, Sent (.find kind id))
  (loads : ∀ record : Record, Sends Sent (Entity.load record : Action E))
include finds loads

theorem sends_withId (id : EntityId) : Sends Sent (Entity.withId id : Action E) := by
  refine (Sends.ask (finds (Entity.kind E) id)).bind fun found => ?_
  cases found with
  | none => exact .throw _
  | some record => exact loads record

end Entity

theorem sends_all {E : Type} [Entity E]
    (loads : ∀ record : Record, Sends Request.Reads (Entity.load record : Action E)) :
    Sends Request.Reads (Entity.all E) := by
  refine (sends_read (.list (Entity.kind E)) trivial).bind fun records => ?_
  exact .foldlM (fun _ record => (loads record).bind fun _ => .liftExcept _) records _

/-! ### Lists -/

theorem graph_role (loaded : LoadedRoles) (id : EntityId) : Sends Request.ReadsGraph (loaded.role id) := by
  unfold LoadedRoles.role
  cases loaded[id]? with
  | some role => exact .pure _
  | none =>
    have loads : Sends Request.ReadsGraph (Entity.withId id : Action Role) :=
      sends_withId finds_readsGraph graph_loadRole id
    exact (loads.whileLoading "role").bind fun _ => .pure _

theorem sends_delegatorsFrom (rounds : Nat) (met queue : List EntityId) :
    Sends Request.Reads (delegatorsFrom rounds met queue) := by
  induction rounds generalizing met queue with
  | zero => exact .pure []
  | succ rounds ih =>
    cases queue with
    | nil => exact .pure []
    | cons id queue =>
      have loads : Sends Request.Reads (Entity.withId id : Action User) := sends_withId finds_reads sends_loadUser id
      refine (loads.whileLoading "delegator").bind fun user => ?_
      exact (ih _ _).bind fun _ => .pure _

theorem graph_requireUser (user : User) : Sends Request.ReadsGraph (requireUser user) := by
  refine (sends_readGraph (.find .user user.id) trivial).bind fun found => ?_
  exact .ite (.throw _) (.pure _)

theorem graph_addPrincipal (own : Bool) (draft : DynamicAcl.Draft) (principal : User) :
    Sends Request.ReadsGraph (draft.addPrincipal own principal) := by
  have adds : ∀ (draft : DynamicAcl.Draft) (record : Record), Sends Request.ReadsGraph (draft.addRole record) := by
    intro draft record
    refine (graph_role _ _).bind fun _ => ?_
    exact (Sends.liftExcept _).bind fun _ => .pure _
  have adds_own : ∀ (key : String) (draft : DynamicAcl.Draft) (record : Record),
      Sends Request.ReadsGraph (draft.addOwnRole key record) := by
    intro key draft record
    refine (graph_role _ _).bind fun _ => (Sends.liftExcept _).bind fun _ => ?_
    exact (Sends.liftExcept _).bind fun _ => .pure _
  have adds_group : ∀ (draft : DynamicAcl.Draft) (record : Record),
      Sends Request.ReadsGraph (draft.addGroup own record) := by
    intro draft record
    have loads : Sends Request.ReadsGraph (Entity.withId record.id : Action Group) :=
      sends_withId finds_readsGraph graph_loadGroup record.id
    refine (loads.whileLoading "group").bind fun group => ?_
    cases own with
    | false => exact .foldlM adds _ draft
    | true => exact .foldlM (adds_own group.key) _ draft
  exact (Sends.foldlM adds _ draft).bind fun draft => .foldlM adds_group _ draft

theorem sends_buildDynamic (user : User) : Sends Request.Reads (DynamicAcl.build user) := by
  have reads : ∀ request : Request, request.ReadsGraph → request.Reads := fun _ reads => reads.reads
  have delegators : Sends Request.Reads (delegatorsOf user) :=
    .count fun users => sends_delegatorsFrom (users + 1) _ _
  refine ((graph_requireUser user).mono reads).bind fun _ => delegators.bind fun delegators => ?_
  refine ((graph_addPrincipal true {} user).mono reads).bind fun draft => ?_
  have adds : ∀ draft user, Sends Request.Reads (DynamicAcl.Draft.addPrincipal false draft user) :=
    fun draft user => (graph_addPrincipal false draft user).mono reads
  refine (Sends.foldlM adds delegators draft).bind fun draft => ?_
  exact (Sends.liftExcept _).bind fun _ => .liftExcept _

theorem graph_buildBasic (user : User) : Sends Request.ReadsGraph (BasicAcl.build user) :=
  (graph_requireUser user).bind fun _ => .pure _

theorem graph_assignmentsOf (loaded : LoadedRoles) (assignments : List Assignment) :
    Sends Request.ReadsGraph (TurbineAcl.assignmentsOf loaded assignments) := by
  induction assignments generalizing loaded with
  | nil => exact .pure []
  | cons assignment rest ih =>
    refine (graph_role _ _).bind fun _ => ?_
    exact (ih _).bind fun _ => .pure _

theorem graph_buildTurbine (user : User) (globalGroup : String) :
    Sends Request.ReadsGraph (TurbineAcl.build user globalGroup) := by
  refine (graph_requireUser user).bind fun _ => ?_
  exact (graph_assignmentsOf {} user.joins).bind fun _ => .liftExcept _

theorem sends_buildFor (model : Model) (globalGroup : String) (user : User) :
    Sends Request.Reads (Acl.buildFor model globalGroup user) := by
  have reads : ∀ request : Request, request.ReadsGraph → request.Reads := fun _ reads => reads.reads
  cases model with
  | basic => exact ((graph_buildBasic user).mono reads).map
  | dynamic => exact (sends_buildDynamic user).map
  | turbine => exact ((graph_buildTurbine user globalGroup).mono reads).map

theorem sends_buildAcl (user : User) : Sends Request.Reads (Acl.build user) :=
  Sends.settings.bind fun settings => sends_buildFor settings.model settings.globalGroup user

/-! ### Invariants -/

namespace Invariant

variable {context : Context} {I : State → Prop} {Allowed : Request → Prop} (invariant : Invariant Allowed I)
include invariant

theorem reads {α : Type} {action : Action α} (sends : Sends Request.Reads action) :
    Keeps context I action fun _ => True := sends.keeps (fun _ reads => reads) invariant

theorem alongUser (user : User) (edge : Edge EntityId) :
    Keeps context I (user.along edge) (·.alone = user.alone) := by
  cases edge with
  | userGroup _ group => exact (invariant.reads (sends_attach finds_reads .group group _)).bind fun _ _ => keeps_pure rfl
  | userRole _ role => exact (invariant.reads (sends_attach finds_reads .role role _)).bind fun _ _ => keeps_pure rfl
  | userGroupRole u group role =>
    exact (invariant.reads (sends_loadAssignment finds_reads u group role)).bind fun _ _ => keeps_pure rfl
  | delegation delegator delegatee =>
    refine Keeps.ite (fun _ => ?_) fun _ => ?_
    · exact (invariant.reads (sends_attach finds_reads .user delegator _)).bind fun _ _ => keeps_pure rfl
    · exact (invariant.reads (sends_attach finds_reads .user delegatee _)).bind fun _ _ => keeps_pure rfl
  | groupRole | rolePermission => exact keeps_pure rfl

/-- Whatever is loaded for a user, apart from its edges it is what was read of it. -/
theorem loadUser_alone (record : Record) {told : Credentials → Prop}
    (tells : ∀ state credentials store, I state →
      state.store.answer (.loadCredentials record.id) = (.ok credentials, store) → told credentials) :
    Keeps context I (User.load record) fun user => user.toRecord = record ∧ told ⟨user.password, user.lastLogin⟩ := by
  have asks : Keeps context I (ask (.loadCredentials record.id)) told := invariant.told (.inl trivial) tells nofun
  refine asks.bind fun credentials held => ?_
  refine (invariant.read (.edgesOf .user record.id) trivial).bind fun edges _ => ?_
  let start : User := { record with password := credentials.password, lastLogin := credentials.lastLogin }
  have goes_on : Keeps context I (edges.foldlM User.along start) (·.alone = start.alone) :=
    keeps_foldlM (fun user same edge _ => (invariant.alongUser user edge).mono fun _ => (·.trans same)) rfl
  refine goes_on.mono fun user same => ⟨congrArg User.toRecord same, ?_⟩
  have password : user.password = credentials.password := congrArg User.password same
  have lastLogin : user.lastLogin = credentials.lastLogin := congrArg User.lastLogin same
  rwa [password, lastLogin]

/-- Whatever is loaded for a user, its record is the one it is loaded for. -/
theorem loadUser_record (record : Record) :
    Keeps context I (User.load record) (·.toRecord = record) := by
  have loads : Keeps context I (User.load record) _ := invariant.loadUser_alone record fun _ _ _ _ _ => trivial
  exact loads.mono fun _ held => held.1

theorem loadUser (record : Record) : Keeps context I (User.load record) fun _ => True :=
  invariant.reads (sends_loadUser record)

theorem loadGroup (record : Record) : Keeps context I (Group.load record) fun _ => True :=
  invariant.reads (sends_loadGroup record)

theorem loadRole (record : Record) : Keeps context I (Role.load record) fun _ => True :=
  invariant.reads (sends_loadRole record)

theorem loadPermission (record : Record) : Keeps context I (Permission.load record) fun _ => True :=
  invariant.reads (sends_loadPermission record)

theorem buildAcl (user : User) : Keeps context I (Acl.build user) fun _ => True :=
  invariant.reads (sends_buildAcl user)

section Entity

variable {E : Type} [Entity E]
  (loads : ∀ record : Record, Keeps context I (Entity.load record : Action E) fun _ => True)
include loads

theorem named (name : String) : Keeps context I (Entity.named name : Action E) fun _ => True := by
  refine (invariant.read (.findNamed (Entity.kind E) name) trivial).bind fun found _ => ?_
  cases found with
  | none => exact keeps_throw _
  | some record => exact loads record

theorem withId (id : EntityId) : Keeps context I (Entity.withId id : Action E) fun _ => True := by
  refine (invariant.read (.find (Entity.kind E) id) trivial).bind fun found _ => ?_
  cases found with
  | none => exact keeps_throw _
  | some record => exact loads record

end Entity

end Invariant

end Entitlement.Action
