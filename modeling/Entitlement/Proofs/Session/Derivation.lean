import Entitlement.Proofs.Acl.Telling
import Entitlement.Proofs.Session.Registry

/-!
What a login or a refresh derives from the graph. The store settles which user and which list these are;
that a login leaves its time in the store changes nothing of it but that time.
-/

namespace Entitlement

open Entitlement.Action
open Std (TreeMap)

/-- The user and the list are those that the store settles: they are what the service derives each time, and
they tell the graph as it is there. -/
structure Session.Derived (settings : Settings) (store : Store) (session : Session) : Prop where
  user : Answers settings store (Entity.withId session.user.id) (· = session.user)
  acl : Answers settings store (Acl.build session.user) (· = session.acl)
  current : session.user.Current store
  tells : session.acl.Tells store settings session.user.id

namespace Store.Sound

variable {settings : Settings} {model : Model} {store : Store} {user : User} {record : Record}
  (sound : store.Sound model)
include sound

theorem settles_user (settings : Settings) (stored : record ∈ store.users.toList) :
    ∃ user : User, user.toRecord = record ∧ Answers settings store (Entity.withId record.id) (· = user) := by
  have settled : Settled settings (· = store) (Entity.withId record.id : Action User) :=
    (sends_withId finds_reads sends_loadUser record.id).settled_over settings store
  obtain ⟨user, ⟨same, -⟩, answers⟩ := settled.answers (sound.answers_user stored)
  exact ⟨user, same, answers⟩

theorem settles_acl (settings : Settings) (current : user.Current store) :
    ∃ acl, acl.Tells store settings user.id ∧ Answers settings store (Acl.build user) (· = acl) :=
  ((sends_buildAcl user).settled_over settings store).answers (sound.answers_buildAcl current)

/-- Whoever the store settles is as the graph has it. -/
theorem current_of_answers (stored : user.toRecord ∈ store.users.toList)
    (answers : Answers settings store (Entity.withId user.id) (· = user)) : user.Current store := by
  have loads : Answers settings store (Entity.withId user.id : Action User)
      fun found => found.toRecord = user.toRecord ∧ found.Current store := sound.answers_user stored
  obtain ⟨loaded, _, ran, rfl⟩ := answers { store } rfl
  obtain ⟨current, _, ran', _, held⟩ := loads { store } rfl
  rw [ran, Prod.mk.injEq, Except.ok.injEq] at ran'
  exact ran'.1 ▸ held

end Store.Sound

/-! ### The time of a login -/

namespace User

/-- The user after a login at that time. -/
def loggedIn (user : User) (time : Moment) : User := { user with lastLogin := some time }

theorem along_loggedIn (user : User) (time : Moment) (edge : Edge EntityId) :
    (user.loggedIn time).along edge = (·.loggedIn time) <$> user.along edge := by
  cases edge with
  | userGroup | userRole | userGroupRole => simp only [along, map_bind, map_pure]; rfl
  | delegation delegator delegatee =>
    have same : (user.loggedIn time).id = user.id := rfl
    simp only [along, same]
    split <;> (simp only [map_bind, map_pure]; rfl)
  | groupRole | rolePermission => simp only [along, map_pure]

/-- The time of the login plays no part in what the user's neighbours are. -/
theorem foldlM_along_loggedIn (time : Moment) (edges : List (Edge EntityId)) (user : User) :
    edges.foldlM along (user.loggedIn time) = (·.loggedIn time) <$> edges.foldlM along user := by
  induction edges generalizing user with
  | nil => simp only [List.foldlM_nil, map_pure]
  | cons edge edges ih => simp only [List.foldlM_cons, along_loggedIn, bind_map_left, ih, map_bind]

end User

/-- The store once the time of a login stands beside the user. -/
def Store.noteLogin (store : Store) (user : EntityId) (time : Moment) : Store :=
  let credentials := store.credentials.getD user {}
  { store with credentials := store.credentials.insert user { credentials with lastLogin := some time } }

namespace Store.Sound

variable {settings : Settings} {model : Model} {store : Store} {user : User} {record : Record}
  (sound : store.Sound model)
include sound

theorem noteLogin {id : EntityId} (present : id ∈ store.users.ids) (time : Moment) :
    (store.noteLogin id time).Sound model :=
  sound.saveCredentials _ present

/-- A stored user is loaded along its edges, starting from the credentials. -/
theorem run_withId_user (stored : record ∈ store.users.toList) {state : State} (same : state.store = store) :
    (Entity.withId record.id : Action User).run { settings } state =
      let credentials := store.credentials.getD record.id {}
      let user : User := { record with password := credentials.password, lastLogin := credentials.lastLogin }
      ((store.edges.touching record.id).foldlM User.along user).run { settings }
        { state with requests := state.requests + 3 } := by
  subst same
  have present : record.id ∈ state.store.users.ids := Roster.mem_ids.mpr ⟨record, stored, rfl⟩
  have touching : state.store.answer (.edgesOf .user record.id) =
      (.ok (state.store.edges.touching record.id), state.store) := sound.edgesOf_answered present
  have asks {request : Request} {answer : request.Answer} (requests : Nat)
      (answered : state.store.answer request = (.ok answer, state.store)) :
      (ask request).run { settings } { state with requests } =
        (.ok answer, { state with requests := requests + 1 }) :=
    run_ask_of_ok { state with requests } settings answered
  have loads : (Entity.load record : Action User) = User.load record := rfl
  rw [Entity.withId, run_bind, asks state.requests (sound.find_answered stored)]
  simp only [loads, User.load, run_bind]
  rw [asks _ (sound.loadCredentials_answered present)]
  simp only [asks _ touching]

/-- After a login the same user is found, with the time of the login. -/
theorem answers_noteLogin (stored : user.toRecord ∈ store.users.toList)
    (answers : Answers settings store (Entity.withId user.id) (· = user)) (time : Moment) :
    Answers settings (store.noteLogin user.id time) (Entity.withId user.id) (· = user.loggedIn time) := by
  let credentials := store.credentials.getD user.id {}
  let bare : User :=
    { user.toRecord with password := credentials.password, lastLogin := credentials.lastLogin }
  have present : user.id ∈ store.users.ids := Roster.mem_ids.mpr ⟨user.toRecord, stored, rfl⟩
  -- The neighbours are the same over all stores with these tables.
  have settled : Settled settings (fun other => ∀ kind, other.table kind = store.table kind)
      ((store.edges.touching user.id).foldlM User.along bare) := by
    have sends : Sends (fun request => ∃ kind id, request = .find kind id)
        ((store.edges.touching user.id).foldlM User.along bare) :=
      .foldlM (sends_alongUser fun kind id => ⟨kind, id, rfl⟩) _ bare
    refine sends.settled settings ?_ ⟨store.users.size, ?_⟩
    · rintro _ ⟨kind, id, rfl⟩
      exact ⟨.ok ((store.table kind).get? id), fun other tables => by rw [← tables kind]; rfl⟩
    · exact fun other tables => congrArg Roster.size (tables .user)
  obtain ⟨result, comes⟩ := settled
  have loads : result = .ok user := by
    obtain ⟨_, _, ran, rfl⟩ := answers { store } rfl
    obtain ⟨_, folded⟩ := comes { store, requests := 3 } fun _ => rfl
    rw [sound.run_withId_user stored rfl, folded, Prod.mk.injEq] at ran
    exact ran.1
  have noted : (store.noteLogin user.id time).credentials.getD user.id {} =
      { credentials with lastLogin := some time } := TreeMap.getD_insert_self
  intro state same
  have tables (kind : Kind) : state.store.table kind = store.table kind := by
    rw [same]
    cases kind <;> rfl
  obtain ⟨requests, folded⟩ := comes { state with requests := state.requests + 3 } tables
  refine ⟨user.loggedIn time, requests, ?_, rfl⟩
  rw [(sound.noteLogin present time).run_withId_user stored same, noted]
  have from_bare : (store.edges.touching user.id).foldlM User.along (bare.loggedIn time) =
      (·.loggedIn time) <$> (store.edges.touching user.id).foldlM User.along bare :=
    User.foldlM_along_loggedIn time _ bare
  refine (congrArg (Action.run · _ _) from_bare).trans ?_
  rw [run_map, folded, loads]
  rfl

end Store.Sound

end Entitlement
