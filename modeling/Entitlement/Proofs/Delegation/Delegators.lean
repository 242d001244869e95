import Entitlement.Proofs.Action.Reading
import Entitlement.Proofs.Delegation.Traversal
import Entitlement.Proofs.Loading.Exactness

/-!
The users whose roles a user may act with: the user, and everyone from whom delegations lead to the
user in any number of steps. The search in the store finds them all.
-/

namespace Entitlement

open Entitlement.Action

/-- The one user has delegated to the other. -/
def Store.Delegates (store : Store) (delegator delegatee : EntityId) : Prop :=
  .delegation delegator delegatee ∈ store.edges.toList

/-- The user may act with the roles of the principal. -/
def Store.ActsFor (store : Store) (user principal : EntityId) : Prop :=
  Relation.ReflTransGen store.Delegates principal user

/-- Those who have delegated to a user. -/
def Store.delegators (store : Store) (user : EntityId) : List EntityId :=
  (Side.delegatorsOf user).ends store.edges.toList

/-- The others for whom the user may act, nearest first. -/
def Store.principals (store : Store) (user : EntityId) : List EntityId :=
  (search store.delegators (store.users.size + 2) [user] [user]).tail

variable {settings : Settings} {model : Model} {store : Store} {user : User}

theorem Store.search_principals (store : Store) (user : EntityId) :
    search store.delegators (store.users.size + 2) [user] [user] = user :: store.principals user := by
  rw [Store.principals, search]
  rfl

theorem Store.mem_delegators {delegator delegatee : EntityId} :
    delegator ∈ store.delegators delegatee ↔ store.Delegates delegator delegatee := Side.mem_ends

/-- The user whose loading the request is part of. The credentials are read for nothing else. -/
def Request.userLoaded? : Request → Option EntityId
  | .loadCredentials user => some user
  | _ => none

theorem Request.ReadsGraph.userLoaded?_eq_none {request : Request} (reads : request.ReadsGraph) :
    request.userLoaded? = none := by
  cases request with
  | loadCredentials => exact reads.elim
  | _ => rfl

/-- The users are loaded one after the other, each as it is stored. -/
structure Store.LoadsEach (settings : Settings) (store : Store) (log : List Request) (users : List User) : Prop where
  loaded : log.filterMap Request.userLoaded? = users.map Entity.id
  current : ∀ user ∈ users, user.Current store
  stays : ∀ user ∈ users, Answers settings store (Entity.withId (Entity.id user)) (· = user)

theorem Store.LoadsEach.nil : store.LoadsEach settings [] [] := ⟨rfl, by simp, by simp⟩

theorem Store.LoadsEach.cons {log more : List Request} {users : List User} (rest : store.LoadsEach settings more users)
    (logs : Logs settings (· = store) (Entity.withId user.id : Action User) log (.ok user))
    (loaded : log.filterMap Request.userLoaded? = [user.id]) (current : user.Current store) :
    store.LoadsEach settings (log ++ more) (user :: users) := by
  constructor
  · rw [List.filterMap_append, loaded, rest.loaded]
    rfl
  · exact List.forall_mem_cons.mpr ⟨current, rest.current⟩
  · exact List.forall_mem_cons.mpr ⟨logs.answers, rest.stays⟩

theorem Store.rounds_enough (store : Store) : store.users.ids.length ≤ store.users.size + 2 := by
  rw [Roster.ids, List.length_map]
  exact Nat.le_add_right _ 2

namespace Store.Sound

variable (sound : store.Sound model)
include sound

theorem delegators_nodup (id : EntityId) : (store.delegators id).Nodup := Side.nodup_ends sound.log.nodup

theorem delegator_stored {delegator delegatee : EntityId}
    (mem : delegator ∈ store.delegators delegatee) :
    delegator ∈ store.users.ids :=
  sound.stored _ (Side.mem_ends.mp mem) (.user, delegator)
    ((Side.delegatorsOf delegatee).far_mem delegator)

section Search

variable {id : EntityId} (present : id ∈ store.users.ids)
include present

theorem search_delegators :
    let found := search store.delegators (store.users.size + 2) [id] [id]
    found.Nodup ∧ (∀ other, other ∈ found ↔ store.ActsFor id other) ∧
      found.Pairwise fun other another =>
        distance store.delegators id other ≤ distance store.delegators id another := by
  have same : (fun id other => id ∈ store.delegators other) = store.Delegates := by
    funext id other
    exact propext mem_delegators
  have spec := search_spec sound.delegators_nodup (fun _ _ _ => sound.delegator_stored) present (rounds_enough store)
  rwa [same] at spec

theorem delegators_traversed : ∃ turns,
    Traverses store.delegators [] [id] (search store.delegators (store.users.size + 2) [id] [id]) turns :=
  search_traverses sound.delegators_nodup (fun _ _ _ => sound.delegator_stored) present (rounds_enough store)

end Search

theorem logs_user (settings : Settings) {record : Record} (mem : record ∈ store.users.toList) :
    ∃ log user, Logs settings (· = store) (Entity.withId record.id : Action User) log (.ok user) ∧
      log.filterMap Request.userLoaded? = [record.id] ∧ user.toRecord = record ∧ user.Current store := by
  have present : record.id ∈ store.users.ids := Roster.mem_ids.mpr ⟨record, mem, rfl⟩
  have answered : store.answer (.find .user record.id) = (.ok (some record), store) := sound.find_answered mem
  have found : Logs settings (· = store) (ask (.find .user record.id)) [.find .user record.id] (.ok (some record)) :=
    logs_ask fun _ same => same ▸ answered
  have credentials : Logs settings (· = store) (ask (.loadCredentials record.id)) [.loadCredentials record.id]
    (.ok (store.credentials.getD record.id {})) := logs_ask fun _ same => same ▸ sound.loadCredentials_answered present
  -- From the edges on nobody's credentials are read.
  have graph (alone : User) : Sends Request.ReadsGraph
      (ask (.edgesOf .user record.id) >>= fun edges => edges.foldlM User.along alone) :=
    (sends_readGraph (.edgesOf .user record.id) trivial).bind fun edges =>
      .foldlM (sends_alongUser finds_readsGraph) edges _
  obtain ⟨log, result, sent, logs⟩ := (graph _).logs_over (fun _ reads => reads.reads) settings store
  have logs : Logs settings (· = store) (Entity.withId record.id : Action User) _ result :=
    found.bind (credentials.bind logs)
  obtain ⟨user, rfl, same, current⟩ := logs.of_answers (sound.answers_user mem)
  have quiet : log.filterMap Request.userLoaded? = [] :=
    List.filterMap_eq_nil_iff.mpr fun request mem => (sent request mem).userLoaded?_eq_none
  refine ⟨_, user, logs, ?_, same, current⟩
  rw [List.filterMap_append, List.filterMap_append, quiet]
  rfl

/-- Loading the users one after the other is the search on their identities. -/
theorem logs_delegatorsFrom (settings : Settings) (rounds : Nat) (met : List EntityId) {queue : List EntityId}
    (stored : ∀ id ∈ queue, id ∈ store.users.ids) :
    ∃ log users, Logs settings (· = store) (delegatorsFrom rounds met queue) log (.ok users) ∧
      users.map Entity.id = search store.delegators rounds met queue ∧ store.LoadsEach settings log users := by
  induction rounds generalizing met queue with
  | zero => exact ⟨[], [], logs_pure [], rfl, .nil⟩
  | succ rounds ih =>
    cases queue with
    | nil => exact ⟨[], [], logs_pure [], by simp [search], .nil⟩
    | cons id queue =>
      obtain ⟨record, mem, rfl⟩ := Roster.mem_ids.mp (stored id List.mem_cons_self)
      obtain ⟨log, user, logs, loaded, rfl, current⟩ := sound.logs_user settings mem
      have next_to : user.delegators.ids = store.delegators user.id := current.follows.delegators.ids
      have further_stored : ∀ other ∈ queue ++ user.delegators.ids.filter (! met.contains ·),
        other ∈ store.users.ids := by
        intro other mem
        rcases List.mem_append.mp mem with old | new
        · exact stored other (List.mem_cons_of_mem _ old)
        · exact sound.delegator_stored (next_to ▸ (List.mem_filter.mp new).1)
      obtain ⟨more, users, logs_more, found, each⟩ := ih _ further_stored
      refine ⟨log ++ (more ++ []), user :: users, ?_, ?_, ?_⟩
      · exact (logs.whileLoading "delegator").bind (logs_more.bind (logs_pure _))
      · rw [List.map_cons, found, next_to]
        rfl
      · rw [List.append_nil]
        exact each.cons logs loaded current

theorem logs_delegatorsOf (settings : Settings) (current : user.Current store) :
    ∃ log users, Logs settings (· = store) (delegatorsOf user) log (.ok users) ∧
      user.id :: users.map Entity.id = search store.delegators (store.users.size + 2) [user.id] [user.id] ∧
        store.LoadsEach settings log users := by
  have next_to : user.delegators.ids = store.delegators user.id := current.follows.delegators.ids
  have stored : ∀ id ∈ user.delegators.ids.filter (· != user.id), id ∈ store.users.ids :=
    fun id mem => sound.delegator_stored (next_to ▸ (List.mem_filter.mp mem).1)
  obtain ⟨log, users, logs, found, each⟩ := sound.logs_delegatorsFrom settings
    (store.users.size + 1) (user.id :: user.delegators.ids.filter (· != user.id)) stored
  have of_user : Logs settings (· = store) (delegatorsOf user) log (.ok users) :=
    logs_count (fun users => delegatorsFrom (users + 1) _ _) (fun _ same => same ▸ rfl) logs
  refine ⟨log, users, of_user, ?_, each⟩
  have apart : (fun id => ! [user.id].contains id) = (· != user.id) := by
    funext id
    rw [List.contains_cons, List.contains_nil, Bool.or_false, bne]
  rw [found, next_to, search, apart]
  rfl

theorem mem_principals {id principal : EntityId} (present : id ∈ store.users.ids) :
    principal ∈ store.principals id ↔ store.ActsFor id principal ∧ principal ≠ id := by
  obtain ⟨once, reached, -⟩ := sound.search_delegators present
  rw [search_principals] at once reached
  rw [← reached, List.mem_cons]
  constructor
  · exact fun mem => ⟨.inr mem, fun same => (List.nodup_cons.mp once).1 (same ▸ mem)⟩
  · exact fun held => held.1.resolve_left held.2

/-- Everyone for whom the user may act is loaded, the user apart. -/
theorem answers_delegatorsOf (current : user.Current store) :
    Answers settings store (delegatorsOf user) fun users =>
      users.map Entity.id = store.principals user.id ∧ ∀ other ∈ users, other.Current store := by
  obtain ⟨log, users, logs, found, each⟩ := sound.logs_delegatorsOf settings current
  refine logs.answers.mono fun _ same => ?_
  subst same
  rw [search_principals] at found
  exact ⟨List.tail_eq_of_cons_eq found, each.current⟩

end Store.Sound

end Entitlement
