import Entitlement.Proofs.Delegation.Delegators
import Entitlement.Proofs.Delegation.Traversal
import Entitlement.Proofs.Loading.Totality

/-!
Everyone for whom a user may act, as they are visited: the delegations are followed back from the user, each
at most once however they meet, and nobody is loaded a second time.
-/

namespace Entitlement

open Entitlement.Action

/-- How following the delegations back from a user goes, and whom it returns beside the user. -/
structure Service.Visits (service : Service) (user : User) (users : List User) (log : List Request) : Prop where
  ends : ∃ turns, Traverses service.state.store.delegators [user.id] (service.state.store.delegators user.id)
    (users.map Entity.id) turns ∧ turns ≤ service.state.store.edges.toList.countP (·.relation == .delegation)
  once : ((user :: users).map Entity.id).Nodup
  mem_iff : ∀ other, other ∈ user :: users ↔
    service.HandsOut other ∧ service.state.store.ActsFor user.id (Entity.id other)
  nearest_first : (user :: users).Pairwise fun other another =>
    distance service.state.store.delegators user.id (Entity.id other) ≤
      distance service.state.store.delegators user.id (Entity.id another)
  loads : log.filterMap Request.userLoaded? = users.map Entity.id

def Store.delegationsTo (store : Store) (delegatee : EntityId) : List (Edge EntityId) :=
  (store.delegators delegatee).map (.delegation · delegatee)

namespace Store.Sound

variable {model : Model} {store : Store} (sound : store.Sound model)
include sound

theorem length_delegators_le {ids : List EntityId} (nodup : ids.Nodup) :
    (ids.flatMap store.delegators).length ≤ store.edges.toList.countP (·.relation == .delegation) := by
  have sizes : (ids.flatMap store.delegators).length = (ids.flatMap store.delegationsTo).length := by
    simp only [List.length_flatMap, delegationsTo, List.length_map]
  -- No delegation leads to two users.
  have distinct : (ids.flatMap store.delegationsTo).Nodup := by
    refine List.nodup_flatMap.mpr ⟨fun id _ => ?_, nodup.imp fun {id other} differ edge mem mem' => differ ?_⟩
    · exact (sound.delegators_nodup id).map fun _ _ same => by cases same; rfl
    · obtain ⟨_, -, rfl⟩ := List.mem_map.mp mem
      obtain ⟨_, -, same⟩ := List.mem_map.mp mem'
      cases same
      rfl
  have stored : ids.flatMap store.delegationsTo ⊆ store.edges.toList.filter (·.relation == .delegation) := by
    intro edge mem
    obtain ⟨id, -, mem⟩ := List.mem_flatMap.mp mem
    obtain ⟨delegator, delegates, rfl⟩ := List.mem_map.mp mem
    exact List.mem_filter.mpr ⟨mem_delegators.mp delegates, rfl⟩
  rw [sizes, List.countP_eq_length_filter]
  exact distinct.length_le_of_subset stored

end Store.Sound

namespace Service

variable {service : Service}

/-- Whatever the delegations are, cycles among them, the users from whom they lead to a user are found, nearest
first. -/
theorem Reachable.delegators_visited (reachable : service.Reachable) {user : User} (handed : service.HandsOut user) :
    ∃ users log, Logs service.settings (· = service.state.store) (delegatorsOf user) log (.ok users) ∧
      service.Visits user users log := by
  let store := service.state.store
  have sound : store.Sound _ := reachable.sound
  obtain ⟨stored, complete⟩ := (loads_users sound).of_handsOut sound handed
  have present : user.id ∈ service.state.store.users.ids := Roster.mem_ids.mpr ⟨_, stored, rfl⟩
  obtain ⟨log, users, logs, found, each⟩ := sound.logs_delegatorsOf service.settings complete.toCurrent
  obtain ⟨once, reached, ordered⟩ := sound.search_delegators present
  obtain ⟨turns, traverses⟩ := sound.delegators_traversed present
  have found : (user :: users).map Entity.id = search _ _ _ _ := found
  rw [← found] at once reached ordered traverses
  have all_handed : ∀ other ∈ user :: users, service.HandsOut other :=
    List.forall_mem_cons.mpr ⟨handed, each.stays⟩
  refine ⟨users, log, logs, ?_, once, fun other => ⟨?_, ?_⟩, ?_, each.loaded⟩
  · cases traverses with
    | again mem => cases mem
    | @visit _ _ _ _ turns _ rest =>
      refine ⟨turns, rest, ?_⟩
      rw [rest.turns_eq]
      exact sound.length_delegators_le once
  · intro mem
    exact ⟨all_handed other mem, (reached _).mp (List.mem_map_of_mem mem)⟩
  · rintro ⟨handed_other, acts⟩
    obtain ⟨another, mem, same⟩ := List.mem_map.mp ((reached _).mpr acts)
    obtain rfl := (all_handed another mem).unique handed_other same
    exact mem
  · rwa [List.pairwise_map] at ordered

/-- Bob and Cid have delegated to Ann, Dan to both of them, and Ann to Dan and to herself. -/
theorem dan_visited_once :
    let ann : Record := ⟨⟨0⟩, "Ann"⟩
    let bob : Record := ⟨⟨1⟩, "Bob"⟩
    let cid : Record := ⟨⟨2⟩, "Cid"⟩
    let dan : Record := ⟨⟨3⟩, "Dan"⟩
    let service := (⟨{}, {}⟩ : Service).performAll
      [.add .user "Ann", .add .user "Bob", .add .user "Cid", .add .user "Dan",
        .grant .dynamic (.delegation bob ann) rfl, .grant .dynamic (.delegation cid ann) rfl,
        .grant .dynamic (.delegation ann ann) rfl, .grant .dynamic (.delegation dan bob) rfl,
        .grant .dynamic (.delegation dan cid) rfl, .grant .dynamic (.delegation ann dan) rfl]
    ∃ user users log, user.toRecord = ann ∧ service.HandsOut user ∧ service.Visits user users log ∧
      users.map Entity.id = [⟨1⟩, ⟨2⟩, ⟨3⟩] := by
  intro ann bob cid dan service
  have started : Service.start {} {} = .ok ⟨{}, {}⟩ := rfl
  have reachable : service.Reachable := (Reachable.start 0 0 0 ⟨0⟩ started).performAll _
  have stored : ann ∈ service.state.store.users.toList := by decide +kernel
  obtain ⟨user, same, -, handed, -⟩ := (loads_users reachable.sound).each ann stored
  have same : user.toRecord = ann := same
  obtain ⟨users, log, -, visits⟩ := reachable.delegators_visited handed
  refine ⟨user, users, log, same, handed, visits, ?_⟩
  have of_ann : service.state.store.delegators ⟨0⟩ = [⟨1⟩, ⟨2⟩, ⟨0⟩] := by decide +kernel
  have of_bob : service.state.store.delegators ⟨1⟩ = [⟨3⟩] := by decide +kernel
  have of_cid : service.state.store.delegators ⟨2⟩ = [⟨3⟩] := by decide +kernel
  have of_dan : service.state.store.delegators ⟨3⟩ = [⟨0⟩] := by decide +kernel
  have run : Traverses service.state.store.delegators [⟨0⟩] [⟨1⟩, ⟨2⟩, ⟨0⟩] [⟨1⟩, ⟨2⟩, ⟨3⟩] 6 := by
    refine .visit (by decide) ?_
    rw [of_bob]
    refine .visit (by decide) ?_
    rw [of_cid]
    refine .again (by decide) (.visit (by decide) ?_)
    rw [of_dan]
    exact .again (by decide) (.again (by decide) .ended)
  obtain ⟨turns, traverses, -⟩ := visits.ends
  rw [same, of_ann] at traverses
  exact (traverses.unique run).1

end Service

end Entitlement
