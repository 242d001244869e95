import Entitlement.Proofs.Service.Graph
import Mathlib.Data.List.Nodup

/-!
The register of open sessions. No two of them share an identity, and the next session gets one that no
session has had: a session is found under its identity.
-/

namespace Entitlement

namespace Sessions

variable {sessions : Sessions} {session other : Session} {id : SessionId}

def ids (sessions : Sessions) : List SessionId := sessions.toList.map (·.id)

theorem mem_ids : id ∈ sessions.ids ↔ ∃ session ∈ sessions.toList, session.id = id := List.mem_map

theorem contains_iff : sessions.contains id ↔ id ∈ sessions.ids := by
  rw [contains, List.any_eq_true, mem_ids]
  simp only [decide_eq_true_eq]
  rfl

theorem mem_replace (mem : other ∈ (sessions.replace session).toList) :
    other = session ∨ other ∈ sessions.toList := by
  obtain ⟨held, listed, rfl⟩ := List.mem_map.mp mem
  split
  · exact .inl rfl
  · exact .inr listed

theorem mem_replace_iff (present : session.id ∈ sessions.ids) :
    other ∈ (sessions.replace session).toList ↔
      session = other ∨ other ∈ sessions.toList ∧ other.id ≠ session.id := by
  unfold replace toList
  rw [List.mem_map]
  constructor
  · rintro ⟨held, listed, rfl⟩
    split
    · exact .inl rfl
    · rename_i apart
      exact .inr ⟨listed, apart⟩
  · rintro (rfl | ⟨listed, apart⟩)
    · obtain ⟨held, listed, same⟩ := mem_ids.mp present
      exact ⟨held, listed, if_pos same⟩
    · exact ⟨other, listed, if_neg apart⟩

@[simp]
theorem ids_replace (sessions : Sessions) (session : Session) :
    (sessions.replace session).ids = sessions.ids := by
  unfold ids replace toList
  rw [List.map_map]
  refine List.map_congr_left fun held _ => ?_
  rw [Function.comp_apply]
  split
  · rename_i same
    exact same.symm
  · rfl

theorem mem_insert (mem : other ∈ (sessions.insert session).toList) :
    other = session ∨ other ∈ sessions.toList := by
  unfold insert at mem
  split at mem
  · exact mem_replace mem
  · rcases List.mem_append.mp mem with old | new
    · exact .inr old
    · exact .inl (List.mem_singleton.mp new)

theorem ids_insert (new : session.id ∉ sessions.ids) :
    (sessions.insert session).ids = sessions.ids ++ [session.id] := by
  have absent : sessions.contains session.id = false :=
    Bool.eq_false_iff.mpr fun held => new (contains_iff.mp held)
  unfold ids
  rw [toList_insert_of_new absent, List.map_append]
  rfl

theorem of_get? (found : sessions.get? id = some session) :
    session ∈ sessions.toList ∧ session.id = id := by
  unfold get? at found
  have fits := List.find?_some found
  rw [decide_eq_true_eq] at fits
  exact ⟨List.mem_of_find?_eq_some found, fits⟩

theorem get?_of_mem (differ : sessions.ids.Nodup) (mem : session ∈ sessions.toList) :
    sessions.get? session.id = some session := by
  have present : (sessions.get? session.id).isSome := by
    rw [← contains_eq_isSome_get?, contains_iff]
    exact mem_ids.mpr ⟨session, mem, rfl⟩
  obtain ⟨held, found⟩ := Option.isSome_iff_exists.mp present
  obtain ⟨listed, same⟩ := of_get? found
  rw [found, List.inj_on_of_nodup_map differ listed mem same]

end Sessions

structure State.Registered (state : State) : Prop where
  ids_nodup : state.sessions.ids.Nodup
  issued : ∀ id ∈ state.sessions.ids, id.number < state.nextSession

namespace State.Registered

variable {state : State}

theorem next_absent (registered : state.Registered) : ⟨state.nextSession⟩ ∉ state.sessions.ids :=
  fun held => Nat.lt_irrefl _ (registered.issued _ held)

/-- The register does not look at the store: whatever the requests do, it is kept. -/
theorem invariant : Action.Invariant (fun _ => True) State.Registered where
  answered _ registered _ := ⟨registered.ids_nodup, registered.issued⟩
  aside state later aside registered := by
    refine ⟨?_, fun id mem => Nat.lt_of_lt_of_le (registered.issued id ?_) aside.issued⟩
    · rw [aside.sessions]
      exact registered.ids_nodup
    · rwa [aside.sessions] at mem

theorem keepsOpen : Action.KeepsOpen State.Registered fun _ => True where
  opened state user acl time _ registered := by
    let session : Session := { id := ⟨state.nextSession⟩, user, acl, createdAt := time }
    have ids : (state.sessions.insert session).ids = state.sessions.ids ++ [session.id] :=
      Sessions.ids_insert registered.next_absent
    constructor
    · rw [ids, ← List.concat_eq_append]
      exact registered.ids_nodup.concat registered.next_absent
    · intro id mem
      rw [ids] at mem
      rcases List.mem_append.mp mem with old | new
      · exact Nat.lt_succ_of_lt (registered.issued id old)
      · rw [List.mem_singleton.mp new]
        exact Nat.lt_succ_self _
  closed state stays registered := by
    have fewer : (state.sessions.items.filter stays).Sublist state.sessions.items := List.filter_sublist
    exact ⟨registered.ids_nodup.sublist (fewer.map _), fun id mem =>
      registered.issued id ((fewer.map _).subset mem)⟩
  renewed state session user acl time _ registered :=
    ⟨by rw [Sessions.ids_replace]; exact registered.ids_nodup,
      fun id mem => registered.issued id (by rwa [Sessions.ids_replace] at mem)⟩

end State.Registered

namespace Service

theorem registered_perform {service : Service} (registered : service.state.Registered)
    (operation : Operation)
    (outage : Outage) : (service.perform operation outage).state.Registered := by
  have invariant := State.Registered.invariant
  let context : Context := { settings := service.settings, outage }
  have keeps : Action.Keeps context State.Registered operation.action fun _ => True := by
    refine invariant.operation operation (fun _ _ _ => trivial)
      (fun _ held => ⟨held.ids_nodup, held.issued⟩) fun on => ?_
    refine invariant.onSessions State.Registered.keepsOpen (fun _ name password => ?_) (fun id => ?_) on
    · exact invariant.namedWithPassword (fun _ _ => trivial) name password
    · exact invariant.withId invariant.loadUser id
  exact (keeps service.state registered).1

theorem Reachable.registered {service : Service} (reachable : service.Reachable) :
    service.state.Registered := by
  induction reachable with
  | start nextId nextSession nextSalt clock started =>
    obtain ⟨-, rfl⟩ := start_eq_ok started
    exact ⟨List.nodup_nil, nofun⟩
  | step operation outage _ registered => exact registered_perform registered operation outage

end Service

end Entitlement
