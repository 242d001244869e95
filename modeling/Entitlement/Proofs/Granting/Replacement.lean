import Entitlement.Proofs.Granting.Atomicity
import Entitlement.Proofs.Granting.GlobalGroup

/-!
Replacing a role within the global group. The group is looked for first, and created if need be, before
anything that could be refused; so a replacement that fails spares all the rest of the store, and the
groups only if the global one is stored already.
-/

namespace Entitlement

namespace Store

/-- What becomes of putting the role `new` of a user in the place of `old`. -/
inductive Replaces (store : Store) (globalGroup : String) (user old new : Record) :
    Except Error Unit → Store → Prop where
  | stranger {kind : Kind} {record group : Record} {later : Store}
    (founds : store.Founds globalGroup group later)
    (unknown : store.stranger? [(.user, user), (.role, old), (.role, new)] = some (kind, record)) :
    Replaces store globalGroup user old new (.error (.noEntityNamed kind record.name)) later
  | replaced {group : Record} {founded freed later : Store} {wasThere isNew : Bool}
    (founds : store.Founds globalGroup group founded)
    (known : store.stranger? [(.user, user), (.role, old), (.role, new)] = none)
    (erases : founded.Erases (.userGroupRole user.id group.id old.id) wasThere freed)
    (inserts : freed.Inserts (.userGroupRole user.id group.id new.id) isNew later) :
    Replaces store globalGroup user old new (.ok ()) later

/-- Once the group is there, it is not the group that an error is about. -/
theorem Founds.stranger?_eq {model : Model} {store later : Store} {name : String} {group : Record}
    (founds : store.Founds name group later) (sound : store.Sound model) (user old new : Record) :
    later.stranger? [(.user, user), (.group, group), (.role, old), (.role, new)] =
      store.stranger? [(.user, user), (.role, old), (.role, new)] := by
  have stored : group.id ∈ (later.table .group).ids := Roster.mem_ids.mpr ⟨group, founds.mem_group sound, rfl⟩
  have users : later.table .user = store.table .user := founds.others (by decide)
  have roles : later.table .role = store.table .role := founds.others (by decide)
  simp [stranger?, List.find?_cons, users, roles, stored]

end Store

theorem requireEndpoints_also (edge : Edge Record) (kind : Kind) (record : Record) :
    (requireEndpoints edge >>= fun _ => requireStored kind record) =
      (edge.endpoints ++ [(kind, record)]).forM fun (kind, record) => requireStored kind record := by
  rw [List.forM_eq_forM, List.forM_append, List.forM_cons, List.forM_nil]
  simp [requireEndpoints]

namespace Action

variable {settings : Settings} {model : Model} {store : Store} (sound : store.Sound model)
include sound

theorem leaves_replaceRole (visible : Text.blank settings.globalGroup = false) (user old new : Record) :
    Leaves { settings } store (replaceRole user old new)
      (store.Replaces settings.globalGroup user old new) := by
  apply (leaves_globalGroup sound visible).bind_ok
  intro group founded ⟨founds, sound', _⟩
  let before : Edge Record := .userGroupRole user group old
  let after : Edge Record := .userGroupRole user group new
  have strangers := founds.stranger?_eq sound user old new
  change Leaves _ founded (requireEndpoints before >>= fun _ => requireStored .role new >>= fun _ => _) _
  rw [← bind_assoc, requireEndpoints_also]
  refine (atomic_afterCheck sound' Outage.never_onlyFails (before.endpoints ++ [(.role, new)]) ?_ ?_).leaves
  · intro kind record unknown
    exact .stranger founds (strangers.symm.trans unknown)
  · intro known
    have within : after.endpoints ⊆ before.endpoints ++ [(.role, new)] := by
      simp [before, after, Edge.endpoints]
    have before_stored := Store.stored_of_known known (List.subset_append_left before.endpoints _)
    have after_stored := Store.stored_of_known known within
    obtain ⟨wasThere, freed, isNew, last, erased, erases, inserted, inserts⟩ :=
      sound'.answer_exchange before_stored after_stored
    apply Leaves.atomic
    apply (leaves_ask erased).bind_eq
    apply (leaves_ask inserted).tryCatch.bind_eq
    apply (leaves_report _).bind_eq
    apply (leaves_report _).mono
    intro result final ⟨done, same⟩
    subst done same
    exact .replaced founds (strangers.symm.trans known) erases inserts

end Action

namespace Service

variable {service : Service}

/-- A replacement that is refused changes nothing if and only if the global group was stored; otherwise it
leaves the group behind. -/
theorem Reachable.replacement_exact (reachable : service.Reachable) (user old new : Record) :
    let store := service.state.store
    let globalGroup := service.settings.globalGroup
    let result := (service.run (replaceRole user old new)).1
    let later := (service.run (replaceRole user old new)).2.state.store
    store.Replaces globalGroup user old new result later ∧
      ∀ e, result = .error e →
        (∀ kind, kind ≠ .group → later.table kind = store.table kind) ∧
          (∀ id : EntityId, later.credentials[id]? = store.credentials[id]?) ∧ later.edges = store.edges ∧
          (later = store ↔ (store.groups.named? globalGroup).isSome) := by
  intro store globalGroup result later
  have left := Action.leaves_replaceRole reachable.sound reachable.globalGroup_visible user old new
  have replaces : store.Replaces globalGroup user old new result later := (left service.state rfl).2
  refine ⟨replaces, fun e refused => ?_⟩
  rw [refused] at replaces
  cases replaces with
  | stranger founds unknown =>
    obtain ⟨tables, credentials, edges⟩ := founds.spares
    exact ⟨tables, credentials, edges, founds.unchanged_iff⟩

/-- The role that is to be taken on is not stored, and the global group comes into being nevertheless. -/
theorem refused_replacement_founds_group :
    let alice : Record := ⟨⟨0⟩, "alice"⟩
    let junior : Record := ⟨⟨1⟩, "junior"⟩
    let ghost : Record := ⟨⟨7⟩, "ghost"⟩
    let service := (⟨{ model := .turbine }, {}⟩ : Service).performAll
      [.addUser "alice" "pw", .add .role "junior"]
    (service.run (replaceRole alice junior ghost)).1 = .error (.noEntityNamed .role "ghost") ∧
      service.state.store.groups.names = [] ∧
      (service.run (replaceRole alice junior ghost)).2.state.store.groups.names = ["global"] ∧
      (service.run (replaceRole alice junior ghost)).2.state.store ≠ service.state.store := by
  intro alice junior ghost service
  have started : Service.start { model := .turbine } {} = .ok ⟨{ model := .turbine }, {}⟩ := rfl
  have reachable : service.Reachable := (Reachable.start 0 0 0 ⟨0⟩ started).performAll _
  have refused : (service.run (replaceRole alice junior ghost)).1 = .error (.noEntityNamed .role "ghost") := by
    decide +kernel
  have missing : ¬ (service.state.store.groups.named? service.settings.globalGroup).isSome := by
    decide +kernel
  have spared := (reachable.replacement_exact alice junior ghost).2 _ refused
  exact ⟨refused, by decide +kernel, by decide +kernel, mt spared.2.2.2.mp missing⟩

end Service

end Entitlement
