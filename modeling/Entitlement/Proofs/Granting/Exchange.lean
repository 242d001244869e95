import Entitlement.Proofs.Action.Meeting
import Entitlement.Proofs.Granting.Replacement

/-!
Replacing a role while requests may fail. The old edge is put back if the new one cannot be written, so an
edge is lost only when that fails as well: up to one failure, the edges are as they were or one of them has
come in the place of another.
-/

namespace Entitlement

namespace Store

/-- How it ends to put the edge `after` in the place of `before`, which is put back if that fails. -/
inductive Exchanges (store : Store) (before after : Edge EntityId) :
    List Error → Except Error Unit → Store → Prop where
  | exchanged {wasThere isNew : Bool} {freed later : Store} (erases : store.Erases before wasThere freed)
    (inserts : freed.Inserts after isNew later) : Exchanges store before after [] (.ok ()) later
  | kept {e : Error} : Exchanges store before after [e] (.error e) store
  | restored {isBack : Bool} {freed later : Store} {e : Error} (erases : store.Erases before true freed)
    (restores : freed.Inserts before isBack later) : Exchanges store before after [e] (.error e) later
  | lost {freed : Store} {e e' : Error} (erases : store.Erases before true freed) :
    Exchanges store before after [e, e'] (.error e') freed

/-- One edge has come in the place of another, and all others are where they were. -/
structure Swaps (store : Store) (before after : Edge EntityId) (later : Store) : Prop where
  mem_iff : ∀ edge, edge ∈ later.edges.toList ↔ edge ∈ store.edges.toList ∧ edge ≠ before ∨ edge = after
  others : later.edges.toList.filter (fun edge => edge ≠ before ∧ edge ≠ after) =
    store.edges.toList.filter fun edge => edge ≠ before ∧ edge ≠ after

theorem Erases.swaps {store freed later : Store} {before after : Edge EntityId} {wasThere isNew : Bool}
    (erases : store.Erases before wasThere freed) (inserts : freed.Inserts after isNew later) :
    store.Swaps before after later where
  mem_iff edge := by rw [inserts.mem_edges, erases.mem_edges]
  others := by
    have grown : later.edges.toList.filter (fun edge => edge ≠ before ∧ edge ≠ after) =
        freed.edges.toList.filter fun edge => edge ≠ before ∧ edge ≠ after := by
      cases inserts with
      | present there => rfl
      | added absent listed => simp [listed]
    have shrunk : freed.edges.toList.filter (fun edge => edge ≠ before ∧ edge ≠ after) =
        store.edges.toList.filter fun edge => edge ≠ before ∧ edge ≠ after := by
      cases erases with
      | absent absent => rfl
      | removed there listed =>
        rw [listed, List.filter_filter]
        exact List.filter_congr fun edge _ => by grind
    exact grown.trans shrunk

/-- An edge that was taken out and put back is the last one now. -/
theorem Erases.perm_of_restored {store freed later : Store} {edge : Edge EntityId} {isBack : Bool}
    (erases : store.Erases edge true freed) (restores : freed.Inserts edge isBack later)
    (once : store.edges.toList.Nodup) : later.edges.toList.Perm store.edges.toList := by
  have gone : edge ∉ freed.edges.toList := fun mem => ((erases.mem_edges edge).mp mem).2 rfl
  cases restores with
  | present there => exact absurd there gone
  | added absent back =>
    cases erases with
    | removed there listed =>
      have rest : store.edges.toList.filter (· ≠ edge) = store.edges.toList.erase edge := by
        rw [once.erase_eq_filter]
        exact List.filter_congr fun other _ => by grind
      rw [back, listed, rest]
      exact (List.perm_append_singleton _ _).trans (List.perm_cons_erase there).symm

variable {store later : Store} {before after : Edge EntityId} {met : List Error} {result : Except Error Unit}

theorem Exchanges.table (exchanges : store.Exchanges before after met result later) (kind : Kind) :
    later.table kind = store.table kind := by
  cases exchanges with
  | exchanged erases inserts => rw [inserts.table, erases.table]
  | kept => rfl
  | restored erases restores => rw [restores.table, erases.table]
  | lost erases => rw [erases.table]

theorem Exchanges.credentials (exchanges : store.Exchanges before after met result later) :
    later.credentials = store.credentials := by
  cases exchanges with
  | exchanged erases inserts => rw [inserts.credentials, erases.credentials]
  | kept => rfl
  | restored erases restores => rw [restores.credentials, erases.credentials]
  | lost erases => rw [erases.credentials]

/-- An edge is lost only to a second failure. -/
theorem Exchanges.perm {e : Error} (exchanges : store.Exchanges before after met (.error e) later)
    (once : store.edges.toList.Nodup) (few : met.length ≤ 1) : later.edges.toList.Perm store.edges.toList := by
  cases exchanges with
  | kept => exact .rfl
  | restored erases restores => exact erases.perm_of_restored restores once
  | lost erases => exact absurd few (by simp)

/-- How it ends to put the role `new` of a user in the place of `old` while requests may fail. -/
inductive Attempts (store : Store) (globalGroup : String) (user old new : Record) :
    List Error → Except Error Unit → Store → Prop where
  | unfounded {e : Error} : Attempts store globalGroup user old new [e] (.error e) store
  | unchecked {group : Record} {founded : Store} {e : Error} (founds : store.Founds globalGroup group founded) :
    Attempts store globalGroup user old new [e] (.error e) founded
  | stranger {kind : Kind} {record group : Record} {founded : Store}
    (founds : store.Founds globalGroup group founded)
    (unknown : store.stranger? [(.user, user), (.role, old), (.role, new)] = some (kind, record)) :
    Attempts store globalGroup user old new [] (.error (.noEntityNamed kind record.name)) founded
  | exchanged {group : Record} {founded later : Store} {met : List Error} {result : Except Error Unit}
    (founds : store.Founds globalGroup group founded)
    (named : (founded.table .group).named? globalGroup = some group)
    (exchanges : founded.Exchanges (.userGroupRole user.id group.id old.id) (.userGroupRole user.id group.id new.id)
      met result later) : Attempts store globalGroup user old new met result later

namespace Attempts

variable {globalGroup : String} {user old new : Record} {e : Error}

theorem spares (attempts : store.Attempts globalGroup user old new met result later) :
    (∀ kind, kind ≠ .group → later.table kind = store.table kind) ∧
      ∀ id : EntityId, later.credentials[id]? = store.credentials[id]? := by
  cases attempts with
  | unfounded => exact ⟨fun _ _ => rfl, fun _ => rfl⟩
  | unchecked founds => exact ⟨founds.spares.1, founds.spares.2.1⟩
  | stranger founds unknown => exact ⟨founds.spares.1, founds.spares.2.1⟩
  | exchanged founds named exchanges =>
    refine ⟨fun kind apart => (exchanges.table kind).trans (founds.spares.1 kind apart), fun id => ?_⟩
    rw [exchanges.credentials, founds.spares.2.1]

theorem swaps (attempts : store.Attempts globalGroup user old new met (.ok ()) later) :
    ∃ group, later.groups.named? globalGroup = some group ∧
      store.Swaps (.userGroupRole user.id group.id old.id) (.userGroupRole user.id group.id new.id) later := by
  cases attempts with
  | @exchanged group founded _ _ _ founds named exchanges =>
    have groups : later.table .group = founded.table .group := exchanges.table .group
    have edges : founded.edges = store.edges := founds.spares.2.2
    cases exchanges with
    | exchanged erases inserts =>
      obtain ⟨mem_iff, others⟩ := erases.swaps inserts
      rw [edges] at mem_iff others
      exact ⟨group, (congrArg (·.named? globalGroup) groups).trans named, mem_iff, others⟩

theorem perm (attempts : store.Attempts globalGroup user old new met (.error e) later)
    (once : store.edges.toList.Nodup) (few : met.length ≤ 1) : later.edges.toList.Perm store.edges.toList := by
  cases attempts with
  | unfounded => exact .rfl
  | unchecked founds => rw [founds.spares.2.2]
  | stranger founds unknown => rw [founds.spares.2.2]
  | exchanged founds named exchanges =>
    rw [← founds.spares.2.2] at once ⊢
    exact exchanges.perm once few

theorem stranger_of_quiet (attempts : store.Attempts globalGroup user old new [] (.error e) later) :
    ∃ kind record, store.stranger? [(.user, user), (.role, old), (.role, new)] = some (kind, record) ∧
      e = .noEntityNamed kind record.name := by
  cases attempts with
  | stranger founds unknown => exact ⟨_, _, unknown, rfl⟩
  | exchanged founds named exchanges => cases exchanges

end Attempts

end Store

namespace Action

variable {context : Context} {model : Model} {store : Store} (onlyFails : context.outage.OnlyFails)
include onlyFails

/-- The first edge is put back where the second one cannot be written, over the store it was taken out of. -/
theorem meets_insertInPlace {before after : Edge EntityId} {wasThere isNew isBack : Bool} {freed later back : Store}
    (erases : store.Erases before wasThere freed)
    (inserted : freed.answer (.insertEdge after) = (.ok isNew, later)) (inserts : freed.Inserts after isNew later)
    (restoring : freed.answer (.insertEdge before) = (.ok isBack, back)) (restores : freed.Inserts before isBack back) :
    Meets context freed (tryCatch (ask (.insertEdge after)) fun e => do
      if wasThere then discard <| ask (.insertEdge before)
      throw e) fun met result final => store.Exchanges before after met (result.map fun _ => ()) final := by
  refine (atomic_ask onlyFails inserted).meets.tryCatch ?_ ?_
  · rintro met a final (⟨rfl, -, rfl⟩ | ⟨_, -, ⟨⟩, -⟩)
    exact .exchanged erases inserts
  · rintro met e final (⟨-, ⟨⟩, -⟩ | ⟨_, rfl, ⟨⟩, rfl⟩)
    cases erases with
    | absent absent => exact meets_throw .kept
    | removed there listed =>
      have erases := Store.Erases.removed there listed
      change Meets _ _ ((fun _ => ()) <$> ask (.insertEdge before) >>= fun _ => throw e) _
      rw [map_eq_pure_bind, bind_assoc]
      refine .ask onlyFails restoring ?_ fun e' => .lost erases
      rw [pure_bind]
      exact meets_throw (.restored erases restores)

theorem meets_replaceRole (sound : store.Sound model) (visible : Text.blank context.settings.globalGroup = false)
    (user old new : Record) :
    Meets context store (replaceRole user old new) (store.Attempts context.settings.globalGroup user old new) := by
  refine (atomic_globalGroup sound onlyFails visible).meets_bind ?_ ?_ fun e => .unfounded
  · rintro group founded ⟨_, ⟨⟩, founds, sound', -⟩
    let before : Edge Record := .userGroupRole user group old
    let after : Edge Record := .userGroupRole user group new
    have strangers := founds.stranger?_eq sound user old new
    change Meets _ founded (requireEndpoints before >>= fun _ => requireStored .role new >>= fun _ => _) _
    rw [← bind_assoc, requireEndpoints_also]
    refine (atomic_requireEach sound' onlyFails (before.endpoints ++ [(.role, new)])).meets_bind ?_ ?_
      fun e => Store.Attempts.unchecked founds
    · rintro _ _ ⟨rfl, accepted⟩
      have known := Store.check_eq_ok_iff.mp accepted.symm
      have within : after.endpoints ⊆ before.endpoints ++ [(.role, new)] := by
        simp [before, after, Edge.endpoints]
      have before_stored := Store.stored_of_known known (List.subset_append_left before.endpoints _)
      have after_stored := Store.stored_of_known known within
      obtain ⟨wasThere, freed, erased, erases, ⟨isNew, later, inserted, inserts⟩, isBack, back, restoring, restores⟩ :=
        sound'.answer_exchange_back before_stored after_stored
      refine .ask onlyFails erased ?_ fun e => .exchanged founds (founds.found sound') .kept
      refine (meets_insertInPlace onlyFails erases inserted inserts restoring restores).bind ?_ ?_
      · intro met isNew final exchanges
        refine ((leaves_report _).bind_eq (leaves_report _)).meets ?_
        rintro _ _ ⟨rfl, rfl⟩
        rw [List.append_nil]
        exact .exchanged founds (founds.found sound') exchanges
      · intro met e final exchanges
        exact .exchanged founds (founds.found sound') exchanges
    · rintro e _ ⟨rfl, refused⟩
      obtain ⟨kind, record, unknown, rfl⟩ := Store.of_check_eq_error refused.symm
      exact .stranger founds (strangers.symm.trans unknown)
  · rintro e later ⟨_, ⟨⟩, -⟩

end Action

namespace Service

variable {service : Service}

/-- A replacement that succeeds swaps one assignment for another; one that fails leaves the assignments as
they were, if no more than one request failed, and has a reason of its own if none did. -/
theorem Reachable.replacement_swaps_or_restores (reachable : service.Reachable) {outage : Outage}
    (onlyFails : outage.OnlyFails) (user old new : Record) :
    let store := service.state.store
    let result := (service.run (replaceRole user old new) outage).1
    let after := (service.run (replaceRole user old new) outage).2
    let later := after.state.store
    (∀ kind, kind ≠ .group → later.table kind = store.table kind) ∧
      (∀ id : EntityId, later.credentials[id]? = store.credentials[id]?) ∧
      (result = .ok () → ∃ group, later.groups.named? service.settings.globalGroup = some group ∧
        store.Swaps (.userGroupRole user.id group.id old.id) (.userGroupRole user.id group.id new.id) later) ∧
      ∀ e, result = .error e →
        (after.state.disrupted.length ≤ service.state.disrupted.length + 1 →
          later.edges.toList.Perm store.edges.toList) ∧
        (after.state.disrupted = service.state.disrupted → ∃ kind record,
          store.stranger? [(.user, user), (.role, old), (.role, new)] = some (kind, record) ∧
            e = .noEntityNamed kind record.name) := by
  intro store result after later
  let context : Context := { settings := service.settings, outage }
  have visible : Text.blank context.settings.globalGroup = false := reachable.globalGroup_visible
  have onlyFails : context.outage.OnlyFails := onlyFails
  obtain ⟨met, noted, attempts⟩ : ∃ met, after.state.disrupted = service.state.disrupted ++ met ∧
      store.Attempts service.settings.globalGroup user old new met result later :=
    Action.meets_replaceRole onlyFails reachable.sound visible user old new service.state rfl
  refine ⟨attempts.spares.1, attempts.spares.2, fun succeeded => (succeeded ▸ attempts).swaps, fun e failed => ?_⟩
  have attempts := failed ▸ attempts
  refine ⟨fun few => attempts.perm reachable.sound.log.nodup ?_, fun quiet => ?_⟩
  · have counted := (congrArg List.length noted).symm.trans_le few
    rw [List.length_append] at counted
    omega
  · have unmet : met = [] := List.append_right_eq_self.mp (noted.symm.trans quiet)
    subst unmet
    exact attempts.stranger_of_quiet

/-- Ann is to judge in the place of being a clerk, but that cannot be written; her old role is put back. -/
theorem failed_replacement_restores_role :
    let ann : Record := ⟨⟨0⟩, "Ann"⟩
    let bob : Record := ⟨⟨1⟩, "Bob"⟩
    let clerk : Record := ⟨⟨2⟩, "clerk"⟩
    let judge : Record := ⟨⟨3⟩, "judge"⟩
    let group : Record := ⟨⟨4⟩, "global"⟩
    let service := (⟨{ model := .turbine }, {}⟩ : Service).performAll
      [.addUser "Ann" "pw", .addUser "Bob" "pw", .add .role "clerk", .add .role "judge", .globalGroup,
        .grant .turbine (.userGroupRole ann group clerk) rfl, .grant .turbine (.userGroupRole bob group clerk) rfl]
    let lost : Error := .reported .dataBackend "lost"
    let outage : Outage := fun _ _ request =>
      match request with
      | .insertEdge (.userGroupRole _ _ role) => if role = judge.id then some (.fail lost) else none
      | _ => none
    (service.run (replaceRole ann clerk judge) outage).1 = .error lost ∧
      service.state.store.edges.toList = [.userGroupRole ⟨0⟩ ⟨4⟩ ⟨2⟩, .userGroupRole ⟨1⟩ ⟨4⟩ ⟨2⟩] ∧
      (service.run (replaceRole ann clerk judge) outage).2.state.store.edges.toList =
        [.userGroupRole ⟨1⟩ ⟨4⟩ ⟨2⟩, .userGroupRole ⟨0⟩ ⟨4⟩ ⟨2⟩] ∧
      (service.run (replaceRole ann clerk judge) outage).2.state.store.edges.toList.Perm
        service.state.store.edges.toList := by
  intro ann bob clerk judge group service lost outage
  have started : Service.start { model := .turbine } {} = .ok ⟨{ model := .turbine }, {}⟩ := rfl
  have reachable : service.Reachable := (Reachable.start 0 0 0 ⟨0⟩ started).performAll _
  have onlyFails : outage.OnlyFails := by
    intro number store request
    simp only [outage]
    split
    · split <;> exact nofun
    · exact nofun
  have failed : (service.run (replaceRole ann clerk judge) outage).1 = .error lost := by decide +kernel
  have once : (service.run (replaceRole ann clerk judge) outage).2.state.disrupted.length ≤
      service.state.disrupted.length + 1 := by decide +kernel
  have restored := ((reachable.replacement_swaps_or_restores onlyFails ann clerk judge).2.2.2 lost failed).1 once
  exact ⟨failed, by decide +kernel, by decide +kernel, restored⟩

end Service

end Entitlement
