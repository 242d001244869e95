import Entitlement.Proofs.Service.Operation
import Entitlement.Proofs.Store.Soundness
import Mathlib.Data.List.TakeWhile

/-!
The graph of a service is in order after any operations: identities and names are unique, edges lead
to stored entities and are of relations of the model.
-/

namespace Entitlement

theorem Settings.globalGroup_visible {settings : Settings} (valid : settings.validate = .ok ()) :
    Text.blank settings.globalGroup = false := by
  rw [Bool.eq_false_iff]
  intro blank
  have nothing : settings.globalGroup.toList.dropWhile Text.isBlank = [] :=
    List.dropWhile_eq_nil_iff.mpr (List.all_eq_true.mp blank)
  have trimmed : Text.trim settings.globalGroup = "" := by
    rw [Text.trim, nothing]
    rfl
  have checked : settings.check = .error .emptyGlobalGroup := by
    simp only [Settings.check, trimmed]
    rfl
  rw [Settings.validate, checked] at valid
  cases valid

/-- What holds of the graph of a service. -/
structure Store.Lawful (model : Model) (store : Store) : Prop where
  ids : ∀ kind, (store.table kind).ids.Nodup
  keys : ∀ kind, (store.table kind).keys.Nodup
  apart : ∀ kind other, kind ≠ other → ∀ id ∈ (store.table kind).ids, id ∉ (store.table other).ids
  named : ∀ kind, ∀ name ∈ (store.table kind).names, Text.blank name = false
  credentials : ∀ id, id ∈ store.credentials ↔ id ∈ store.users.ids
  stored : ∀ edge ∈ store.edges.toList, ∀ end' ∈ edge.endpoints, end'.2 ∈ (store.table end'.1).ids
  once : store.edges.toList.Nodup
  shapes : ∀ edge ∈ store.edges.toList, edge.relation.belongsTo model

namespace Store.Sound

variable {model : Model} {store : Store}

theorem lawful (sound : store.Sound model) : store.Lawful model where
  ids kind := (sound.tables kind).ids_nodup
  keys kind := (sound.tables kind).keys_nodup
  apart kind other differ id mem mem' := differ (sound.apart kind other id mem mem')
  named kind name mem := by
    obtain ⟨record, listed, rfl⟩ := List.mem_map.mp mem
    exact sound.named kind record listed
  credentials := sound.credentials
  stored := sound.stored
  once := sound.log.nodup
  shapes := sound.shapes

/-- Identities may be left out. -/
theorem draw (sound : store.Sound model) {next : Nat} (unused : store.nextId ≤ next) :
    ({ store with nextId := next } : Store).Sound model where
  tables := sound.tables
  log := sound.log
  given kind record mem := Nat.lt_of_lt_of_le (sound.given kind record mem) unused
  apart := sound.apart
  named := sound.named
  credentials := sound.credentials
  stored := sound.stored
  shapes := sound.shapes

theorem mint (sound : store.Sound model) : ({ store with nextId := store.nextId + 1 } : Store).Sound model :=
  sound.draw (Nat.le_succ _)

/-- Soundness looks at the store alone, and admissible requests keep it. -/
theorem invariant (model : Model) :
    Action.Invariant (Request.Admissible model) fun state => state.store.Sound model where
  answered admissible sound answered := sound.answer admissible answered
  aside state later aside sound := by rwa [aside.store]

end Store.Sound

namespace Service

variable {service : Service}

theorem sound_perform (sound : service.state.store.Sound service.settings.model)
    (operation : Operation) (outage : Outage) :
    (service.perform operation outage).state.store.Sound service.settings.model :=
  holds_perform id (fun admissible _ sound answered => sound.answer admissible answered) (fun _ sound => sound.mint)
    sound outage

theorem Reachable.sound (reachable : service.Reachable) :
    service.state.store.Sound service.settings.model := by
  induction reachable with
  | start nextId nextSession nextSalt clock started =>
    obtain ⟨-, rfl⟩ := start_eq_ok started
    exact Store.Sound.empty _ nextId
  | step operation outage _ sound => exact sound_perform sound operation outage

/-- The graph of every service that operations lead to is lawful. -/
theorem Reachable.graph_lawful (reachable : service.Reachable) :
    service.state.store.Lawful service.settings.model :=
  reachable.sound.lawful

/-- Ann is renamed while her old record is still in use, a role is removed while it is held, and a user
who was never stored delegates to her. -/
theorem lawful_after_changes :
    let ann : Record := ⟨⟨0⟩, "Ann"⟩
    let clerk : Record := ⟨⟨1⟩, "clerk"⟩
    let service := (⟨{}, {}⟩ : Service).performAll
      [.addUser "Ann" "pw", .add .role "clerk", .add .role "Clerk",
        .rename (.user { ann with }) "Anna", .grant .dynamic (.userRole ann clerk) rfl,
        .grant .dynamic (.delegation ann ann) rfl,
        .grant .dynamic (.delegation ⟨⟨7⟩, "Bob"⟩ ann) rfl, .remove (.role { clerk with })]
    service.state.store.users.names = ["Anna"] ∧
      service.state.store.edges.toList = [.delegation ⟨0⟩ ⟨0⟩] ∧
      service.state.store.Lawful service.settings.model := by
  refine ⟨by decide +kernel, by decide +kernel, ?_⟩
  have started : Service.start {} {} = .ok ⟨{}, {}⟩ := rfl
  exact Reachable.graph_lawful ((Reachable.start 0 0 0 ⟨0⟩ started).performAll _)

/-- A service starts with nobody stored. -/
theorem start_empty {settings : Settings} {nextId nextSession nextSalt : Nat} {clock : Moment}
    (started : start settings { store := { nextId }, nextSession, nextSalt, clock } = .ok service) (kind : Kind)
    (id : EntityId) : id ∉ (service.state.store.table kind).ids := by
  obtain ⟨-, rfl⟩ := start_eq_ok started
  cases kind <;> simp [Store.table, Roster.ids, Roster.toList]

theorem Reachable.valid (reachable : service.Reachable) : service.settings.validate = .ok () := by
  induction reachable with
  | start nextId nextSession nextSalt clock started =>
    exact (start_eq_ok started).2 ▸ (start_eq_ok started).1
  | step operation outage _ valid => exact valid

theorem Reachable.globalGroup_visible (reachable : service.Reachable) :
    Text.blank service.settings.globalGroup = false :=
  Settings.globalGroup_visible reachable.valid

end Service

end Entitlement
