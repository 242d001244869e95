import Entitlement.Proofs.Acl.Roles
import Entitlement.Proofs.Service.Graph

/-!
To build the list of a stored user: the user is loaded first, and the list is built by the model of the
service.
-/

namespace Entitlement

open Entitlement.Action

/-- The stored user can be loaded, and then its list can be built and is as `exact` says. -/
def Service.Builds (service : Service) (record : Record) (exact : Acl → Prop) : Prop :=
  ∃ (user : User) (acl : Acl), (service.run (Entity.withId record.id)).1 = .ok user ∧
    user.toRecord = record ∧
    ((service.run (Entity.withId record.id : Action User)).2.run (Acl.build user)).1 = .ok acl ∧
      exact acl

variable {settings : Settings} {model : Model} {store : Store} {user : User}

theorem Store.Sound.answers_requireUser (sound : store.Sound model) (present : user.id ∈ store.users.ids) :
    Answers settings store (requireUser user) fun _ => True := by
  obtain ⟨record, mem, same⟩ := Roster.mem_ids.mp present
  have found : store.answer (.find .user user.id) = (.ok (some record), store) := same ▸ sound.find_answered mem
  refine Answers.bind (answers_ask found rfl) fun answer same => ?_
  subst same
  exact answers_pure trivial

theorem Service.Reachable.builds {service : Service} (reachable : service.Reachable) {record : Record}
    (stored : record ∈ service.state.store.users.toList) {exact : Acl → Prop}
    (answers : ∀ user : User, user.toRecord = record → user.Current service.state.store →
      Answers service.settings service.state.store (Acl.build user) exact) :
        service.Builds record exact := by
  have loads : Answers service.settings service.state.store (Entity.withId record.id : Action User)
      fun user => user.toRecord = record ∧ user.Current service.state.store :=
        reachable.sound.answers_user stored
  obtain ⟨user, requests, ran, same, current⟩ := loads service.state rfl
  obtain ⟨acl, _, ran_build, holds⟩ := answers user same current { service.state with requests } rfl
  refine ⟨user, acl, ?_, same, ?_, holds⟩
  · simp only [Service.run, ran]
  · simp only [Service.run, ran, ran_build]

end Entitlement
