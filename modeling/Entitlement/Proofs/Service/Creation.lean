import Entitlement.Proofs.Action.Spending
import Entitlement.Proofs.Service.Graph
import Entitlement.Proofs.Store.Growth

/-!
Adding and renaming while any request may fail. What is written is not taken back if the entity cannot be
loaded after that, or the password of a new user cannot be saved.
-/

namespace Entitlement

/-- How an action ends that sends its first write after `before - 1` other requests, if `finishes` tells what comes of it. -/
inductive Store.Lands {α : Type} (store : Store) (write : Request) (before : Nat) (finishes : Store → Store → Prop) :
    Nat → Except Error α → Store → Prop where
  | unwritten {sent : Nat} {e : Error} (early : sent ≤ before) : Lands store write before finishes sent (.error e) store
  | stranded {sent : Nat} {e : Error} {answer : write.Answer} {later : Store} (late : before < sent)
    (written : store.answer write = (.ok answer, later)) : Lands store write before finishes sent (.error e) later
  | landed {sent : Nat} {a : α} {answer : write.Answer} {between later : Store} (late : before < sent)
    (written : store.answer write = (.ok answer, between)) (finish : finishes between later) :
    Lands store write before finishes sent (.ok a) later

namespace Store.Lands

variable {α : Type} {store later : Store} {sent : Nat} {e : Error}

/-- The result may be forgotten. -/
theorem discard {write : Request} {before : Nat} {finishes : Store → Store → Prop} {result : Except Error α}
    (lands : store.Lands write before finishes sent result later) :
    store.Lands write before finishes sent (result.map fun _ => ()) later := by
  cases lands with
  | unwritten early => exact .unwritten early
  | stranded late written => exact .stranded late written
  | landed late written finish => exact .landed late written finish

/-- What is created stays there, and a user has no password then. -/
theorem left_behind {model : Model} (sound : store.Sound model) {kind : Kind} {name : String}
    {finishes : Store → Store → Prop} {result : Except Error α}
    (lands : store.Lands (.create kind name) 2 finishes sent result later) (failed : result = .error e)
    (late : 2 < sent) : ∃ record, store.Creates kind name {} record later := by
  subst failed
  cases lands with
  | unwritten early => omega
  | stranded late written => exact ⟨_, sound.creates_of_answer written⟩

end Store.Lands

namespace Action

variable {context : Context} {store : Store}

/-- How every entity is loaded: something is read first, and nothing written. -/
abbrev LoadsFor (context : Context) (store : Store) (E : Type) [Entity E] : Prop :=
  ∀ record : Record, Spends context store (Entity.load record : Action E) fun sent _ later => 0 < sent ∧ later = store

theorem spends_loadUser : LoadsFor context store User := by
  intro record
  have reads : (Request.loadCredentials record.id).Reads := trivial
  refine spends_some reads fun credentials => (sends_read (.edgesOf .user record.id) trivial).bind fun edges => ?_
  exact .foldlM (sends_alongUser finds_reads) edges _

theorem spends_loadGroup : LoadsFor context store Group := by
  intro record
  have reads : (Request.edgesOf .group record.id).Reads := trivial
  exact spends_some reads fun edges => .foldlM (sends_alongGroup finds_reads) edges _

theorem spends_loadRole : LoadsFor context store Role := by
  intro record
  have reads : (Request.edgesOf .role record.id).Reads := trivial
  exact spends_some reads fun edges => .foldlM (sends_alongRole finds_reads) edges _

theorem spends_loadPermission : LoadsFor context store Permission := by
  intro record
  have reads : (Request.edgesOf .permission record.id).Reads := trivial
  exact spends_some reads fun edges => .foldlM (sends_alongPermission finds_reads) edges _

section Writes

variable (onlyFails : context.outage.OnlyFails) {E : Type} [Entity E] (loads : ∀ store, LoadsFor context store E)
include onlyFails loads

/-- The write after which nothing is left to do but to load the entity. -/
theorem spends_write {write : Request} {record : write.Answer → Record} {event : AuditEvent} (earlier : Nat)
    (stays : ∀ e later, store.answer write = (.error e, later) → later = store) :
    Spends context store (ask write >>= fun answer => report event >>= fun _ => (Entity.load (record answer) : Action E))
      fun sent => store.Lands write (earlier + 1) Eq (earlier + sent) := by
  rcases written : store.answer write with ⟨e | answer, between⟩
  · obtain rfl := stays e between written
    exact .ask_of_error onlyFails written (.unwritten (Nat.le_refl _)) fun e _ => .unwritten (Nat.le_refl _)
  · refine .ask_of_ok onlyFails written (.report ?_) fun e _ => .unwritten (Nat.le_refl _)
    refine (loads between (record answer)).mono ?_
    rintro sent (e | entity) later ⟨some, rfl⟩
    · exact .stranded (by omega) written
    · exact .landed (by omega) written rfl

theorem spends_add (name : String) : Spends context store (Entity.add name : Action E)
    (store.Lands (.create (Entity.kind E) name) 2 Eq) := by
  have found : store.answer (.findNamed (Entity.kind E) name) = (.ok ((store.table (Entity.kind E)).named? name), store) :=
    rfl
  refine .check (fun _ _ => ?_) fun e _ => .unwritten (Nat.zero_le 2)
  rw [Entity.existsNamed, bind_assoc]
  refine .ask_of_ok onlyFails found ?_ fun e _ => .unwritten (Nat.le_succ 1)
  rw [pure_bind]
  split
  · exact spends_throw (.unwritten (Nat.le_succ 1))
  · exact spends_write onlyFails loads 1 fun _ _ => Store.answer_refused nofun

theorem spends_rename {model : Model} (sound : store.Sound model) (entity : E) (name : String) : Spends context store (Entity.rename entity name)
    (store.Lands (.rename (Entity.kind E) (Entity.id entity) name) 1 Eq) := by
  refine .check (fun _ _ => ?_) fun e _ => .unwritten (Nat.zero_le 1)
  refine (spends_write onlyFails loads 0 fun e later => sound.refused).mono fun sent result later lands => ?_
  rw [Nat.zero_add sent] at lands
  exact lands

end Writes

theorem spends_addWithPassword (onlyFails : context.outage.OnlyFails) (name password : String) :
    Spends context store (User.addWithPassword name password) (store.Lands (.create .user name) 2 fun between later =>
      ∃ user stored, between.answer (.saveCredentials user { password := some stored }) = (.ok (), later)) := by
  have adds : Spends context store (Entity.add name : Action User) (store.Lands (.create .user name) 2 Eq) :=
    spends_add onlyFails (fun _ => spends_loadUser) name
  refine adds.bind ?_ ?_
  · intro sent user between lands
    cases lands with
    | landed late written same =>
      subst same
      refine .after (fun _ => ⟨_, _, rfl, rfl, rfl⟩) fun stored => ?_
      rcases saved : Store.answer _ (.saveCredentials user.id { password := some stored }) with ⟨e | _, later⟩
      · obtain rfl := Store.answer_refused (by nofun) saved
        refine .ask_of_error onlyFails saved (.stranded (by omega) written) fun e _ => .stranded (by omega) written
      · refine .ask_of_ok onlyFails saved (spends_pure ?_) fun e _ => .stranded (by omega) written
        exact .landed (by omega) written ⟨user.id, stored, saved⟩
  · intro sent e later lands
    cases lands with
    | unwritten early => exact .unwritten early
    | stranded late written => exact .stranded late written

section Operations

variable (onlyFails : context.outage.OnlyFails)
include onlyFails

theorem spends_addOperation (kind : Kind) (name : String) :
    Spends context store (Operation.add kind name).action (store.Lands (.create kind name) 2 Eq) := by
  cases kind with
  | user => exact (spends_add onlyFails (fun _ => spends_loadUser) name).map fun _ _ _ lands => lands.discard
  | group => exact (spends_add onlyFails (fun _ => spends_loadGroup) name).map fun _ _ _ lands => lands.discard
  | role => exact (spends_add onlyFails (fun _ => spends_loadRole) name).map fun _ _ _ lands => lands.discard
  | permission =>
    exact (spends_add onlyFails (fun _ => spends_loadPermission) name).map fun _ _ _ lands => lands.discard

theorem spends_renameOperation {model : Model} (sound : store.Sound model) (entity : Handle) (name : String) :
    Spends context store (Operation.rename entity name).action
      (store.Lands (.rename entity.endpoint.kind entity.endpoint.id name) 1 Eq) := by
  cases entity with
  | user held => exact (spends_rename onlyFails (fun _ => spends_loadUser) sound held name).map fun _ _ _ lands => lands.discard
  | group held =>
    exact (spends_rename onlyFails (fun _ => spends_loadGroup) sound held name).map fun _ _ _ lands => lands.discard
  | role held => exact (spends_rename onlyFails (fun _ => spends_loadRole) sound held name).map fun _ _ _ lands => lands.discard
  | permission held =>
    exact (spends_rename onlyFails (fun _ => spends_loadPermission) sound held name).map fun _ _ _ lands => lands.discard

end Operations

end Action

namespace Service

/-- A failed creation leaves the store as it was, or with the new entity in it; a failed renaming leaves it as it
was, or renamed. Which of the two it is depends on the number of the request that failed. -/
theorem Reachable.writes_stay {service : Service} (reachable : service.Reachable) {outage : Outage}
    (onlyFails : outage.OnlyFails) :
    let context : Context := { settings := service.settings, outage }
    let store := service.state.store
    (∀ kind name, Action.Spends context store (Operation.add kind name).action fun sent result later =>
        store.Lands (.create kind name) 2 Eq sent result later ∧
          ∀ e, result = .error e → 2 < sent → ∃ record, store.Creates kind name {} record later) ∧
      (∀ name password, Action.Spends context store (Operation.addUser name password).action fun sent result later =>
        store.Lands (.create .user name) 2 (fun between later => ∃ user stored,
            between.answer (.saveCredentials user { password := some stored }) = (.ok (), later)) sent result later ∧
          ∀ e, result = .error e → 2 < sent → ∃ user, store.Creates .user name {} user later) ∧
      ∀ entity name, Action.Spends context store (Operation.rename entity name).action
        (store.Lands (.rename entity.endpoint.kind entity.endpoint.id name) 1 Eq) := by
  intro context store
  have sound : store.Sound context.settings.model := reachable.sound
  have onlyFails : context.outage.OnlyFails := onlyFails
  refine ⟨fun kind name => ?_, fun name password => ?_, Action.spends_renameOperation onlyFails sound⟩
  · refine (Action.spends_addOperation onlyFails kind name).mono fun sent result later lands => ⟨lands, ?_⟩
    exact fun e failed late => lands.left_behind sound failed late
  · refine (Action.spends_addWithPassword onlyFails name password).map fun sent result later lands => ?_
    exact ⟨lands.discard, fun e failed late => lands.discard.left_behind sound failed late⟩

/-- Ann is added while no credentials can be saved. -/
theorem writes_stay_without_password :
    let service : Service := ⟨{}, {}⟩
    let lost : Error := .reported .dataBackend "lost"
    let outage : Outage := fun _ _ request =>
      match request with
      | .saveCredentials .. => some (.fail lost)
      | _ => none
    let added := (Operation.addUser "Ann" "pw").action.run { settings := service.settings, outage } service.state
    added.1 = .error lost ∧ added.2.store.users.names = ["Ann"] ∧
      ∃ user, service.state.store.Creates .user "Ann" {} user added.2.store := by
  intro service lost outage added
  have started : Service.start {} {} = .ok ⟨{}, {}⟩ := rfl
  have reachable : service.Reachable := Reachable.start 0 0 0 ⟨0⟩ started
  have onlyFails : outage.OnlyFails := by
    intro number store request
    cases request <;> exact nofun
  have failed : added.1 = .error lost := by decide +kernel
  have fifth : added.2.requests = 5 := by decide +kernel
  refine ⟨failed, by decide +kernel, ?_⟩
  have spends := (Reachable.writes_stay reachable onlyFails).2.1 "Ann" "pw" service.state rfl
  have ran : (Operation.addUser "Ann" "pw").action.run { settings := service.settings, outage } service.state = added :=
    rfl
  rw [ran] at spends
  obtain ⟨sent, counted, -, left_behind⟩ := spends
  have late : 2 < sent := by
    have none_before : service.state.requests = 0 := rfl
    omega
  exact left_behind lost failed late

end Service

end Entitlement
