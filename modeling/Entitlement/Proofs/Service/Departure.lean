import Entitlement.Proofs.Granting.Removal
import Entitlement.Proofs.Loading.Remaining
import Entitlement.Proofs.Seed.Populating

/-!
Removing an entity that is stored takes out its record, its credentials and the edges that touch it, and
nothing else; whoever was next to it no longer is, and its name is free.
-/

namespace Entitlement

open Entitlement.Action

/-- Later on, all that the service handed out is still handed out, save that nothing is next to what is gone. -/
structure Service.Forgets (service : Service) (gone : EntityId) (later : Service) : Prop where
  users : ∀ user : User, service.HandsOut user → user.id ≠ gone →
    ∃ left : User, later.HandsOut left ∧ user.Lacks gone left
  groups : ∀ group : Group, service.HandsOut group → group.id ≠ gone →
    ∃ left : Group, later.HandsOut left ∧ group.Lacks gone left
  roles : ∀ role : Role, service.HandsOut role → role.id ≠ gone →
    ∃ left : Role, later.HandsOut left ∧ role.Lacks gone left
  permissions : ∀ permission : Permission, service.HandsOut permission → permission.id ≠ gone →
    ∃ left : Permission, later.HandsOut left ∧ permission.Lacks gone left

namespace Store.Sound

variable {model : Model} {settings : Settings}

theorem run_remove_absent {E : Type} [Entity E] {state : State} (sound : state.store.Sound model)
    (settings : Settings) (entity : E) (absent : Entity.id entity ∉ (state.store.table (Entity.kind E)).ids) :
    (Entity.remove entity).run { settings } state =
      (.error (.noEntityNamed (Entity.kind E) (Entity.name entity)), { state with requests := state.requests + 1 }) := by
  have missing := (sound.tables (Entity.kind E)).get?_eq_none_iff.mpr absent
  have by_id : state.store.answer (.find (Entity.kind E) (Entity.id entity)) = (.ok none, state.store) := by
    simp only [Store.answer, missing]
  have refused : (requireStored (Entity.kind E) (Entity.endpoint entity).toRecord).run { settings } state =
      (.error (.noEntityNamed (Entity.kind E) (Entity.name entity)), { state with requests := state.requests + 1 }) := by
    have asked : (ask (.find (Entity.kind E) (Entity.endpoint entity).id)).run { settings } state = _ :=
      run_ask_of_ok state settings by_id
    rw [requireStored, run_bind, asked]
    rfl
  have endpoint : (Entity.endpoint entity).kind = Entity.kind E := rfl
  rw [Entity.remove, revokeAll, endpoint, bind_assoc, run_bind, refused]

theorem loses_of_withdraws {store later : Store} (sound : store.Sound model) {given : Error → Prop}
    (never : ∀ e, ¬ given e) {entity : Endpoint} {more sent : Nat} {result : Except Error Nat}
    (known : entity.id ∈ (store.table entity.kind).ids)
    (withdraws : store.Withdraws given entity more
      (fun stripped later => stripped.answer (.delete entity.kind entity.id) = (.ok (), later)) sent result later) :
    result = .ok (store.edges.toList.countP (·.touches entity.id)) ∧ store.Loses entity.kind entity.id later ∧
      later.Sound model := by
  cases withdraws with
  | stranger unknown => exact absurd known unknown
  | stopped gives => exact absurd gives (never _)
  | finished _ finish =>
    let stripped := store.without (store.edges.touching entity.id)
    have stripped_sound : stripped.Sound model := sound.without _
    have loses : stripped.Loses entity.kind entity.id later := stripped_sound.loses_of_delete finish
    have admissible : (Request.delete entity.kind entity.id).Admissible model := trivial
    refine ⟨?_, ⟨?_, ?_, loses.credentials, ?_, loses.nextId⟩, stripped_sound.answer admissible finish⟩
    · rw [sound.log.touching_eq, List.countP_eq_length_filter]
    · rw [loses.table, table_without]
    · intro other apart
      rw [loses.others other apart, table_without]
    · have listed : stripped.edges.toList = _ := sound.toList_eraseAll_touching entity.id
      rw [loses.edges, listed, List.filter_filter]
      simp only [Bool.and_self]

theorem adds {store : Store} (sound : store.Sound model) {kind : Kind} {name : String}
    (visible : Text.blank name = false) (free : nameKey name ∉ (store.table kind).keys) :
    Leaves { settings } store (Operation.add kind name).action fun result _ => result = .ok () := by
  have added {E : Type} [Entity E] (loads : Entity.Loads E model) (free : nameKey name ∉ (store.table (Entity.kind E)).keys) :
      Leaves { settings } store (discard (Entity.add name : Action E)) fun result _ => result = .ok () := by
    have ends : Leaves { settings } store (discard (Entity.add name : Action E)) _ :=
      (leaves_add loads sound visible free).map
    exact ends.mono fun result _ ⟨_, done, _⟩ => done
  cases kind with
  | user => exact added (User.loads model) free
  | group => exact added (Group.loads model) free
  | role => exact added (Role.loads model) free
  | permission => exact added (Permission.loads model) free

end Store.Sound

namespace Service

variable {service later : Service} {model : Model} {kind : Kind} {gone : EntityId}

theorem forgets_of_loses (sound : service.state.store.Sound model) (sound' : later.state.store.Sound model)
    (loses : service.state.store.Loses kind gone later.state.store)
    (known : gone ∈ (service.state.store.table kind).ids) : service.Forgets gone later := by
  have remain : ∀ (other : Kind) (record : Record), record ∈ (service.state.store.table other).toList →
      record.id ≠ gone → record ∈ (later.state.store.table other).toList := by
    intro other record mem apart
    rw [loses.tables sound known, List.mem_filter, decide_eq_true_eq]
    exact ⟨mem, apart⟩
  constructor
  · intro user handed apart
    obtain ⟨mem, complete⟩ := (loads_users sound).of_handsOut sound handed
    obtain ⟨left, same, complete', handed', -⟩ := (loads_users sound').each _ (remain .user _ mem apart)
    exact ⟨left, handed', loses.user sound complete complete' same apart⟩
  · intro group handed apart
    obtain ⟨mem, current⟩ := (loads_groups sound).of_handsOut sound handed
    obtain ⟨left, same, current', handed', -⟩ := (loads_groups sound').each _ (remain .group _ mem apart)
    exact ⟨left, handed', loses.group sound current current' same apart⟩
  · intro role handed apart
    obtain ⟨mem, current⟩ := (loads_roles sound).of_handsOut sound handed
    obtain ⟨left, same, current', handed', -⟩ := (loads_roles sound').each _ (remain .role _ mem apart)
    exact ⟨left, handed', loses.role sound current current' same apart⟩
  · intro permission handed apart
    obtain ⟨mem, current⟩ := (loads_permissions sound).of_handsOut sound handed
    obtain ⟨left, same, current', handed', -⟩ := (loads_permissions sound').each _ (remain .permission _ mem apart)
    exact ⟨left, handed', loses.permission sound current current' same apart⟩

/-- Removing what is not stored changes nothing; removing what is stored takes out that and its edges. -/
theorem Reachable.removal_takes_out (reachable : service.Reachable) {E : Type} [Entity E] (entity : E) :
    let store := service.state.store
    let gone := Entity.id entity
    let ended := service.run (Entity.remove entity)
    (gone ∉ (store.table (Entity.kind E)).ids →
      ended.1 = .error (.noEntityNamed (Entity.kind E) (Entity.name entity)) ∧
        ended.2 = { service with state := { service.state with requests := service.state.requests + 1 } }) ∧
      (gone ∈ (store.table (Entity.kind E)).ids →
        ended.1 = .ok (store.edges.toList.countP (·.touches gone)) ∧
          store.Loses (Entity.kind E) gone ended.2.state.store ∧ service.Forgets gone ended.2 ∧
            ∀ record ∈ (store.table (Entity.kind E)).toList, record.id = gone →
              ∀ name, nameKey name = record.key → Text.blank name = false →
                (ended.2.run (Operation.add (Entity.kind E) name).action).1 = .ok ()) := by
  intro store gone ended
  have sound : store.Sound service.settings.model := reachable.sound
  constructor
  · intro absent
    have ran : ended = _ := congrArg (fun run => (run.1, { service with state := run.2 }))
      (sound.run_remove_absent service.settings entity absent)
    exact ⟨congrArg Prod.fst ran, congrArg Prod.snd ran⟩
  · intro known
    have onlyFails : Outage.never.OnlyFails := Outage.never_onlyFails
    have spends : Spends { settings := service.settings } store (Entity.remove entity) _ :=
      spends_remove sound onlyFails entity
    obtain ⟨sent, -, withdraws⟩ := spends service.state rfl
    have never : ∀ e, ¬ Outage.never.Gives e := fun e ⟨_, _, _, gives⟩ => nomatch gives
    obtain ⟨counted, loses, sound'⟩ := sound.loses_of_withdraws never known withdraws
    refine ⟨counted, loses, forgets_of_loses sound sound' loses known, fun record mem same name key visible => ?_⟩
    have free : nameKey name ∉ (ended.2.state.store.table (Entity.kind E)).keys := key ▸ loses.free sound mem same
    exact (sound'.adds visible free ended.2.state rfl).2

/-- Ann, who has delegated to herself, is removed by her old name; as a role she is not there. -/
theorem ann_removed_by_old_record :
    let ann : Record := ⟨⟨0⟩, "Ann"⟩
    let bob : Record := ⟨⟨1⟩, "Bob"⟩
    let clerk : Record := ⟨⟨2⟩, "clerk"⟩
    let service := (⟨{}, {}⟩ : Service).performAll
      [.addUser "Ann" "pw", .add .user "Bob", .add .role "clerk", .grant .dynamic (.delegation ann ann) rfl,
        .grant .dynamic (.userRole bob clerk) rfl, .grant .dynamic (.delegation bob ann) rfl,
        .rename (.user { ann with }) "Anna"]
    let ended := service.run (Entity.remove ({ ann with } : User))
    (service.run (Entity.remove ({ ann with } : Role))).1 = .error (.noEntityNamed .role "Ann") ∧
      ended.1 = .ok 2 ∧ ended.2.state.store.edges.toList = [.userRole ⟨1⟩ ⟨2⟩] ∧ service.Forgets ⟨0⟩ ended.2 ∧
        (ended.2.run (Operation.add .user "ANNA").action).1 = .ok () := by
  intro ann bob clerk service ended
  have started : Service.start {} {} = .ok ⟨{}, {}⟩ := rfl
  have reachable : service.Reachable := (Reachable.start 0 0 0 ⟨0⟩ started).performAll _
  have users : service.state.store.users.toList = [bob, ⟨⟨0⟩, "Anna"⟩] := by decide +kernel
  have roles : service.state.store.roles.ids = [⟨2⟩] := by decide +kernel
  have edges : service.state.store.edges.toList = [.delegation ⟨0⟩ ⟨0⟩, .userRole ⟨1⟩ ⟨2⟩, .delegation ⟨1⟩ ⟨0⟩] := by
    decide +kernel
  have no_role : Entity.id ({ ann with } : Role) ∉ (service.state.store.table .role).ids := by
    have elsewhere : (⟨0⟩ : EntityId) ∉ service.state.store.roles.ids := by simp [roles]
    exact elsewhere
  have listed : ⟨⟨0⟩, "Anna"⟩ ∈ (service.state.store.table .user).toList := by
    have stored : ⟨⟨0⟩, "Anna"⟩ ∈ service.state.store.users.toList := by simp [users]
    exact stored
  have known : Entity.id ({ ann with } : User) ∈ (service.state.store.table .user).ids :=
    Roster.mem_ids.mpr ⟨_, listed, rfl⟩
  obtain ⟨counted, loses, forgets, again⟩ := (Reachable.removal_takes_out reachable ({ ann with } : User)).2 known
  refine ⟨((Reachable.removal_takes_out reachable ({ ann with } : Role)).1 no_role).1, ?_, ?_, forgets, ?_⟩
  · rw [edges] at counted
    exact counted.trans (congrArg Except.ok (by decide))
  · rw [loses.edges, edges]
    rfl
  · exact again _ listed rfl "ANNA" (by decide +kernel) (by decide +kernel)

end Service

end Entitlement
