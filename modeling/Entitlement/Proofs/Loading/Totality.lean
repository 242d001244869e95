import Entitlement.Proofs.Loading.Exactness
import Entitlement.Proofs.Service.Graph

/-!
Loading as callers meet it. Every stored entity is found by its identity, by its name and among all of its
type, and each time it is the stored record with the neighbours that the edges lead to.
-/

namespace Entitlement

open Entitlement.Action

/-- A user with the credentials that are stored, too. -/
structure User.Complete (store : Store) (user : User) : Prop extends User.Current store user where
  credentials : store.credentials[user.id]? = some ⟨user.password, user.lastLogin⟩

section Entity

variable {E : Type} [Entity E]

/-- Looked up by its identity, the entity is what is found each time. -/
def Service.HandsOut (service : Service) (entity : E) : Prop :=
  Answers service.settings service.state.store (Entity.withId (Entity.id entity)) (· = entity)

/-- Everything that is stored of the type is found in every way, and is the same each time. -/
structure Service.Loads (service : Service) (E : Type) [Entity E] (exact : E → Prop) : Prop where
  each : ∀ record ∈ (service.state.store.table (Entity.kind E)).toList, ∃ entity : E,
    Named.record entity = record ∧ exact entity ∧ service.HandsOut entity ∧
      ∀ name, record.key = nameKey name →
        Answers service.settings service.state.store (Entity.named name) (· = entity)
  all : ∃ entities : Roster E, Answers service.settings service.state.store (Entity.all E) (· = entities) ∧
    entities.toList.map Named.record = (service.state.store.table (Entity.kind E)).toList ∧
      ∀ entity ∈ entities.toList, exact entity ∧ service.HandsOut entity

theorem Service.HandsOut.unique {service : Service} {entity other : E} (handed : service.HandsOut entity)
    (again : service.HandsOut other) (same : Entity.id entity = Entity.id other) : entity = other := by
  obtain ⟨_, _, ran, rfl⟩ := handed service.state rfl
  obtain ⟨_, _, ran', rfl⟩ := again service.state rfl
  rw [same, ran', Prod.mk.injEq, Except.ok.injEq] at ran
  exact ran.1.symm

theorem Service.Loads.of_handsOut {service : Service} {exact : E → Prop} {entity : E} {model : Model}
    (loads : service.Loads E exact) (sound : service.state.store.Sound model) (handed : service.HandsOut entity) :
    Named.record entity ∈ (service.state.store.table (Entity.kind E)).toList ∧ exact entity := by
  by_cases stored : Entity.id entity ∈ (service.state.store.table (Entity.kind E)).ids
  · obtain ⟨record, mem, same⟩ := Roster.mem_ids.mp stored
    obtain ⟨other, rfl, fits, again, -⟩ := loads.each record mem
    obtain rfl := again.unique handed same
    exact ⟨mem, fits⟩
  · obtain ⟨_, _, ran, -⟩ := handed service.state rfl
    rw [sound.run_withId_absent service.settings stored] at ran
    cases ran

end Entity

/-- The roster is of stored entities of the type that are as they should be, and of these records. -/
structure Store.Collects {E : Type} [Entity E] (store : Store) (held : E → Prop) (done : List Record)
    (entities : Roster E) : Prop where
  drawn : entities.Drawn fun entity => Named.record entity ∈ (store.table (Entity.kind E)).toList ∧ held entity
  listed : entities.toList.map Named.record = done

theorem Store.Collects.join {E : Type} [Entity E] {model : Model} {store : Store} {held : E → Prop}
    {done rest : List Record} {entities : Roster E} {entity : E} (collects : store.Collects held done entities)
    (sound : store.Sound model) (split : (store.table (Entity.kind E)).toList = done ++ Named.record entity :: rest)
    (fits : held entity) :
    ∃ grown, entities.join entity = .ok grown ∧ store.Collects held (done ++ [Named.record entity]) grown := by
  have mem : Named.record entity ∈ (store.table (Entity.kind E)).toList :=
    split ▸ List.mem_append_right _ List.mem_cons_self
  have coherent : Roster.Coherent fun entity : E =>
      Named.record entity ∈ (store.table (Entity.kind E)).toList ∧ held entity :=
    fun a b fits fits' same => Roster.coherent_of_agrees (sound.tables (Entity.kind E)) _ _ fits.1 fits'.1 same
  obtain ⟨grown, joined, drawn, listed⟩ := collects.drawn.join coherent ⟨mem, fits⟩
  have new : (Named.record entity).id ∉ entities.ids := by
    have ids : entities.ids = done.map Record.id := by
      rw [← collects.listed, List.map_map]
      rfl
    have once := (sound.tables (Entity.kind E)).ids_nodup
    rw [Roster.ids, split, List.map_append, List.map_cons] at once
    rw [ids]
    exact fun again => (List.nodup_append.mp once).2.2 _ again _ List.mem_cons_self rfl
  rw [if_neg new] at listed
  exact ⟨grown, joined, drawn, by rw [listed, List.map_append, collects.listed, List.map_singleton]⟩

namespace Store.Sound

variable {settings : Settings} {model : Model} {store : Store} (sound : store.Sound model)
include sound

theorem answers_loadUser_complete {record : Record} (mem : record ∈ store.users.toList) :
    Answers settings store (User.load record) fun user => user.toRecord = record ∧ user.Complete store := by
  have present : record.id ∈ store.users.ids := Roster.mem_ids.mpr ⟨record, mem, rfl⟩
  have tells : ∀ (state : State) (credentials : Credentials) (later : Store), state.store = store →
      state.store.answer (.loadCredentials record.id) = (.ok credentials, later) →
        credentials = store.credentials.getD record.id {} := by
    rintro state credentials later rfl answered
    cases (sound.loadCredentials_answered present).symm.trans answered
    rfl
  have loads : Answers settings store (User.load record) _ := sound.answers_loadUser mem
  refine (loads.and_keeps ((invariant_store store).loadUser_alone record tells)).mono fun user held => ?_
  obtain ⟨follows, same, credentials⟩ := held
  subst same
  refine ⟨rfl, ⟨mem, follows⟩, ?_⟩
  rw [credentials, Std.TreeMap.getElem?_eq_some_getD ((sound.credentials _).mpr present)]

section Entity

variable {E : Type} [Entity E] {held : E → Prop}

theorem answers_all
    (loads : ∀ record ∈ (store.table (Entity.kind E)).toList, Answers settings store (Entity.load record : Action E)
      fun entity => Named.record entity = record ∧ held entity) :
    Answers settings store (Entity.all E) fun entities =>
      entities.toList.map Named.record = (store.table (Entity.kind E)).toList ∧
        ∀ entity ∈ entities.toList, held entity := by
  have lists : store.answer (.list (Entity.kind E)) = (.ok (store.table (Entity.kind E)).toList, store) := rfl
  refine Answers.bind (answers_ask lists rfl) fun records same => ?_
  subst same
  have goes_on : Answers settings store ((store.table (Entity.kind E)).toList.foldlM (fun entities record => do
      entities.join (← Entity.load record)) ({} : Roster E))
      (store.Collects held (store.table (Entity.kind E)).toList) := by
    refine answers_foldlM (store.Collects held) (fun done record rest entities split collects => ?_) ⟨.empty, rfl⟩
    have mem : record ∈ (store.table (Entity.kind E)).toList := split ▸ List.mem_append_right _ List.mem_cons_self
    refine (loads record mem).bind fun entity ⟨same, fits⟩ => ?_
    subst same
    obtain ⟨grown, joined, collects⟩ := collects.join sound split fits
    exact answers_liftExcept joined collects
  exact goes_on.mono fun entities collects => ⟨collects.listed, fun entity mem => (collects.drawn.each entity mem).2⟩

end Entity

end Store.Sound

namespace Service

variable {service : Service}

theorem loads_of_load {E : Type} [Entity E] {exact : E → Prop} {model : Model}
    (sound : service.state.store.Sound model)
    (sends : ∀ record : Record, Sends Request.Reads (Entity.load record : Action E))
    (loads : ∀ record ∈ (service.state.store.table (Entity.kind E)).toList,
      Answers service.settings service.state.store (Entity.load record : Action E)
        fun entity => Named.record entity = record ∧ exact entity) :
    service.Loads E exact := by
  have settled : ∀ record ∈ (service.state.store.table (Entity.kind E)).toList, ∃ entity : E,
      (Named.record entity = record ∧ exact entity ∧ service.HandsOut entity) ∧
        Answers service.settings service.state.store (Entity.load record) (· = entity) := by
    intro record mem
    obtain ⟨entity, ⟨same, fits⟩, answers⟩ := ((sends record).settled_over service.settings _).answers (loads record mem)
    subst same
    exact ⟨entity, ⟨rfl, fits, sound.answers_withId mem answers⟩, answers⟩
  constructor
  · intro record mem
    obtain ⟨entity, ⟨same, fits, handed⟩, answers⟩ := settled record mem
    exact ⟨entity, same, fits, handed, fun name key => sound.answers_named mem key answers⟩
  · have all : Answers service.settings service.state.store (Entity.all E) _ := sound.answers_all fun record mem => by
      obtain ⟨entity, held, answers⟩ := settled record mem
      exact answers.mono fun _ same => same ▸ held
    obtain ⟨entities, ⟨listed, held⟩, answers⟩ := ((sends_all sends).settled_over _ _).answers all
    exact ⟨entities, answers, listed, held⟩

section Sound

variable {model : Model} (sound : service.state.store.Sound model)
include sound

theorem loads_users : service.Loads User (User.Complete service.state.store) :=
  loads_of_load sound sends_loadUser fun _ mem => sound.answers_loadUser_complete mem

theorem loads_groups : service.Loads Group (Group.Current service.state.store) :=
  loads_of_load sound sends_loadGroup fun _ mem =>
    (sound.answers_loadGroup mem).mono fun _ follows => follows.current mem

theorem loads_roles : service.Loads Role (Role.Current service.state.store) :=
  loads_of_load sound sends_loadRole fun _ mem =>
    (sound.answers_loadRole mem).mono fun _ follows => follows.current mem

theorem loads_permissions : service.Loads Permission (Permission.Current service.state.store) :=
  loads_of_load sound sends_loadPermission fun _ mem =>
    (sound.answers_loadPermission mem).mono fun _ follows => follows.current mem

end Sound

/-- Nothing that is stored fails to load, and everything is loaded as the graph has it. -/
theorem Reachable.loads_as_stored (reachable : service.Reachable) :
    let store := service.state.store
    service.Loads User (User.Complete store) ∧ service.Loads Group (Group.Current store) ∧
      service.Loads Role (Role.Current store) ∧ service.Loads Permission (Permission.Current store) :=
  have sound := reachable.sound
  ⟨loads_users sound, loads_groups sound, loads_roles sound, loads_permissions sound⟩

/-- Ann has delegated to herself and to Bob, he to her, and she was renamed after that. -/
theorem ann_loads_renamed :
    let ann : Record := ⟨⟨0⟩, "Ann"⟩
    let bob : Record := ⟨⟨1⟩, "Bob"⟩
    let clerk : Record := ⟨⟨2⟩, "clerk"⟩
    let service := (⟨{}, {}⟩ : Service).performAll
      [.addUser "Ann" "pw", .add .user "Bob", .add .role "clerk", .grant .dynamic (.delegation bob ann) rfl,
        .grant .dynamic (.delegation ann ann) rfl, .grant .dynamic (.delegation ann bob) rfl,
        .grant .dynamic (.userRole ann clerk) rfl, .rename (.user { ann with }) "Anna"]
    service.state.store.users.toList = [bob, ⟨⟨0⟩, "Anna"⟩] ∧
      ∃ user : User, user.toRecord = ⟨⟨0⟩, "Anna"⟩ ∧ service.HandsOut user ∧ user.roles.ids = [⟨2⟩] ∧
        user.delegators.ids = [⟨1⟩, ⟨0⟩] ∧ user.delegatees.ids = [⟨1⟩] := by
  intro ann bob clerk service
  have started : Service.start {} {} = .ok ⟨{}, {}⟩ := rfl
  have reachable : service.Reachable := (Reachable.start 0 0 0 ⟨0⟩ started).performAll _
  have listed : service.state.store.users.toList = [bob, ⟨⟨0⟩, "Anna"⟩] := by decide +kernel
  have edges : service.state.store.edges.toList =
      [.delegation ⟨1⟩ ⟨0⟩, .delegation ⟨0⟩ ⟨0⟩, .delegation ⟨0⟩ ⟨1⟩, .userRole ⟨0⟩ ⟨2⟩] := by decide +kernel
  refine ⟨listed, ?_⟩
  have mem : ⟨⟨0⟩, "Anna"⟩ ∈ service.state.store.users.toList := by simp [listed]
  obtain ⟨user, same, complete, handed, -⟩ := (Reachable.loads_as_stored reachable).1.each _ mem
  have same : user.toRecord = ⟨⟨0⟩, "Anna"⟩ := same
  have follows := complete.follows
  rw [same, edges] at follows
  exact ⟨user, same, handed, follows.roles.ids, follows.delegators.ids, follows.delegatees.ids⟩

end Service

end Entitlement
