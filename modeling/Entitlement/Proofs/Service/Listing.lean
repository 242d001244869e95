import Entitlement.Proofs.Password.History
import Entitlement.Proofs.Service.Renaming
import Entitlement.Proofs.Store.Order

/-!
The order in which entities are listed. A table is in the order in which its entities were created, except that a
renaming moves an entity behind all others.
-/

namespace Entitlement.Service

open Entitlement.Action

variable {start service : Service} {run : List Operation} {operation : Operation} {kind : Kind} {x y id : EntityId}

/-- The operation gives the entity a new name. -/
def Renaming (service : Service) (operation : Operation) (kind : Kind) (id : EntityId) : Prop :=
  ∃ entity name, operation = .rename entity name ∧ entity.endpoint.kind = kind ∧ entity.endpoint.id = id ∧
    (service.run operation.action).1 = .ok ()

/-! ### What an operation does to the order -/

/-- A renaming succeeds and moves the entity, or it is refused and nothing is changed. -/
def EndsRenaming (service : Service) (kind : Kind) (id : EntityId) (name : String) (result : Except Error Unit)
    (later : Store) : Prop :=
  result = .ok () ∧ Text.blank name = false ∧ service.state.store.Free kind id name ∧
      id ∈ (service.state.store.table kind).ids ∧ service.state.store.Renames kind id name later ∨
    (∃ e, result = .error e ∧ service.state.store.RefusesName kind id name e.category) ∧ later = service.state.store

theorem endsRenaming_of_loads {E : Type} [Entity E] (loads : Entity.Loads E service.settings.model)
    (sends : ∀ record : Record, Sends Request.Reads (Entity.load record : Action E))
    (sound : service.state.store.Sound service.settings.model) (entity : E) (name : String) :
    service.EndsRenaming (Entity.kind E) (Entity.id entity) name (service.run (discard (Entity.rename entity name))).1
      (service.run (discard (Entity.rename entity name))).2.state.store := by
  have leaves : Leaves { settings := service.settings } service.state.store
      (Entity.rename entity name >>= fun _ => pure ())
      (service.EndsRenaming (Entity.kind E) (Entity.id entity) name) := by
    refine (leaves_rename loads sends sound entity name).bind (fun renamed later ends => ?_) fun e later ends => ?_
    · cases ends with
      | renamed visible free present _ renames => exact leaves_pure (.inl ⟨rfl, visible, free, present, renames⟩)
    · cases ends with
      | refused refuses => exact .inr ⟨⟨e, rfl, refuses⟩, rfl⟩
  rw [bind_pure_comp] at leaves
  exact (leaves service.state rfl).2

theorem Reachable.rename_ends (reachable : service.Reachable) (entity : Handle) (name : String) :
    service.EndsRenaming entity.endpoint.kind entity.endpoint.id name
      (service.run (Operation.rename entity name).action).1
      (service.perform (.rename entity name)).state.store := by
  have sound := reachable.sound
  cases entity with
  | user user => exact endsRenaming_of_loads (User.loads _) sends_loadUser sound user name
  | group group => exact endsRenaming_of_loads (Group.loads _) sends_loadGroup sound group name
  | role role => exact endsRenaming_of_loads (Role.loads _) sends_loadRole sound role name
  | permission permission => exact endsRenaming_of_loads (Permission.loads _) sends_loadPermission sound permission name

/-- What an operation leaves of the order of the tables. -/
inductive Reorders (service : Service) (operation : Operation) : Prop where
  | moves {kind : Kind} {id : EntityId} {name : String} (moved : service.Renaming operation kind id)
    (nobody_else : ∀ other who, service.Renaming operation other who → other = kind ∧ who = id)
    (present : id ∈ (service.state.store.table kind).ids)
    (renames : service.state.store.Renames kind id name (service.perform operation).state.store)
  | keeps (nobody : ∀ kind id, ¬ service.Renaming operation kind id)
    (continues : service.state.store.Continues (service.perform operation).state.store)

theorem Reachable.continues_perform (reachable : service.Reachable)
    (renames_nobody : ∀ entity name, operation ≠ .rename entity name) :
    service.state.store.Continues (service.perform operation).state.store := by
  refine reachable.holds_perform (fun {_ _ request _} sound grown sent continues answered => ?_) ?_ (.refl _)
  · have keeps : request.KeepsOrder := by
      cases request with
      | rename kind id name =>
        obtain ⟨entity, same, -⟩ := sent
        exact renames_nobody entity name same
      | findNamed | find | list | create | delete | loadCredentials | saveCredentials | edgesOf | insertEdge |
        eraseEdge => trivial
    exact continues.answered sound grown keeps answered
  · exact fun _ continues => continues.of_tables fun kind => Store.table_withGraph ..

theorem Reachable.reorders (reachable : service.Reachable) (operation : Operation) : service.Reorders operation := by
  by_cases renames_nobody : ∀ entity name, operation ≠ .rename entity name
  · refine .keeps ?_ (reachable.continues_perform renames_nobody)
    rintro kind id ⟨entity, name, same, -⟩
    exact renames_nobody entity name same
  · simp only [ne_eq, not_forall, not_not] at renames_nobody
    obtain ⟨entity, name, rfl⟩ := renames_nobody
    rcases reachable.rename_ends entity name with ⟨done, -, -, present, renames⟩ | ⟨⟨e, failed, -⟩, same⟩
    · refine .moves ⟨entity, name, rfl, rfl, rfl, done⟩ ?_ present renames
      rintro _ _ ⟨_, _, ⟨⟩, rfl, rfl, -⟩
      exact ⟨rfl, rfl⟩
    · refine .keeps ?_ (same ▸ .refl _)
      rintro kind id ⟨_, _, ⟨⟩, -, -, done⟩
      cases done.symm.trans failed

/-! ### The order after a run -/

/-- The entity has been renamed while the other one was stored, which has not been renamed since. -/
def Overtaken (start : Service) (run : List Operation) (kind : Kind) (x y : EntityId) : Prop :=
  start.Since run (fun service operation => service.Renaming operation kind x ∧ y ∈ (service.state.store.table kind).ids)
    fun service operation => service.Renaming operation kind y

/-- The one entity is listed before the other: it is older and has not been moved behind the other one, or the other
one is older and has been moved behind it. -/
def Precedes (start : Service) (run : List Operation) (kind : Kind) (x y : EntityId) : Prop :=
  x.number < y.number ∧ ¬ start.Overtaken run kind x y ∨ y.number < x.number ∧ start.Overtaken run kind y x

theorem overtaken_snoc {last : Operation} : start.Overtaken (run ++ [last]) kind x y ↔
    (start.performAll run).Renaming last kind x ∧ y ∈ ((start.performAll run).state.store.table kind).ids ∨
      start.Overtaken run kind x y ∧ ¬ (start.performAll run).Renaming last kind y := since_snoc

theorem precedes_snoc {last : Operation} (kept_x : ¬ (start.performAll run).Renaming last kind x)
    (kept_y : ¬ (start.performAll run).Renaming last kind y) :
    start.Precedes (run ++ [last]) kind x y ↔ start.Precedes run kind x y := by
  simp only [Precedes, overtaken_snoc, kept_x, kept_y, false_and, not_false_eq_true, and_true, false_or]

namespace Reachable

variable (reachable : start.Reachable)
include reachable

theorem issued_of_overtaken (overtaken : start.Overtaken run kind x y) :
    y.number < (start.performAll run).state.store.nextId := by
  refine reachable.issued_of_since ?_ overtaken
  rintro service there operation ⟨-, stored⟩
  exact issued_perform there (there.sound.issued stored) operation

theorem pairwise_of_continues {last : Operation} (nobody : ∀ id, ¬ (start.performAll run).Renaming last kind id)
    (continues : (start.performAll run).state.store.Continues ((start.performAll run).perform last).state.store)
    (before : ((start.performAll run).state.store.table kind).ids.Pairwise (start.Precedes run kind)) :
    (((start.performAll run).perform last).state.store.table kind).ids.Pairwise
      (start.Precedes (run ++ [last]) kind) := by
  have led : (start.performAll run).Reachable := reachable.performAll run
  obtain ⟨left, new, split, within, since, increasing⟩ := continues kind
  -- Nobody can have been moved behind somebody who was not there yet.
  have behind (x y : EntityId) (older : x.number < y.number) (mem : y ∈ new) :
      start.Precedes (run ++ [last]) kind x y := by
    refine (precedes_snoc (nobody x) (nobody y)).mpr (.inl ⟨older, fun overtaken => ?_⟩)
    exact absurd (reachable.issued_of_overtaken overtaken) (Nat.not_lt.mpr (since y mem))
  rw [split]
  refine List.pairwise_append.mpr ⟨?_, ?_, fun x mem y new_mem => ?_⟩
  · exact (before.sublist within).imp (precedes_snoc (nobody _) (nobody _)).mpr
  · exact increasing.imp_of_mem fun _ mem older => behind _ _ older mem
  · have issued := led.sound.issued (within.subset mem)
    exact behind x y (Nat.lt_of_lt_of_le issued (since y new_mem)) new_mem

omit reachable in
theorem pairwise_of_renames {last : Operation} {name : String} (moved : (start.performAll run).Renaming last kind id)
    (nobody_else : ∀ who, (start.performAll run).Renaming last kind who → who = id)
    (renames : (start.performAll run).state.store.Renames kind id name ((start.performAll run).perform last).state.store)
    (before : ((start.performAll run).state.store.table kind).ids.Pairwise (start.Precedes run kind)) :
    (((start.performAll run).perform last).state.store.table kind).ids.Pairwise
      (start.Precedes (run ++ [last]) kind) := by
  have split : (((start.performAll run).perform last).state.store.table kind).ids =
      ((start.performAll run).state.store.table kind).ids.filter (· ≠ id) ++ [id] := by
    rw [Roster.ids, renames.table, List.map_append, Roster.ids, List.filter_map]
    rfl
  have stays {x : EntityId} (apart : x ≠ id) : ¬ (start.performAll run).Renaming last kind x :=
    fun other => apart (nobody_else x other)
  rw [split]
  refine List.pairwise_append.mpr ⟨?_, List.pairwise_singleton _ _, fun x mem y last_mem => ?_⟩
  · refine (before.filter _).imp_of_mem fun mem mem' precedes => ?_
    have apart := of_decide_eq_true (List.mem_filter.mp mem).2
    have apart' := of_decide_eq_true (List.mem_filter.mp mem').2
    exact (precedes_snoc (stays apart) (stays apart')).mpr precedes
  · obtain rfl := List.mem_singleton.mp last_mem
    obtain ⟨stored, apart⟩ := List.mem_filter.mp mem
    have apart : x ≠ y := of_decide_eq_true apart
    rcases Nat.lt_or_gt_of_ne fun same => apart (EntityId.ext same) with older | younger
    · refine .inl ⟨older, fun overtaken => ?_⟩
      rcases overtaken_snoc.mp overtaken with ⟨renamed, -⟩ | ⟨-, not_moved⟩
      · exact stays apart renamed
      · exact not_moved moved
    · exact .inr ⟨younger, overtaken_snoc.mpr (.inl ⟨moved, stored⟩)⟩

theorem pairwise_precedes (nobody : ∀ kind id, id ∉ (start.state.store.table kind).ids) (run : List Operation)
    (kind : Kind) : ((start.performAll run).state.store.table kind).ids.Pairwise (start.Precedes run kind) := by
  induction run using List.reverseRecOn with
  | nil =>
    have none_stored : ((start.performAll []).state.store.table kind).ids = [] :=
      List.eq_nil_iff_forall_not_mem.mpr (nobody kind)
    rw [none_stored]
    exact List.Pairwise.nil
  | append_singleton run last ih =>
    rw [performAll_snoc]
    cases (reachable.performAll run).reorders last with
    | keeps nobody continues => exact reachable.pairwise_of_continues (nobody kind) continues ih
    | @moves moved_kind id name moved nobody_else _ renames =>
      by_cases same : kind = moved_kind
      · subst same
        exact pairwise_of_renames moved (fun who other => (nobody_else _ who other).2) renames ih
      · rw [renames.others kind same]
        have stays (who : EntityId) : ¬ (start.performAll run).Renaming last kind who :=
          fun other => same (nobody_else _ who other).1
        exact ih.imp (precedes_snoc (stays _) (stays _)).mpr

end Reachable

/-! ### Listings -/

theorem pair_sublist_or {α : Type} {list : List α} {a b : α} (mem : a ∈ list) (mem' : b ∈ list) (apart : a ≠ b) :
    [a, b].Sublist list ∨ [b, a].Sublist list := by
  induction list with
  | nil => cases mem
  | cons first rest ih =>
    rcases List.mem_cons.mp mem with rfl | later
    · have later' := (List.mem_cons.mp mem').resolve_left apart.symm
      exact .inl (List.Sublist.cons_cons _ (List.singleton_sublist.mpr later'))
    · rcases List.mem_cons.mp mem' with rfl | later'
      · exact .inr (List.Sublist.cons_cons _ (List.singleton_sublist.mpr later))
      · exact (ih later later').imp (List.Sublist.cons _) (List.Sublist.cons _)

/-- The order of a sorted list says who stands before whom. -/
theorem pair_sublist_iff {α : Type} {R : α → α → Prop} {list : List α} {a b : α} (sorted : list.Pairwise R)
    (mem : a ∈ list) (mem' : b ∈ list) (apart : a ≠ b) (asymm : R a b → ¬ R b a) : [a, b].Sublist list ↔ R a b := by
  rw [List.pairwise_iff_forall_sublist] at sorted
  constructor
  · exact fun sublist => sorted sublist
  · exact fun before => (pair_sublist_or mem mem' apart).resolve_right fun reversed => asymm before (sorted reversed)

theorem Precedes.asymm (precedes : start.Precedes run kind x y) : ¬ start.Precedes run kind y x := by
  rintro (⟨younger, not_overtaken⟩ | ⟨older, overtaken⟩)
  · rcases precedes with ⟨older, -⟩ | ⟨-, overtaken⟩
    · exact Nat.lt_asymm older younger
    · exact not_overtaken overtaken
  · rcases precedes with ⟨-, not_overtaken⟩ | ⟨younger, -⟩
    · exact not_overtaken overtaken
    · exact Nat.lt_asymm older younger

/-- What all entities of a type are listed as after a run: those who are stored, each once, and in the order in which
they were created, but for those who have been renamed. -/
structure Lists (start : Service) (run : List Operation) (E : Type) [Entity E] (listing : List Record) : Prop where
  listed : ((start.performAll run).run (ask (.list (Entity.kind E)))).1 = .ok listing
  all : ∃ entities : Roster E, ((start.performAll run).run (Entity.all E)).1 = .ok entities ∧
    entities.toList.map Named.record = listing
  stored : ∀ record, record ∈ listing ↔
    ((start.performAll run).run (ask (.find (Entity.kind E) record.id))).1 = .ok (some record)
  once : (listing.map Record.id).Nodup
  /-- Who is stored before an operation has a smaller number than who comes by it. -/
  numbered : ∀ earlier operation later, run = earlier ++ operation :: later →
    ∀ x ∈ ((start.performAll earlier).state.store.table (Entity.kind E)).ids,
      ∀ y ∉ ((start.performAll earlier).state.store.table (Entity.kind E)).ids,
        y ∈ (((start.performAll earlier).perform operation).state.store.table (Entity.kind E)).ids →
          x.number < y.number
  order : ∀ x ∈ listing.map Record.id, ∀ y ∈ listing.map Record.id, x ≠ y →
    ([x, y].Sublist (listing.map Record.id) ↔ start.Precedes run (Entity.kind E) x y)
  created : (listing.map Record.id).Pairwise (·.number < ·.number) ↔
    ∀ x ∈ listing.map Record.id, ∀ y ∈ listing.map Record.id, x.number < y.number →
      ¬ start.Overtaken run (Entity.kind E) x y

theorem run_ask_of_answer {request : Request} {answer : request.Answer}
    (answered : service.state.store.answer request = (.ok answer, service.state.store)) :
    (service.run (ask request)).1 = .ok answer := by
  have answers : Answers service.settings service.state.store (ask request) (· = answer) := answers_ask answered rfl
  obtain ⟨_, ran, rfl⟩ := run_of_answers answers
  exact ran

/-- Who comes by an operation has an identity that had not been given out. -/
theorem Reachable.new_of_comes (reachable : service.Reachable) (absent : id ∉ (service.state.store.table kind).ids)
    (comes : id ∈ ((service.perform operation).state.store.table kind).ids) : service.state.store.nextId ≤ id.number := by
  cases reachable.reorders operation with
  | keeps _ continues =>
    obtain ⟨left, new, split, within, since, -⟩ := continues kind
    rcases List.mem_append.mp (split ▸ comes) with old | fresh
    · exact absurd (within.subset old) absent
    · exact since id fresh
  | moves _ _ present renames => exact absurd ((renames.mem_ids present kind id).mp comes) absent

theorem Reachable.lists_of_loads {E : Type} [Entity E] {exact : E → Prop} (reachable : start.Reachable)
    (nobody : ∀ kind id, id ∉ (start.state.store.table kind).ids) (run : List Operation)
    (loads : (start.performAll run).Loads E exact) :
    start.Lists run E ((start.performAll run).state.store.table (Entity.kind E)).toList := by
  have led : (start.performAll run).Reachable := reachable.performAll run
  have agrees := led.sound.tables (Entity.kind E)
  have ordered := reachable.pairwise_precedes nobody run (Entity.kind E)
  constructor
  case listed => exact run_ask_of_answer rfl
  case all =>
    obtain ⟨entities, answers, listed, -⟩ := loads.all
    obtain ⟨_, ran, rfl⟩ := run_of_answers answers
    exact ⟨_, ran, listed⟩
  case stored =>
    intro record
    have found : ((start.performAll run).run (ask (.find (Entity.kind E) record.id))).1 = .ok _ := run_ask_of_answer rfl
    rw [found, Except.ok.injEq, agrees.get?_eq_some_iff]
    exact (and_iff_left rfl).symm
  case once => exact agrees.ids_nodup
  case numbered =>
    rintro earlier operation later - x stored y absent comes
    have led : (start.performAll earlier).Reachable := reachable.performAll earlier
    exact Nat.lt_of_lt_of_le (led.sound.issued stored) (led.new_of_comes absent comes)
  case order => exact fun x mem y mem' apart => pair_sublist_iff ordered mem mem' apart Precedes.asymm
  case created =>
    constructor
    · intro increasing x mem y mem' older overtaken
      have apart : y ≠ x := by
        rintro rfl
        exact Nat.lt_irrefl _ older
      have reversed := (pair_sublist_iff ordered mem' mem apart Precedes.asymm).mpr (.inr ⟨older, overtaken⟩)
      exact Nat.lt_asymm older ((List.pairwise_iff_forall_sublist.mp increasing) reversed)
    · intro none_overtaken
      refine List.Pairwise.imp_of_mem (fun {x y} mem mem' precedes => ?_) ordered
      rcases precedes with ⟨older, -⟩ | ⟨younger, overtaken⟩
      · exact older
      · exact absurd overtaken (none_overtaken y mem' x mem younger)

/-- After any run that starts with an empty store, each table is listed in full, each entity once. Entities are in the
order in which they were created, except that whoever has been renamed stands behind all who were there then and have
not been renamed since. -/
theorem listed_in_order {settings : Settings} {nextId nextSession nextSalt : Nat} {clock : Moment}
    (started : Service.start settings { store := { nextId }, nextSession, nextSalt, clock } = .ok start)
    (run : List Operation) :
    start.Lists run User (start.performAll run).state.store.users.toList ∧
      start.Lists run Group (start.performAll run).state.store.groups.toList ∧
      start.Lists run Role (start.performAll run).state.store.roles.toList ∧
      start.Lists run Permission (start.performAll run).state.store.permissions.toList := by
  have reachable : start.Reachable := .start nextId nextSession nextSalt clock started
  have nobody : ∀ kind id, id ∉ (start.state.store.table kind).ids := start_empty started
  have sound := (reachable.performAll run).sound
  refine ⟨?_, ?_, ?_, ?_⟩
  · exact reachable.lists_of_loads nobody run (loads_users sound)
  · exact reachable.lists_of_loads nobody run (loads_groups sound)
  · exact reachable.lists_of_loads nobody run (loads_roles sound)
  · exact reachable.lists_of_loads nobody run (loads_permissions sound)

/-- Ann is called Anna now and stands behind Bob, who came later, but not behind Carl, who came after that. -/
theorem listed_in_order_but_anna :
    let start : Service := ⟨{ model := .basic }, {}⟩
    let run : List Operation := [.addUser "ann" "pw", .add .role "clerk", .addUser "bob" "pw",
      .rename (.user { id := ⟨0⟩, name := "ann" }) "anna", .addUser "carl" "pw",
      .remove (.role { id := ⟨1⟩, name := "clerk" })]
    (start.performAll run).state.store.users.toList = [⟨⟨2⟩, "bob"⟩, ⟨⟨0⟩, "anna"⟩, ⟨⟨3⟩, "carl"⟩] ∧
      start.Lists run User [⟨⟨2⟩, "bob"⟩, ⟨⟨0⟩, "anna"⟩, ⟨⟨3⟩, "carl"⟩] ∧ start.Overtaken run .user ⟨0⟩ ⟨2⟩ := by
  intro start run
  have started : Service.start { model := .basic } {} = .ok start := rfl
  have listing :
      (start.performAll run).state.store.users.toList = [⟨⟨2⟩, "bob"⟩, ⟨⟨0⟩, "anna"⟩, ⟨⟨3⟩, "carl"⟩] := by
    decide +kernel
  have lists := (listed_in_order started run).1
  rw [listing] at lists
  have moved : start.Precedes run .user ⟨2⟩ ⟨0⟩ := by
    refine (lists.order ⟨2⟩ ?_ ⟨0⟩ ?_ ?_).mp ?_ <;> decide
  exact ⟨listing, lists, (moved.resolve_left (by simp)).2⟩

end Entitlement.Service
