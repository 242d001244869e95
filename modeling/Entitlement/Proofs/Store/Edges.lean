import Entitlement.Proofs.Store.Growth

/-!
Writing edges. An edge between stored entities is put last or taken out, and nothing else of the store is
touched.
-/

namespace Entitlement.Store

/-- The first of some endpoints that is not stored. -/
def stranger? (store : Store) (endpoints : List (Kind × Record)) : Option (Kind × Record) :=
  endpoints.find? fun (kind, record) => decide (record.id ∉ (store.table kind).ids)

/-- An edge becomes the last one, unless it is there. -/
inductive Inserts (store : Store) (edge : Edge EntityId) : Bool → Store → Prop where
  | present (there : edge ∈ store.edges.toList) : Inserts store edge false store
  | added (absent : edge ∉ store.edges.toList) {edges : EdgeLog}
    (listed : edges.toList = store.edges.toList ++ [edge]) : Inserts store edge true { store with edges }

/-- An edge is taken out, if it is there. -/
inductive Erases (store : Store) (edge : Edge EntityId) : Bool → Store → Prop where
  | absent (absent : edge ∉ store.edges.toList) : Erases store edge false store
  | removed (there : edge ∈ store.edges.toList) {edges : EdgeLog}
    (listed : edges.toList = store.edges.toList.filter (· ≠ edge)) : Erases store edge true { store with edges }

variable {model : Model} {store : Store}

namespace Inserts

variable {edge : Edge EntityId} {isNew : Bool} {later : Store} (inserts : store.Inserts edge isNew later)
include inserts

theorem table (kind : Kind) : later.table kind = store.table kind := by
  cases inserts with
  | present there => rfl
  | added absent listed => cases kind <;> rfl

theorem credentials : later.credentials = store.credentials := by
  cases inserts with
  | present there => rfl
  | added absent listed => rfl

theorem withEdges : later = { store with edges := later.edges } := by
  cases inserts with
  | present there => rfl
  | added absent listed => rfl

theorem size : later.edges.size = if isNew then store.edges.size + 1 else store.edges.size := by
  cases inserts with
  | present there => rfl
  | added absent listed =>
    rw [if_pos rfl, EdgeLog.size_eq, EdgeLog.size_eq, listed, List.length_append, List.length_singleton]

/-- An edge that is there is not put there again. -/
theorem of_mem (there : edge ∈ store.edges.toList) : isNew = false ∧ later = store := by
  cases inserts with
  | present => exact ⟨rfl, rfl⟩
  | added absent listed => exact absurd there absent

theorem mem_edges (other : Edge EntityId) :
    other ∈ later.edges.toList ↔ other ∈ store.edges.toList ∨ other = edge := by
  cases inserts with
  | present there => exact (or_iff_left_of_imp fun same => same ▸ there).symm
  | added absent listed => rw [listed, List.mem_append, List.mem_singleton]

theorem grows : store.Grows later where
  tables kind := by simp only [inserts.table, List.prefix_rfl]
  credentials id stored := by rw [inserts.credentials]
  edges := by
    cases inserts with
    | present there => exact List.prefix_rfl
    | added absent listed => exact ⟨[edge], listed.symm⟩

end Inserts

namespace Erases

variable {edge : Edge EntityId} {wasThere : Bool} {later : Store} (erases : store.Erases edge wasThere later)
include erases

theorem table (kind : Kind) : later.table kind = store.table kind := by
  cases erases with
  | absent absent => rfl
  | removed there listed => cases kind <;> rfl

theorem credentials : later.credentials = store.credentials := by
  cases erases with
  | absent absent => rfl
  | removed there listed => rfl

theorem mem_edges (other : Edge EntityId) :
    other ∈ later.edges.toList ↔ other ∈ store.edges.toList ∧ other ≠ edge := by
  cases erases with
  | absent absent =>
    have apart : other ∈ store.edges.toList → other ≠ edge := by
      rintro mem rfl
      exact absent mem
    exact (and_iff_left_of_imp apart).symm
  | removed there listed => rw [listed, List.mem_filter, decide_eq_true_eq]

end Erases

theorem stranger?_eq_none_iff {endpoints : List (Kind × Record)} : store.stranger? endpoints = none ↔
    ∀ end' ∈ endpoints, end'.2.id ∈ (store.table end'.1).ids := by
  simp [stranger?]

theorem stored_of_known {edge : Edge Record} {endpoints : List (Kind × Record)}
    (known : store.stranger? endpoints = none) (within : edge.endpoints ⊆ endpoints) :
    ∀ end' ∈ edge.ids.endpoints, end'.2 ∈ (store.table end'.1).ids := by
  rw [Edge.ids, Edge.endpoints_map, List.forall_mem_map]
  exact fun end' mem => stranger?_eq_none_iff.mp known end' (within mem)

theorem stranger?_of_stored {edge : Edge Record}
    (stored : ∀ end' ∈ edge.ids.endpoints, end'.2 ∈ (store.table end'.1).ids) :
    store.stranger? edge.endpoints = none := by
  rw [Edge.ids, Edge.endpoints_map, List.forall_mem_map] at stored
  exact stranger?_eq_none_iff.mpr stored

/-- How endpoints are checked: the first that is not stored is the one that the error names. -/
def check (store : Store) (endpoints : List (Kind × Record)) : Except Error Unit :=
  match store.stranger? endpoints with
  | none => .ok ()
  | some (kind, record) => .error (.noEntityNamed kind record.name)

theorem check_cons_of_stored {kind : Kind} {record : Record} {rest : List (Kind × Record)}
    (stored : record.id ∈ (store.table kind).ids) :
    store.check ((kind, record) :: rest) = store.check rest := by
  simp [check, stranger?, stored]

theorem check_cons_of_absent {kind : Kind} {record : Record} {rest : List (Kind × Record)}
    (absent : record.id ∉ (store.table kind).ids) :
    store.check ((kind, record) :: rest) = .error (.noEntityNamed kind record.name) := by
  simp [check, stranger?, absent]

theorem forM_check (endpoints : List (Kind × Record)) :
    (endpoints.forM fun end' => store.check [end']) = store.check endpoints := by
  induction endpoints with
  | nil => rfl
  | cons first rest ih =>
    obtain ⟨kind, record⟩ := first
    rw [List.forM_eq_forM, List.forM_cons, ← List.forM_eq_forM, ih]
    by_cases stored : record.id ∈ (store.table kind).ids
    · rw [check_cons_of_stored stored, check_cons_of_stored stored]
      rfl
    · rw [check_cons_of_absent stored, check_cons_of_absent stored]
      rfl

theorem check_eq_ok_iff {endpoints : List (Kind × Record)} :
    store.check endpoints = .ok () ↔ store.stranger? endpoints = none := by
  unfold check
  split <;> simp_all

theorem of_check_eq_error {endpoints : List (Kind × Record)} {e : Error}
    (refused : store.check endpoints = .error e) :
    ∃ kind record, store.stranger? endpoints = some (kind, record) ∧ e = .noEntityNamed kind record.name := by
  unfold check at refused
  split at refused
  · cases refused
  · rename_i kind record unknown
    cases refused
    exact ⟨kind, record, unknown, rfl⟩

namespace Sound

variable (sound : store.Sound model)
include sound

/-! ### What the store answers -/

theorem answer_insertEdge {edge : Edge EntityId}
    (stored : ∀ end' ∈ edge.endpoints, end'.2 ∈ (store.table end'.1).ids) :
    ∃ isNew later, store.answer (.insertEdge edge) = (.ok isNew, later) ∧ store.Inserts edge isNew later := by
  have required := sound.requireEndpoints_ok_iff.mpr stored
  by_cases there : edge ∈ store.edges.toList
  · refine ⟨false, store, ?_, .present there⟩
    rw [Store.answer, required, sound.log.insert_of_mem there]
    rfl
  · obtain ⟨edges, inserted, -, listed⟩ := sound.log.insert_of_new there
    refine ⟨true, { store with edges }, ?_, .added there listed⟩
    rw [Store.answer, required, inserted]
    rfl

theorem answer_eraseEdge {edge : Edge EntityId}
    (stored : ∀ end' ∈ edge.endpoints, end'.2 ∈ (store.table end'.1).ids) :
    ∃ wasThere later, store.answer (.eraseEdge edge) = (.ok wasThere, later) ∧
      store.Erases edge wasThere later := by
  have required := sound.requireEndpoints_ok_iff.mpr stored
  by_cases there : edge ∈ store.edges.toList
  · obtain ⟨edges, erased, -, listed⟩ := sound.log.erase_of_mem there
    refine ⟨true, { store with edges }, ?_, .removed there listed⟩
    rw [Store.answer, required, erased]
    rfl
  · refine ⟨false, store, ?_, .absent there⟩
    rw [Store.answer, required, sound.log.erase_of_absent there]
    rfl

/-- Once the one edge is taken out, the store accepts the other as well as the same one again. -/
theorem answer_exchange_back {before after : Edge EntityId}
    (before_stored : ∀ end' ∈ before.endpoints, end'.2 ∈ (store.table end'.1).ids)
    (after_stored : ∀ end' ∈ after.endpoints, end'.2 ∈ (store.table end'.1).ids) :
    ∃ wasThere freed, store.answer (.eraseEdge before) = (.ok wasThere, freed) ∧
      store.Erases before wasThere freed ∧
      (∃ isNew later, freed.answer (.insertEdge after) = (.ok isNew, later) ∧ freed.Inserts after isNew later) ∧
      ∃ isBack later, freed.answer (.insertEdge before) = (.ok isBack, later) ∧
        freed.Inserts before isBack later := by
  obtain ⟨wasThere, freed, erased, erases⟩ := sound.answer_eraseEdge before_stored
  have allowed : (Request.eraseEdge before).Admissible model := trivial
  have freed_sound : freed.Sound model := sound.answer allowed erased
  simp only [← erases.table] at before_stored after_stored
  exact ⟨wasThere, freed, erased, erases, freed_sound.answer_insertEdge after_stored,
    freed_sound.answer_insertEdge before_stored⟩

/-- One edge can be taken out and another one put in after it. -/
theorem answer_exchange {before after : Edge EntityId}
    (before_stored : ∀ end' ∈ before.endpoints, end'.2 ∈ (store.table end'.1).ids)
    (after_stored : ∀ end' ∈ after.endpoints, end'.2 ∈ (store.table end'.1).ids) :
    ∃ wasThere freed isNew later, store.answer (.eraseEdge before) = (.ok wasThere, freed) ∧
      store.Erases before wasThere freed ∧ freed.answer (.insertEdge after) = (.ok isNew, later) ∧
      freed.Inserts after isNew later := by
  obtain ⟨wasThere, freed, erased, erases, ⟨isNew, later, inserted, inserts⟩, -⟩ :=
    sound.answer_exchange_back before_stored after_stored
  exact ⟨wasThere, freed, isNew, later, erased, erases, inserted, inserts⟩

end Sound

end Entitlement.Store
