import Entitlement.Action.Lemmas
import Entitlement.Proofs.Except

/-!
Properties of the state that an action keeps whether it succeeds or fails. The rules follow the way an
action is built, so that of a whole action only its writes are left to be looked at.
-/

namespace Entitlement

/-- The request changes nothing, whatever its answer. -/
def Request.Reads : Request → Prop
  | .findNamed .. | .find .. | .list _ | .loadCredentials _ | .edgesOf .. => True
  | .create .. | .rename .. | .delete .. | .saveCredentials .. | .insertEdge _ | .eraseEdge _ => False

/-- What a request has to keep to for the invariant: names are not blank, and edges are of relations
that the model grants. -/
def Request.Admissible (model : Model) : Request → Prop
  | .create _ name | .rename _ _ name => Text.blank name = false
  | .insertEdge edge => edge.relation.belongsTo model
  | .findNamed .. | .find .. | .list _ | .delete .. | .loadCredentials _ | .saveCredentials .. | .edgesOf .. |
    .eraseEdge _ => True

theorem Store.answer_reads {store later : Store} {request : Request} (reads : request.Reads)
    {result : Except Error request.Answer} (answered : store.answer request = (result, later)) : later = store := by
  cases request with
  | findNamed kind name | find kind id | list kind =>
    cases answered
    rfl
  | loadCredentials user =>
    rw [Store.answer] at answered
    cases required : store.require .user user with
    | error e | ok done =>
      rw [required] at answered
      cases answered
      rfl
  | edgesOf kind id =>
    rw [Store.answer] at answered
    cases required : store.require kind id with
    | error e | ok done =>
      rw [required] at answered
      cases answered
      rfl
  | create | rename | delete | saveCredentials | insertEdge | eraseEdge => exact reads.elim

/-- A request is refused before it changes anything, unless it is to rename. -/
theorem Store.answer_refused {store later : Store} {request : Request} {e : Error}
    (renames_nobody : ∀ kind id name, request ≠ .rename kind id name)
    (refused : store.answer request = (.error e, later)) : later = store := by
  cases request with
  | findNamed | find | list => cases refused
  | rename kind id name => exact absurd rfl (renames_nobody kind id name)
  | create | delete | loadCredentials | saveCredentials | edgesOf | insertEdge | eraseEdge =>
    exact (attempt_eq_error.mp refused).2

namespace Action

variable {α β : Type} {context : Context} {I : State → Prop}

/-- The action keeps `I`, and an answer it gives is as `post` says. -/
def Keeps (context : Context) (I : State → Prop) (action : Action α) (post : α → Prop) : Prop :=
  ∀ state, I state → I (action.run context state).2 ∧ ∀ a, (action.run context state).1 = .ok a → post a

/-- Neither the store nor the open sessions change, and no number of a session is given back. -/
structure Aside (state later : State) : Prop where
  store : later.store = state.store
  sessions : later.sessions = state.sessions
  issued : state.nextSession ≤ later.nextSession

/-- The requests that `Allowed` admits keep `I`, and so does all that stays aside. -/
structure Invariant (Allowed : Request → Prop) (I : State → Prop) : Prop where
  answered : ∀ {state : State} {request : Request} {result : Except Error request.Answer} {store : Store},
    Allowed request → I state → state.store.answer request = (result, store) → I { state with store }
  aside : ∀ state later : State, Aside state later → I state → I later

section Rules

variable {post mid : α → Prop} {last : β → Prop} {action : Action α}

theorem keeps_of_run (kept : ∀ state, I state → I (action.run context state).2) :
    Keeps context I action fun _ => True :=
  fun state holds => ⟨kept state holds, fun _ _ => trivial⟩

theorem Keeps.mono (keeps :
    Keeps context I action mid) (implies : ∀ a, mid a → post a) : Keeps context I action post :=
  fun state holds => ⟨(keeps state holds).1, fun a answered =>
    implies a ((keeps state holds).2 a answered)⟩

theorem Keeps.trivial (keeps : Keeps context I action mid) : Keeps context I action fun _ => True :=
  keeps.mono fun _ _ => True.intro

theorem keeps_pure {a : α} (fits : post a) : Keeps context I (pure a) post := by
  intro state holds
  rw [run_pure]
  refine ⟨holds, fun other same => ?_⟩
  cases same
  exact fits

theorem keeps_throw (e : Error) : Keeps context I (throw e) post := by
  intro state holds
  rw [run_throw]
  exact ⟨holds, nofun⟩

theorem keeps_liftExcept (result : Except Error α) :
    Keeps context I (liftM result) (result = .ok ·) := by
  intro state holds
  rw [run_liftExcept]
  exact ⟨holds, fun _ answered => answered⟩

theorem keeps_get : Keeps context I get fun _ => True := keeps_of_run fun _ holds => holds

theorem keeps_settings : Keeps context I settings (· = context.settings) := by
  intro state holds
  rw [run_settings]
  refine ⟨holds, fun a answered => ?_⟩
  cases answered
  rfl

theorem Keeps.bind {next : α → Action β} (first : Keeps context I action mid)
    (second : ∀ a, mid a → Keeps context I (next a) last) : Keeps context I (action >>= next) last := by
  intro state holds
  obtain ⟨kept, fits⟩ := first state holds
  rw [run_bind]
  rcases ran : action.run context state with ⟨e | a, later⟩
  · rw [ran] at kept
    exact ⟨kept, nofun⟩
  · rw [ran] at kept fits
    exact second a (fits a rfl) later kept

/-- What would come after a failure does not matter. -/
theorem keeps_throw_bind (e : Error) (next : α → Action β) :
    Keeps context I (throw e >>= next) last := by
  have fails : Keeps context I (throw e : Action α) fun _ => False := keeps_throw e
  exact fails.bind fun _ impossible => impossible.elim

theorem Keeps.map {f : α → β} (keeps : Keeps context I action mid) (fits : ∀ a, mid a → last (f a)) :
    Keeps context I (f <$> action) last := by
  rw [← bind_pure_comp]
  exact keeps.bind fun a held => keeps_pure (fits a held)

theorem Keeps.rescue {rescue : Error → Action α} (first : Keeps context I action post)
    (second : ∀ e, Keeps context I (rescue e) post) : Keeps context I (tryCatch action rescue) post := by
  intro state holds
  obtain ⟨kept, fits⟩ := first state holds
  rw [run_tryCatch]
  rcases ran : action.run context state with ⟨e | a, later⟩
  · rw [ran] at kept
    exact second e later kept
  · rw [ran] at kept fits
    exact ⟨kept, fits⟩

theorem Keeps.whileLoading {part : String} (keeps : Keeps context I action post) :
    Keeps context I (whileLoading part action) post :=
  keeps.rescue fun e => keeps_throw (e.whileLoading part)

theorem Keeps.ite {p : Prop} [Decidable p] {other : Action α} (first : p → Keeps context I action post)
    (second : ¬ p → Keeps context I other post) :
    Keeps context I (if p then action else other) post := by
  split
  · exact first ‹_›
  · exact second ‹_›

theorem keeps_foldlM {f : β → α → Action β} {list : List α}
    (step : ∀ b, last b → ∀ a ∈ list, Keeps context I (f b a) last) :
    ∀ {b}, last b → Keeps context I (list.foldlM f b) last := by
  induction list with
  | nil => exact keeps_pure
  | cons a list ih =>
    intro b held
    rw [List.foldlM_cons]
    refine (step b held a List.mem_cons_self).bind fun next held => ?_
    exact ih (fun b held a mem => step b held a (List.mem_cons_of_mem _ mem)) held

theorem keeps_forM {f : α → Action PUnit} {list : List α}
    (step : ∀ a ∈ list, Keeps context I (f a) fun _ => True) :
    Keeps context I (forM list f) fun _ => True := by
  induction list with
  | nil => exact keeps_pure True.intro
  | cons a list ih =>
    rw [List.forM_cons]
    refine (step a List.mem_cons_self).bind fun _ _ => ?_
    exact ih fun a mem => step a (List.mem_cons_of_mem _ mem)

end Rules

/-! ### Requests and what stays aside -/

namespace Invariant

variable {Allowed : Request → Prop} (invariant : Invariant Allowed I)
include invariant

theorem modify {change : State → State} (aside : ∀ state, Aside state (change state)) :
    Keeps context I (modify change) fun _ => True :=
  keeps_of_run fun state holds => invariant.aside state _ (aside state) holds

theorem report (event : AuditEvent) : Keeps context I (report event) fun _ => True :=
  invariant.modify fun _ => ⟨rfl, rfl, Nat.le_refl _⟩

theorem now : Keeps context I now fun _ => True := by
  refine keeps_of_run fun state holds => ?_
  rw [run_now]
  exact invariant.aside state _ ⟨rfl, rfl, Nat.le_refl _⟩ holds

/-- The state is read and something of it set that is neither the store nor the sessions. -/
theorem exchange {change : State → State} {next : State → Action α} {post : α → Prop}
    (aside : ∀ state, Aside state (change state)) (rest : ∀ state, Keeps context I (next state) post) :
    Keeps context I (do let state ← get; set (change state); next state) post := by
  intro state holds
  simp only [run_bind, run_get, run_set]
  exact rest state _ (invariant.aside state _ (aside state) holds)

section Requests

variable {request : Request} {post : request.Answer → Prop}

theorem serve (kept : request.Reads ∨ Allowed request)
    (tells : ∀ state answer store, I state → state.store.answer request = (.ok answer, store) →
      post answer) :
    Keeps context I (serve request) post := by
  intro state holds
  rcases answered : state.store.answer request with ⟨result, store⟩
  rw [run_serve, answered]
  constructor
  · rcases kept with reads | allowed
    · obtain rfl := Store.answer_reads reads answered
      exact holds
    · exact invariant.answered allowed holds answered
  · intro answer same
    cases same
    exact tells state answer store holds answered

/-- An answer is one that a store in order gives, or that of a search which finds nothing. -/
theorem told (kept : request.Reads ∨ Allowed request)
    (tells : ∀ state answer store, I state → state.store.answer request = (.ok answer, store) →
      post answer)
    (nothing : ∀ answer, request.nothing? = some answer → post answer) :
    Keeps context I (ask request) post := by
  intro state holds
  have counted : I { state with requests := state.requests + 1 } :=
    invariant.aside state _ ⟨rfl, rfl, Nat.le_refl _⟩ holds
  have serves : Keeps context I (Action.serve request) post := invariant.serve kept tells
  rw [run_ask]
  rcases context.outage state.requests state.store request with _ | e | _
  · exact serves _ counted
  · exact ⟨invariant.aside state _ ⟨rfl, rfl, Nat.le_refl _⟩ holds, nofun⟩
  · rcases hidden : request.nothing? with _ | answer
    · exact serves _ counted
    · refine ⟨counted, fun other same => ?_⟩
      cases same
      exact nothing answer hidden

end Requests

theorem read (request : Request) (reads : request.Reads) : Keeps context I (ask request) fun _ => True :=
  invariant.told (.inl reads) (fun _ _ _ _ _ => trivial) fun _ _ => trivial

theorem write (request : Request) (allowed : Allowed request) :
    Keeps context I (ask request) fun _ => True :=
  invariant.told (.inr allowed) (fun _ _ _ _ _ => trivial) fun _ _ => trivial

end Invariant

end Action

end Entitlement
