import Entitlement.Proofs.Action.Leaving

/-!
Actions under which any request may fail. Such an action ends as it would without failures, or else with
the error of a request that failed and over the store that was there before.
-/

namespace Entitlement

/-- Requests fail or are answered by the store; no search is made to find nothing. -/
def Outage.OnlyFails (outage : Outage) : Prop :=
  ∀ number store request, outage number store request ≠ some .hide

theorem Outage.never_onlyFails : Outage.never.OnlyFails := nofun

/-- The error of some request that fails. -/
def Outage.Gives (outage : Outage) (e : Error) : Prop :=
  ∃ number store request, outage number store request = some (.fail e)

namespace Action

variable {α β : Type} {context : Context} {before store : Store}

/-- Over the store, either no request fails and the result and the store after it are as `post` says; or
one does, which gives the result, and the store is the one `before`. -/
def Atomic (context : Context) (before store : Store) (action : Action α)
    (post : Except Error α → Store → Prop) : Prop :=
  ∀ state : State, state.store = store →
    let (result, later) := action.run context state
    later.disrupted = state.disrupted ∧ post result later.store ∨
      ∃ e, context.outage.Gives e ∧ later.disrupted = state.disrupted ++ [e] ∧ result = .error e ∧
        later.store = before

section Rules

variable {post mid : Except Error α → Store → Prop} {last : Except Error β → Store → Prop}
  {action : Action α}

theorem Leaves.atomic (leaves : Leaves context store action post) :
    Atomic context before store action post :=
  fun state same => .inl (leaves state same)

/-- A store that meets no disruption fails no request. -/
theorem Atomic.leaves {settings : Settings} (atomic : Atomic { settings } before store action post) :
    Leaves { settings } store action post := by
  intro state same
  rcases atomic state same with quiet | ⟨e, ⟨number, met, request, fails⟩, -⟩
  · exact quiet
  · cases fails

theorem Atomic.bind {next : α → Action β} (first : Atomic context before store action mid)
    (second : ∀ a later, mid (.ok a) later → Atomic context before later (next a) last)
    (failed : ∀ e later, mid (.error e) later → last (.error e) later) :
    Atomic context before store (action >>= next) last := by
  intro state same
  have ended := first state same
  rw [run_bind]
  rcases ran : action.run context state with ⟨e | a, later⟩
  · rw [ran] at ended
    rcases ended with ⟨quiet, held⟩ | ⟨_, given, noted, ⟨⟩, restored⟩
    · exact .inl ⟨quiet, failed e later.store held⟩
    · exact .inr ⟨e, given, noted, rfl, restored⟩
  · rw [ran] at ended
    rcases ended with ⟨quiet, held⟩ | ⟨_, _, _, ⟨⟩, _⟩
    have rest := second a later.store held later rfl
    rw [quiet] at rest
    exact rest

/-- It is known what the first action comes to unless a request fails. -/
theorem Atomic.bind_eq {next : α → Action β} {a : α} {between : Store}
    (first : Atomic context before store action fun result later => result = .ok a ∧ later = between)
    (second : Atomic context before between (next a) last) :
    Atomic context before store (action >>= next) last := by
  refine first.bind ?_ ?_
  · rintro _ later ⟨⟨⟩, rfl⟩
    exact second
  · rintro e later ⟨⟨⟩, -⟩

/-- A request is answered by the store or fails. -/
theorem atomic_ask (onlyFails : context.outage.OnlyFails) {request : Request}
    {answer : request.Answer} {later : Store} (answered : store.answer request = (.ok answer, later)) :
    Atomic context store store (ask request) fun result after => result = .ok answer ∧ after = later := by
  rintro state rfl
  rcases disrupted : context.outage state.requests state.store request with _ | e | _
  · let counted : State := { state with requests := state.requests + 1 }
    have asked : (ask request).run context state = (serve request).run context counted := by
      rw [run_ask, disrupted]
    rw [asked, run_serve_of_ok context counted answered]
    exact .inl ⟨rfl, rfl, rfl⟩
  · rw [run_ask, disrupted]
    exact .inr ⟨e, ⟨_, _, request, disrupted⟩, rfl, rfl, rfl⟩
  · exact absurd disrupted (onlyFails _ _ _)

/-- Actions that write nothing, one for each element, refuse what the first of them refuses. -/
theorem atomic_forM {ι : Type} {f : ι → Action Unit} {check : ι → Except Error Unit} {list : List ι}
    (checks : ∀ a ∈ list, Atomic context store store (f a)
      fun result later => later = store ∧ result = check a) :
    Atomic context store store (list.forM f) fun result later => later = store ∧ result = list.forM check := by
  induction list with
  | nil => exact (leaves_pure ⟨rfl, rfl⟩).atomic
  | cons first rest ih =>
    simp only [List.forM_eq_forM, List.forM_cons] at ih ⊢
    apply (checks first List.mem_cons_self).bind
    · intro _ later ⟨same, accepted⟩
      subst same
      rw [← accepted]
      exact ih fun a mem => checks a (List.mem_cons_of_mem _ mem)
    · intro e later ⟨same, refused⟩
      rw [← refused]
      exact ⟨same, rfl⟩

theorem leaves_ask {settings : Settings} {request : Request} {answer : request.Answer} {later : Store}
    (answered : store.answer request = (.ok answer, later)) :
    Leaves { settings } store (ask request) fun result after => result = .ok answer ∧ after = later :=
  (atomic_ask Outage.never_onlyFails answered).leaves

theorem leaves_ask_error {settings : Settings} {request : Request} {e : Error}
    (refused : store.answer request = (.error e, store)) :
    Leaves { settings } store (ask request) fun result after => result = .error e ∧ after = store := by
  rintro state rfl
  rw [run_ask_never, run_serve_of_error _ { state with requests := state.requests + 1 } refused]
  exact ⟨rfl, rfl, rfl⟩

end Rules

end Action

end Entitlement
