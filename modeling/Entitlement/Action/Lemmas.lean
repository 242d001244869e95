import Entitlement.Action

/-!
What the parts of an action do to the state, and which result they have: one equation for each way to
build an action. A later proof cites these and opens no action.
-/

namespace Entitlement

namespace Action

variable {α β : Type} (context : Context) (state : State)

@[simp]
theorem run_pure (a : α) : (pure a : Action α).run context state = (.ok a, state) := rfl

@[simp]
theorem run_throw (e : Error) : (throw e : Action α).run context state = (.error e, state) := rfl

@[simp]
theorem run_liftExcept (result : Except Error α) :
    (liftM result : Action α).run context state = (result, state) := by
  cases result <;> rfl

@[simp]
theorem run_get : (get : Action State).run context state = (.ok state, state) := rfl

@[simp]
theorem run_set (later : State) : (set later : Action PUnit).run context state = (.ok ⟨⟩, later) := rfl

@[simp]
theorem run_modify (change : State → State) :
    (modify change : Action PUnit).run context state = (.ok ⟨⟩, change state) := rfl

@[simp]
theorem run_read : (read : Action Context).run context state = (.ok context, state) := rfl

@[simp]
theorem run_settings : settings.run context state = (.ok context.settings, state) := rfl

@[simp]
theorem run_report (event : AuditEvent) :
    (report event).run context state = (.ok (), { state with audit := state.audit.push event }) := rfl

@[simp]
theorem run_now :
    now.run context state = (.ok state.clock, { state with clock := ⟨state.clock.seconds + 1⟩ }) := rfl

/-- The second action starts where the first one ended, and is not run if the first one failed. -/
theorem run_bind (action : Action α) (next : α → Action β) :
    (action >>= next).run context state =
      match action.run context state with
      | (.ok a, later) => (next a).run context later
      | (.error e, later) => (.error e, later) := by
  simp only [Action.run, ReaderT.run_bind, ExceptT.run_bind, StateT.run_bind]
  rcases (ReaderT.run action context).run.run state with ⟨_ | _, _⟩ <;> rfl

theorem run_map (f : α → β) (action : Action α) :
    (f <$> action).run context state =
      let (result, later) := action.run context state
      (result.map f, later) := by
  rw [← bind_pure_comp, run_bind]
  rcases action.run context state with ⟨_ | _, _⟩ <;> rfl

/-- A rescue starts where the failure happened: what was changed before it stays changed. -/
theorem run_tryCatch (action : Action α) (rescue : Error → Action α) :
    (tryCatch action rescue).run context state =
      match action.run context state with
      | (.ok a, later) => (.ok a, later)
      | (.error e, later) => (rescue e).run context later := by
  change (ExceptT.tryCatch (action context) fun e => rescue e context) state = _
  rw [ExceptT.tryCatch, ExceptT.mk]
  rcases h : action.run context state with ⟨_ | _, _⟩
  all_goals
    change (action context) state = _ at h
    simp only [bind, StateT.bind, h]
    rfl

theorem run_whileLoading (part : String) (action : Action α) :
    (whileLoading part action).run context state =
      let (result, later) := action.run context state
      (result.mapError (·.whileLoading part), later) := by
  rw [whileLoading, run_tryCatch]
  rcases action.run context state with ⟨_ | _, _⟩ <;> rfl

/-- The store of the state becomes the one that comes with the answer, or with the refusal. -/
theorem run_serve (request : Request) :
    (serve request).run context state =
      let (result, store) := state.store.answer request
      (result, { state with store }) := by
  simp only [serve, run_bind, run_get]
  rcases state.store.answer request with ⟨result, store⟩
  simp only [run_modify, run_liftExcept]

theorem run_serve_of_ok {request : Request} {answer : request.Answer} {store : Store}
    (answered : state.store.answer request = (.ok answer, store)) :
    (serve request).run context state = (.ok answer, { state with store }) := by
  rw [run_serve, answered]

/-- A refusal that leaves the store alone changes nothing. -/
theorem run_serve_of_error {request : Request} {e : Error}
    (refused : state.store.answer request = (.error e, state.store)) :
    (serve request).run context state = (.error e, state) := by
  rw [run_serve, refused]

theorem run_ask (request : Request) :
    (ask request).run context state =
      let later := { state with requests := state.requests + 1 }
      match context.outage state.requests state.store request with
      | none => (serve request).run context later
      | some .hide =>
        match request.nothing? with
        | some answer => (.ok answer, later)
        | none => (serve request).run context later
      | some (.fail e) => (.error e, { later with disrupted := state.disrupted ++ [e] }) := by
  simp only [ask, run_bind, run_get, run_set, run_read]
  rcases context.outage state.requests state.store request with _ | _ | _
  · rfl
  · rfl
  · rcases request.nothing? <;> rfl

/-- A store that meets no disruption answers every request itself. -/
theorem run_ask_never (settings : Settings) (request : Request) :
    (ask request).run { settings } state =
      (serve request).run { settings } { state with requests := state.requests + 1 } := run_ask _ _ _

theorem run_ask_of_ok (settings : Settings) {request : Request} {answer : request.Answer} {store : Store}
    (answered : state.store.answer request = (.ok answer, store)) :
    (ask request).run { settings } state =
      (.ok answer, { state with store, requests := state.requests + 1 }) := by
  rw [run_ask_never]
  exact run_serve_of_ok _ { state with requests := state.requests + 1 } answered

end Action

end Entitlement
