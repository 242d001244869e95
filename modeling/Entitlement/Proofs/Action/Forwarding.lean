import Entitlement.Proofs.Action.Composing

/-!
Failures of the backend, as an action passes them on: the first request that fails ends the action, the
result is its error as it came, and no session has been touched by then.
-/

namespace Entitlement

/-- A failure of the backend, in its own words. -/
abbrev Error.backend (detail : String) : Error := .reported .dataBackend detail

/-- Whatever is disrupted fails with a failure of the backend. -/
def Outage.OnlyBackend (outage : Outage) : Prop :=
  ∀ number store request disruption, outage number store request = some disruption →
    ∃ detail, disruption = .fail (.backend detail)

theorem Outage.OnlyBackend.onlyFails {outage : Outage} (backend : outage.OnlyBackend) : outage.OnlyFails := by
  intro number store request hidden
  obtain ⟨detail, same⟩ := backend number store request .hide hidden
  cases same

/-- How an action ends that starts in the state and passes failures on. -/
inductive Forwarded {α : Type} (state : State) : Except Error α → State → Prop where
  | done {a : α} {later : State} (quiet : later.disrupted = state.disrupted)
    (sessions : later.sessions = state.sessions) : Forwarded state (.ok a) later
  | refused {e : Error} {later : State} (quiet : later.disrupted = state.disrupted) : Forwarded state (.error e) later
  | failed {detail : String} {later : State} (noted : later.disrupted = state.disrupted ++ [.backend detail])
    (sessions : later.sessions = state.sessions) : Forwarded state (.error (.backend detail)) later

namespace Action

variable {α β : Type} {context : Context}

def Forwards (context : Context) (action : Action α) : Prop :=
  ∀ ⦃state later : State⦄ ⦃result : Except Error α⦄, action.run context state = (result, later) →
    Forwarded state result later

/-- To touch neither the sessions nor the record of failures is to pass failures on. -/
theorem forwards_of_run {action : Action α}
    (quiet : ∀ state, (action.run context state).2.disrupted = state.disrupted)
    (sessions : ∀ state, (action.run context state).2.sessions = state.sessions) : Forwards context action := by
  intro state later result ran
  have same := quiet state
  have kept := sessions state
  rw [ran] at same kept
  cases result with
  | error e => exact .refused same
  | ok a => exact .done same kept

theorem forwards_get : Forwards context get := forwards_of_run (fun _ => rfl) fun _ => rfl

theorem forwards_settings : Forwards context settings := forwards_of_run (fun _ => rfl) fun _ => rfl

theorem Forwards.bind {action : Action α} {next : α → Action β} (first : Forwards context action)
    (second : ∀ a, Forwards context (next a)) : Forwards context (action >>= next) := by
  intro state later result ran
  rw [run_bind] at ran
  rcases begun : action.run context state with ⟨e | a, between⟩
  · rw [begun] at ran
    cases ran
    cases first begun with
    | refused quiet => exact .refused quiet
    | failed noted sessions => exact .failed noted sessions
  · rw [begun] at ran
    cases first begun with
    | done quiet sessions =>
      cases second a ran with
      | done quiet' sessions' => exact .done (quiet'.trans quiet) (sessions'.trans sessions)
      | refused quiet' => exact .refused (quiet'.trans quiet)
      | failed noted sessions' => exact .failed (quiet ▸ noted) (sessions'.trans sessions)

/-- Only what is unknown is renamed. -/
theorem Forwards.whileLoading {action : Action α} (forwards : Forwards context action) (part : String) :
    Forwards context (whileLoading part action) := by
  intro state later result ran
  rw [run_whileLoading] at ran
  rcases begun : action.run context state with ⟨e | a, between⟩
  · rw [begun] at ran
    cases ran
    cases forwards begun with
    | refused quiet => exact .refused quiet
    | failed noted sessions => exact .failed noted sessions
  · rw [begun] at ran
    cases ran
    cases forwards begun with
    | done quiet sessions => exact .done quiet sessions

theorem compositional_forwards (context : Context) : Compositional context.settings (Forwards context) where
  pure _ := forwards_of_run (fun _ => rfl) fun _ => rfl
  throw _ := forwards_of_run (fun _ => rfl) fun _ => rfl
  configured rest := rest
  report _ := forwards_of_run (fun _ => rfl) fun _ => rfl
  bind := Forwards.bind

section Requests

variable (backend : context.outage.OnlyBackend)
include backend

theorem forwards_ask (request : Request) : Forwards context (ask request) := by
  intro state later result ran
  rw [run_ask] at ran
  rcases disrupted : context.outage state.requests state.store request with _ | disruption
  · rw [disrupted] at ran
    let counted : State := { state with requests := state.requests + 1 }
    change (serve request).run context counted = (result, later) at ran
    rcases answered : counted.store.answer request with ⟨told, store⟩
    rw [run_serve, answered] at ran
    obtain ⟨rfl, rfl⟩ := Prod.mk.inj ran
    cases told with
    | error e => exact .refused rfl
    | ok answer => exact .done rfl rfl
  · obtain ⟨detail, rfl⟩ := backend _ _ _ _ disrupted
    rw [disrupted] at ran
    cases ran
    exact .failed rfl rfl

theorem Sends.forwards {Sent : Request → Prop} {action : Action α} (sends : Sends Sent action) :
    Forwards context action := by
  have composes := compositional_forwards context
  induction sends with
  | pure a => exact composes.pure a
  | throw e => exact composes.throw e
  | liftExcept result => exact composes.liftExcept result
  | settings => exact forwards_settings
  | ask sent => exact forwards_ask backend _
  | count _ ih => exact forwards_get.bind fun state => ih state.store.users.size
  | bind _ _ ih_first ih_rest => exact ih_first.bind ih_rest
  | whileLoading part _ ih => exact ih.whileLoading part

end Requests

end Action

end Entitlement
