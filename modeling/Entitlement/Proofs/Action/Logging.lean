import Entitlement.Proofs.Action.Answering

/-!
The requests that an action sends, one after the other. An outage is told each of them with its number, so
they are the ones that have to be let through for the action to go on as if nothing was disrupted.
-/

namespace Entitlement

/-- The outage lets the requests through that are sent from this number on. -/
def Outage.Spares (outage : Outage) (store : Store) (number : Nat) (log : List Request) : Prop :=
  ∀ (place : Nat) (request : Request), log[place]? = some request → outage (number + place) store request = none

theorem Outage.never_spares (store : Store) (number : Nat) (log : List Request) :
    Outage.never.Spares store number log := fun _ _ _ => rfl

theorem Outage.Spares.append {outage : Outage} {store : Store} {number : Nat} {log later : List Request}
    (spares : outage.Spares store number (log ++ later)) :
    outage.Spares store number log ∧ outage.Spares store (number + log.length) later := by
  constructor
  · intro place request sent
    apply spares place request
    rw [List.getElem?_append_left (List.getElem?_eq_some_iff.mp sent).1, sent]
  · intro place request sent
    rw [Nat.add_assoc]
    apply spares (log.length + place) request
    rw [List.getElem?_append_right (Nat.le_add_right _ _), Nat.add_sub_cancel_left, sent]

namespace Action

variable {α β : Type} {settings : Settings} {P : Store → Prop}

/-- Over such a store the action sends these requests and no others: it has this result and changes nothing,
whatever would become of any other request. -/
def Logs (settings : Settings) (P : Store → Prop) (action : Action α) (log : List Request)
    (result : Except Error α) : Prop :=
  ∀ (outage : Outage) (state : State), P state.store → outage.Spares state.store state.requests log →
    action.run { settings, outage } state = (result, { state with requests := state.requests + log.length })

variable {action : Action α} {log more : List Request} {result : Except Error α} {last : Except Error β}

theorem logs_pure (a : α) : Logs settings P (pure a) [] (.ok a) := fun _ _ _ _ => rfl

theorem logs_throw (e : Error) : Logs settings P (throw e : Action α) [] (.error e) := fun _ _ _ _ => rfl

theorem logs_liftExcept (result : Except Error α) : Logs settings P (liftM result) [] result :=
  fun _ state _ _ => run_liftExcept _ state result

theorem logs_settings : Logs settings P Action.settings [] (.ok settings) := fun _ _ _ _ => rfl

theorem logs_ask {request : Request} {result : Except Error request.Answer}
    (answered : ∀ store, P store → store.answer request = (result, store)) :
    Logs settings P (ask request) [request] result := by
  intro outage state alike spares
  have answered := answered state.store alike
  have spared : outage state.requests state.store request = none := spares 0 request rfl
  rw [run_ask]
  simp only [spared]
  rw [run_serve, answered]
  rfl

theorem logs_count {users : Nat} (next : Nat → Action α) (sized : ∀ store, P store → store.users.size = users)
    (logs : Logs settings P (next users) log result) :
    Logs settings P (get >>= fun state => next state.store.users.size) log result := by
  intro outage state alike spares
  rw [run_bind, run_get]
  simp only [sized state.store alike]
  exact logs outage state alike spares

theorem Logs.bind {a : α} {next : α → Action β} (first : Logs settings P action log (.ok a))
    (second : Logs settings P (next a) more last) : Logs settings P (action >>= next) (log ++ more) last := by
  intro outage state alike spares
  obtain ⟨spares, spares_next⟩ := spares.append
  rw [run_bind, first outage state alike spares]
  simp only
  rw [second outage { state with requests := state.requests + log.length } alike spares_next, List.length_append,
    Nat.add_assoc]

theorem Logs.stop {e : Error} (first : Logs settings P action log (.error e)) (next : α → Action β) :
    Logs settings P (action >>= next) log (.error e) := by
  intro outage state alike spares
  rw [run_bind, first outage state alike spares]

theorem Logs.whileLoading (part : String) (logs : Logs settings P action log result) :
    Logs settings P (whileLoading part action) log (result.mapError (·.whileLoading part)) := by
  intro outage state alike spares
  rw [run_whileLoading, logs outage state alike spares]

theorem Logs.run_never (logs : Logs settings P action log result) {state : State} (alike : P state.store) :
    action.run { settings } state = (result, { state with requests := state.requests + log.length }) :=
  logs Outage.never state alike (Outage.never_spares _ _ _)

variable {store : Store}

theorem Logs.answers {a : α} (logs : Logs settings (· = store) action log (.ok a)) :
    Answers settings store action (· = a) :=
  fun state same => ⟨a, state.requests + log.length, logs.run_never same, rfl⟩

theorem Logs.of_answers {post : α → Prop} (logs : Logs settings (· = store) action log result)
    (answers : Answers settings store action post) : ∃ a, result = .ok a ∧ post a := by
  obtain ⟨a, requests, ran, held⟩ := answers { store } rfl
  rw [logs.run_never rfl, Prod.mk.injEq] at ran
  exact ⟨a, ran.1, held⟩

end Action

end Entitlement
