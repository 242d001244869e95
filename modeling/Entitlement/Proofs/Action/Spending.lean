import Entitlement.Proofs.Action.Atomic
import Entitlement.Proofs.Action.Reading

/-!
How far an action gets when any request may fail: how many requests it sends, and the store it leaves behind,
which has in it what was written before the failure.
-/

namespace Entitlement.Action

variable {α β : Type} {context : Context} {store : Store}

/-- Over the store the action sends so many requests, and the result and the store after it are as `post`
says. -/
def Spends (context : Context) (store : Store) (action : Action α)
    (post : Nat → Except Error α → Store → Prop) : Prop :=
  ∀ state : State, state.store = store →
    ∃ sent, (action.run context state).2.requests = state.requests + sent ∧
      post sent (action.run context state).1 (action.run context state).2.store

variable {post mid : Nat → Except Error α → Store → Prop} {last : Nat → Except Error β → Store → Prop}
  {action : Action α}

theorem Spends.mono (spends : Spends context store action mid)
    (implies : ∀ sent result later, mid sent result later → post sent result later) :
    Spends context store action post := by
  intro state same
  obtain ⟨sent, counted, held⟩ := spends state same
  exact ⟨sent, counted, implies sent _ _ held⟩

theorem spends_pure {a : α} (fits : post 0 (.ok a) store) : Spends context store (pure a) post := by
  rintro state rfl
  exact ⟨0, rfl, fits⟩

theorem spends_throw {e : Error} (fits : post 0 (.error e) store) : Spends context store (throw e) post := by
  rintro state rfl
  exact ⟨0, rfl, fits⟩

theorem Spends.bind {next : α → Action β} (first : Spends context store action mid)
    (second : ∀ sent a later, mid sent (.ok a) later → Spends context later (next a) fun more => last (sent + more))
    (failed : ∀ sent e later, mid sent (.error e) later → last sent (.error e) later) :
    Spends context store (action >>= next) last := by
  intro state same
  obtain ⟨sent, counted, held⟩ := first state same
  rw [run_bind]
  rcases ran : action.run context state with ⟨e | a, later⟩
  · rw [ran] at counted held
    exact ⟨sent, counted, failed sent e later.store held⟩
  · rw [ran] at counted held
    obtain ⟨more, counted_next, held_next⟩ := second sent a later.store held later rfl
    refine ⟨sent + more, ?_, held_next⟩
    rw [counted_next, counted, Nat.add_assoc]

theorem Spends.map {f : α → β} (spends : Spends context store action mid)
    (implies : ∀ sent result later, mid sent result later → last sent (result.map f) later) :
    Spends context store (f <$> action) last := by
  intro state same
  obtain ⟨sent, counted, held⟩ := spends state same
  rw [run_map]
  exact ⟨sent, counted, implies sent _ _ held⟩

/-- What sends nothing and leaves the store alone. -/
theorem Spends.after {next : α → Action β}
    (silent : ∀ state, ∃ a later, action.run context state = (.ok a, later) ∧ later.store = state.store ∧
      later.requests = state.requests) (rest : ∀ a, Spends context store (next a) last) :
    Spends context store (action >>= next) last := by
  intro state same
  obtain ⟨a, later, ran, kept, counted⟩ := silent state
  have held := rest a later (kept.trans same)
  rw [counted] at held
  rw [run_bind, ran]
  exact held

theorem Spends.settings {next : Settings → Action β} (rest : Spends context store (next context.settings) last) :
    Spends context store (Action.settings >>= next) last := rest

theorem Spends.report {event : AuditEvent} {next : Unit → Action β} (rest : Spends context store (next ()) last) :
    Spends context store (report event >>= next) last :=
  .after (fun _ => ⟨(), _, rfl, rfl, rfl⟩) fun _ => rest

theorem Spends.check {result : Except Error α} {next : α → Action β}
    (passed : ∀ a, result = .ok a → Spends context store (next a) last)
    (refused : ∀ e, result = .error e → last 0 (.error e) store) :
    Spends context store (liftM result >>= next) last := by
  cases result with
  | error e => exact spends_throw (refused e rfl)
  | ok a => exact passed a rfl

theorem serve_reads {request : Request} (reads : request.Reads) (context : Context) (state : State) :
    ((serve request).run context state).2 = state := by
  rcases answered : state.store.answer request with ⟨result, later⟩
  rw [run_serve, answered, Store.answer_reads reads answered]

theorem spends_read {request : Request} (reads : request.Reads) :
    Spends context store (ask request) fun sent _ later => sent = 1 ∧ later = store := by
  rintro state rfl
  have served := serve_reads reads context { state with requests := state.requests + 1 }
  rw [run_ask]
  rcases context.outage state.requests state.store request with _ | e | _
  · rw [served]
    exact ⟨1, rfl, rfl, rfl⟩
  · exact ⟨1, rfl, rfl, rfl⟩
  · rcases request.nothing? with _ | answer
    · rw [served]
      exact ⟨1, rfl, rfl, rfl⟩
    · exact ⟨1, rfl, rfl, rfl⟩

/-- An action that only reads leaves the store as it was. -/
theorem Sends.spends {action : Action α} (sends : Sends Request.Reads action) :
    Spends context store action fun _ _ later => later = store := by
  induction sends with
  | pure a => exact spends_pure rfl
  | throw e => exact spends_throw rfl
  | liftExcept result =>
    rintro state rfl
    rw [run_liftExcept]
    exact ⟨0, rfl, rfl⟩
  | settings =>
    rintro state rfl
    exact ⟨0, rfl, rfl⟩
  | ask reads => exact (spends_read reads).mono fun _ _ _ ended => ended.2
  | @count α next _ ih =>
    intro state same
    rw [run_bind, run_get]
    exact ih state.store.users.size state same
  | bind _ _ ih_first ih_rest =>
    refine ih_first.bind ?_ fun _ _ _ same => same
    rintro _ a _ rfl
    exact ih_rest a
  | whileLoading part _ ih =>
    intro state same
    rw [run_whileLoading]
    exact ih state same

theorem spends_some {request : Request} {next : request.Answer → Action β} (reads : request.Reads)
    (rest : ∀ answer, Sends Request.Reads (next answer)) :
    Spends context store (ask request >>= next) fun sent _ later => 0 < sent ∧ later = store := by
  refine (spends_read reads).bind ?_ fun sent _ later ⟨one, same⟩ => ⟨one ▸ Nat.one_pos, same⟩
  rintro _ answer _ ⟨rfl, rfl⟩
  refine (rest answer).spends.mono fun more _ later same => ⟨?_, same⟩
  omega

section Requests

variable (onlyFails : context.outage.OnlyFails) {request : Request} {next : request.Answer → Action β}
include onlyFails

theorem run_ask_or_fails (request : Request) (state : State) :
    (ask request).run context state = (serve request).run context { state with requests := state.requests + 1 } ∨
      ∃ e, context.outage.Gives e ∧ (ask request).run context state =
        (.error e, { state with requests := state.requests + 1, disrupted := state.disrupted ++ [e] }) := by
  rw [run_ask]
  rcases disrupted : context.outage state.requests state.store request with _ | e | _
  · exact .inl rfl
  · exact .inr ⟨e, ⟨_, _, _, disrupted⟩, rfl⟩
  · exact absurd disrupted (onlyFails _ _ _)

theorem Spends.ask_of_ok {answer : request.Answer} {after : Store}
    (answered : store.answer request = (.ok answer, after))
    (rest : Spends context after (next answer) fun more => last (1 + more))
    (failed : ∀ e, context.outage.Gives e → last 1 (.error e) store) :
    Spends context store (ask request >>= next) last := by
  rintro state rfl
  rw [run_bind]
  obtain served | ⟨e, gives, ran⟩ := run_ask_or_fails onlyFails request state
  · have ran := served.trans (run_serve_of_ok context _ answered)
    obtain ⟨more, counted, held⟩ := rest { state with store := after, requests := state.requests + 1 } rfl
    rw [ran]
    exact ⟨1 + more, counted.trans (Nat.add_assoc ..), held⟩
  · rw [ran]
    exact ⟨1, rfl, failed e gives⟩

theorem Spends.ask_of_error {e : Error} (refused : store.answer request = (.error e, store)) (fits : last 1 (.error e) store)
    (failed : ∀ e, context.outage.Gives e → last 1 (.error e) store) :
    Spends context store (ask request >>= next) last := by
  rintro state rfl
  rw [run_bind]
  obtain served | ⟨e, gives, ran⟩ := run_ask_or_fails onlyFails request state
  · rw [served.trans (run_serve_of_error context _ refused)]
    exact ⟨1, rfl, fits⟩
  · rw [ran]
    exact ⟨1, rfl, failed e gives⟩

end Requests

end Entitlement.Action
