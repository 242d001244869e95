import Entitlement.Proofs.Action.Atomic

/-!
Which failures an action meets. The result and the store that it leaves behind may depend on them: on how
many requests failed, and not only on whether one did.
-/

namespace Entitlement.Action

variable {α β : Type} {context : Context} {before store : Store}

/-- Over the store the action meets some failures, in this order, and they, the result and the store after it
are as `post` says. -/
def Meets (context : Context) (store : Store) (action : Action α)
    (post : List Error → Except Error α → Store → Prop) : Prop :=
  ∀ state : State, state.store = store →
    ∃ met, (action.run context state).2.disrupted = state.disrupted ++ met ∧
      post met (action.run context state).1 (action.run context state).2.store

variable {action : Action α} {ends : Except Error α → Store → Prop}
  {post mid : List Error → Except Error α → Store → Prop} {last : List Error → Except Error β → Store → Prop}

theorem meets_throw {e : Error} (fits : post [] (.error e) store) : Meets context store (throw e) post := by
  rintro state rfl
  exact ⟨[], (List.append_nil _).symm, fits⟩

/-- To send no request is to meet no failure. -/
theorem Leaves.meets (leaves : Leaves context store action ends)
    (fits : ∀ result later, ends result later → post [] result later) : Meets context store action post := by
  intro state same
  obtain ⟨quiet, held⟩ := leaves state same
  exact ⟨[], quiet.trans (List.append_nil _).symm, fits _ _ held⟩

theorem Atomic.meets (atomic : Atomic context before store action ends) :
    Meets context store action fun met result later =>
      met = [] ∧ ends result later ∨ ∃ e, met = [e] ∧ result = .error e ∧ later = before := by
  intro state same
  obtain ⟨quiet, held⟩ | ⟨e, -, noted, failed, restored⟩ := atomic state same
  · exact ⟨[], quiet.trans (List.append_nil _).symm, .inl ⟨rfl, held⟩⟩
  · exact ⟨[e], noted, .inr ⟨e, rfl, failed, restored⟩⟩

theorem Meets.bind {next : α → Action β} (first : Meets context store action mid)
    (second : ∀ met a later, mid met (.ok a) later → Meets context later (next a) fun more => last (met ++ more))
    (failed : ∀ met e later, mid met (.error e) later → last met (.error e) later) :
    Meets context store (action >>= next) last := by
  intro state same
  obtain ⟨met, noted, held⟩ := first state same
  rw [run_bind]
  rcases ran : action.run context state with ⟨e | a, later⟩
  · rw [ran] at noted held
    exact ⟨met, noted, failed met e later.store held⟩
  · rw [ran] at noted held
    obtain ⟨more, noted_next, held_next⟩ := second met a later.store held later rfl
    exact ⟨met ++ more, by rw [noted_next, noted, List.append_assoc], held_next⟩

/-- What comes first is all done, is refused, or fails and leaves the store `before`. -/
theorem Atomic.meets_bind {next : α → Action β} (first : Atomic context before store action ends)
    (second : ∀ a later, ends (.ok a) later → Meets context later (next a) last)
    (refused : ∀ e later, ends (.error e) later → last [] (.error e) later)
    (failed : ∀ e, last [e] (.error e) before) : Meets context store (action >>= next) last := by
  refine first.meets.bind ?_ ?_
  · rintro met a later (⟨rfl, held⟩ | ⟨_, -, ⟨⟩, -⟩)
    exact second a later held
  · rintro met e later (⟨rfl, held⟩ | ⟨_, rfl, ⟨⟩, rfl⟩)
    · exact refused e later held
    · exact failed e

/-- A request that the store answers, unless it fails. -/
theorem Meets.ask (onlyFails : context.outage.OnlyFails) {request : Request} {next : request.Answer → Action β}
    {answer : request.Answer} {after : Store} (answered : store.answer request = (.ok answer, after))
    (second : Meets context after (next answer) last) (failed : ∀ e, last [e] (.error e) store) :
    Meets context store (ask request >>= next) last := by
  refine (atomic_ask onlyFails answered).meets_bind ?_ ?_ failed
  · rintro _ later ⟨⟨⟩, rfl⟩
    exact second
  · rintro e later ⟨⟨⟩, -⟩

/-- The rescue starts where the failure happened, and meets failures of its own. -/
theorem Meets.tryCatch {rescue : Error → Action α} (first : Meets context store action mid)
    (done : ∀ met a later, mid met (.ok a) later → post met (.ok a) later)
    (rescued : ∀ met e later, mid met (.error e) later →
      Meets context later (rescue e) fun more => post (met ++ more)) :
    Meets context store (tryCatch action rescue) post := by
  intro state same
  obtain ⟨met, noted, held⟩ := first state same
  rw [run_tryCatch]
  rcases ran : action.run context state with ⟨e | a, later⟩
  · rw [ran] at noted held
    obtain ⟨more, noted_rescue, held_rescue⟩ := rescued met e later.store held later rfl
    exact ⟨met ++ more, by rw [noted_rescue, noted, List.append_assoc], held_rescue⟩
  · rw [ran] at noted held
    exact ⟨met, noted, done met a later.store held⟩

end Entitlement.Action
