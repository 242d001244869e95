import Entitlement.Proofs.Action.Answering

/-!
What an action comes to when no request fails: its result and the store that it leaves behind. Unlike an
action that only reads it may write, and it may fail on its own account.
-/

namespace Entitlement.Action

variable {α β : Type} {context : Context} {settings : Settings} {store : Store}

/-- Over the store no request of the action fails, and its result and the store after it are as `post`
says. -/
def Leaves (context : Context) (store : Store) (action : Action α)
    (post : Except Error α → Store → Prop) : Prop :=
  ∀ state : State, state.store = store →
    (action.run context state).2.disrupted = state.disrupted ∧
      post (action.run context state).1 (action.run context state).2.store

section Rules

variable {post mid : Except Error α → Store → Prop} {last : Except Error β → Store → Prop}
  {action : Action α}

theorem Leaves.mono (leaves : Leaves context store action mid)
    (implies : ∀ result later, mid result later → post result later) : Leaves context store action post :=
  fun state same => ⟨(leaves state same).1, implies _ _ (leaves state same).2⟩

theorem leaves_pure {a : α} (fits : post (.ok a) store) : Leaves context store (pure a) post := by
  rintro state rfl
  exact ⟨rfl, fits⟩

theorem leaves_throw {e : Error} (fits : post (.error e) store) :
    Leaves context store (throw e) post := by
  rintro state rfl
  exact ⟨rfl, fits⟩

theorem leaves_liftExcept {result : Except Error α} (fits : post result store) :
    Leaves context store (liftM result) post := by
  rintro state rfl
  rw [run_liftExcept]
  exact ⟨rfl, fits⟩

theorem leaves_settings :
    Leaves context store Action.settings fun result later => result = .ok context.settings ∧ later = store := by
  rintro state rfl
  exact ⟨rfl, rfl, rfl⟩

theorem leaves_report (event : AuditEvent) :
    Leaves context store (report event) fun result later => result = .ok () ∧ later = store := by
  rintro state rfl
  exact ⟨rfl, rfl, rfl⟩

/-- The second action starts over the store that the first one leaves. -/
theorem Leaves.bind {next : α → Action β} (first : Leaves context store action mid)
    (second : ∀ a later, mid (.ok a) later → Leaves context later (next a) last)
    (failed : ∀ e later, mid (.error e) later → last (.error e) later) :
    Leaves context store (action >>= next) last := by
  intro state same
  obtain ⟨quiet, held⟩ := first state same
  rw [run_bind]
  rcases ran : action.run context state with ⟨e | a, later⟩
  · rw [ran] at quiet held
    exact ⟨quiet, failed e later.store held⟩
  · rw [ran] at quiet held
    obtain ⟨quiet_next, held_next⟩ := second a later.store held later rfl
    exact ⟨quiet_next.trans quiet, held_next⟩

/-- It is known what the first action comes to. -/
theorem Leaves.bind_eq {next : α → Action β} {a : α} {between : Store}
    (first : Leaves context store action fun result later => result = .ok a ∧ later = between)
    (second : Leaves context between (next a) last) : Leaves context store (action >>= next) last := by
  refine first.bind ?_ ?_
  · rintro _ later ⟨⟨⟩, rfl⟩
    exact second
  · rintro e later ⟨⟨⟩, -⟩

theorem Leaves.bind_error {next : α → Action β} {e : Error} {between : Store}
    (first : Leaves context store action fun result later => result = .error e ∧ later = between)
    (fits : last (.error e) between) : Leaves context store (action >>= next) last := by
  refine first.bind ?_ ?_
  · rintro a later ⟨⟨⟩, -⟩
  · rintro _ later ⟨⟨⟩, rfl⟩
    exact fits

/-- A first action that always succeeds. -/
theorem Leaves.bind_ok {next : α → Action β} {made : α → Store → Prop}
    (first : Leaves context store action fun result later => ∃ a, result = .ok a ∧ made a later)
    (second : ∀ a later, made a later → Leaves context later (next a) last) :
    Leaves context store (action >>= next) last := by
  refine first.bind ?_ ?_
  · rintro a later ⟨_, ⟨⟩, held⟩
    exact second a later held
  · rintro e later ⟨_, ⟨⟩, -⟩

theorem Leaves.map {f : α → β} {made : α → Store → Prop}
    (leaves : Leaves context store action fun result later => ∃ a, result = .ok a ∧ made a later) :
    Leaves context store (f <$> action)
      fun result later => ∃ b, result = .ok b ∧ ∃ a, b = f a ∧ made a later := by
  rw [← bind_pure_comp]
  exact leaves.bind_ok fun a later held => leaves_pure ⟨f a, rfl, a, rfl, held⟩

/-- What holds of the elements done so far, of what has been made of them and of the store holds at the
end, and no step fails. -/
theorem leaves_foldlM (inv : List α → β → Store → Prop) {f : β → α → Action β} {list : List α}
    (step : ∀ done a rest b store, list = done ++ a :: rest → inv done b store →
      Leaves context store (f b a) fun result later => ∃ next, result = .ok next ∧ inv (done ++ [a]) next later)
    {b : β} (start : inv [] b store) :
    Leaves context store (list.foldlM f b) fun result later => ∃ made, result = .ok made ∧ inv list made later := by
  have goes_on : ∀ rest done b store, list = done ++ rest → inv done b store →
      Leaves context store (rest.foldlM f b)
        fun result later => ∃ made, result = .ok made ∧ inv list made later := by
    intro rest
    induction rest with
    | nil =>
      intro done b store split held
      rw [List.append_nil] at split
      exact leaves_pure ⟨b, rfl, split ▸ held⟩
    | cons a rest ih =>
      intro done b store split held
      rw [List.foldlM_cons]
      apply (step done a rest b store split held).bind_ok
      intro next later held
      exact ih (done ++ [a]) next later (by rw [split, List.append_assoc, List.singleton_append]) held
  exact goes_on list [] b store rfl start

/-- A first action that does not fail has nothing to be rescued from. -/
theorem Leaves.tryCatch {rescue : Error → Action α} {a : α} {between : Store}
    (first : Leaves context store action fun result later => result = .ok a ∧ later = between) :
    Leaves context store (tryCatch action rescue) fun result later => result = .ok a ∧ later = between := by
  intro state same
  obtain ⟨quiet, done, left⟩ := first state same
  rw [run_tryCatch]
  rcases ran : action.run context state with ⟨e | b, later⟩
  · rw [ran] at done
    cases done
  · rw [ran] at quiet done left
    exact ⟨quiet, done, left⟩

/-- What an action that reads is answered. -/
theorem Answers.leaves {fits : α → Prop} (answers : Answers settings store action fits) :
    Leaves { settings } store action fun result later => ∃ a, result = .ok a ∧ later = store ∧ fits a := by
  intro state same
  obtain ⟨a, requests, ran, held⟩ := answers state same
  rw [ran]
  exact ⟨rfl, a, rfl, same, held⟩

theorem Answers.leaves_bind {next : α → Action β} {fits : α → Prop}
    (answers : Answers settings store action fits)
    (second : ∀ a, fits a → Leaves { settings } store (next a) last) :
    Leaves { settings } store (action >>= next) last := by
  refine answers.leaves.bind_ok ?_
  rintro a later ⟨rfl, held⟩
  exact second a held

end Rules

end Entitlement.Action
