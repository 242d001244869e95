import Entitlement.Action.Lemmas

/-!
Actions that read. Over a store that meets no disruption such an action always has an answer, and
leaves the state as it was but for the count of requests.
-/

namespace Entitlement.Action

variable {α β : Type} {settings : Settings} {store : Store}

/-- Over the store the action succeeds with an answer as `post` says, and nothing but the count of
requests is changed. -/
def Answers (settings : Settings) (store : Store) (action : Action α) (post : α → Prop) : Prop :=
  ∀ state : State, state.store = store →
    ∃ a requests, action.run { settings } state = (.ok a, { state with requests }) ∧ post a

section Rules

variable {post mid : α → Prop} {last : β → Prop} {action : Action α}

theorem Answers.mono (answers : Answers settings store action mid) (implies : ∀ a, mid a → post a) :
    Answers settings store action post := by
  intro state same
  obtain ⟨a, requests, ran, held⟩ := answers state same
  exact ⟨a, requests, ran, implies a held⟩

theorem answers_pure {a : α} (fits : post a) : Answers settings store (pure a) post :=
  fun state _ => ⟨a, state.requests, rfl, fits⟩

theorem answers_settings : Answers settings store Action.settings (· = settings) :=
  fun state _ => ⟨settings, state.requests, rfl, rfl⟩

theorem answers_liftExcept {result : Except Error α} {a : α} (done : result = .ok a) (fits : post a) :
    Answers settings store (liftM result) post := by
  intro state _
  refine ⟨a, state.requests, ?_, fits⟩
  rw [run_liftExcept, done]

theorem Answers.bind {next : α → Action β} (first : Answers settings store action mid)
    (second : ∀ a, mid a → Answers settings store (next a) last) :
    Answers settings store (action >>= next) last := by
  intro state same
  obtain ⟨a, requests, ran, held⟩ := first state same
  obtain ⟨b, further, ran_next, held_next⟩ := second a held { state with requests } same
  refine ⟨b, further, ?_, held_next⟩
  rw [run_bind, ran]
  exact ran_next

theorem Answers.map {f : α → β} (answers : Answers settings store action mid)
    (fits : ∀ a, mid a → last (f a)) :
    Answers settings store (f <$> action) last := by
  rw [← bind_pure_comp]
  exact answers.bind fun a held => answers_pure (fits a held)

theorem Answers.whileLoading {part : String} (answers : Answers settings store action post) :
    Answers settings store (whileLoading part action) post := by
  intro state same
  obtain ⟨a, requests, ran, held⟩ := answers state same
  refine ⟨a, requests, ?_, held⟩
  rw [run_whileLoading, ran]
  rfl

theorem answers_ask {request : Request} {answer : request.Answer} {post : request.Answer → Prop}
    (answered : store.answer request = (.ok answer, store)) (fits : post answer) :
    Answers settings store (ask request) post := by
  rintro state rfl
  refine ⟨answer, state.requests + 1, ?_, fits⟩
  rw [run_ask_never]
  exact run_serve_of_ok _ { state with requests := state.requests + 1 } answered

/-- What holds of the elements done so far and of what has been made of them holds at the end. -/
theorem answers_foldlM (inv : List α → β → Prop) {f : β → α → Action β} {list : List α}
    (step : ∀ done a rest b, list = done ++ a :: rest → inv done b → Answers settings store (f b a)
      (inv (done ++ [a])))
    {b : β} (start : inv [] b) : Answers settings store (list.foldlM f b) (inv list) := by
  have goes_on : ∀ rest done b, list = done ++ rest → inv done b →
    Answers settings store (rest.foldlM f b) (inv list) := by
    intro rest
    induction rest with
    | nil =>
      intro done b split held
      rw [List.append_nil] at split
      exact answers_pure (split ▸ held)
    | cons a rest ih =>
      intro done b split held
      rw [List.foldlM_cons]
      refine (step done a rest b split held).bind fun next held => ?_
      exact ih (done ++ [a]) next (by rw [split, List.append_assoc, List.singleton_append]) held
  exact goes_on list [] b rfl start

end Rules

end Entitlement.Action
