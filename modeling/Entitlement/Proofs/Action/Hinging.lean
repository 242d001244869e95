import Entitlement.Proofs.Action.Leaving

/-!
Actions that read and that hinge on what is stored: where all that they look for is there they succeed, and
where something of it is missing they fail with a fault of the backend.
-/

namespace Entitlement.Action

variable {α β : Type} {settings : Settings} {store : Store}

/-- All is there and the answer is as `post` says, or something is missing and the backend is at fault. -/
inductive Hinged (whole : Prop) (post : α → Prop) : Except Error α → Prop where
  | whole {a : α} (complete : whole) (fits : post a) : Hinged whole post (.ok a)
  | missing {e : Error} (lacks : ¬ whole) (backend : e.category = .dataBackend) : Hinged whole post (.error e)

/-- Over the store, which it leaves as it is, the action succeeds if and only if all is there. -/
def Hinges (settings : Settings) (store : Store) (action : Action α) (whole : Prop) (post : α → Prop) : Prop :=
  Leaves { settings } store action fun result later => later = store ∧ Hinged whole post result

variable {whole rest : Prop} {post mid : α → Prop} {last : β → Prop} {action : Action α}

theorem Answers.hinges (answers : Answers settings store action post) (complete : whole) :
    Hinges settings store action whole post := by
  refine answers.leaves.mono ?_
  rintro _ later ⟨a, rfl, same, fits⟩
  exact ⟨same, .whole complete fits⟩

theorem hinges_pure {a : α} (fits : post a) : Hinges settings store (pure a) True post :=
  (answers_pure fits).hinges trivial

theorem hinges_of_missing {e : Error} (lacks : ¬ whole) (backend : e.category = .dataBackend)
    (fails : ∀ state : State, state.store = store →
      ∃ requests, action.run { settings } state = (.error e, { state with requests })) :
    Hinges settings store action whole post := by
  intro state same
  obtain ⟨requests, ran⟩ := fails state same
  rw [ran]
  exact ⟨rfl, same, .missing lacks backend⟩

theorem Hinges.congr (hinges : Hinges settings store action whole post) (same : whole ↔ rest) :
    Hinges settings store action rest post := propext same ▸ hinges

/-- What comes second is looked for only if what comes first is there. -/
theorem Hinges.bind {next : α → Action β} (first : Hinges settings store action whole mid)
    (second : ∀ a, whole → mid a → Hinges settings store (next a) rest last) :
    Hinges settings store (action >>= next) (whole ∧ rest) last := by
  refine Leaves.bind first ?_ ?_
  · rintro a later ⟨rfl, ended⟩
    cases ended with
    | whole complete fits =>
      refine (second a complete fits).congr ?_
      exact (and_iff_right complete).symm
  · rintro e later ⟨same, ended⟩
    cases ended with
    | missing lacks backend => exact ⟨same, .missing (fun both => lacks both.1) backend⟩

/-- What comes first does not look for anything that may be missing. -/
theorem Answers.hinges_bind {next : α → Action β} (first : Answers settings store action mid)
    (second : ∀ a, mid a → Hinges settings store (next a) rest last) :
    Hinges settings store (action >>= next) rest last :=
  ((first.hinges trivial).bind fun a _ => second a).congr (and_iff_right trivial)

theorem Hinges.bind_answers {next : α → Action β} (first : Hinges settings store action whole mid)
    (second : ∀ a, mid a → Answers settings store (next a) last) :
    Hinges settings store (action >>= next) whole last :=
  (first.bind fun a _ held => (second a held).hinges trivial).congr (and_iff_left trivial)

/-- What comes second does not matter where something that comes first is missing. -/
theorem Hinges.bind_missing {next : α → Action β} (first : Hinges settings store action whole mid) (lacks : ¬ whole) :
    Hinges settings store (action >>= next) whole last :=
  (first.bind fun _ complete _ => absurd complete lacks).congr (and_iff_left trivial)

theorem Hinges.map {f : α → β} (hinges : Hinges settings store action whole mid)
    (fits : ∀ a, mid a → last (f a)) : Hinges settings store (f <$> action) whole last := by
  rw [← bind_pure_comp]
  exact hinges.bind_answers fun a held => answers_pure (fits a held)

/-- A fold hinges on what each of its steps hinges on. -/
theorem hinges_foldlM {f : β → α → Action β} {needs : α → Prop} (inv : β → Prop)
    (step : ∀ a b, inv b → Hinges settings store (f b a) (needs a) inv) (list : List α) {b : β} (start : inv b) :
    Hinges settings store (list.foldlM f b) (∀ a ∈ list, needs a) inv := by
  induction list generalizing b with
  | nil => exact (hinges_pure start).congr (by simp)
  | cons a list ih =>
    rw [List.foldlM_cons]
    exact ((step a b start).bind fun next _ held => ih held).congr List.forall_mem_cons.symm

end Entitlement.Action
