import Entitlement.Proofs.Action.Keeping
import Entitlement.Proofs.Action.Logging

/-!
Actions by the requests that they send. What an action that only reads comes to is settled by the store:
it keeps every invariant, and it has the same result each time.
-/

namespace Entitlement

/-- The stores agree on the answer to the request, and keep what they have. -/
def Request.Agreed (P : Store → Prop) (request : Request) : Prop :=
  ∃ result : Except Error request.Answer, ∀ store, P store → store.answer request = (result, store)

theorem Request.Reads.agreed {request : Request} (reads : request.Reads) (store : Store) :
    request.Agreed (· = store) := by
  cases request with
  | findNamed | find | list => exact ⟨.ok _, by rintro _ rfl; rfl⟩
  | loadCredentials user =>
    refine ⟨(store.require .user user).map fun _ => store.credentials.getD user {}, fun other same => ?_⟩
    subst same
    simp only [Store.answer]
    cases other.require .user user <;> rfl
  | edgesOf kind id =>
    refine ⟨(store.require kind id).map fun _ => store.edges.touching id, fun other same => ?_⟩
    subst same
    simp only [Store.answer]
    cases other.require kind id <;> rfl
  | create | rename | delete | saveCredentials | insertEdge | eraseEdge => exact reads.elim

namespace Action

variable {α β : Type} {Sent : Request → Prop}

/-- The action sends such requests only. Of the state it sees nothing else but how many users are stored. -/
inductive Sends (Sent : Request → Prop) : {α : Type} → Action α → Prop where
  | pure {α : Type} (a : α) : Sends Sent (Pure.pure a : Action α)
  | throw {α : Type} (e : Error) : Sends Sent (MonadExcept.throw e : Action α)
  | liftExcept {α : Type} (result : Except Error α) : Sends Sent (liftM result : Action α)
  | settings : Sends Sent Action.settings
  | ask {request : Request} : Sent request → Sends Sent (ask request)
  | count {α : Type} {next : Nat → Action α} :
    (∀ users, Sends Sent (next users)) → Sends Sent (get >>= fun state => next state.store.users.size)
  | bind {α β : Type} {action : Action α} {next : α → Action β} :
    Sends Sent action → (∀ a, Sends Sent (next a)) → Sends Sent (action >>= next)
  | whileLoading {α : Type} {action : Action α} (part : String) :
    Sends Sent action → Sends Sent (whileLoading part action)

/-- Over all stores that are as `P` says the action comes to the same, and nothing but the count of requests
is changed. -/
def Settled (settings : Settings) (P : Store → Prop) (action : Action α) : Prop :=
  ∃ result, ∀ state : State, P state.store →
    ∃ requests, action.run { settings } state = (result, { state with requests })

theorem Logs.settled {settings : Settings} {P : Store → Prop} {action : Action α} {log : List Request}
    {result : Except Error α} (logs : Logs settings P action log result) : Settled settings P action :=
  ⟨result, fun _ alike => ⟨_, logs.run_never alike⟩⟩

namespace Sends

theorem map {f : α → β} {action : Action α} (sends : Sends Sent action) : Sends Sent (f <$> action) := by
  rw [← bind_pure_comp]
  exact sends.bind fun a => .pure (f a)

theorem mono {Sent' : Request → Prop} {action : Action α} (sends : Sends Sent action)
    (implies : ∀ request, Sent request → Sent' request) : Sends Sent' action := by
  induction sends with
  | pure a => exact .pure a
  | throw e => exact .throw e
  | liftExcept result => exact .liftExcept result
  | settings => exact .settings
  | ask sent => exact .ask (implies _ sent)
  | count _ ih => exact .count ih
  | bind _ _ ih_first ih_rest => exact ih_first.bind ih_rest
  | whileLoading part _ ih => exact ih.whileLoading part

theorem ite {p : Prop} [Decidable p] {action other : Action α} (first : Sends Sent action)
    (second : Sends Sent other) : Sends Sent (if p then action else other) := by
  split
  · exact first
  · exact second

theorem foldlM {f : β → α → Action β} (step : ∀ b a, Sends Sent (f b a)) (list : List α) (b : β) :
    Sends Sent (list.foldlM f b) := by
  induction list generalizing b with
  | nil => exact .pure b
  | cons a list ih =>
    rw [List.foldlM_cons]
    exact (step b a).bind ih

/-- An action that only reads keeps every invariant. -/
theorem keeps {action : Action α} (sends : Sends Sent action) (reads : ∀ request, Sent request → request.Reads)
    {context : Context} {Allowed : Request → Prop} {I : State → Prop} (invariant : Invariant Allowed I) :
    Keeps context I action fun _ => True := by
  induction sends with
  | pure a => exact keeps_pure trivial
  | throw e => exact keeps_throw e
  | liftExcept result => exact (keeps_liftExcept result).trivial
  | settings => exact keeps_settings.trivial
  | ask sent => exact invariant.read _ (reads _ sent)
  | count _ ih => exact keeps_get.bind fun state _ => ih state.store.users.size
  | bind _ _ ih_first ih_rest => exact ih_first.bind fun a _ => ih_rest a
  | whileLoading part _ ih => exact ih.whileLoading

/-- Over stores that agree on the answers the action sends the same requests, with one result. -/
theorem logs {action : Action α} (sends : Sends Sent action) (settings : Settings) {P : Store → Prop}
    (agreed : ∀ request, Sent request → request.Agreed P)
    (sized : ∃ users, ∀ store, P store → store.users.size = users) :
    ∃ log result, (∀ request ∈ log, Sent request) ∧ Logs settings P action log result := by
  induction sends with
  | pure a => exact ⟨[], .ok a, by simp, logs_pure a⟩
  | throw e => exact ⟨[], .error e, by simp, logs_throw e⟩
  | liftExcept result => exact ⟨[], result, by simp, logs_liftExcept result⟩
  | settings => exact ⟨[], .ok settings, by simp, logs_settings⟩
  | @ask request sent =>
    obtain ⟨result, answered⟩ := agreed request sent
    exact ⟨[request], result, by simpa using sent, logs_ask answered⟩
  | count _ ih =>
    obtain ⟨users, size⟩ := sized
    obtain ⟨log, result, sent, logs⟩ := ih users
    exact ⟨log, result, sent, logs_count _ size logs⟩
  | bind _ _ ih_first ih_rest =>
    obtain ⟨log, first, sent, logs⟩ := ih_first
    cases first with
    | error e => exact ⟨log, .error e, sent, logs.stop _⟩
    | ok a =>
      obtain ⟨more, result, sent_next, logs_next⟩ := ih_rest a
      exact ⟨log ++ more, result, List.forall_mem_append.mpr ⟨sent, sent_next⟩, logs.bind logs_next⟩
  | whileLoading part _ ih =>
    obtain ⟨log, result, sent, logs⟩ := ih
    exact ⟨log, _, sent, logs.whileLoading part⟩

theorem settled {action : Action α} (sends : Sends Sent action) (settings : Settings) {P : Store → Prop}
    (agreed : ∀ request, Sent request → request.Agreed P)
    (sized : ∃ users, ∀ store, P store → store.users.size = users) : Settled settings P action := by
  obtain ⟨log, result, -, logs⟩ := sends.logs settings agreed sized
  exact logs.settled

theorem logs_over {action : Action α} (sends : Sends Sent action) (reads : ∀ request, Sent request → request.Reads)
    (settings : Settings) (store : Store) :
    ∃ log result, (∀ request ∈ log, Sent request) ∧ Logs settings (· = store) action log result :=
  sends.logs settings (fun request sent => (reads request sent).agreed store) ⟨store.users.size, fun _ same => same ▸ rfl⟩

end Sends

theorem Sends.settled_over {action : Action α} (sends : Sends Request.Reads action) (settings : Settings)
    (store : Store) : Settled settings (· = store) action := by
  obtain ⟨log, result, -, logs⟩ := sends.logs_over (fun _ reads => reads) settings store
  exact logs.settled

theorem Settled.answers {settings : Settings} {store : Store} {action : Action α} {post : α → Prop}
    (settled : Settled settings (· = store) action) (answers : Answers settings store action post) :
    ∃ a, post a ∧ Answers settings store action (· = a) := by
  obtain ⟨result, comes⟩ := settled
  obtain ⟨a, requests, ran, held⟩ := answers { store } rfl
  obtain ⟨_, ran'⟩ := comes { store } rfl
  rw [ran, Prod.mk.injEq] at ran'
  refine ⟨a, held, fun state same => ?_⟩
  obtain ⟨requests, done⟩ := comes state same
  exact ⟨a, requests, by rw [done, ← ran'.1], rfl⟩

theorem invariant_store (store : Store) : Invariant (fun _ => False) (·.store = store) where
  answered impossible _ _ := impossible.elim
  aside _ _ aside same := aside.store.trans same

theorem Answers.and_keeps {settings : Settings} {store : Store} {action : Action α} {post also : α → Prop}
    (answers : Answers settings store action post) (keeps : Keeps { settings } (·.store = store) action also) :
    Answers settings store action fun a => post a ∧ also a := by
  intro state same
  obtain ⟨a, requests, ran, held⟩ := answers state same
  exact ⟨a, requests, ran, held, (keeps state same).2 a (by rw [ran])⟩

end Action

end Entitlement
