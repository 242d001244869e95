import Mathlib.Data.List.Nodup
import Mathlib.Logic.Relation
import Mathlib.Order.Lattice.Nat
import Entitlement.Identity

/-!
The search behind delegation, on identities alone. Whoever was taken from the queue has had everything
next to it queued, nobody is queued twice, and everyone met can be reached. When the queue is empty the
ones taken are therefore all that can be reached, each once. They come nearest first: everyone in the queue
is as far away as its head or one step further.
-/

namespace Entitlement

/-! ### Distance -/

/-- So many steps lead from the start to the identity. -/
inductive Leads (next : EntityId → List EntityId) (start : EntityId) : Nat → EntityId → Prop where
  | here : Leads next start 0 start
  | step {steps : Nat} {id other : EntityId} : Leads next start steps id → other ∈ next id →
    Leads next start (steps + 1) other

noncomputable def distance (next : EntityId → List EntityId) (start id : EntityId) : Nat :=
  sInf {steps | Leads next start steps id}

section Distance

variable {next : EntityId → List EntityId} {start id : EntityId} {steps : Nat}

theorem Leads.distance_le (leads : Leads next start steps id) : distance next start id ≤ steps := Nat.sInf_le leads

theorem distance_start : distance next start start = 0 := Nat.le_zero.mp Leads.here.distance_le

theorem leads_distance (reached : Relation.ReflTransGen (fun id other => id ∈ next other) id start) :
    Leads next start (distance next start id) id := by
  have way : ∃ steps, Leads next start steps id := by
    induction reached using Relation.ReflTransGen.head_induction_on with
    | refl => exact ⟨0, .here⟩
    | head first _ ih =>
      obtain ⟨steps, leads⟩ := ih
      exact ⟨steps + 1, leads.step first⟩
  exact Nat.sInf_mem way

end Distance

/-! ### Search -/

/-- Takes identities from the queue and puts those next to them at its end, unless they were met. -/
def search (next : EntityId → List EntityId) : Nat → List EntityId → List EntityId → List EntityId
  | 0, _, _ => []
  | _, _, [] => []
  | rounds + 1, met, id :: queue =>
    let further := (next id).filter (! met.contains ·)
    id :: search next rounds (met ++ further) (queue ++ further)

/-- Where a search stands: `done` are those taken from the queue. -/
structure Searching (next : EntityId → List EntityId) (start : EntityId)
    (everyone done met queue : List EntityId) : Prop where
  split : met = done ++ queue
  once : met.Nodup
  started : start ∈ met
  closed : ∀ id ∈ done, ∀ other ∈ next id, other ∈ met
  reached : ∀ id ∈ met, Relation.ReflTransGen (fun id other => id ∈ next other) id start
  bounded : ∀ id ∈ met, id ∈ everyone
  ordered : met.Pairwise fun id other => distance next start id ≤ distance next start other
  level : ∀ id ∈ queue, ∀ other ∈ met, distance next start other ≤ distance next start id + 1

namespace Searching

variable {next : EntityId → List EntityId} {start id other : EntityId}
  {everyone done met queue : List EntityId}

theorem initial (present : start ∈ everyone) : Searching next start everyone [] [start] [start] := by
  constructor <;> simp [present, Relation.ReflTransGen.refl]

theorem queued (searching : Searching next start everyone done met queue) (mem : other ∈ met)
    (waits : other ∉ done) : other ∈ queue :=
  (List.mem_append.mp (searching.split ▸ mem)).resolve_left waits

theorem head_nearest (searching : Searching next start everyone done met (id :: queue))
    (queued : other ∈ id :: queue) : distance next start id ≤ distance next start other := by
  have ordered := searching.ordered
  rw [searching.split, List.pairwise_append, List.pairwise_cons] at ordered
  rcases List.mem_cons.mp queued with rfl | later
  · exact le_rfl
  · exact ordered.2.1.1 other later

theorem head_distance_le {steps : Nat} (searching : Searching next start everyone done met (id :: queue))
    (leads : Leads next start steps other) (waits : other ∉ done) : distance next start id ≤ steps := by
  -- Every way out of what is done passes through the queue.
  induction leads with
  | here => exact distance_start ▸ searching.head_nearest (searching.queued searching.started waits)
  | @step steps nearer other leads further ih =>
    by_cases known : nearer ∈ done
    · have queued := searching.queued (searching.closed nearer known other further) waits
      exact (searching.head_nearest queued).trans (leads.step further).distance_le
    · exact (ih known).trans (Nat.le_succ steps)

theorem distance_further (searching : Searching next start everyone done met (id :: queue))
    (next_to : other ∈ next id) (new : other ∉ met) :
    distance next start other = distance next start id + 1 := by
  have taken : id ∈ met := by simp [searching.split]
  have path := searching.reached id taken
  refine Nat.le_antisymm ((leads_distance path).step next_to).distance_le ?_
  have least : ∀ steps, Leads next start steps other → distance next start id + 1 ≤ steps := by
    rintro _ (_ | ⟨leads, further⟩)
    · exact absurd searching.started new
    · exact Nat.succ_le_succ (searching.head_distance_le leads fun known => new (searching.closed _ known _ further))
  exact least _ (leads_distance (path.head next_to))

theorem step (distinct : ∀ id, (next id).Nodup)
    (inside : ∀ id ∈ everyone, ∀ other ∈ next id, other ∈ everyone)
    (searching : Searching next start everyone done met (id :: queue)) :
    Searching next start everyone (done ++ [id]) (met ++ (next id).filter (! met.contains ·))
      (queue ++ (next id).filter (! met.contains ·)) := by
  have taken : id ∈ met := by simp [searching.split]
  have fresh : ∀ other, other ∈ (next id).filter (! met.contains ·) ↔ other ∈ next id ∧ other ∉ met := by
    intro other
    simp
  -- Those newly met are all one step further away than the head, and no one in the queue is nearer than it.
  have one_more : ∀ other ∈ (next id).filter (! met.contains ·),
      distance next start other = distance next start id + 1 := by
    intro other new
    exact searching.distance_further ((fresh other).mp new).1 ((fresh other).mp new).2
  have within : ∀ other ∈ met ++ (next id).filter (! met.contains ·),
      distance next start other ≤ distance next start id + 1 := by
    intro other mem
    rcases List.mem_append.mp mem with old | new
    · exact searching.level id List.mem_cons_self other old
    · exact (one_more other new).le
  constructor
  · simp [searching.split]
  · refine List.nodup_append.mpr ⟨searching.once, (distinct id).filter _, fun a old b new same => ?_⟩
    subst same
    exact ((fresh a).mp new).2 old
  · exact List.mem_append_left _ searching.started
  · intro other mem further next_to
    rw [List.mem_append, List.mem_singleton] at mem
    rcases mem with old | rfl
    · exact List.mem_append_left _ (searching.closed other old further next_to)
    · by_cases known : further ∈ met
      · exact List.mem_append_left _ known
      · exact List.mem_append_right _ ((fresh further).mpr ⟨next_to, known⟩)
  · intro other mem
    rcases List.mem_append.mp mem with old | new
    · exact searching.reached other old
    · exact (searching.reached id taken).head ((fresh other).mp new).1
  · intro other mem
    rcases List.mem_append.mp mem with old | new
    · exact searching.bounded other old
    · exact inside id (searching.bounded id taken) other ((fresh other).mp new).1
  · refine List.pairwise_append.mpr ⟨searching.ordered, List.pairwise_of_forall_mem_list ?_, ?_⟩
    · intro other new another new'
      exact (one_more other new).trans (one_more another new').symm |>.le
    · intro other old another new
      exact (searching.level id List.mem_cons_self other old).trans (one_more another new).ge
  · intro other mem another mem'
    have no_nearer : distance next start id ≤ distance next start other := by
      rcases List.mem_append.mp mem with old | new
      · exact searching.head_nearest (List.mem_cons_of_mem id old)
      · exact (one_more other new) ▸ Nat.le_succ _
    exact (within another mem').trans (Nat.succ_le_succ no_nearer)

theorem queue_eq_nil (searching : Searching next start everyone done met queue)
    (enough : everyone.length ≤ done.length) : queue = [] := by
  have held : met.length ≤ everyone.length := searching.once.length_le_of_subset searching.bounded
  have split := congrArg List.length searching.split
  rw [List.length_append] at split
  exact List.length_eq_zero_iff.mp (by omega)

theorem finished (distinct : ∀ id, (next id).Nodup)
    (inside : ∀ id ∈ everyone, ∀ other ∈ next id, other ∈ everyone)
    {rounds : Nat} (searching : Searching next start everyone done met queue)
    (enough : everyone.length ≤ rounds + done.length) :
    ∃ last, Searching next start everyone (done ++ search next rounds met queue) last [] := by
  induction rounds generalizing done met queue with
  | zero =>
    obtain rfl := searching.queue_eq_nil (Nat.zero_add done.length ▸ enough)
    refine ⟨met, ?_⟩
    rw [search, List.append_nil]
    exact searching
  | succ rounds ih =>
    cases queue with
    | nil =>
      refine ⟨met, ?_⟩
      rw [search, List.append_nil]
      · exact searching
      · simp
    | cons id queue =>
      have longer : everyone.length ≤ rounds + (done ++ [id]).length := by
        rw [List.length_append, List.length_singleton]
        omega
      obtain ⟨last, ended⟩ := ih (searching.step distinct inside) longer
      refine ⟨last, ?_⟩
      rw [List.append_assoc, List.singleton_append] at ended
      exact ended

theorem mem_iff (searching : Searching next start everyone done met []) :
    id ∈ done ↔ Relation.ReflTransGen (fun id other => id ∈ next other) id start := by
  have same : met = done := by rw [searching.split, List.append_nil]
  subst same
  constructor
  · exact searching.reached id
  · intro path
    induction path using Relation.ReflTransGen.head_induction_on with
    | refl => exact searching.started
    | head first _ mem => exact searching.closed _ mem _ first

end Searching

variable {next : EntityId → List EntityId} {start : EntityId} {everyone : List EntityId} {rounds : Nat}

/-- A search finds all that can be reached from where it begins, each once and nearest first. -/
theorem search_spec (distinct : ∀ id, (next id).Nodup)
    (inside : ∀ id ∈ everyone, ∀ other ∈ next id, other ∈ everyone)
    (present : start ∈ everyone) (enough : everyone.length ≤ rounds) :
    (search next rounds [start] [start]).Nodup ∧
      (∀ id, id ∈ search next rounds [start] [start] ↔
        Relation.ReflTransGen (fun id other => id ∈ next other) id start) ∧
      (search next rounds [start] [start]).Pairwise fun id other =>
        distance next start id ≤ distance next start other := by
  have begun : Searching next start everyone [] [start] [start] := .initial present
  obtain ⟨met, ended⟩ := begun.finished distinct inside enough
  have once := ended.once
  have ordered := ended.ordered
  rw [ended.split, List.append_nil] at once ordered
  exact ⟨once, fun id => ended.mem_iff, ordered⟩

end Entitlement
