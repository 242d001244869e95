import Mathlib.Data.List.Induction
import Mathlib.Logic.Function.Basic
import Entitlement.Proofs.Roster.Refinement

/-!
Rosters that are kept under numbers and worked on one command after the other, and the same commands
carried out on lists. Every command gives the same answer on both sides, and the rosters remain those of
the lists.
-/

namespace Entitlement

/-- A way of keeping members: what each operation answers and leaves behind. -/
structure Keeping (α S : Type) where
  empty : S
  ofList : List α → Except Error S
  add : S → α → Except Error (Bool × S)
  addAll : S → List α → Option Error × S
  take : S → EntityId → Option α × S
  takeNamed : S → String → Option α × S
  clear : S → S
  toList : S → List α
  get? : S → EntityId → Option α
  named? : S → String → Option α
  contains : S → EntityId → Bool
  containsName : S → String → Bool
  require : S → String → Except Error α
  union : S → S → Except Error S
  inter : S → S → S
  diff : S → S → S
  sameMembers : S → S → Bool

section

variable (α : Type) [Named α]

def Roster.keeping : Keeping α (Roster α) where
  empty := {}
  ofList := Roster.ofList
  add := Roster.add
  addAll := Roster.addAll
  take := Roster.take
  takeNamed := Roster.takeNamed
  clear := Roster.clear
  toList := Roster.toList
  get? := Roster.get?
  named? := Roster.named?
  contains := Roster.contains
  containsName := Roster.containsName
  require := Roster.require
  union := Roster.union
  inter := Roster.inter
  diff := Roster.diff
  sameMembers := Roster.sameMembers

def Listing.keeping : Keeping α (List α) where
  empty := []
  ofList := Listing.ofList
  add := Listing.add
  addAll := Listing.addAll
  take := Listing.take
  takeNamed := Listing.takeNamed
  clear _ := []
  toList members := members
  get? := Listing.get?
  named? := Listing.named?
  contains members id := decide (id ∈ Listing.ids members)
  containsName members name := (Listing.named? members name).isSome
  require := Listing.require
  union := Listing.union
  inter members other := members.filter (Listing.holds other)
  diff members other := members.filter (! Listing.holds other ·)
  sameMembers := Listing.sameMembers

end

/-- What is done with the set kept under a number. `other` is where a second one is kept, and `into` where
what is made of the two is put. -/
inductive Roster.Command (α : Type) where
  | make (members : List α)
  | add (member : α)
  | addAll (members : List α)
  | remove (member : α)
  | take (id : EntityId)
  | takeNamed (name : String)
  | takeExisting (name : String)
  | clear
  | list
  | get (id : EntityId)
  | named (name : String)
  | require (name : String)
  | contains (id : EntityId)
  | containsName (name : String)
  | union (other into : Nat)
  | inter (other into : Nat)
  | diff (other into : Nat)
  | same (other : Nat)

inductive Roster.Reply (α : Type) where
  | done
  | truth (b : Bool)
  | found (member : Option α)
  | listed (members : List α)
  | failed (e : Error)

namespace Roster.Command

open Function (update)

variable {α S : Type} [Named α] (keeping : Keeping α S)

/-- The reply to a command on the set kept under a number, and what is kept afterwards. -/
def run (kept : Nat → S) (n : Nat) : Command α → Reply α × (Nat → S)
  | make members =>
    match keeping.ofList members with
    | .ok made => (.done, update kept n made)
    | .error e => (.failed e, kept)
  | add member =>
    match keeping.add (kept n) member with
    | .ok (isNew, grown) => (.truth isNew, update kept n grown)
    | .error e => (.failed e, kept)
  | addAll members =>
    let (e, grown) := keeping.addAll (kept n) members
    (e.elim .done .failed, update kept n grown)
  | remove member =>
    let (found, rest) := keeping.take (kept n) (Named.record member).id
    (.truth found.isSome, update kept n rest)
  | take id =>
    let (found, rest) := keeping.take (kept n) id
    (.found found, update kept n rest)
  | takeNamed name =>
    let (found, rest) := keeping.takeNamed (kept n) name
    (.found found, update kept n rest)
  | takeExisting name =>
    let (found, rest) := keeping.takeNamed (kept n) name
    (found.elim (.failed (.notInSet name)) (.found <| some ·), update kept n rest)
  | clear => (.done, update kept n (keeping.clear (kept n)))
  | list => (.listed (keeping.toList (kept n)), kept)
  | get id => (.found (keeping.get? (kept n) id), kept)
  | named name => (.found (keeping.named? (kept n) name), kept)
  | require name =>
    match keeping.require (kept n) name with
    | .ok member => (.found (some member), kept)
    | .error e => (.failed e, kept)
  | contains id => (.truth (keeping.contains (kept n) id), kept)
  | containsName name => (.truth (keeping.containsName (kept n) name), kept)
  | union other into =>
    match keeping.union (kept n) (kept other) with
    | .ok made => (.done, update kept into made)
    | .error e => (.failed e, kept)
  | inter other into => (.done, update kept into (keeping.inter (kept n) (kept other)))
  | diff other into => (.done, update kept into (keeping.diff (kept n) (kept other)))
  | same other => (.truth (keeping.sameMembers (kept n) (kept other)), kept)

/-- Carries out commands, each on the set kept under its number; all sets are empty at first. -/
def runAll (commands : List (Nat × Command α)) : List (Reply α) × (Nat → S) :=
  commands.foldl (fun (replies, kept) (n, command) =>
    let (reply, later) := command.run keeping kept n
    (replies ++ [reply], later)) ([], fun _ => keeping.empty)

end Roster.Command

/-- Each roster agrees with its indexes and has the members of the list under its number. -/
def Represents {α : Type} [Named α] (rosters : Nat → Roster α) (lists : Nat → List α) : Prop :=
  ∀ n, (rosters n).Agrees ∧ (rosters n).toList = lists n

section

variable {α : Type} [Named α] {rosters : Nat → Roster α} {lists : Nat → List α}
  (represents : Represents rosters lists)
include represents

open Function (update)

theorem Represents.update {n : Nat} {roster : Roster α} {members : List α} (agrees : roster.Agrees)
    (same : roster.toList = members) : Represents (update rosters n roster) (update lists n members) := by
  intro k
  by_cases here : k = n
  · subst here
    simpa using ⟨agrees, same⟩
  · simpa [here] using represents k

/-- A command is answered alike on both sides, and the rosters remain those of the lists. -/
theorem Roster.Command.run_refines (n : Nat) (command : Roster.Command α) :
    (command.run (Roster.keeping α) rosters n).1 = (command.run (Listing.keeping α) lists n).1 ∧
      Represents (command.run (Roster.keeping α) rosters n).2
        (command.run (Listing.keeping α) lists n).2 := by
  -- The lists are what the rosters read out, so what an operation does to a list is what is to be shown.
  have read : lists = fun k => (rosters k).toList := funext fun k => (represents k).2.symm
  subst read
  have agrees : (rosters n).Agrees := (represents n).1
  cases command with
  | make members =>
    obtain ⟨kept, listed⟩ := Roster.Agrees.ofList_eq members
    simp only [run, Roster.keeping, Listing.keeping, ← listed]
    cases made : Roster.ofList members with
    | error e => exact ⟨rfl, represents⟩
    | ok roster => exact ⟨rfl, represents.update (kept roster made) rfl⟩
  | add member =>
    simp only [run, Roster.keeping, Listing.keeping, ← agrees.add_eq]
    cases added : (rosters n).add member with
    | error e => exact ⟨rfl, represents⟩
    | ok answer => exact ⟨rfl, represents.update (agrees.of_add added) rfl⟩
  | addAll members =>
    obtain ⟨kept, stopped, listed⟩ := agrees.addAll_eq members
    exact ⟨congrArg (Option.elim · Reply.done Reply.failed) stopped, represents.update kept listed⟩
  | remove member =>
    obtain ⟨kept, taken, listed⟩ := agrees.take_eq (Named.record member).id
    exact ⟨congrArg (fun found : Option α => Reply.truth found.isSome) taken, represents.update kept listed⟩
  | take id =>
    obtain ⟨kept, taken, listed⟩ := agrees.take_eq id
    exact ⟨congrArg Reply.found taken, represents.update kept listed⟩
  | takeNamed name =>
    obtain ⟨kept, taken, listed⟩ := agrees.takeNamed_eq name
    exact ⟨congrArg Reply.found taken, represents.update kept listed⟩
  | takeExisting name =>
    obtain ⟨kept, taken, listed⟩ := agrees.takeNamed_eq name
    exact ⟨congrArg (Option.elim · (Reply.failed (.notInSet name)) (Reply.found <| some ·)) taken,
      represents.update kept listed⟩
  | clear => exact ⟨rfl, represents.update Roster.Agrees.empty rfl⟩
  | list => exact ⟨rfl, represents⟩
  | get id => exact ⟨congrArg Reply.found (agrees.get?_eq id), represents⟩
  | named name => exact ⟨congrArg Reply.found (agrees.named?_eq name), represents⟩
  | require name =>
    simp only [run, Roster.keeping, Listing.keeping, agrees.require_eq]
    cases Listing.require (rosters n).toList name with
    | error e => exact ⟨rfl, represents⟩
    | ok member => exact ⟨rfl, represents⟩
  | contains id => exact ⟨congrArg Reply.truth (agrees.contains_eq id), represents⟩
  | containsName name => exact ⟨congrArg Reply.truth (agrees.containsName_eq name), represents⟩
  | union other into =>
    obtain ⟨kept, listed⟩ := agrees.union_eq (represents other).1
    simp only [run, Roster.keeping, Listing.keeping, ← listed]
    cases made : (rosters n).union (rosters other) with
    | error e => exact ⟨rfl, represents⟩
    | ok joined => exact ⟨rfl, represents.update (kept joined made) rfl⟩
  | inter other into =>
    exact ⟨rfl, represents.update (agrees.filter _) (Roster.Agrees.inter_eq (represents other).1)⟩
  | diff other into =>
    exact ⟨rfl, represents.update (agrees.filter _) (Roster.Agrees.diff_eq (represents other).1)⟩
  | same other =>
    exact ⟨congrArg Reply.truth (agrees.sameMembers_eq (represents other).1), represents⟩

end

theorem Roster.Command.runAll_refines {α : Type} [Named α] (commands : List (Nat × Roster.Command α)) :
    (runAll (Roster.keeping α) commands).1 = (runAll (Listing.keeping α) commands).1 ∧
      Represents (runAll (Roster.keeping α) commands).2 (runAll (Listing.keeping α) commands).2 := by
  induction commands using List.reverseRecOn with
  | nil => exact ⟨rfl, fun _ => ⟨Roster.Agrees.empty, rfl⟩⟩
  | append_singleton commands last ih =>
    obtain ⟨n, command⟩ := last
    obtain ⟨replies, represents⟩ := ih
    obtain ⟨reply, later⟩ := command.run_refines represents n
    have step : ∀ {S : Type} (keeping : Keeping α S), runAll keeping (commands ++ [(n, command)]) =
        ((runAll keeping commands).1 ++ [(command.run keeping (runAll keeping commands).2 n).1],
          (command.run keeping (runAll keeping commands).2 n).2) := by
      intro S keeping
      unfold runAll
      rw [List.foldl_append]
      rfl
    rw [step, step, replies, reply]
    exact ⟨rfl, later⟩

/-- What a roster holds: a list in which no two members share an identity or a name, and two indexes that
lead to the places of the members and to nothing else. -/
structure Roster.Holds {α : Type} [Named α] (roster : Roster α) (members : List α) : Prop where
  toList : roster.toList = members
  ids : (members.map fun member => (Named.record member).id).Nodup
  keys : (members.map fun member => (Named.record member).key).Nodup
  byId : ∀ id place, roster.byId[id]? = some place ↔
    ∃ member, members[place]? = some member ∧ (Named.record member).id = id
  byName : ∀ key place, roster.byName[key]? = some place ↔
    ∃ member, members[place]? = some member ∧ (Named.record member).key = key

/-- Whatever is done with rosters, and in whatever order, is done as if they were lists. -/
theorem Roster.Command.rosters_refine_lists {α : Type} [Named α] (commands : List (Nat × Roster.Command α)) :
    (runAll (Roster.keeping α) commands).1 = (runAll (Listing.keeping α) commands).1 ∧
      ∀ n, ((runAll (Roster.keeping α) commands).2 n).Holds
        ((runAll (Listing.keeping α) commands).2 n) := by
  obtain ⟨replies, represents⟩ := runAll_refines commands
  refine ⟨replies, fun n => ?_⟩
  obtain ⟨agrees, same⟩ := represents n
  rw [← same]
  exact ⟨rfl, agrees.ids_nodup, agrees.keys_nodup, agrees.byId, agrees.byName⟩

end Entitlement
