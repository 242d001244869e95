import Mathlib.Data.List.Basic
import Entitlement.Roster

/-!
What each operation on a roster does to the list of its members. The list alone decides every answer:
of a roster that agrees with its indexes nothing else can be seen.
-/

namespace Entitlement

namespace Listing

variable {α : Type} [Named α]

def ids (members : List α) : List EntityId := members.map fun member => (Named.record member).id

def get? (members : List α) (id : EntityId) : Option α :=
  members.find? fun member => (Named.record member).id = id

def named? (members : List α) (name : String) : Option α :=
  members.find? fun member => (Named.record member).key = nameKey name

def require (members : List α) (name : String) : Except Error α :=
  match named? members name with
  | some member => .ok member
  | none => .error (.notInSet name)

/-- Why a member cannot be added: its identity is new, and another member has its name. -/
def refusal? (members : List α) (member : α) : Option Error :=
  if (Named.record member).id ∈ ids members then none
  else (named? members (Named.record member).name).map fun held =>
    .collision (Named.record member).name (Named.record held).name

def add (members : List α) (member : α) : Except Error (Bool × List α) :=
  if (Named.record member).id ∈ ids members then .ok (false, members)
  else
    match refusal? members member with
    | some e => .error e
    | none => .ok (true, members ++ [member])

/-- The members with the given one behind them, if its identity is new. -/
def grow (members : List α) (member : α) : List α :=
  if (Named.record member).id ∈ ids members then members else members ++ [member]

def growAll (members added : List α) : List α := added.foldl grow members

/-- The error at a place of what is to be added, and what has been made of the members before it. -/
def stop? (members added : List α) (place : Nat) : Option (Error × List α) :=
  let before := growAll members (added.take place)
  added[place]?.bind fun member => (refusal? before member).map fun e => (e, before)

/-- What comes before the first collision is added. -/
def addAll (members added : List α) : Option Error × List α :=
  match (List.range added.length).findSome? (stop? members added) with
  | some (e, before) => (some e, before)
  | none => (none, growAll members added)

def ofList (added : List α) : Except Error (List α) :=
  match addAll [] added with
  | (none, members) => .ok members
  | (some e, _) => .error e

def take (members : List α) (id : EntityId) : Option α × List α :=
  (get? members id, members.filter fun member => (Named.record member).id ≠ id)

def takeNamed (members : List α) (name : String) : Option α × List α :=
  (named? members name, members.filter fun member => (Named.record member).key ≠ nameKey name)

/-- There is a member of the same identity and with the same name. -/
def holds (members : List α) (member : α) : Bool :=
  members.any fun held => (Named.record held).id = (Named.record member).id ∧
    (Named.record held).key = (Named.record member).key

/-- The members and then those of `other` with new identities, unless the name of one of these is
taken. -/
def union (members other : List α) : Except Error (List α) :=
  match other.findSome? (refusal? members) with
  | some e => .error e
  | none => .ok (members ++ other.filter fun member => (Named.record member).id ∉ ids members)

def sameMembers (members other : List α) : Bool :=
  (ids members).all (· ∈ ids other) && (ids other).all (· ∈ ids members)

variable {members : List α} {member held : α} {id : EntityId} {name : String} {e : Error}

theorem refusal?_of_mem (present : (Named.record member).id ∈ ids members) :
    refusal? members member = none := if_pos present

theorem refusal?_of_absent (absent : (Named.record member).id ∉ ids members) :
    refusal? members member = (named? members (Named.record member).name).map fun held =>
      .collision (Named.record member).name (Named.record held).name := if_neg absent

theorem findSome?_stop (members : List α) (member : α) (rest : List α) :
    (List.range (member :: rest).length).findSome? (stop? members (member :: rest)) =
      match refusal? members member with
      | some e => some (e, members)
      | none => (List.range rest.length).findSome? (stop? (grow members member) rest) := by
  rw [List.length_cons, List.range_succ_eq_map, List.findSome?_cons, List.findSome?_map]
  have first : stop? members (member :: rest) 0 =
    (refusal? members member).map fun e => (e, members) := rfl
  rw [first]
  cases refusal? members member with
  | some e => rfl
  | none => rfl

/-- A member that is not refused changes only what the next ones are added to. -/
theorem addAll_cons (members : List α) (member : α) (rest : List α) :
    addAll members (member :: rest) =
      match refusal? members member with
      | some e => (some e, members)
      | none => addAll (grow members member) rest := by
  unfold addAll
  rw [findSome?_stop]
  cases refusal? members member with
  | some e => rfl
  | none => rfl

/-- A member that differs from a new one in identity and in name does not keep it out. -/
theorem refusal?_snoc (id : (Named.record held).id ≠ (Named.record member).id)
    (key : (Named.record held).key ≠ (Named.record member).key) :
    refusal? (members ++ [held]) member = refusal? members member := by
  have named : named? (members ++ [held]) (Named.record member).name =
      named? members (Named.record member).name := by
    have other : (Named.record held).key ≠ nameKey (Named.record member).name := key
    unfold named?
    rw [List.find?_append, List.find?_cons_of_neg (by simpa using other), List.find?_nil, Option.or_none]
  unfold refusal?
  simp [ids, named, Ne.symm id]

theorem refusal?_grow (id : (Named.record held).id ≠ (Named.record member).id)
    (key : (Named.record held).key ≠ (Named.record member).key) :
    refusal? (grow members held) member = refusal? members member := by
  unfold grow
  split
  · rfl
  · exact refusal?_snoc id key

theorem mem_ids_grow (other : id ≠ (Named.record member).id) :
    id ∈ ids (grow members member) ↔ id ∈ ids members := by
  unfold grow
  split
  · rfl
  · simp [ids, other]

/-- A member that is not refused takes the place where it would have come to stand anyway. -/
theorem union_cons {rest : List α} (fits : refusal? members member = none)
    (id : ∀ other ∈ rest, (Named.record other).id ≠ (Named.record member).id)
    (key : ∀ other ∈ rest, (Named.record other).key ≠ (Named.record member).key) :
    union members (member :: rest) = union (grow members member) rest := by
  have refused : rest.findSome? (refusal? (grow members member)) = rest.findSome? (refusal? members) := by
    rw [← List.head?_filterMap, ← List.head?_filterMap]
    refine congrArg _ (List.filterMap_congr fun other mem => ?_)
    exact refusal?_grow (id other mem).symm (key other mem).symm
  have new : rest.filter (fun other => (Named.record other).id ∉ ids (grow members member)) =
      rest.filter fun other => (Named.record other).id ∉ ids members := by
    refine List.filter_congr fun other mem => decide_eq_decide.mpr (not_congr ?_)
    exact mem_ids_grow (id other mem)
  unfold union
  rw [List.findSome?_cons, fits, refused, new]
  by_cases present : (Named.record member).id ∈ ids members
  · rw [List.filter_cons_of_neg (by simpa using present), grow, if_pos present]
  · rw [List.filter_cons_of_pos (by simpa using present), grow, if_neg present]
    simp

end Listing

end Entitlement
