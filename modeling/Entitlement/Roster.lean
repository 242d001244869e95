import Entitlement.Record

/-!
Rosters: members in the order in which they joined, where no two members share an identity or the key
of a name. Two indexes lead from an identity and from a key to the place of the member.
-/

namespace Entitlement

open Std (TreeMap)

/-- The place of each member, under what `key` makes of it. -/
def places {α κ : Type} [Ord κ] (key : α → κ) (members : Array α) : TreeMap κ Nat :=
  members.toList.zipIdx.foldl (fun index (member, place) => index.insert (key member) place) {}

structure Roster (α : Type) where
  members : Array α := #[]
  byId : TreeMap EntityId Nat := {}
  byName : TreeMap String Nat := {}

namespace Roster

variable {α : Type}

instance : Inhabited (Roster α) := ⟨{}⟩

def toList (roster : Roster α) : List α := roster.members.toList

def size (roster : Roster α) : Nat := roster.members.size

def isEmpty (roster : Roster α) : Bool := roster.members.isEmpty

def clear (_ : Roster α) : Roster α := {}

def memberAt? (roster : Roster α) (place : Option Nat) : Option α := place.bind (roster.members[·]?)

def get? (roster : Roster α) (id : EntityId) : Option α := roster.memberAt? roster.byId[id]?

def named? (roster : Roster α) (name : String) : Option α := roster.memberAt? roster.byName[nameKey name]?

def contains (roster : Roster α) (id : EntityId) : Bool := roster.byId.contains id

def containsName (roster : Roster α) (name : String) : Bool := roster.byName.contains (nameKey name)

def require (roster : Roster α) (name : String) : Except Error α :=
  match roster.named? name with
  | some member => .ok member
  | none => .error (.notInSet name)

section Named

variable [Named α]

def ids (roster : Roster α) : List EntityId := roster.toList.map fun member => (Named.record member).id

def names (roster : Roster α) : List String := roster.toList.map fun member => (Named.record member).name

def ofDistinct (members : Array α) : Roster α where
  members
  byId := places (fun member => (Named.record member).id) members
  byName := places (fun member => (Named.record member).key) members

@[simp]
theorem toList_ofDistinct (members : Array α) : (ofDistinct members).toList = members.toList := rfl

/-- Appends a member and tells whether it is new: one whose identity is there already is left as it
is. A new member may not take a name that another one holds. -/
def add (roster : Roster α) (member : α) : Except Error (Bool × Roster α) :=
  let record := Named.record member
  if roster.byId.contains record.id then .ok (false, roster)
  else
    match roster.named? record.name with
    | some held => .error (.collision record.name (Named.record held).name)
    | none =>
      let place := roster.members.size
      .ok (true, {
        members := roster.members.push member
        byId := roster.byId.insert record.id place
        byName := roster.byName.insert record.key place })

/-- Members never move: `add` leaves the list as it was or puts the new member at its end. -/
theorem toList_add {roster grown : Roster α} {member : α} {isNew : Bool}
    (added : roster.add member = .ok (isNew, grown)) :
    grown.toList = if isNew then roster.toList ++ [member] else roster.toList := by
  simp only [add] at added
  split at added
  · cases added
    rfl
  · split at added
    · cases added
    · cases added
      simp [toList]

def join (roster : Roster α) (member : α) : Except Error (Roster α) := (·.2) <$> roster.add member

/-- Adds members up to the first collision; the error comes with the members added before it. -/
def addAll (roster : Roster α) : List α → Option Error × Roster α
  | [] => (none, roster)
  | member :: rest =>
    match roster.add member with
    | .ok (_, grown) => grown.addAll rest
    | .error e => (some e, roster)

/-- Adds every member, or none if there is a collision. -/
def joinAll (roster : Roster α) (members : List α) : Except Error (Roster α) := members.foldlM join roster

def ofList (members : List α) : Except Error (Roster α) := joinAll {} members

/-- Takes out the member at a place; those behind it move up. -/
def eraseAt (roster : Roster α) (place : Nat) : Roster α := ofDistinct (roster.members.eraseIdxIfInBounds place)

def takeAt (roster : Roster α) (place : Option Nat) : Option α × Roster α :=
  match place with
  | some place => (roster.members[place]?, roster.eraseAt place)
  | none => (none, roster)

/-- Takes out the member with this identity and hands it back. -/
def take (roster : Roster α) (id : EntityId) : Option α × Roster α := roster.takeAt roster.byId[id]?

def takeNamed (roster : Roster α) (name : String) : Option α × Roster α :=
  roster.takeAt roster.byName[nameKey name]?

def erase (roster : Roster α) (id : EntityId) : Roster α := (roster.take id).2

/-- The roster has a member with the same identity and the same key. -/
def holds (roster : Roster α) (member : α) : Bool :=
  match roster.get? (Named.record member).id with
  | some held => (Named.record held).key == (Named.record member).key
  | none => false

def filter (roster : Roster α) (keep : α → Bool) : Roster α := ofDistinct (roster.members.filter keep)

@[simp]
theorem toList_filter (roster : Roster α) (keep : α → Bool) :
    (roster.filter keep).toList = roster.toList.filter keep := by
  rw [filter, toList_ofDistinct, Array.toList_filter, toList]

/-- The members of both; it fails where different members share a name. -/
def union (a b : Roster α) : Except Error (Roster α) := a.joinAll b.toList

def inter (a b : Roster α) : Roster α := a.filter b.holds

def diff (a b : Roster α) : Roster α := a.filter fun member => !b.holds member

/-- The same identities, in whatever order. -/
def sameMembers (a b : Roster α) : Bool :=
  a.size == b.size && a.toList.all fun member => b.contains (Named.record member).id

def text (roster : Roster α) : String :=
  "[" ++ String.intercalate ", " (roster.toList.map fun member => (Named.record member).text) ++ "]"

end Named

end Roster

end Entitlement
