import Entitlement.Acl

/-!
Sessions and the registry of those that are open. A session holds the user and the access-control
list as they were at the login or at the last refresh.
-/

namespace Entitlement

structure Session where
  id : SessionId
  user : User
  acl : Acl
  createdAt : Moment
  refreshedAt : Option Moment := none

/-- The open sessions, in the order in which they were opened; no two share an identity. -/
structure Sessions where
  items : List Session := []

namespace Sessions

def toList (sessions : Sessions) : List Session := sessions.items

def size (sessions : Sessions) : Nat := sessions.items.length

def get? (sessions : Sessions) (id : SessionId) : Option Session := sessions.items.find? (·.id = id)

def contains (sessions : Sessions) (id : SessionId) : Bool := sessions.items.any (·.id = id)

theorem contains_eq_isSome_get? (sessions : Sessions) (id : SessionId) :
    sessions.contains id = (sessions.get? id).isSome := by
  rw [contains, get?, List.isSome_find?]

/-- Puts a session in the place of the open one with its identity, if there is one. -/
def replace (sessions : Sessions) (session : Session) : Sessions :=
  ⟨sessions.items.map fun held => if held.id = session.id then session else held⟩

def insert (sessions : Sessions) (session : Session) : Sessions :=
  if sessions.contains session.id then sessions.replace session else ⟨sessions.items ++ [session]⟩

def erase (sessions : Sessions) (id : SessionId) : Sessions := ⟨sessions.items.filter (·.id ≠ id)⟩

theorem toList_insert_of_new {sessions : Sessions} {session : Session}
    (absent : sessions.contains session.id = false) :
    (sessions.insert session).toList = sessions.toList ++ [session] := by
  simp [insert, toList, absent]

def isOf (name : String) (session : Session) : Bool := session.user.key == nameKey name

/-- Closes the sessions whose user had that name. -/
def eraseNamed (sessions : Sessions) (name : String) : Sessions :=
  ⟨sessions.items.filter (! isOf name ·)⟩

def countFor (sessions : Sessions) (user : EntityId) : Nat :=
  sessions.items.countP (·.user.id = user)

end Sessions

end Entitlement
