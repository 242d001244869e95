import Entitlement.Error
import Entitlement.Text.LetterCase

/-!
Records and names. A record is the identity and the name of an entity, all that is stored of it apart
from its edges. Names are compared by their key, which forgets case.
-/

namespace Entitlement

def nameKey (name : String) : String := Text.lower name

def checkName (name : String) : Except Error Unit :=
  if Text.blank name then .error .blankName else .ok ()

def anonymousName : String := "anon"

/-- No name at all, or the anonymous one in any case. -/
def isAnonymous (name : String) : Bool := name.isEmpty || Text.sameAsciiLetters name anonymousName

@[ext]
structure Record where
  id : EntityId
  name : String
deriving DecidableEq

namespace Record

def key (record : Record) : String := nameKey record.name

def text (record : Record) : String := record.name ++ " -> " ++ record.id.text

end Record

class Named (α : Type) where
  record : α → Record

instance : Named Record := ⟨id⟩

structure Endpoint extends Record where
  kind : Kind
deriving DecidableEq

/-- The endpoint as messages name it, such as `role 'admin'`. -/
def Endpoint.describe (endpoint : Endpoint) : String :=
  endpoint.kind.text ++ " '" ++ endpoint.name ++ "'"

/-- The names of the endpoints of an edge, joined by arrows. -/
def Edge.subject (edge : Edge Record) : String :=
  String.intercalate " -> " (edge.endpoints.map (·.2.name))

def Edge.ids (edge : Edge Record) : Edge EntityId := edge.map Record.id

structure Assignment where
  user : Record
  group : Record
  role : Record
deriving DecidableEq

namespace Assignment

/-- Assignments are told apart by the identities of their parts. -/
def ids (a : Assignment) : EntityId × EntityId × EntityId := (a.user.id, a.group.id, a.role.id)

instance : BEq Assignment := ⟨fun a b => a.ids == b.ids⟩

def inGroup (a : Assignment) (group : String) : Bool := a.group.key == nameKey group

def text (a : Assignment) : String := a.user.name ++ " in " ++ a.group.name ++ " as " ++ a.role.name

end Assignment

end Entitlement
