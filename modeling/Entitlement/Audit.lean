import Entitlement.Json
import Entitlement.Record

/-!
Audit events: what a service did to the graph and who logged in. Texts that come from callers are cut,
so that one event stays short.
-/

namespace Entitlement

inductive AuditLevel where
  | debug | info | warn
deriving DecidableEq

def AuditLevel.text : AuditLevel → String
  | debug => "DEBUG"
  | info => "INFO"
  | warn => "WARN"

inductive EntityChange where
  | created | renamed | removed | passwordChanged
deriving DecidableEq

def EntityChange.text : EntityChange → String
  | created => "created"
  | renamed => "renamed"
  | removed => "removed"
  | passwordChanged => "password_changed"

inductive SessionChange where
  | login | logout | invalidated | expired | refreshed
deriving DecidableEq

def SessionChange.text : SessionChange → String
  | login => "login"
  | logout => "logout"
  | invalidated => "invalidated"
  | expired => "expired"
  | refreshed => "refreshed"

inductive AuditEvent where
  | granted (model : Model) (relation : Relation) (subject : String) (isNew : Bool)
  | revoked (model : Model) (relation : Relation) (subject : String) (wasThere : Bool)
  | allRevoked (model : Model) (kind : Kind) (name : String) (count : Nat)
  | entity (change : EntityChange) (kind : Kind) (name : String)
  | authentication (user : String) (success : Bool)
  | session (change : SessionChange) (user : String) (sessions : Nat)
deriving DecidableEq

namespace AuditEvent

/-- The most characters an event keeps of a text. -/
def textLimit : Nat := 200

def cut (s : String) : Json := .text (String.ofList (s.toList.take textLimit))

def level : AuditEvent → AuditLevel
  | granted _ _ _ changed | revoked _ _ _ changed => if changed then .info else .debug
  | authentication _ success => if success then .info else .warn
  | allRevoked .. | entity .. | session .. => .info

def message : AuditEvent → String
  | granted _ _ _ isNew => if isNew then "Grant applied" else "Grant already present"
  | revoked _ _ _ wasThere => if wasThere then "Grant revoked" else "Nothing to revoke"
  | allRevoked .. => "All grants revoked"
  | entity change _ _ => "Entity " ++ change.text
  | authentication _ success => if success then "Authentication success" else "Authentication failure"
  | session change _ _ => "Session " ++ change.text

def fields : AuditEvent → List (String × Json)
  | granted model relation subject _ | revoked model relation subject _ =>
    [("model", .text model.text), ("relation", .text relation.label), ("subject", cut subject)]
  | allRevoked model kind name count =>
    [("model", .text model.text), ("kind", .text kind.text), ("name", cut name), ("removed", .number count)]
  | entity change kind name => [("action", .text change.text), ("kind", .text kind.text), ("name", cut name)]
  | authentication user success =>
    ("user", cut user) :: if success then [] else [("details", cut "password mismatch")]
  | session change user sessions =>
    [("action", .text change.text), ("user", cut user), ("sessions", .number sessions)]

def json (event : AuditEvent) : Json :=
  .object <| [("level", .text event.level.text), ("message", .text event.message)] ++ event.fields

end AuditEvent

end Entitlement
