import Entitlement.Edge
import Entitlement.Text.Quoted

/-!
One line of the grants of a seed: the names it gives, by the part they play. Which names are present
decides the relation that the line grants.
-/

namespace Entitlement

structure GrantLine where
  user : Option String := none
  group : Option String := none
  role : Option String := none
  permission : Option String := none
  delegator : Option String := none
  delegatee : Option String := none
deriving DecidableEq

namespace GrantLine

/-- The edge between the named entities, if exactly the endpoints of one relation are given. -/
def edge? : GrantLine → Option (Edge String)
  | ⟨some user, some group, some role, none, none, none⟩ => some (.userGroupRole user group role)
  | ⟨some user, some group, none, none, none, none⟩ => some (.userGroup user group)
  | ⟨some user, none, some role, none, none, none⟩ => some (.userRole user role)
  | ⟨none, some group, some role, none, none, none⟩ => some (.groupRole group role)
  | ⟨none, none, some role, some permission, none, none⟩ => some (.rolePermission role permission)
  | ⟨none, none, none, none, some delegator, some delegatee⟩ => some (.delegation delegator delegatee)
  | _ => none

def fields (line : GrantLine) : List (String × Option String) :=
  [("user", line.user), ("group", line.group), ("role", line.role), ("permission", line.permission),
    ("delegator", line.delegator), ("delegatee", line.delegatee)]

def describe (line : GrantLine) : String :=
  let field : String × Option String → String
    | (name, some value) => name ++ ": Some(" ++ Text.quoted value ++ ")"
    | (name, none) => name ++ ": None"
  "SeedGrant \x7b " ++ String.intercalate ", " (line.fields.map field) ++ " \x7d"

end GrantLine

end Entitlement
