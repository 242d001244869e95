import Entitlement.Json
import Entitlement.Record
import Entitlement.Seed.Line

/-!
Seeds: entities and grants to start a graph with, all given by name.
-/

namespace Entitlement

structure SeedUser where
  name : String
  password : String := ""
deriving DecidableEq

structure Seed where
  users : List SeedUser := []
  groups : List String := []
  roles : List String := []
  permissions : List String := []
  grants : List GrantLine := []
deriving DecidableEq

/-- A seed may grant what the model grants, and under Turbine also a role to a user as such. -/
def Relation.seedable (relation : Relation) (model : Model) : Bool :=
  relation.belongsTo model || (model == .turbine && relation == .userRole)

namespace Seed

def listed (seed : Seed) : List (Kind × String) :=
  seed.users.map (fun user => (.user, user.name)) ++ seed.groups.map (.group, ·)
    ++ seed.roles.map (.role, ·) ++ seed.permissions.map (.permission, ·)

def edgeOf (line : GrantLine) : Except Error (Edge String) :=
  match line.edge? with
  | some edge => .ok edge
  | none => .error (.unrecognisedGrant line)

def edges (seed : Seed) : Except Error (List (Edge String)) := seed.grants.mapM edgeOf

def checkNames (seed : Seed) : Except Error Unit :=
  seed.listed.forM fun (kind, name) => if Text.blank name then .error (.blankSeedName kind) else .ok ()

/-- Refuses blank names, then lines that grant no relation. -/
def validate (seed : Seed) : Except Error Unit := do
  seed.checkNames
  discard seed.edges

def checkModel (model : Model) (edge : Edge String) : Except Error Unit :=
  if edge.relation.seedable model then .ok () else .error (.unsupportedGrant edge.relation model)

/-- `validate`, and then refuses grants that the model does not know. -/
def validateFor (seed : Seed) (model : Model) : Except Error Unit := do
  seed.validate
  (← seed.edges).forM (checkModel model)

end Seed

def SeedUser.json (user : SeedUser) : Json :=
  .object [("name", .text user.name), ("password", .text user.password)]

def GrantLine.json (line : GrantLine) : Json :=
  .object <| line.fields.filterMap fun (name, value) => value.map fun value => (name, .text value)

def Seed.json (seed : Seed) : Json :=
  .object [("users", .list (seed.users.map SeedUser.json)), ("groups", .texts seed.groups),
    ("roles", .texts seed.roles), ("permissions", .texts seed.permissions),
    ("grants", .list (seed.grants.map GrantLine.json))]

end Entitlement
