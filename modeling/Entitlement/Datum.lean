import Entitlement.Json
import Entitlement.Seed
import Entitlement.Settings
import Entitlement.Yaml.Node

/-!
Documents before it is known what they stand for. JSON and YAML say the same things in different
ways: what a scalar reads as depends on what is looked for, so a datum holds every reading.
-/

namespace Entitlement

/-- What a scalar reads as where a text, a text that may be left out, or a word of a vocabulary is
looked for. -/
structure Reading where
  text : Option String := none
  /-- `none` refuses, `some none` is nothing at all. -/
  optional : Option (Option String) := none
  word : Option String := none
  /-- The scalar stands for a list or a table without entries. -/
  vacant : Bool := false

inductive Datum where
  | scalar (reading : Reading)
  /-- A list; `positional` says that it may stand for a table with its fields in order. -/
  | list (positional : Bool) (items : List Datum)
  /-- A table. Keys that are no texts are refused; `word` is what the table names by itself. -/
  | table (word : Option String) (fields : List (Option String × Datum))

namespace Datum

def refused : Datum := scalar {}

def nothing : Datum := scalar { optional := some none, vacant := true }

/-- The word that a table with a single empty field names. -/
def soleWord : List (String × Json) → Option String
  | [(name, .null)] => some name
  | _ => none

mutual

def ofJson : Json → Datum
  | .null => scalar { optional := some none }
  | .bool _ | .number _ => refused
  | .text s => scalar { text := some s, optional := some (some s), word := some s }
  | .list items => list true (ofJsonItems items)
  | .object fields => table (soleWord fields) (ofJsonFields fields)

def ofJsonItems : List Json → List Datum
  | [] => []
  | item :: rest => ofJson item :: ofJsonItems rest

def ofJsonFields : List (String × Json) → List (Option String × Datum)
  | [] => []
  | (name, value) :: rest => (some name, ofJson value) :: ofJsonFields rest

end

def text? : Datum → Option String
  | scalar reading => reading.text
  | list .. | table .. => none

/-- The plain scalars of YAML that stand for nothing. -/
def isNullText (s : String) : Bool := ["null", "Null", "NULL", "~"].contains s

/-- How a YAML scalar reads where a text may be left out. -/
def optionalReading (tag : Option Yaml.Tag) (plain : Bool) (s : String) : Option (Option String) :=
  if !plain then some (some s)
  else
    match tag with
    | none => some (if s.isEmpty || isNullText s then none else some s)
    | some tag =>
      if tag ≠ .null then some (some s) else if isNullText s then some none else none

/-- The word a YAML scalar names: its text, or its own tag if it has one and nothing else. -/
def wordReading (tag : Option Yaml.Tag) (plain : Bool) (s : String) : Option String :=
  match tag.bind Yaml.Tag.word? with
  | none => some s
  | some word => if plain && (s.isEmpty || isNullText s) then some word else none

mutual

/-- The datum of a node, where aliases stand for the given data. -/
def ofNode (aliased : Array Datum) : Yaml.Node → Datum
  | .scalar tag plain s =>
    scalar {
      text := some s
      optional := optionalReading tag plain s
      word := wordReading tag plain s
      vacant := plain && s.isEmpty }
  | .sequence _ items => list false (ofNodes aliased items)
  | .mapping _ entries => table none (ofEntries aliased entries)
  | .alias number => aliased[number]?.getD refused

def ofNodes (aliased : Array Datum) : List Yaml.Node → List Datum
  | [] => []
  | node :: rest => ofNode aliased node :: ofNodes aliased rest

def ofEntries (aliased : Array Datum) : List (Yaml.Node × Yaml.Node) → List (Option String × Datum)
  | [] => []
  | (key, value) :: rest => ((ofNode aliased key).text?, ofNode aliased value) :: ofEntries aliased rest

end

/-- What the aliases of a document stand for, where at most `depth` of them are followed one inside
another. -/
def ofAnchored (document : Yaml.Document) : Nat → Array Datum
  | 0 => #[]
  | depth + 1 => document.anchored.map (ofNode (ofAnchored document depth))

/-- The datum of a document. Nothing is read from further in than a text within a table within a
list, so that aliases are followed three deep. -/
def ofDocument (document : Yaml.Document) : Datum := ofNode (ofAnchored document 3) document.root

def ofYamlText? (text : String) : Option Datum :=
  (Yaml.Document.ofText? text).map fun document => (document.map ofDocument).getD nothing

/-- A text, or nothing; `none` if it is neither. -/
def optional? : Datum → Option (Option String)
  | scalar reading => reading.optional
  | list .. | table .. => none

def word? : Datum → Option String
  | scalar reading => reading.word
  | table word _ => word
  | list .. => none

def value? {α : Type} [Vocabulary α] (datum : Datum) : Option α := datum.word?.bind Vocabulary.spelt?

def items? {α : Type} (read : Datum → Option α) : Datum → Option (List α)
  | list _ items => items.mapM read
  | scalar reading => if reading.vacant then some [] else none
  | table .. => none

/-- Collects the known fields of a table. No field is given twice, and unknown ones are refused where
`strict` holds. -/
def collect (known : List String) (strict : Bool) :
    List (Option String × Datum) → List (String × Datum) → Option (List (String × Datum))
  | [], found => some found
  | (none, _) :: _, _ => none
  | (some name, datum) :: rest, found =>
    if known.contains name then
      if found.any (·.1 == name) then none else collect known strict rest ((name, datum) :: found)
    else if strict then none
    else collect known strict rest found

def fields? (known : List String) (strict : Bool) : Datum → Option (List (String × Datum))
  | table _ fields => collect known strict fields []
  | list true items => if items.length ≤ known.length then some (known.zip items) else none
  | list false _ => none
  | scalar reading => if reading.vacant then some [] else none

/-- Reads a field of a table; one that is left out has the given value. -/
def field {α : Type} (fields : List (String × Datum)) (name : String) (missing : Option α)
    (read : Datum → Option α) : Option α :=
  match fields.find? (·.1 == name) with
  | some (_, datum) => read datum
  | none => missing

end Datum

open Datum

def Settings.ofDatum? (datum : Datum) : Option Settings := do
  let fields ← datum.fields? ["model", "global_group", "authenticator", "seed"] false
  let usual : Settings := {}
  return {
    model := ← field fields "model" (some usual.model) value?
    globalGroup := ← field fields "global_group" (some usual.globalGroup) text?
    authenticator := ← field fields "authenticator" (some usual.authenticator) value?
    seed := ← field fields "seed" (some none) optional? }

def Config.ofDatum? (datum : Datum) : Option Config := do
  let fields ← datum.fields? ["security"] false
  return { security := ← field fields "security" (some {}) Settings.ofDatum? }

def SeedUser.ofDatum? (datum : Datum) : Option SeedUser := do
  let fields ← datum.fields? ["name", "password"] true
  return {
    name := ← field fields "name" none text?
    password := ← field fields "password" (some "") text? }

def GrantLine.ofDatum? (datum : Datum) : Option GrantLine := do
  let fields ← datum.fields? ["user", "group", "role", "permission", "delegator", "delegatee"] true
  let name (part : String) : Option (Option String) := field fields part (some none) optional?
  return {
    user := ← name "user"
    group := ← name "group"
    role := ← name "role"
    permission := ← name "permission"
    delegator := ← name "delegator"
    delegatee := ← name "delegatee" }

def Seed.ofDatum? (datum : Datum) : Option Seed := do
  let fields ← datum.fields? ["users", "groups", "roles", "permissions", "grants"] true
  let names (part : String) : Option (List String) := field fields part (some []) (items? text?)
  return {
    users := ← field fields "users" (some []) (items? SeedUser.ofDatum?)
    groups := ← names "groups"
    roles := ← names "roles"
    permissions := ← names "permissions"
    grants := ← field fields "grants" (some []) (items? GrantLine.ofDatum?) }

def Relation.parts : Relation → List String
  | .userGroup => ["user", "group"]
  | .userRole => ["user", "role"]
  | .groupRole => ["group", "role"]
  | .rolePermission => ["role", "permission"]
  | .userGroupRole => ["user", "group", "role"]
  | .delegation => ["delegator", "delegatee"]

def Relation.all : List Relation :=
  [.userGroup, .userRole, .groupRole, .rolePermission, .userGroupRole, .delegation]

def Relation.edge? {ν : Type} : Relation → List ν → Option (Edge ν)
  | .userGroup, [user, group] => some (.userGroup user group)
  | .userRole, [user, role] => some (.userRole user role)
  | .groupRole, [group, role] => some (.groupRole group role)
  | .rolePermission, [role, permission] => some (.rolePermission role permission)
  | .userGroupRole, [user, group, role] => some (.userGroupRole user group role)
  | .delegation, [delegator, delegatee] => some (.delegation delegator delegatee)
  | _, _ => none

def idOf? (datum : Datum) : Option EntityId := datum.text?.bind EntityId.read?

/-- An edge is a table with its label as `type` and its endpoints by name, or a list of the label and
the endpoints in order. -/
def Edge.ofDatum? : Datum → Option (Edge EntityId)
  | .table _ fields => do
    let (_, label) ← fields.find? (·.1 == some "type")
    let relation ← Relation.all.find? fun relation => label.text? == some relation.label
    let fields ← (Datum.table none (fields.filter (·.1 != some "type"))).fields? relation.parts false
    relation.edge? (← relation.parts.mapM fun part => field fields part none idOf?)
  | .list true (label :: ids) => do
    let relation ← Relation.all.find? fun relation => label.text? == some relation.label
    relation.edge? (← ids.mapM idOf?)
  | .list .. | .scalar _ => none

def Edge.json (edge : Edge EntityId) : Json :=
  let ids := edge.endpoints.map fun (_, id) => Json.text id.text
  .object (("type", .text edge.label) :: edge.relation.parts.zip ids)

end Entitlement
