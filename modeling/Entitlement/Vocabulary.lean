import Entitlement.Text

/-!
The closed vocabularies: kinds of entity, authorization models and ways to check a password. Each
value has one spelling. A word is read without regard to the case of ASCII letters.
-/

namespace Entitlement

class Vocabulary (α : Type) where
  all : List α
  text : α → String
  noun : String

namespace Vocabulary

def spelt? {α : Type} [Vocabulary α] (word : String) : Option α :=
  (all : List α).find? fun value => text value == word

/-- The value a word names; a refusal repeats the word as it was given. -/
def read {α : Type} [Vocabulary α] (word : String) : Except String α :=
  match spelt? (Text.asciiLower word) with
  | some value => .ok value
  | none => .error ("Invalid " ++ noun α ++ ": " ++ word)

end Vocabulary

inductive Kind where
  | user | group | role | permission
deriving DecidableEq

namespace Kind

def all : List Kind := [.user, .group, .role, .permission]

def text : Kind → String
  | .user => "user"
  | .group => "group"
  | .role => "role"
  | .permission => "permission"

instance : Vocabulary Kind := ⟨all, text, "entity kind"⟩

end Kind

/-- How grants are arranged, chosen once for a service. -/
inductive Model where
  /-- Users belong to groups, and a group is a permission. -/
  | basic
  /-- Users hold roles directly, through groups and by delegation; roles own permissions. -/
  | dynamic
  /-- Users hold roles within groups. -/
  | turbine
deriving DecidableEq

namespace Model

def text : Model → String
  | .basic => "basic"
  | .dynamic => "dynamic"
  | .turbine => "turbine"

def title : Model → String
  | .basic => "Basic"
  | .dynamic => "Dynamic"
  | .turbine => "Turbine"

instance : Vocabulary Model := ⟨[.basic, .dynamic, .turbine], text, "model"⟩

instance : Inhabited Model := ⟨.dynamic⟩

end Model

/-- How a presented password is checked against the stored one. -/
inductive Authenticator where
  | noop | textMatch | argon2
deriving DecidableEq

namespace Authenticator

def text : Authenticator → String
  | .noop => "noop"
  | .textMatch => "text_match"
  | .argon2 => "argon2"

def title : Authenticator → String
  | .noop => "Noop"
  | .textMatch => "TextMatch"
  | .argon2 => "Argon2"

instance : Vocabulary Authenticator := ⟨[.noop, .textMatch, .argon2], text, "authenticator"⟩

instance : Inhabited Authenticator := ⟨.textMatch⟩

end Authenticator

end Entitlement
