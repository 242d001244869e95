import Entitlement.Json
import Entitlement.Record

/-!
The settings of a service: its model, the name of the global group, how passwords are checked and a
seed to start from.
-/

namespace Entitlement

structure Settings where
  model : Model := default
  globalGroup : String := "global"
  authenticator : Authenticator := default
  seed : Option String := none
deriving DecidableEq

structure Config where
  security : Settings := {}
deriving DecidableEq

namespace Settings

/-- The global group has a name, with no white space around it. -/
def check (settings : Settings) : Except SettingFault Unit :=
  let trimmed := Text.trim settings.globalGroup
  if trimmed.isEmpty then .error .emptyGlobalGroup
  else if trimmed ≠ settings.globalGroup then .error .paddedGlobalGroup
  else .ok ()

def validate (settings : Settings) : Except Error Unit :=
  settings.check.mapError .configInvalid

/-- Every setting of `other` that differs from its default, and the rest of `base`. -/
def merge (base other : Settings) : Settings where
  model := if other.model ≠ default then other.model else base.model
  globalGroup := if other.globalGroup ≠ ({} : Settings).globalGroup then other.globalGroup else base.globalGroup
  authenticator := if other.authenticator ≠ default then other.authenticator else base.authenticator
  seed := other.seed.or base.seed

def describe (settings : Settings) : String :=
  let seed := match settings.seed with
    | some path => "Some(" ++ Text.quoted path ++ ")"
    | none => "None"
  "SecurityConfig \x7b model: " ++ settings.model.title
    ++ ", global_group: " ++ Text.quoted settings.globalGroup
    ++ ", authenticator: " ++ settings.authenticator.title ++ ", seed: " ++ seed ++ " \x7d"

def json (settings : Settings) : Json :=
  .object <| [("model", .text settings.model.text), ("global_group", .text settings.globalGroup),
    ("authenticator", .text settings.authenticator.text)]
    ++ (settings.seed.map fun path => ("seed", .text path)).toList

end Settings

namespace Config

def validate (config : Config) : Except Error Unit := config.security.validate

def merge (base other : Config) : Config := ⟨base.security.merge other.security⟩

def json (config : Config) : Json := .object [("security", config.security.json)]

end Config

end Entitlement
