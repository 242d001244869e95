import Entitlement.Datum
import Entitlement.Yaml.Write

/-!
Configurations and seeds outside of a service: YAML texts and files, and the variables of an environment.
A configuration is validated before it is used, wherever it comes from.
-/

namespace Entitlement

abbrev Environment := String → Option String

namespace Settings

/-- A value of a vocabulary from a variable; one that is not set leaves the usual value. -/
def readVariable {α : Type} [Vocabulary α] (environment : Environment) (name : String) (usual : α) :
    Except Error α :=
  match environment name with
  | none => .ok usual
  | some word => (Vocabulary.read word).mapError (.badVariable name)

def ofEnvironment (environment : Environment) : Except Error Settings := do
  let usual : Settings := {}
  let model ← readVariable environment "ACLGRAPH_MODEL" usual.model
  let globalGroup := (environment "ACLGRAPH_GLOBAL_GROUP").getD usual.globalGroup
  let authenticator ← readVariable environment "ACLGRAPH_AUTHENTICATOR" usual.authenticator
  return { model, globalGroup, authenticator, seed := environment "ACLGRAPH_SEED" }

def entries (settings : Settings) : List (String × String) :=
  [("model", settings.model.text), ("global_group", settings.globalGroup),
    ("authenticator", settings.authenticator.text)] ++ (settings.seed.map ("seed", ·)).toList

end Settings

namespace Config

def ofYaml (text : String) : Except Error Config :=
  match (Datum.ofYamlText? text).bind Config.ofDatum? with
  | some config => .ok config
  | none => .error .configMalformed

/-- A relative seed lies beside the configuration. -/
def locateSeed (path : String) (config : Config) : Config :=
  { config with security.seed := config.security.seed.map (Path.join (Path.directory path)) }

def ofFileText (path : String) (found : Except FileFault String) : Except Error Config := do
  let config ← ofYaml (← found.mapError .configUnreadable)
  let located := config.locateSeed path
  located.validate
  return located

def ofFile {m : Type → Type} [Monad m] (readFile : ReadFile m) (path : String) : ExceptT Error m Config :=
  ExceptT.mk <| ofFileText path <$> readFile path

def ofEnvironment (environment : Environment) : Except Error Config := do
  let config : Config := { security := ← Settings.ofEnvironment environment }
  config.validate
  return config

/-- One table, with a line for each setting. -/
def yaml (config : Config) : String :=
  let lines := config.security.entries.map fun (name, value) => "  " ++ name ++ ":" ++ Yaml.writeValue 4 value
  "security:\n" ++ String.join lines

end Config

namespace Seed

def ofYaml (text : String) : Except Error Seed :=
  match (Datum.ofYamlText? text).bind Seed.ofDatum? with
  | some seed => .ok seed
  | none => .error .seedMalformed

def ofFileText (path : String) (found : Except FileFault String) : Except Error Seed := do
  ofYaml (← found.mapError (.seedUnreadable path))

def ofFile {m : Type → Type} [Monad m] (readFile : ReadFile m) (path : String) : ExceptT Error m Seed :=
  ExceptT.mk <| ofFileText path <$> readFile path

end Seed

end Entitlement
