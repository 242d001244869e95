import Entitlement.Documents
import Entitlement.Login
import Entitlement.Managers
import Entitlement.Seed.Apply

/-!
A service: settings that stay the same, and a state that its actions change. It is started over an
empty store, and from a configuration with the seed that the configuration names.
-/

namespace Entitlement

structure Service where
  settings : Settings
  state : State

namespace Service

/-- A service in a given state, if its settings are valid. -/
def start (settings : Settings) (state : State) : Except Error Service := do
  settings.validate
  return { settings, state }

/-- Lets an action run; what it changed stays changed even if it fails. -/
def run {α : Type} (service : Service) (action : Action α) (outage : Outage := Outage.never) :
    Except Error α × Service :=
  let (result, state) := action.run { settings := service.settings, outage } service.state
  (result, { service with state })

def after {α : Type} (service : Service) (action : Action α) : Except Error Service :=
  let (result, next) := service.run action
  result.map fun _ => next

/-- Starts the service of a configuration and applies the seed. -/
def ofConfig {m : Type → Type} [Monad m] (readFile : ReadFile m) (config : Config) (state : State) :
    ExceptT Error m Service := do
  let service ← liftExcept (start config.security state)
  match config.security.seed with
  | none => return service
  | some path => liftExcept (service.after (← Seed.ofFile readFile path).apply)
where
  liftExcept {α : Type} (result : Except Error α) : ExceptT Error m α := ExceptT.mk (pure result)

def describe (service : Service) : String :=
  "SecurityService \x7b config: " ++ service.settings.describe ++ ", sessions: "
    ++ toString service.state.sessions.size ++ " \x7d"

def describeModel (service : Service) : String :=
  let title := service.settings.model.title
  let core := "core: ManagerCore \x7b model: " ++ title ++ ", .. \x7d"
  let globalGroup := match service.settings.model with
    | .turbine => ", global_group: " ++ Text.quoted service.settings.globalGroup
    | .basic | .dynamic => ""
  title ++ "(" ++ title ++ "ModelManager \x7b " ++ core ++ globalGroup ++ " \x7d)"

end Service

end Entitlement
