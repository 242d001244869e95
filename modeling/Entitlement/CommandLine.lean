import Entitlement.CommandLine.Arguments
import Entitlement.Service

/-!
The command line: it starts a service from a configuration and asks it about one user. The status is 0
for yes, 1 for no and 2 if there is no answer.
-/

namespace Entitlement

namespace CommandLine

/-- What a run leaves behind: its status and what it wrote. -/
structure Outcome where
  status : Nat
  out : String := ""
  err : String := ""
deriving DecidableEq

/-- A failure, and what the program was doing when it met it. -/
structure Failure where
  context : Option String := none
  error : Error

def Failure.text (failure : Failure) : String :=
  match failure.context with
  | some context => context ++ ": " ++ failure.error.message
  | none => failure.error.message

/-- What a user holds under a model; parts that the model does not know are left out. -/
structure Report where
  user : String
  model : Model
  groups : List String
  roles : Option (List String)
  permissions : Option (List String)

/-- The names in an answer, or nothing if the model has no such answer. -/
def namesIfSupported {α : Type} [Named α] : Except Error (Roster α) → Except Error (Option (List String))
  | .ok roster => .ok (some roster.names)
  | .error e => if e.category = .accessControl then .ok none else .error e

namespace Report

def ofAcl (acl : Acl) : Except Error Report := do
  return {
    user := acl.user.name
    model := acl.model
    groups := acl.groups.names
    roles := ← namesIfSupported acl.roles
    permissions := ← namesIfSupported acl.permissions }

def json (report : Report) : Json :=
  .object [("user", .text report.user), ("model", .text report.model.text), ("groups", .texts report.groups),
    ("roles", .ofOption Json.texts report.roles), ("permissions", .ofOption Json.texts report.permissions)]

/-- One line a part, with the values in a column of their own. -/
def text (report : Report) : String :=
  let listed (names : List String) : String := String.intercalate ", " names
  let optional (label : String) (names : Option (List String)) : List (String × String) :=
    (names.map fun names => (label, listed names)).toList
  let lines := [("user:        ", report.user), ("model:       ", report.model.text),
      ("groups:      ", listed report.groups)]
    ++ optional "roles:       " report.roles ++ optional "permissions: " report.permissions
  String.join (lines.map fun (label, value) => label ++ value ++ "\n")

end Report

def allows (acl : Acl) (subject : Subject) (group : Option String) : Except Error Bool :=
  match subject, group with
  | .role role, some group => acl.hasRoleIn role group
  | .role role, none => acl.hasRole role
  | .permission permission, some group => acl.hasPermissionIn permission group
  | .permission permission, none => acl.hasPermission permission

/-- Answers a command with a list that the service builds for its user. -/
def answer (service : Service) (command : Command) : Except Error Outcome :=
  let aclOf (user : String) : Except Error Acl := (service.run (Acl.forName user)).1
  match command with
  | .check user subject group => do
    if ← allows (← aclOf user) subject group then return { status := 0, out := "allowed\n" }
    else return { status := 1, out := "denied\n" }
  | .report user json => do
    let report ← Report.ofAcl (← aclOf user)
    return { status := 0, out := if json then report.json.indented ++ "\n" else report.text }

variable {m : Type → Type} [Monad m]

def withContext {α : Type} (context : Option String) (action : ExceptT Error m α) : ExceptT Failure m α :=
  ExceptT.mk <| (·.mapError fun error => { context, error }) <$> action.run

def configure (readFile : ReadFile m) (environment : Environment) : Option String → ExceptT Failure m Config
  | some path => withContext (some ("Failed to load configuration from " ++ path)) (Config.ofFile readFile path)
  | none =>
    withContext (some "Failed to load configuration from environment")
      (ExceptT.mk (pure (Config.ofEnvironment environment)))

def execute (readFile : ReadFile m) (environment : Environment) (state : State) (invocation : Invocation) :
    ExceptT Failure m Outcome := do
  let config ← configure readFile environment invocation.config
  withContext none do
    let service ← Service.ofConfig readFile config state
    ExceptT.mk (pure (answer service invocation.command))

/-- An overview of the commands, for a run without arguments. -/
def help : String := "Role-based access-control inspector

Usage: aclgraph [OPTIONS] <COMMAND>

Commands:
  check  Ask whether a user holds a role or permission. Exits 1 when denied
  show   Print a user's groups, roles and permissions
  help   Print this message or the help of the given subcommand(s)

Options:
  -c, --config <CONFIG>  Path to configuration file. Without one, ACLGRAPH_* variables are used [env: ACLGRAPH_CONFIG=]
      --json-logs        Emit logs as JSON
  -h, --help             Print help
  -V, --version          Print version
"

def refuse : Refusal → Outcome
  | .nothingGiven => { status := 2, err := help }
  | .malformed =>
    { status := 2, err := "error: the arguments are not understood\n\nUsage: aclgraph [OPTIONS] <COMMAND>\n" }

def run (readFile : ReadFile m) (environment : Environment) (state : State) (arguments : List String) :
    m Outcome := do
  match Invocation.ofArguments environment arguments with
  | .error refusal => return refuse refusal
  | .ok invocation =>
    match ← (execute readFile environment state invocation).run with
    | .ok outcome => return outcome
    | .error failure => return { status := 2, err := "Error: " ++ failure.text ++ "\n" }

end CommandLine

end Entitlement
