import Entitlement.Documents

/-!
The arguments of the command line. Options have a long name, some also a letter, and each is given at
most once. An option that takes a value finds it attached, after an equals sign or right behind the
letter, or in the next argument.
-/

namespace Entitlement.CommandLine

structure Flag where
  long : String
  letter : Option Char := none
  takesValue : Bool := true

abbrev Given := List (String × String)

def Given.value? (given : Given) (name : String) : Option String :=
  (given.find? (·.1 == name)).map (·.2)

def Given.add (given : Given) (name value : String) : Option Given :=
  if given.any (·.1 == name) then none else some ((name, value) :: given)

/-- An argument that stands for a flag, and so never for a value. -/
def isFlag (argument : String) : Bool := argument.startsWith "-" && argument != "-"

/-- The name and the attached value of a long flag. -/
def splitLong (cs : List Char) : String × Option String :=
  let name := String.ofList (cs.takeWhile (· != '='))
  match cs.dropWhile (· != '=') with
  | [] => (name, none)
  | _ :: value => (name, some (String.ofList value))

/-- The value attached to a letter, with or without an equals sign. -/
def attachedToLetter : List Char → Option String
  | [] => none
  | '=' :: value => some (String.ofList value)
  | value => some (String.ofList value)

/-- The flag that an argument names, and the value attached to it. -/
def named? (flags : List Flag) (argument : String) : Option (Flag × Option String) :=
  match argument.toList with
  | '-' :: '-' :: cs =>
    let (name, value) := splitLong cs
    (flags.find? (·.long == name)).map (·, value)
  | '-' :: letter :: rest => (flags.find? (·.letter == some letter)).map (·, attachedToLetter rest)
  | _ => none

/-- Takes flags from the front of the arguments, up to the first argument that is none. After two
hyphens nothing may follow. -/
def readFlags (flags : List Flag) (given : Given) : List String → Option (Given × List String)
  | [] => some (given, [])
  | argument :: rest =>
    if argument == "--" then (if rest.isEmpty then some (given, []) else none)
    else if !isFlag argument then some (given, argument :: rest)
    else
      match named? flags argument, rest with
      | none, _ => none
      | some (⟨name, _, false⟩, none), rest => (given.add name "").bind fun given => readFlags flags given rest
      | some (⟨_, _, false⟩, some _), _ => none
      | some (⟨name, _, true⟩, some value), rest =>
        (given.add name value).bind fun given => readFlags flags given rest
      | some (⟨name, _, true⟩, none), value :: rest =>
        if isFlag value then none
        else (given.add name value).bind fun given => readFlags flags given rest
      | some (⟨_, _, true⟩, none), [] => none

inductive Subject where
  | role (name : String)
  | permission (name : String)
deriving DecidableEq

inductive Command where
  /-- Whether a user holds a role or a permission, within a group if one is given. -/
  | check (user : String) (subject : Subject) (group : Option String)
  | report (user : String) (json : Bool)
deriving DecidableEq

structure Invocation where
  /-- The path of the configuration; without one the environment is the configuration. -/
  config : Option String
  command : Command
deriving DecidableEq

inductive Refusal where
  /-- No argument says what to do. -/
  | nothingGiven
  | malformed
deriving DecidableEq

def generalFlags : List Flag :=
  [{ long := "config", letter := some 'c' }, { long := "json-logs", takesValue := false }]

def checkFlags : List Flag :=
  [{ long := "user", letter := some 'u' }, { long := "role", letter := some 'r' },
    { long := "permission", letter := some 'p' }, { long := "group", letter := some 'g' }]

def reportFlags : List Flag :=
  [{ long := "user", letter := some 'u' }, { long := "json", takesValue := false }]

def readAll (flags : List Flag) (arguments : List String) : Option Given :=
  match readFlags flags [] arguments with
  | some (given, []) => some given
  | _ => none

def checkOf? (given : Given) : Option Command := do
  let user ← given.value? "user"
  let group := given.value? "group"
  match given.value? "role", given.value? "permission" with
  | some role, none => some (.check user (.role role) group)
  | none, some permission => some (.check user (.permission permission) group)
  | some _, some _ | none, none => none

def reportOf? (given : Given) : Option Command := do
  return .report (← given.value? "user") (given.value? "json").isSome

def commandOf? (name : String) (arguments : List String) : Option Command :=
  match name with
  | "check" => (readAll checkFlags arguments).bind checkOf?
  | "show" => (readAll reportFlags arguments).bind reportOf?
  | _ => none

/-- The path of the configuration, given or set in the environment. It must not be empty. -/
def configOf? (environment : Environment) (given : Given) : Option (Option String) :=
  match (given.value? "config").or (environment "ACLGRAPH_CONFIG") with
  | some "" => none
  | path => some path

def Invocation.ofArguments (environment : Environment) (arguments : List String) :
    Except Refusal Invocation :=
  match readFlags generalFlags [] arguments with
  | none => .error .malformed
  | some (given, rest) =>
    match configOf? environment given, rest with
    | some config, name :: rest =>
      match commandOf? name rest with
      | some command => .ok { config, command }
      | none => .error .malformed
    | some none, [] => .error (if given.isEmpty then .nothingGiven else .malformed)
    | some (some _), [] | none, _ => .error .malformed

end Entitlement.CommandLine
