import Entitlement.Files
import Entitlement.Seed.Line

/-!
What can go wrong. An error says why an operation failed; its category groups the causes that a
caller treats alike, and its message is the category's heading followed by the detail of the cause.
-/

namespace Entitlement

inductive Category where
  | unknownEntity | entityExists | accessControl | dataBackend | passwordMismatch
  | config | crypto | io | yaml | serialization
deriving DecidableEq

namespace Category

def all : List Category :=
  [unknownEntity, entityExists, accessControl, dataBackend, passwordMismatch, config, crypto, io, yaml,
    serialization]

def code : Category → String
  | unknownEntity => "UNKNOWN_ENTITY"
  | entityExists => "ENTITY_EXISTS"
  | accessControl => "ACCESS_CONTROL"
  | dataBackend => "DATA_BACKEND"
  | passwordMismatch => "PASSWORD_MISMATCH"
  | config => "CONFIG_ERROR"
  | crypto => "CRYPTO_ERROR"
  | io => "IO_ERROR"
  | yaml => "YAML_ERROR"
  | serialization => "SERIALIZATION_ERROR"

def heading : Category → String
  | unknownEntity => "Unknown entity"
  | entityExists => "Entity exists"
  | accessControl => "Access control error"
  | dataBackend => "Data backend error"
  | passwordMismatch => "Password mismatch"
  | config => "Configuration error"
  | crypto => "Crypto error"
  | io => "IO error"
  | yaml => "YAML error"
  | serialization => "Serialization error"

end Category

/-- Why the name of the global group is refused. -/
inductive SettingFault where
  | emptyGlobalGroup | paddedGlobalGroup
deriving DecidableEq

def SettingFault.text : SettingFault → String
  | emptyGlobalGroup => "global_group must not be empty"
  | paddedGlobalGroup => "global_group must not have surrounding whitespace"

inductive Error where
  | noEntityNamed (kind : Kind) (name : String)
  | noEntityWithId (kind : Kind) (id : EntityId)
  | notInSet (name : String)
  | noSession (id : SessionId)
  /-- A grant that had to be there was not; the subject names its endpoints. -/
  | noGrant (relation : Relation) (subject : String)
  /-- Two members of one set may not share a name. -/
  | collision (name held : String)
  | nameTaken (kind : Kind) (name : String)
  | unsupportedQuery (query : String)
  | groupRequired
  | wrongModel (requested active : Model)
  | unsupportedGrant (relation : Relation) (model : Model)
  | blankName
  /-- An edge leads to an entity that is not stored. -/
  | danglingEdge (kind : Kind) (id : EntityId)
  /-- An entity that has to exist turned out to be unknown. -/
  | loadFailed (part : String) (cause : Error)
  | invalidCredentials (name : String)
  | configUnreadable (fault : FileFault)
  | configMalformed
  | configInvalid (fault : SettingFault)
  | badVariable (name refusal : String)
  | seedUnreadable (path : String) (fault : FileFault)
  | seedMalformed
  | blankSeedName (kind : Kind)
  | unrecognisedGrant (line : GrantLine)
  | hashMalformed
  | verificationFailed
  /-- A failure outside this library, in the words of the part that failed. -/
  | reported (category : Category) (detail : String)
deriving DecidableEq

namespace Error

def category : Error → Category
  | noEntityNamed .. | noEntityWithId .. | notInSet _ | noSession _ | noGrant .. => .unknownEntity
  | collision .. | nameTaken .. => .entityExists
  | unsupportedQuery _ | groupRequired | wrongModel .. | unsupportedGrant .. => .accessControl
  | blankName | danglingEdge .. | loadFailed .. => .dataBackend
  | invalidCredentials _ => .passwordMismatch
  | configUnreadable _ | configMalformed | configInvalid _ | badVariable .. | seedUnreadable .. |
    seedMalformed | blankSeedName _ | unrecognisedGrant _ => .config
  | hashMalformed | verificationFailed => .crypto
  | reported category _ => category

def withHeading (category : Category) (detail : String) : String := category.heading ++ ": " ++ detail

def detail : Error → String
  | noEntityNamed kind name | nameTaken kind name => kind.text ++ " '" ++ name ++ "'"
  | noEntityWithId kind id => kind.text ++ " " ++ id.text
  | notInSet name => "'" ++ name ++ "' is not in the set"
  | noSession id => "session " ++ id.text
  | noGrant relation subject => "No " ++ relation.label ++ " between " ++ subject
  | collision name held => "'" ++ name ++ "' collides with existing '" ++ held ++ "'"
  | unsupportedQuery query => query ++ " is not supported by the basic model"
  | groupRequired => "A group is required for a group-scoped query"
  | wrongModel requested active =>
    "The " ++ requested.text ++ " model manager is not available, the active model is " ++ active.text
  | unsupportedGrant relation model =>
    relation.phrase ++ " grants are not supported by the " ++ model.text ++ " model"
  | blankName => "Entity name must not be empty"
  | danglingEdge kind id => "Dangling edge to " ++ kind.text ++ " " ++ id.text
  | loadFailed part cause =>
    "Failed to load " ++ part ++ ": " ++ withHeading cause.category cause.detail
  | invalidCredentials name => "Invalid credentials for user '" ++ name ++ "'"
  | configUnreadable fault => "Failed to read config file: " ++ fault.text
  | configMalformed => "Failed to parse config: not a configuration document"
  | configInvalid fault => "Security config error: " ++ fault.text
  | badVariable name refusal => name ++ ": " ++ refusal
  | seedUnreadable path fault =>
    "Failed to read seed graph " ++ Text.quoted path ++ ": " ++ fault.text
  | seedMalformed => "Failed to parse seed graph: not a seed document"
  | blankSeedName kind => "Seed graph lists a " ++ kind.text ++ " with a blank name"
  | unrecognisedGrant line => "Unrecognised grant: " ++ line.describe
  | hashMalformed => "Stored credential is not a valid hash: the text is malformed"
  | verificationFailed => "Password verification failed: the hash cannot be computed"
  | reported _ detail => detail

def message (e : Error) : String := withHeading e.category e.detail

def code (e : Error) : String := e.category.code

def isUnknownEntity (e : Error) : Bool := e.category == .unknownEntity

/-- What is known to exist could not be loaded: then an unknown entity is a fault of the backend. -/
def whileLoading (part : String) (e : Error) : Error :=
  if e.isUnknownEntity then loadFailed part e else e

end Error

end Entitlement
