import Entitlement.Credential.PasswordHash
import Entitlement.Entities

/-!
Users and their passwords. A password is stored in the form that the authenticator gives it, apart
from the graph, and a login leaves its time beside it.
-/

namespace Entitlement

open Entitlement.Action

namespace Authenticator

/-- The stored form of a password. Only a hash makes use of the salt. -/
def encode (authenticator : Authenticator) (salt : Nat) (password : String) : String :=
  match authenticator with
  | .noop => password
  | .textMatch => Text.trim password
  | .argon2 => (PasswordHash.create password (Blake2b.bytesLE 16 salt)).write

/-- Whether the password fits what is stored; `none` stands for a user without a password. -/
def check (authenticator : Authenticator) (stored : Option String) (password : String) : Except Error Bool :=
  match authenticator, stored with
  | .noop, _ => .ok true
  | _, none => .ok false
  | .textMatch, some stored => .ok (Text.trim stored == Text.trim password)
  | .argon2, some stored => PasswordHash.check stored password

end Authenticator

namespace User

def encodePassword (password : String) : Action String := do
  let state ← get
  set { state with nextSalt := state.nextSalt + 1 }
  return (← settings).authenticator.encode state.nextSalt password

def addWithPassword (name password : String) : Action User := do
  let user : User ← Entity.add name
  let stored ← encodePassword password
  ask (.saveCredentials user.id { password := some stored })
  return { user with password := some stored }

def authenticate (user : User) (password : String) : Action Unit := do
  if ← (← settings).authenticator.check user.password password then
    report (.authentication user.name true)
  else
    report (.authentication user.name false)
    throw (.invalidCredentials user.name)

def recordLogin (user : User) : Action Moment := do
  let credentials ← ask (.loadCredentials user.id)
  let time ← now
  ask (.saveCredentials user.id { credentials with lastLogin := some time })
  return time

def namedWithPassword (name password : String) : Action User := do
  let user : User ← Entity.named name
  authenticate user password
  return { user with lastLogin := some (← recordLogin user) }

def forcePassword (user : User) (new : String) : Action Unit := do
  let credentials ← ask (.loadCredentials user.id)
  let stored ← encodePassword new
  ask (.saveCredentials user.id { credentials with password := some stored })
  report (.entity .passwordChanged .user user.name)

/-- Sets the password if the old one fits what is stored now. -/
def changePassword (user : User) (old new : String) : Action Unit := do
  let stored : User ← Entity.withId user.id
  authenticate stored old
  forcePassword stored new

/-- The principal that has not logged in. It has an identity of its own and is never stored. -/
def anonymous : Action User := do
  let state ← get
  set { state with store := { state.store with nextId := state.store.nextId + 1 } }
  return { id := ⟨state.store.nextId⟩, name := anonymousName }

end User

end Entitlement
