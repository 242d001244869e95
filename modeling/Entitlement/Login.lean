import Entitlement.Acl.Build
import Entitlement.Users

/-!
Logging in and out. A login opens a session with a fresh access-control list; a refresh derives user
and list anew, and closes the session if its user is gone.
-/

namespace Entitlement

open Entitlement.Action

namespace Session

def create (user : User) (acl : Acl) : Action Session := do
  let state ← get
  set { state with nextSession := state.nextSession + 1 }
  return { id := ⟨state.nextSession⟩, user, acl, createdAt := ← now }

/-- The same session with its user and list derived anew. -/
def renewed (session : Session) (user : User) (acl : Acl) : Action Session := do
  return { session with user, acl, refreshedAt := some (← now) }

end Session

namespace Sessions

def modifyOpen (f : Sessions → Sessions) : Action Unit :=
  modify fun state => { state with sessions := f state.sessions }

def openFor (user : EntityId) : Action Nat := do
  return (← get).sessions.countFor user

end Sessions

open Sessions

def login (name password : String) : Action Session := do
  let user ← User.namedWithPassword name password
  let session ← Session.create user (← Acl.build user)
  modifyOpen (·.insert session)
  report (.session .login session.user.name (← openFor session.user.id))
  return session

def openSession? (id : SessionId) : Action (Option Session) := do
  return (← get).sessions.get? id

def logout (id : SessionId) : Action Bool := do
  match ← openSession? id with
  | none => return false
  | some session =>
    modifyOpen (·.erase id)
    report (.session .logout session.user.name (← openFor session.user.id))
    return true

/-- Closes the sessions of the users of that name and counts them. -/
def invalidate (name : String) : Action Nat := do
  let before ← get
  modifyOpen (·.eraseNamed name)
  let count := before.sessions.toList.countP (isOf name)
  if 0 < count then report (.session .invalidated name count)
  return count

/-- The user of a session as stored now. A session whose user is gone is closed. -/
def sessionUser (session : Session) : Action User :=
  tryCatch (Entity.withId session.user.id) fun e => do
    if e.isUnknownEntity then
      modifyOpen (·.erase session.id)
      report (.session .expired session.user.name 0)
    throw e

/-- Derives the user and the list of a session from the graph as it is now. -/
def refresh (id : SessionId) : Action Session := do
  match ← openSession? id with
  | none => throw (.noSession id)
  | some session =>
    let user ← sessionUser session
    let renewed ← session.renewed user (← Acl.build user)
    modifyOpen (·.replace renewed)
    report (.session .refreshed renewed.user.name (← openFor renewed.user.id))
    return renewed

/-- Builds the list of the user of that name, without a login. -/
def Acl.forName (name : String) : Action Acl := do
  Acl.build (← Entity.named name)

end Entitlement
