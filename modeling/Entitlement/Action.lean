import Entitlement.Audit
import Entitlement.Session
import Entitlement.Settings
import Entitlement.Store

/-!
Actions of a service. An action reads and changes the state, and may fail; what it changed before it
failed stays changed. It reaches the store only through requests, and any request may meet a
disruption in place of its answer.
-/

namespace Entitlement

structure State where
  store : Store := {}
  sessions : Sessions := {}
  nextSession : Nat := 0
  clock : Moment := ⟨0⟩
  nextSalt : Nat := 0
  requests : Nat := 0
  /-- The errors of the requests that were disrupted, in order. -/
  disrupted : List Error := []
  audit : Array AuditEvent := #[]

inductive Disruption where
  | fail (e : Error)
  /-- A search finds nothing; any other request is answered. -/
  | hide

/-- Which requests are disrupted, by their number, the store they meet and the request itself. -/
abbrev Outage := Nat → Store → Request → Option Disruption

def Outage.never : Outage := fun _ _ _ => none

structure Context where
  settings : Settings
  outage : Outage := Outage.never

abbrev Action := ReaderT Context (ExceptT Error (StateM State))

namespace Action

def run {α : Type} (action : Action α) (context : Context) (state : State) : Except Error α × State :=
  (ReaderT.run action context).run.run state

def settings : Action Settings := return (← read).settings

def serve (request : Request) : Action request.Answer := do
  let (result, store) := (← get).store.answer request
  modify fun state => { state with store }
  liftM result

def ask (request : Request) : Action request.Answer := do
  let state ← get
  set { state with requests := state.requests + 1 }
  match (← read).outage state.requests state.store request with
  | none => serve request
  | some .hide =>
    match request.nothing? with
    | some answer => return answer
    | none => serve request
  | some (.fail e) =>
    modify fun state => { state with disrupted := state.disrupted ++ [e] }
    throw e

def report (event : AuditEvent) : Action Unit :=
  modify fun state => { state with audit := state.audit.push event }

/-- The time; no two readings are the same. -/
def now : Action Moment := do
  let state ← get
  set { state with clock := ⟨state.clock.seconds + 1⟩ }
  return state.clock

def whileLoading {α : Type} (part : String) (action : Action α) : Action α :=
  tryCatch action fun e => throw (e.whileLoading part)

end Action

end Entitlement
