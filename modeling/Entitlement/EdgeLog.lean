import Std.Data.TreeSet
import Entitlement.Edge

/-!
The edges of the store in the order in which they were granted. Each edge has the number of its
grant; two indexes lead from an edge to its number and from an identity to the numbers of the edges
that touch it.
-/

namespace Entitlement

open Std (TreeMap TreeSet)

structure EdgeLog where
  next : Nat := 0
  edges : TreeMap Nat (Edge EntityId) := {}
  numberOf : TreeMap (Edge EntityId) Nat := {}
  byEndpoint : TreeMap EntityId (TreeSet Nat) := {}

namespace EdgeLog

abbrev EndpointIndex := TreeMap EntityId (TreeSet Nat)

instance : Inhabited EdgeLog := ⟨{}⟩

/-- The edges, earliest grant first. -/
def toList (log : EdgeLog) : List (Edge EntityId) := log.edges.toList.map (·.2)

def size (log : EdgeLog) : Nat := log.edges.size

def contains (log : EdgeLog) (edge : Edge EntityId) : Bool := log.numberOf.contains edge

def note (index : EndpointIndex) (id : EntityId) (number : Nat) : EndpointIndex :=
  index.insert id ((index.getD id {}).insert number)

/-- Forgets a number of an identity, and the identity with its last number. -/
def forget (index : EndpointIndex) (id : EntityId) (number : Nat) : EndpointIndex :=
  match index[id]? with
  | none => index
  | some numbers =>
    let rest := numbers.erase number
    if rest.isEmpty then index.erase id else index.insert id rest

def insert (log : EdgeLog) (edge : Edge EntityId) : Bool × EdgeLog :=
  if log.contains edge then (false, log)
  else
    (true, {
      next := log.next + 1
      edges := log.edges.insert log.next edge
      numberOf := log.numberOf.insert edge log.next
      byEndpoint := edge.endpoints.foldl (fun index (_, id) => note index id log.next) log.byEndpoint })

def erase (log : EdgeLog) (edge : Edge EntityId) : Bool × EdgeLog :=
  match log.numberOf[edge]? with
  | none => (false, log)
  | some number =>
    (true, {
      next := log.next
      edges := log.edges.erase number
      numberOf := log.numberOf.erase edge
      byEndpoint := edge.endpoints.foldl (fun index (_, id) => forget index id number) log.byEndpoint })

/-- The edges that touch an identity, earliest grant first. -/
def touching (log : EdgeLog) (id : EntityId) : List (Edge EntityId) :=
  match log.byEndpoint[id]? with
  | none => []
  | some numbers => numbers.toList.filterMap (log.edges[·]?)

def eraseAll (log : EdgeLog) (edges : List (Edge EntityId)) : EdgeLog :=
  edges.foldl (fun log edge => (log.erase edge).2) log

end EdgeLog

end Entitlement
