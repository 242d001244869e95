import Entitlement.Proofs.Acl.Telling
import Entitlement.Proofs.Seed.Application

/-!
Graphs that bear grants made by name. Between stored entities there is an edge just if one is granted between
their names; so what the edges say of identities can be said of names as well.
-/

namespace Entitlement

open Entitlement.Action

namespace Store

/-- The entity that a name leads to. -/
def called? (store : Store) (kind : Kind) (name : String) : Option Record := (store.table kind).named? name

/-- Exactly the edges that `grants` says between names, all of them names of stored entities. -/
structure Bears (store : Store) (grants : Edge String → Prop) : Prop where
  known : ∀ named, grants named → ∀ end' ∈ named.endpoints, ∃ record, store.called? end'.1 end'.2 = some record
  edges : ∀ named edge, named.resolve store.called? = some edge →
    (edge.ids ∈ store.edges.toList ↔ grants named)

variable {model : Model} {settings : Settings} {store : Store}

theorem called?_congr (store : Store) (kind : Kind) {name other : String} (same : nameKey name = nameKey other) :
    store.called? kind name = store.called? kind other := by
  simp only [called?, Roster.named?, same]

/-- Names of the same keys lead to the same entities. -/
theorem resolve_congr (store : Store) {a b : Edge String} (same : a.map nameKey = b.map nameKey) :
    a.resolve store.called? = b.resolve store.called? := by
  have congr := @store.called?_congr
  cases a <;> cases b <;> simp only [Edge.map, Edge.userGroup.injEq, Edge.userRole.injEq, Edge.groupRole.injEq,
    Edge.rolePermission.injEq, Edge.userGroupRole.injEq, Edge.delegation.injEq, reduceCtorEq] at same <;>
    grind [Edge.resolve]

namespace Sound

variable (sound : store.Sound model)
include sound

theorem called?_eq_some_iff {kind : Kind} {name : String} {record : Record} :
    store.called? kind name = some record ↔ record ∈ (store.table kind).toList ∧ record.key = nameKey name :=
  (sound.tables kind).named?_eq_some_iff

theorem called?_name {kind : Kind} {record : Record} (stored : record ∈ (store.table kind).toList) :
    store.called? kind record.name = some record :=
  sound.called?_eq_some_iff.mpr ⟨stored, rfl⟩

/-- An edge between stored entities is told by the identities of its endpoints. -/
theorem edge_eq_of_ids_eq {a b : Edge Record} (stored : ∀ end' ∈ a.endpoints, end'.2 ∈ (store.table end'.1).toList)
    (stored' : ∀ end' ∈ b.endpoints, end'.2 ∈ (store.table end'.1).toList) (same : a.ids = b.ids) : a = b := by
  have told : ∀ kind (one other : Record), one ∈ (store.table kind).toList → other ∈ (store.table kind).toList →
      one.id = other.id → one = other :=
    fun kind _ _ mem mem' same => (sound.tables kind).eq_of_id_eq mem mem' same
  cases a <;> cases b <;> simp [Edge.ids, Edge.map] at same <;> simp [Edge.endpoints] at stored stored' <;>
    grind

theorem resolve_stored {named : Edge String} {edge : Edge Record} (found : named.resolve store.called? = some edge) :
    ∀ end' ∈ edge.endpoints, end'.2 ∈ (store.table end'.1).toList := by
  intro end' mem
  obtain ⟨name, leads⟩ := Edge.resolve_found found end' mem
  exact (sound.called?_eq_some_iff.mp leads).1

theorem resolve_keys {named : Edge String} {edge : Edge Record} (found : named.resolve store.called? = some edge) :
    edge.map Record.key = named.map nameKey := by
  have key : ∀ kind name record, store.called? kind name = some record → record.key = nameKey name :=
    fun kind name record leads => (sound.called?_eq_some_iff.mp leads).2
  cases named <;> simp only [Edge.resolve, Option.bind_eq_bind, Option.bind_eq_some_iff, Option.pure_def,
    Option.some.injEq] at found <;> grind [Edge.map]

end Sound

end Store

/-! ### The grants of a seed -/

namespace Seed

/-- A line grants this edge, up to the letter case of the names. -/
def Grants (seed : Seed) (edge : Edge String) : Prop :=
  ∃ granted ∈ seed.granted, granted.map nameKey = edge.map nameKey

/-- A line makes this edge; under Turbine roles of a user as such are made roles within the global group. -/
def Makes (seed : Seed) (settings : Settings) (edge : Edge String) : Prop :=
  ∃ granted ∈ seed.granted, (granted.within settings).map nameKey = edge.map nameKey

variable {seed : Seed} {settings : Settings} {model : Model} {store later : Store}

theorem Applied.bears (applied : seed.Applied settings store later) (sound : later.Sound model)
    (fresh : store.edges.toList = []) : later.Bears (seed.Makes settings) where
  known named makes := by
    obtain ⟨granted, mem, made⟩ := makes
    obtain ⟨edge, found⟩ := applied.resolved granted mem
    have leads : named.resolve later.called? = some edge := (later.resolve_congr made.symm).trans found
    exact Edge.resolve_known leads
  edges named edge leads := by
    rw [applied.edges, fresh]
    constructor
    · rintro (old | ⟨granted, mem, made⟩)
      · simp at old
      · obtain ⟨resolved, found, same⟩ := Option.map_eq_some_iff.mp made
        have equal : resolved = edge :=
          sound.edge_eq_of_ids_eq (sound.resolve_stored found) (sound.resolve_stored leads) same
        subst equal
        exact ⟨granted, mem, (sound.resolve_keys found).symm.trans (sound.resolve_keys leads)⟩
    · rintro ⟨granted, mem, made⟩
      refine .inr ⟨granted, mem, ?_⟩
      have found : later.resolve? settings granted = some edge := (later.resolve_congr made).trans leads
      rw [found, Option.map_some]

end Seed

end Entitlement
