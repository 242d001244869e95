import Entitlement.CommandLine
import Entitlement.Proofs.Seed.Reading

/-!
From a seed to a decision. What the command line answers about a user is what the grants of the seed say by
name, with no regard to the identities that the entities got.
-/

namespace Entitlement

open Entitlement.Action
open CommandLine (Subject)

namespace Seed

def Allows (seed : Seed) (settings : Settings) (user : String) : Subject → Option String → Prop
  | .role role => seed.AllowsRole settings user role
  | .permission permission => seed.AllowsPermission settings user permission

end Seed

namespace CommandLine

/-- Why a question is refused, if it is. -/
def refusal? : Model → Subject → Option String → Option Error
  | .basic, .role _, none => some (.unsupportedQuery "has_role")
  | .basic, .role _, some _ => some (.unsupportedQuery "has_role_in")
  | .basic, .permission _, some _ => some (.unsupportedQuery "has_permission_in")
  | .basic, .permission _, none | .dynamic, _, none | .turbine, _, none => none
  | .dynamic, _, some group | .turbine, _, some group => if Text.blank group then some .groupRequired else none

/-- A question is refused, or else the answer is yes just if it is allowed. Nothing that is refused is allowed. -/
inductive Decision (allowed : Prop) : Option Error → Except Error Bool → Prop where
  | refused {e : Error} (not_allowed : ¬ allowed) : Decision allowed (some e) (.error e)
  | answered {answer : Bool} (law : answer = true ↔ allowed) : Decision allowed none (.ok answer)

/-- What the program leaves behind for an answer. -/
def Outcome.ofAnswer : Bool → Outcome
  | true => { status := 0, out := "allowed\n" }
  | false => { status := 1, out := "denied\n" }

theorem Decision.of_told {allowed p : Prop} {result : Except Error Bool}
    (told : ∃ answer, result = .ok answer ∧ (answer = true ↔ p)) (same : p ↔ allowed) :
    Decision allowed none result := by
  obtain ⟨answer, rfl, law⟩ := told
  exact .answered (law.trans same)

/-- The program says so just if it is allowed. -/
theorem Decision.says_allowed_iff {allowed : Prop} {refusal : Option Error} {result : Except Error Bool}
    (decision : Decision allowed refusal result) :
    Outcome.ofAnswer <$> result = .ok { status := 0, out := "allowed\n" } ↔ allowed := by
  cases decision with
  | refused not_allowed => exact ⟨nofun, fun allowed => absurd allowed not_allowed⟩
  | @answered answer law =>
    rw [← law]
    cases answer with
    | true => exact ⟨fun _ => rfl, fun _ => rfl⟩
    | false => exact ⟨nofun, nofun⟩

end CommandLine

open CommandLine (Decision refusal?)

/-! ### Decisions -/

open CommandLine (allows)

variable {model : Model} {settings : Settings} {store : Store} {seed : Seed} {user : String} {u : Record}

theorem CommandLine.refusal?_without_group (grouped : model ≠ .basic) (subject : Subject) :
    refusal? model subject none = none := by
  cases model with
  | basic => exact absurd rfl grouped
  | dynamic | turbine => rfl

theorem CommandLine.refusal?_within_group (grouped : model ≠ .basic) (subject : Subject) (group : String) :
    refusal? model subject (some group) = if Text.blank group then some .groupRequired else none := by
  cases model with
  | basic => exact absurd rfl grouped
  | dynamic | turbine => rfl

theorem Acl.Exact.decides {rights : Rights} {acl : Acl} (exact : acl.Exact store rights)
    (reads : store.Reads rights (seed.AllowsRole settings user) (seed.AllowsPermission settings user))
    (grouped : model ≠ .basic) (subject : Subject) (group : Option String) :
    Decision (seed.Allows settings user subject group) (refusal? model subject group) (allows acl subject group) := by
  cases group with
  | none =>
    rw [CommandLine.refusal?_without_group grouped]
    cases subject with
    | role role => exact .of_told (exact.hasRole role) (reads.roles role)
    | permission permission => exact .of_told (exact.hasPermission permission) (reads.permissions permission)
  | some group =>
    rw [CommandLine.refusal?_within_group grouped]
    cases blank : Text.blank group with
    | true =>
      cases subject with
      | role role =>
        have refused : allows acl (.role role) (some group) = .error .groupRequired :=
          (exact.refused role group blank).2.2.1
        rw [refused]
        exact .refused (reads.none_held group blank role)
      | permission permission =>
        have refused : allows acl (.permission permission) (some group) = .error .groupRequired :=
          (exact.refused permission group blank).2.2.2
        rw [refused]
        exact .refused (reads.none_owned group blank permission)
    | false =>
      cases subject with
      | role role => exact .of_told (exact.hasRoleIn role group blank) (reads.rolesIn group role)
      | permission permission =>
        exact .of_told (exact.hasPermissionIn permission group blank) (reads.permissionsIn group permission)

theorem BasicAcl.decides (active : settings.model = .basic) (sound : store.Sound model)
    (bears : store.Bears seed.Grants) (found : store.called? .user user = some u) {acl : BasicAcl}
    (groups : store.Gathers .group (fun group => .userGroup u.id group ∈ store.edges.toList) acl.groups)
    (subject : Subject) (group : Option String) :
    Decision (seed.Allows settings user subject group) (refusal? .basic subject group)
      (allows (.basic acl) subject group) := by
  cases subject with
  | role role =>
    have not_allowed : ¬ seed.AllowsRole settings user role group := by simp [Seed.AllowsRole, active]
    cases group with
    | none | some group => exact .refused not_allowed
  | permission permission =>
    cases group with
    | some group =>
      have not_allowed : ¬ seed.AllowsPermission settings user permission (some group) := by
        simp [Seed.AllowsPermission, active]
      exact .refused not_allowed
    | none =>
      -- A permission without a group is asked for as a group.
      have named : store.Names .group (fun group => .userGroup u.id group ∈ store.edges.toList) permission ↔
          seed.AllowsPermission settings user permission none := by
        simp only [Seed.AllowsPermission, active]
        refine sound.names_iff (fun g leads => ?_) fun granted => ?_
        · exact bears.edges (.userGroup user permission) (.userGroup u g) (by simp [Edge.resolve, found, leads])
        · exact bears.known _ granted (.group, permission) (by simp [Edge.endpoints])
      exact .answered ((groups.containsName_iff (sound.tables .group)).trans named)

theorem Acl.Tells.decides {acl : Acl} (tells : acl.Tells store settings u.id) (sound : store.Sound model)
    (bears : store.Bears (seed.Makes settings)) (found : store.called? .user user = some u) (subject : Subject)
    (group : Option String) :
    Decision (seed.Allows settings user subject group) (refusal? settings.model subject group)
      (allows acl subject group) := by
  cases tells with
  | basic active groups =>
    have plain : settings.model ≠ .turbine := by rw [active]; nofun
    rw [Seed.makes_eq_grants plain] at bears
    rw [active]
    exact BasicAcl.decides active sound bears found groups subject group
  | dynamic active exact _ =>
    have plain : settings.model ≠ .turbine := by rw [active]; nofun
    have grouped : settings.model ≠ .basic := by rw [active]; nofun
    rw [Seed.makes_eq_grants plain] at bears
    exact exact.decides (Seed.reads_dynamic active sound bears found) grouped subject group
  | turbine active exact _ =>
    have grouped : settings.model ≠ .basic := by rw [active]; nofun
    exact exact.decides (Seed.reads_turbine active sound bears found) grouped subject group

/-! ### The command line -/

theorem Store.Sound.answers_forName (sound : store.Sound model) (found : store.called? .user user = some u) :
    Answers settings store (Acl.forName user) (Acl.Tells store settings u.id) := by
  obtain ⟨stored, key⟩ := sound.called?_eq_some_iff.mp found
  have loads : Answers settings store (Entity.load u : Action User) fun loaded =>
      loaded.toRecord = u ∧ loaded.Current store := by
    refine (sound.answers_loadUser stored).mono fun loaded follows => ?_
    obtain rfl := follows.self
    exact ⟨rfl, stored, follows⟩
  refine (sound.answers_named stored key loads).bind fun loaded held => ?_
  obtain ⟨rfl, current⟩ := held
  exact sound.answers_buildAcl current

theorem CommandLine.answer_check {service : Service} {acl : Acl}
    (built : (service.run (Acl.forName user)).1 = .ok acl) (subject : Subject) (group : Option String) :
    answer service (.check user subject group) = Outcome.ofAnswer <$> allows acl subject group := by
  simp only [answer, built, bind, Except.bind]
  rcases allows acl subject group with e | _ | _ <;> rfl

namespace Service

/-- A seed is applied to a service that was just started. What the command line then answers about a listed
user, whatever is asked and under every model, is what the grants of the seed say by name. -/
theorem seed_decides {service : Service} (nextId nextSession nextSalt : Nat) (clock : Moment)
    (started : Service.start settings { store := { nextId }, nextSession, nextSalt, clock } = .ok service)
    {summary : SeedSummary} (done : (service.run seed.apply).1 = .ok summary)
    (listed : ∃ entry ∈ seed.users, nameKey entry.name = nameKey user) (subject : Subject) (group : Option String) :
    ∃ result, CommandLine.answer (service.run seed.apply).2 (.check user subject group) =
        CommandLine.Outcome.ofAnswer <$> result ∧
      Decision (seed.Allows settings user subject group) (refusal? settings.model subject group) result := by
  have reachable : service.Reachable := .start nextId nextSession nextSalt clock started
  obtain ⟨-, rfl⟩ := start_eq_ok started
  have applied := reachable.applied done
  have sound := (reachable.applySeed seed).sound
  have bears := applied.bears sound rfl
  obtain ⟨entry, mem, same⟩ := listed
  have named : Seed.Names seed.listed .user (nameKey user) :=
    ⟨entry.name, by simpa [Seed.listed] using ⟨entry, mem, rfl⟩, same⟩
  obtain ⟨u, stored, key⟩ := Roster.mem_keys.mp ((applied.keys .user _).mpr (.inr (.inl named)))
  have found := sound.called?_eq_some_iff.mpr ⟨stored, key⟩
  obtain ⟨acl, _, built, tells⟩ := sound.answers_forName found _ rfl
  exact ⟨_, CommandLine.answer_check (congrArg Prod.fst built) subject group,
    tells.decides sound bears found subject group⟩

/-- Bob has delegated to Ann, whom the seed names in other letters, and is a clerk through a group. -/
theorem seed_decides_about_delegatee :
    let seed : Seed := {
      users := [⟨"Ann", "pw"⟩, ⟨"Bob", "pw"⟩]
      groups := ["Staff"]
      roles := ["clerk"]
      permissions := ["read"]
      grants := [{ delegator := some "bob", delegatee := some "ANN" }, { user := some "BOB", group := some "staff" },
        { group := some "STAFF", role := some "Clerk" }, { role := some "CLERK", permission := some "Read" }] }
    let service : Service := (Service.run ⟨{}, {}⟩ seed.apply).2
    CommandLine.answer service (.check "ann" (.permission "READ") none) = .ok { status := 0, out := "allowed\n" } ∧
      seed.Allows {} "ann" (.permission "READ") none ∧
      CommandLine.answer service (.check "ann" (.permission "READ") (some "Staff")) =
        .ok { status := 1, out := "denied\n" } ∧
      ¬ seed.Allows {} "ann" (.permission "READ") (some "Staff") := by
  intro seed service
  have started : Service.start {} {} = .ok ⟨{}, {}⟩ := rfl
  have done : ((⟨{}, {}⟩ : Service).run seed.apply).1 = .ok { entities := 5, grants := 4 } := by decide +kernel
  have listed : ∃ entry ∈ seed.users, nameKey entry.name = nameKey "ann" := by decide +kernel
  have allowed : CommandLine.answer service (.check "ann" (.permission "READ") none) =
      .ok { status := 0, out := "allowed\n" } := by decide +kernel
  have denied : CommandLine.answer service (.check "ann" (.permission "READ") (some "Staff")) =
      .ok { status := 1, out := "denied\n" } := by decide +kernel
  obtain ⟨_, answered, decision⟩ := seed_decides 0 0 0 ⟨0⟩ started done listed (.permission "READ") none
  obtain ⟨_, answered', decision'⟩ := seed_decides 0 0 0 ⟨0⟩ started done listed (.permission "READ") (some "Staff")
  refine ⟨allowed, decision.says_allowed_iff.mp (answered.symm.trans allowed), denied, fun allows => ?_⟩
  cases denied.symm.trans (answered'.trans (decision'.says_allowed_iff.mpr allows))

end Service

end Entitlement
