import Entitlement.Proofs.Acl.Stocked
import Entitlement.Proofs.Service.Graph

/-!
Questions that name several groups. The search through the groups stops at the first yes and at the first group
that nobody can ask within, so a blank name is noticed only if no earlier group has said yes: where a list of
groups has both, the answer depends on their order.
-/

namespace Entitlement

open Entitlement.Action

/-! ### Searching through groups -/

/-- Each group has an answer, except one of blank name, where the question is refused. -/
structure AsksWithin (ask : String → Except Error Bool) : Prop where
  answered : ∀ group, Text.blank group = false → ∃ answer, ask group = .ok answer
  refused : ∀ group, Text.blank group → ask group = .error .groupRequired

theorem inSome_cons (ask : String → Except Error Bool) (group : String) (groups : List String) :
    inSome ask (group :: groups) = if ask group = .ok false then inSome ask groups else ask group := by
  rw [inSome]
  match ask group with
  | .error e => rfl
  | .ok true => rfl
  | .ok false => rfl

theorem inSome_append {ask : String → Except Error Bool} {before : List String}
    (none_before : ∀ other ∈ before, ask other = .ok false) (rest : List String) :
    inSome ask (before ++ rest) = inSome ask rest := by
  induction before with
  | nil => rfl
  | cons other before ih =>
    obtain ⟨no, none_before⟩ := List.forall_mem_cons.mp none_before
    rw [List.cons_append, inSome_cons, if_pos no, ih none_before]

/-- A search finds nothing but no, or it comes to what the first other answer is. -/
theorem inSome_cases (ask : String → Except Error Bool) (groups : List String) :
    (∀ group ∈ groups, ask group = .ok false) ∧ inSome ask groups = .ok false ∨
      ∃ before group after, groups = before ++ group :: after ∧ (∀ other ∈ before, ask other = .ok false) ∧
        ask group ≠ .ok false ∧ inSome ask groups = ask group := by
  induction groups with
  | nil => exact .inl ⟨by simp, rfl⟩
  | cons group groups ih =>
    by_cases no : ask group = .ok false
    · rw [inSome_cons, if_pos no]
      rcases ih with ⟨none_holds, through⟩ | ⟨before, other, after, rfl, none_before, differs, stopped⟩
      · exact .inl ⟨List.forall_mem_cons.mpr ⟨no, none_holds⟩, through⟩
      · exact .inr ⟨group :: before, other, after, rfl, List.forall_mem_cons.mpr ⟨no, none_before⟩, differs, stopped⟩
    · exact .inr ⟨[], group, groups, rfl, by simp, no, by rw [inSome_cons, if_neg no]⟩

/-- What a question about some groups is answered with, from the answers within each. -/
structure Decides (ask : String → Except Error Bool) (askAny : List String → Except Error Bool) : Prop where
  each : AsksWithin ask
  yes : ∀ groups, askAny groups = .ok true ↔ ∃ before group after, groups = before ++ group :: after ∧
    ask group = .ok true ∧ ∀ other ∈ before, Text.blank other = false
  refused : ∀ groups, askAny groups = .error .groupRequired ↔ ∃ before group after,
    groups = before ++ group :: after ∧ Text.blank group ∧ ∀ other ∈ before, ask other = .ok false
  no : ∀ groups, askAny groups = .ok false ↔ ∀ group ∈ groups, ask group = .ok false
  errors : ∀ groups e, askAny groups = .error e → e = .groupRequired ∧ e.category = .accessControl
  visible : ∀ groups, (∀ group ∈ groups, Text.blank group = false) →
    ∃ answer, askAny groups = .ok answer ∧ (answer ↔ ∃ group ∈ groups, ask group = .ok true)
  /-- The order matters exactly where a group says yes and another one has a blank name. -/
  order : ∀ groups, (∀ other, groups.Perm other → askAny other = askAny groups) ↔
    ¬ ((∃ group ∈ groups, Text.blank group) ∧ ∃ group ∈ groups, ask group = .ok true)

namespace AsksWithin

variable {ask : String → Except Error Bool} {groups before after : List String} {group : String}

theorem visible_of_ok (asks : AsksWithin ask) {answer : Bool} (answered : ask group = .ok answer) :
    Text.blank group = false := by
  cases blank : Text.blank group with
  | false => rfl
  | true => cases (asks.refused group blank).symm.trans answered

theorem eq_yes_or_refused (asks : AsksWithin ask) (differs : ask group ≠ .ok false) :
    ask group = .ok true ∨ Text.blank group ∧ ask group = .error .groupRequired := by
  cases blank : Text.blank group with
  | true => exact .inr ⟨rfl, asks.refused group blank⟩
  | false =>
    obtain ⟨answer, answered⟩ := asks.answered group blank
    cases answer with
    | true => exact .inl answered
    | false => exact absurd answered differs

theorem inSome_yes (asks : AsksWithin ask) (visible : ∀ other ∈ before, Text.blank other = false)
    (holds : ask group = .ok true) : inSome ask (before ++ group :: after) = .ok true := by
  induction before with
  | nil => rw [List.nil_append, inSome_cons, holds, if_neg (by simp)]
  | cons other before ih =>
    obtain ⟨other_visible, visible⟩ := List.forall_mem_cons.mp visible
    rw [List.cons_append, inSome_cons, ih visible]
    obtain ⟨answer, answered⟩ := asks.answered other other_visible
    cases answer with
    | true => rw [answered, if_neg (by simp)]
    | false => rw [answered, if_pos rfl]

theorem inSome_refused (asks : AsksWithin ask) (none_before : ∀ other ∈ before, ask other = .ok false)
    (blank : Text.blank group) : inSome ask (before ++ group :: after) = .error .groupRequired := by
  rw [inSome_append none_before, inSome_cons, asks.refused group blank, if_neg (by simp)]

open scoped Classical in
/-- Where no order could matter, the names alone decide. -/
theorem inSome_eq (asks : AsksWithin ask)
    (apart : ¬ ((∃ group ∈ groups, Text.blank group) ∧ ∃ group ∈ groups, ask group = .ok true)) :
    inSome ask groups = if ∃ group ∈ groups, ask group = .ok true then .ok true
      else if ∃ group ∈ groups, Text.blank group then .error .groupRequired else .ok false := by
  rcases inSome_cases ask groups with ⟨none_holds, through⟩ | ⟨before, group, after, rfl, -, differs, stopped⟩
  · rw [through, if_neg, if_neg]
    · rintro ⟨group, mem, blank⟩
      cases (asks.refused group blank).symm.trans (none_holds group mem)
    · rintro ⟨group, mem, holds⟩
      cases holds.symm.trans (none_holds group mem)
  · rw [stopped]
    have mem : group ∈ before ++ group :: after := by simp
    rcases asks.eq_yes_or_refused differs with holds | ⟨blank, refused⟩
    · rw [holds, if_pos ⟨group, mem, holds⟩]
    · rw [refused, if_neg fun holds => apart ⟨⟨group, mem, blank⟩, holds⟩, if_pos ⟨group, mem, blank⟩]

theorem order_iff (asks : AsksWithin ask) (groups : List String) :
    (∀ other, groups.Perm other → inSome ask other = inSome ask groups) ↔
      ¬ ((∃ group ∈ groups, Text.blank group) ∧ ∃ group ∈ groups, ask group = .ok true) := by
  constructor
  · rintro same ⟨⟨blank, blank_mem, is_blank⟩, holding, holding_mem, holds⟩
    -- Either group can come first, and then it alone decides.
    have first_holds := same _ (List.perm_cons_erase holding_mem)
    have first_blank := same _ (List.perm_cons_erase blank_mem)
    have yes : inSome ask ([] ++ holding :: groups.erase holding) = .ok true := asks.inSome_yes nofun holds
    have refused : inSome ask ([] ++ blank :: groups.erase blank) = .error .groupRequired :=
      asks.inSome_refused nofun is_blank
    rw [List.nil_append] at yes refused
    rw [yes] at first_holds
    rw [refused, ← first_holds] at first_blank
    cases first_blank
  · intro apart other perm
    have apart' : ¬ ((∃ group ∈ other, Text.blank group) ∧ ∃ group ∈ other, ask group = .ok true) := by
      simpa only [perm.mem_iff] using apart
    rw [asks.inSome_eq apart, asks.inSome_eq apart']
    simp only [perm.mem_iff]

theorem decides (asks : AsksWithin ask) : Decides ask (inSome ask) where
  each := asks
  yes groups := by
    constructor
    · intro yes
      rcases inSome_cases ask groups with ⟨-, through⟩ | ⟨before, group, after, same, none_before, -, stopped⟩
      · cases yes.symm.trans through
      · exact ⟨before, group, after, same, stopped.symm.trans yes,
          fun other mem => asks.visible_of_ok (none_before other mem)⟩
    · rintro ⟨before, group, after, rfl, holds, visible⟩
      exact asks.inSome_yes visible holds
  refused groups := by
    constructor
    · intro refused
      rcases inSome_cases ask groups with ⟨-, through⟩ | ⟨before, group, after, same, none_before, differs, stopped⟩
      · cases refused.symm.trans through
      · have failed := stopped.symm.trans refused
        rcases asks.eq_yes_or_refused differs with holds | ⟨blank, -⟩
        · cases failed.symm.trans holds
        · exact ⟨before, group, after, same, blank, none_before⟩
    · rintro ⟨before, group, after, rfl, blank, none_before⟩
      exact asks.inSome_refused none_before blank
  no groups := by
    constructor
    · intro no
      rcases inSome_cases ask groups with ⟨none_holds, -⟩ | ⟨_, _, _, -, -, differs, stopped⟩
      · exact none_holds
      · exact absurd (stopped.symm.trans no) differs
    · intro none_holds
      have through := inSome_append none_holds []
      rwa [List.append_nil] at through
  errors groups e failed := by
    rcases inSome_cases ask groups with ⟨-, through⟩ | ⟨_, _, _, -, -, differs, stopped⟩
    · cases failed.symm.trans through
    · have failed := stopped.symm.trans failed
      rcases asks.eq_yes_or_refused differs with holds | ⟨-, refused⟩
      · cases failed.symm.trans holds
      · cases failed.symm.trans refused
        exact ⟨rfl, rfl⟩
  visible groups visible := by
    have no_blank : ¬ ∃ group ∈ groups, Text.blank group := by
      rintro ⟨group, mem, blank⟩
      cases blank.symm.trans (visible group mem)
    rw [asks.inSome_eq fun both => no_blank both.1, if_neg no_blank]
    by_cases holds : ∃ group ∈ groups, ask group = .ok true
    · exact ⟨true, if_pos holds, by simpa using holds⟩
    · exact ⟨false, if_neg holds, by simpa using holds⟩
  order := asks.order_iff

end AsksWithin

/-! ### The list of a user -/

/-- Where nobody can ask within a group, a question that names groups is refused. One that names none gets a no. -/
structure Refuses (query : String) (askAny : List String → Except Error Bool) : Prop where
  unnamed : askAny [] = .ok false
  named : ∀ groups, groups ≠ [] → askAny groups = .error (.unsupportedQuery query)
  category : (Error.unsupportedQuery query).category = .accessControl
  order : ∀ groups other, groups.Perm other → askAny other = askAny groups

theorem refuses_inSome {query : String} {ask : String → Except Error Bool}
    (refused : ∀ group, ask group = .error (.unsupportedQuery query)) : Refuses query (inSome ask) := by
  have named : ∀ groups, groups ≠ [] → inSome ask groups = .error (.unsupportedQuery query) := by
    intro groups nonempty
    obtain ⟨group, groups, rfl⟩ := List.exists_cons_of_ne_nil nonempty
    rw [inSome_cons, refused, if_neg (by simp)]
  refine ⟨rfl, named, rfl, fun groups other perm => ?_⟩
  cases groups with
  | nil => rw [perm.nil_eq]
  | cons group groups =>
    have nonempty : other ≠ [] := fun empty => List.cons_ne_nil _ _ (List.perm_nil.mp (empty ▸ perm))
    rw [named _ nonempty, named _ (List.cons_ne_nil _ _)]

/-- The questions of a list that name several groups. -/
structure Acl.AsksSome (acl : Acl) : Prop where
  roles : acl.model ≠ .basic → ∀ role, Decides (acl.hasRoleIn role) (acl.hasRoleInAny role)
  permissions : acl.model ≠ .basic → ∀ permission,
    Decides (acl.hasPermissionIn permission) (acl.hasPermissionInAny permission)
  basicRoles : acl.model = .basic → ∀ role, Refuses "has_role_in" (acl.hasRoleInAny role)
  basicPermissions : acl.model = .basic → ∀ permission, Refuses "has_permission_in" (acl.hasPermissionInAny permission)

/-- The list has the permissions of every group at hand. -/
def Acl.Complete (acl : Acl) : Prop :=
  acl.model ≠ .basic → ∀ group, Text.blank group = false → ∃ permissions, acl.permissionsIn group = .ok permissions

theorem TurbineAcl.complete (acl : TurbineAcl) : (Acl.turbine acl).Complete := by
  intro _ group visible
  rw [Acl.permissionsIn, requireGroup_ok visible]
  exact ⟨_, rfl⟩

theorem Store.Sound.complete_dynamic {store : Store} {model : Model} (sound : store.Sound model) {acl : DynamicAcl}
    (stocked : acl.groupRoles.Stocked store) : (Acl.dynamic acl).Complete := by
  intro _ group visible
  rw [Acl.permissionsIn, requireGroup_ok visible]
  exact sound.permissionsOf_stocked (stocked (nameKey group))

theorem Store.Sound.keeps_buildFor {context : Context} {store : Store} {model : Model} (sound : store.Sound model)
    (active : Model) (globalGroup : String) (user : User) :
    Keeps context (·.store = store) (Acl.buildFor active globalGroup user) Acl.Complete := by
  have reads {α : Type} {action : Action α} (sends : Sends Request.Reads action) :
    Keeps context (·.store = store) action fun _ => True := (invariant_store store).reads sends
  cases active with
  | basic => exact (reads ((graph_buildBasic user).mono fun _ reads => reads.reads)).map fun acl _ impossible => absurd rfl impossible
  | dynamic => exact (sound.keeps_buildDynamic user).map fun acl stocked => sound.complete_dynamic stocked
  | turbine =>
    exact (reads ((graph_buildTurbine user globalGroup).mono fun _ reads => reads.reads)).map fun acl _ => acl.complete

theorem Acl.asksWithin_role {acl : Acl} (grouped : acl.model ≠ .basic) (role : String) :
    AsksWithin (acl.hasRoleIn role) where
  answered group visible := by
    cases acl with
    | basic => exact absurd rfl grouped
    | dynamic | turbine =>
      rw [Acl.hasRoleIn, Acl.rolesIn, requireGroup_ok visible]
      exact ⟨_, rfl⟩
  refused group blank := by
    cases acl with
    | basic => exact absurd rfl grouped
    | dynamic | turbine =>
      rw [Acl.hasRoleIn, Acl.rolesIn, requireGroup_refused blank]
      rfl

theorem Acl.asksWithin_permission {acl : Acl} (complete : acl.Complete) (grouped : acl.model ≠ .basic)
    (permission : String) : AsksWithin (acl.hasPermissionIn permission) where
  answered group visible := by
    obtain ⟨permissions, told⟩ := complete grouped group visible
    rw [Acl.hasPermissionIn_eq grouped, told]
    exact ⟨_, rfl⟩
  refused group blank := by
    cases acl with
    | basic => exact absurd rfl grouped
    | dynamic | turbine =>
      rw [Acl.hasPermissionIn, Acl.permissionsIn, requireGroup_refused blank]
      rfl

theorem Acl.Complete.asksSome {acl : Acl} (complete : acl.Complete) : acl.AsksSome where
  roles grouped role := (Acl.asksWithin_role grouped role).decides
  permissions grouped permission := (Acl.asksWithin_permission complete grouped permission).decides
  basicRoles basic role := by
    cases acl with
    | basic => exact refuses_inSome fun _ => rfl
    | dynamic | turbine => cases basic
  basicPermissions basic permission := by
    cases acl with
    | basic => exact refuses_inSome fun _ => rfl
    | dynamic | turbine => cases basic

/-- Every list that is built over a reachable store, whatever user value it is for and whatever is disrupted
meanwhile, answers a question about several groups so. -/
theorem Service.Reachable.some_group_decides {service : Service} (reachable : service.Reachable) {outage : Outage}
    {model : Model} {globalGroup : String} {user : User} {acl : Acl}
    (built : (service.run (Acl.buildFor model globalGroup user) outage).1 = .ok acl) : acl.AsksSome := by
  have builds : Keeps ⟨service.settings, outage⟩ (·.store = service.state.store)
    (Acl.buildFor model globalGroup user) Acl.Complete := reachable.sound.keeps_buildFor model globalGroup user
  exact ((builds service.state rfl).2 acl built).asksSome

/-- Ann is a clerk among the staff. She is one there or in a group of blank name if the staff is named first.
Under the basic model nobody can ask within a group, but no question is refused that names none. -/
theorem some_group_decides_in_order :
    let ann : Record := ⟨⟨0⟩, "Ann"⟩
    let user : User := { ann with joins := [⟨ann, ⟨⟨1⟩, "Staff"⟩, ⟨⟨2⟩, "clerk"⟩⟩] }
    let service := (⟨{ model := .turbine }, {}⟩ : Service).performAll
      [.addUser "Ann" "pw", .add .group "Staff", .add .role "clerk"]
    (∃ acl, (service.run (Acl.buildFor .turbine "global" user)).1 = .ok acl ∧ acl.AsksSome ∧
      acl.hasRoleInAny "clerk" ["staff", ""] = .ok true ∧
      acl.hasRoleInAny "clerk" ["", "staff"] = .error .groupRequired) ∧
    ∃ acl, (service.run (Acl.buildFor .basic "global" user)).1 = .ok acl ∧ acl.AsksSome ∧
      acl.hasRoleInAny "clerk" [] = .ok false ∧
      acl.hasRoleInAny "clerk" ["staff"] = .error (.unsupportedQuery "has_role_in") := by
  intro ann user service
  have started : Service.start { model := .turbine } {} = .ok ⟨{ model := .turbine }, {}⟩ := rfl
  have reachable : service.Reachable := (Service.Reachable.start 0 0 0 ⟨0⟩ started).performAll _
  have turbine : ((service.run (Acl.buildFor .turbine "global" user)).1.map fun acl =>
    (acl.hasRoleInAny "clerk" ["staff", ""], acl.hasRoleInAny "clerk" ["", "staff"])) =
      .ok (.ok true, .error .groupRequired) := by decide +kernel
  have basic : ((service.run (Acl.buildFor .basic "global" user)).1.map fun acl =>
    (acl.hasRoleInAny "clerk" [], acl.hasRoleInAny "clerk" ["staff"])) =
      .ok (.ok false, .error (.unsupportedQuery "has_role_in")) := by decide +kernel
  constructor
  · cases built : (service.run (Acl.buildFor .turbine "global" user)).1 with
    | error e =>
      rw [built] at turbine
      cases turbine
    | ok acl =>
      rw [built] at turbine
      obtain ⟨staff_first, blank_first⟩ := Prod.mk.inj (Except.ok.inj turbine)
      exact ⟨acl, rfl, reachable.some_group_decides built, staff_first, blank_first⟩
  · cases built : (service.run (Acl.buildFor .basic "global" user)).1 with
    | error e =>
      rw [built] at basic
      cases basic
    | ok acl =>
      rw [built] at basic
      obtain ⟨unnamed, named⟩ := Prod.mk.inj (Except.ok.inj basic)
      exact ⟨acl, rfl, reachable.some_group_decides built, unnamed, named⟩

end Entitlement
