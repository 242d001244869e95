import Entitlement.Grants

/-!
The managers of the three models and their methods. A manager can be had only under its own model. Each
method grants or revokes the one edge that its arguments make.
-/

namespace Entitlement

open Entitlement.Action

section

variable (model : Model) (edge : Edge Record)

def grantUnder : Action Bool := do
  requireModel model
  grant edge

def revokeUnder : Action Bool := do
  requireModel model
  revoke edge

end

namespace BasicManager

variable (user group : Record)

def grant : Action Bool := grantUnder .basic (.userGroup user group)

def revoke : Action Bool := revokeUnder .basic (.userGroup user group)

end BasicManager

namespace DynamicManager

variable (user group role permission delegator delegatee : Record)

def grantRole : Action Bool := grantUnder .dynamic (.userRole user role)

def revokeRole : Action Bool := revokeUnder .dynamic (.userRole user role)

def grantGroup : Action Bool := grantUnder .dynamic (.userGroup user group)

def revokeGroup : Action Bool := revokeUnder .dynamic (.userGroup user group)

def grantGroupRole : Action Bool := grantUnder .dynamic (.groupRole group role)

def revokeGroupRole : Action Bool := revokeUnder .dynamic (.groupRole group role)

def grantPermission : Action Bool := grantUnder .dynamic (.rolePermission role permission)

def revokePermission : Action Bool := revokeUnder .dynamic (.rolePermission role permission)

def addDelegate : Action Bool := grantUnder .dynamic (.delegation delegator delegatee)

/-- Unlike the other edges, a delegation that is revoked has to be there. -/
def removeDelegate : Action Unit := do
  requireModel .dynamic
  withdraw (.delegation delegator delegatee)

end DynamicManager

namespace TurbineManager

variable (user group role permission : Record)

def grant : Action Bool := grantUnder .turbine (.userGroupRole user group role)

def revoke : Action Bool := revokeUnder .turbine (.userGroupRole user group role)

def grantPermission : Action Bool := grantUnder .turbine (.rolePermission role permission)

def revokePermission : Action Bool := revokeUnder .turbine (.rolePermission role permission)

def globalGroup : Action Record := do
  requireModel .turbine
  Entitlement.globalGroup

def replace (user old new : Record) : Action Unit := do
  requireModel .turbine
  replaceRole user old new

end TurbineManager

/-- The method by which the manager of a model grants an edge, if it has one. -/
def grantMethod? : Model → Edge Record → Option (Action Bool)
  | .basic, .userGroup user group => some (BasicManager.grant user group)
  | .dynamic, .userRole user role => some (DynamicManager.grantRole user role)
  | .dynamic, .userGroup user group => some (DynamicManager.grantGroup user group)
  | .dynamic, .groupRole group role => some (DynamicManager.grantGroupRole group role)
  | .dynamic, .rolePermission role permission => some (DynamicManager.grantPermission role permission)
  | .dynamic, .delegation delegator delegatee => some (DynamicManager.addDelegate delegator delegatee)
  | .turbine, .userGroupRole user group role => some (TurbineManager.grant user group role)
  | .turbine, .rolePermission role permission => some (TurbineManager.grantPermission role permission)
  | _, _ => none

/-- The method by which the manager of a model revokes an edge and tells whether it was there. -/
def revokeMethod? : Model → Edge Record → Option (Action Bool)
  | .basic, .userGroup user group => some (BasicManager.revoke user group)
  | .dynamic, .userRole user role => some (DynamicManager.revokeRole user role)
  | .dynamic, .userGroup user group => some (DynamicManager.revokeGroup user group)
  | .dynamic, .groupRole group role => some (DynamicManager.revokeGroupRole group role)
  | .dynamic, .rolePermission role permission => some (DynamicManager.revokePermission role permission)
  | .turbine, .userGroupRole user group role => some (TurbineManager.revoke user group role)
  | .turbine, .rolePermission role permission => some (TurbineManager.revokePermission role permission)
  | _, _ => none

/-- A manager grants the edges of its model, all in the same way. -/
theorem grantMethod?_eq (model : Model) (edge : Edge Record) :
    grantMethod? model edge = if edge.relation.belongsTo model then some (grantUnder model edge) else none := by
  cases model <;> cases edge <;> rfl

/-- A manager revokes the edges of its model, all in the same way but for delegations. -/
theorem revokeMethod?_eq (model : Model) (edge : Edge Record) :
    revokeMethod? model edge =
      if edge.relation.belongsTo model ∧ edge.relation ≠ .delegation then some (revokeUnder model edge) else none := by
  cases model <;> cases edge <;> rfl

end Entitlement
