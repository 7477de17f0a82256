import PacketTracer.Domain.AccessLists

/-!
# Compiled access lists are faithful

The groups of rules are emitted one after the other under different names, and no other part of
the compiler emits an entry.  So the actions of a plan that concern one access list are those of
its chain, and the plan keeps their order.
-/

namespace PacketTracer

open Dicts PyText Fallible

namespace SecurityCompiler

variable {compiler : SecurityCompiler}

/-! ## Emission of all access lists -/

section Emission

variable {sources : Sources} {defaultDecision : SecurityDecision} {emitted emitted' : Emitted}

variable {groups : List NumberedGroup} {acls : List CompiledAcl}

end Emission

/-! ## The other parts emit no access list -/

section Others

variable {sources : Sources} {request : SecurityRequest}

/-- No action of an output concerns an access list. -/
def Emitted.NoAcl (emitted : Emitted) : Prop :=
  ∀ action ∈ emitted.actions, ∀ aclName, action.concernsAcl aclName = false

lemma Emitted.NoAcl.append {first second : Emitted} (h : first.NoAcl) (h' : second.NoAcl) :
    (first.append second).NoAcl := fun action haction =>
  (List.mem_append.mp haction).elim (h action) (h' action)

variable {policy : NatPolicyIntent} {output : Emitted}

end Others

/-! ## Compilation -/

section Compile

variable {request : SecurityRequest} {result : SecurityCompileResult} {plan : SecurityPlan}
  {sources : Sources} {emitted : Emitted} {ordered : List SecurityAction}

/-- What a plan was compiled from: the emitted actions in the order of their dependencies. -/
structure CompiledFrom (compiler : SecurityCompiler) (request : SecurityRequest)
    (sources : Sources) (emitted : Emitted) (ordered : List SecurityAction) (plan : SecurityPlan) :
    Prop where
  emits : compiler.emitAll sources request
    (compiler.resolvePolicies sources request.intent.policies).1 = .ok emitted
  orders : orderDependencyActions emitted.actions = .ok ordered
  actions : plan.actions =
    ordered.map fun action => { action with applyDependencies := action.dependsOn }
  resolved : AllResolved compiler sources request.intent.policies
  issues : ∀ issue ∈ emitted.issues, issue.severity ≠ .error

section Compiled

variable (h : CompiledFrom compiler request sources emitted ordered plan)
include h

variable {acls : List CompiledAcl} {acl : CompiledAcl}

variable {action : SecurityAction} {attachment : SecurityAclAttachment}

end Compiled

end Compile

end SecurityCompiler

end PacketTracer
