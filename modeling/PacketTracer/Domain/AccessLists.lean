import PacketTracer.Domain.SecurityCompiler
import PacketTracer.Library.FirstMatch

/-!
# What policies and access lists decide about packets

An access list is read as a device reads it, and the policies as the intent means them: the first
that matches a packet decides.  The list of an interface is emitted as a chain of actions, each of
which depends on the one before (`filter_eq_of_isChain`), and its entries stand for the policies
whose source segment enters by the interface.
-/

namespace PacketTracer

open Dicts Ipaddress FirstMatch PyText

namespace SecurityCompiler

variable (compiler : SecurityCompiler)

/-- A rule carries what was read from the sources for its policy. -/
structure Represents (sources : Sources) (item : ResolvedRule) : Prop where
  interface : item.interface = interfaceOf item.placement
  sourceCidr : item.sourceCidr = sources.networkOfSegment item.policy.sourceSegmentId
  sourcePorts : item.sourcePorts = sortedPorts item.policy.sourcePorts
  destination : ∃ issues, compiler.resolveDestination sources item.policy =
    .ok (item.destination, issues)

variable {sources : Sources} {policy : SecurityPolicyIntent}

end SecurityCompiler

/-! ## Actions of an access list -/

/-- An action is about the access list with the given name: an entry or its attachment. -/
def SecurityAction.concernsAcl (aclName : String) (action : SecurityAction) : Bool :=
  match action.detail with
  | .addSecurityAclRule rule => rule.aclName = aclName
  | .attachSecurityAcl attachment => attachment.aclName = aclName
  | _ => false

namespace SecurityCompiler

variable {compiler : SecurityCompiler}

/-! ## The chain of an access list -/

section Chain

variable {placement : AclPlacement} {defaultDecision : SecurityDecision}
  {items : List ResolvedRule}

/-- An action depends on the one before it. -/
def Follows (before action : SecurityAction) : Prop := before.id ∈ action.dependsOn

variable {action : SecurityAction}

end Chain

/-! ## Decisions of an access list -/

section Decision

variable {sources : Sources} {placement : AclPlacement} {defaultDecision : SecurityDecision}
  {items : List ResolvedRule} {packet : Packet}

end Decision

/-! ## Rules by interface -/

section Groups

variable {sources : Sources} {policies : List SecurityPolicyIntent} {resolved : List ResolvedRule}
  {key : String × String}

end Groups

section Interfaces

variable {sources : Sources} {policies : List SecurityPolicyIntent} {key : String × String}

/-- No policy of a list was left out with an error. -/
def AllResolved (compiler : SecurityCompiler) (sources : Sources)
    (policies : List SecurityPolicyIntent) : Prop :=
  ∀ policy ∈ orderedPolicies policies,
    (compiler.resolvePolicy sources policy).1.map ResolvedRule.placement =
        sources.l3Of policy.sourceSegmentId ∧
      ∀ item ∈ (compiler.resolvePolicy sources policy).1,
        item.policy = policy ∧ compiler.Represents sources item

variable (hresolved : AllResolved compiler sources policies)
include hresolved

end Interfaces

end SecurityCompiler

end PacketTracer
