import PacketTracer.Library.Ipaddress

/-!
# Looking up the expected route

`_route_for_destination` and `_route_for_network` of the control plane compiler find the expected
route over which a flow reaches an address, or a LAN.
-/

namespace PacketTracer

open Ipaddress

namespace ControlPlaneCompiler

/-- A route that the plan expects. -/
structure Route where
  expectationId : String
  network : String
  prefixLength : ℤ

def Route.candidate (route : Route) : Option IPNetwork :=
  networkAround (route.network ++ "/" ++ toString route.prefixLength)

variable {α : Type} {covers : α → IPNetwork → Option Bool} {target : α} {routes : List Route}
  {best : Option (ℕ × String)}

end ControlPlaneCompiler

end PacketTracer
