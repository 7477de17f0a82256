import PacketTracer.Library.BreadthFirst
import PacketTracer.Library.Dict
import PacketTracer.Library.Ipaddress

/-!
# The addressing planner

`plan_addressing` walks over the links of a topology plan and writes an address into the interface
of every router (and host) at the end of a link; from the links between routers it then derives
static routes.

Devices are mutable objects that the source finds by name, always the first of that name; here they
are entries of the plan's device list, and a write changes the first entry of the name.  `none` is
an exception.  The order in which a Python set is iterated is not defined by the language, so the
planner is given it as a `SetOrder`.  The model is the planner with static routing and without the
IPv6 addresses.
-/

namespace PacketTracer

open BreadthFirsts Dicts Ipaddress

/-! ## Plans -/

/-- A device of the plan. -/
structure DevicePlan where
  name : String
  category : String
  /-- The address and prefix length of each port, as text. -/
  interfaces : Dict String String
  gateway : String := ""
  /-- The access VLAN of a host; `0` for none. -/
  vlan : ℤ := 0

/-- A link between two ports. -/
structure LinkPlan where
  deviceA : String
  portA : String
  deviceB : String
  portB : String
  deriving DecidableEq

/-- A VLAN; the planner fills in its subnet. -/
structure VLANConfig where
  vlanId : ℤ
  subnet : String := ""
  deriving DecidableEq

/-- A subinterface of a router on a stick. -/
structure SubinterfaceConfig where
  router : String
  parentPort : String
  vlanId : ℤ
  ipCidr : String := ""
  deriving DecidableEq

/-- A DHCP pool of a router. -/
structure DHCPPool where
  router : String
  poolName : String
  network : String
  mask : String
  gateway : String
  dns : String := "8.8.8.8"
  excludedStart : String := ""
  excludedEnd : String := ""
  deriving DecidableEq

/-- A static route; with an administrative distance above one it is a floating route. -/
structure StaticRoute where
  router : String
  destination : String
  mask : String
  nextHop : String
  adminDistance : ℕ := 1
  deriving DecidableEq

/-- What the addressing planner reads and writes of a topology plan. -/
structure TopologyPlan where
  devices : List DevicePlan := []
  links : List LinkPlan := []
  dhcpPools : List DHCPPool := []
  staticRoutes : List StaticRoute := []
  vlans : List VLANConfig := []
  subinterfaces : List SubinterfaceConfig := []

/-- The first device of a name. -/
def deviceByName (devices : List DevicePlan) (name : String) : Option DevicePlan :=
  devices.find? fun device => device.name = name

/-- The devices of a category. -/
def devicesByCategory (devices : List DevicePlan) (category : String) : List DevicePlan :=
  devices.filter fun device => device.category = category

/-- Write to the first device that passes the test. -/
def updateFirst (test : DevicePlan → Bool) (write : DevicePlan → DevicePlan) :
    List DevicePlan → List DevicePlan
  | [] => []
  | device :: devices =>
    if test device then write device :: devices else device :: updateFirst test write devices

/-- `device.interfaces[port] = text` for the device that `device_by_name` returns. -/
def setInterface (devices : List DevicePlan) (name port text : String) : List DevicePlan :=
  updateFirst (fun device => device.name = name)
    (fun device => { device with interfaces := device.interfaces.set port text }) devices

/-! ## Subnets -/

namespace IPPlanner

/-- The position of the two subnet generators of a planner. -/
structure Planner where
  lanBase : IPv4Network
  linkBase : IPv4Network
  lanNext : ℕ := 0
  linkNext : ℕ := 0

/-- What `IPv4Network(base).subnets(new_prefix)` yields at a position; `none` is an exception or the
end. -/
def subnetAt (base : IPv4Network) (newPrefix n : ℕ) : Option IPv4Network :=
  if base.prefixlen = 32 then if n = 0 then some base else none
  else if h : base.prefixlen ≤ newPrefix ∧ newPrefix ≤ 32 ∧
      n < 2 ^ (newPrefix - base.prefixlen) then
    some ⟨newPrefix, base.index * 2 ^ (newPrefix - base.prefixlen) + n, h.2.1, by
      have hlt := base.index_lt
      calc base.index * 2 ^ (newPrefix - base.prefixlen) + n
          < base.index * 2 ^ (newPrefix - base.prefixlen) + 2 ^ (newPrefix - base.prefixlen) :=
            Nat.add_lt_add_left h.2.2 _
        _ = (base.index + 1) * 2 ^ (newPrefix - base.prefixlen) := by ring
        _ ≤ 2 ^ base.prefixlen * 2 ^ (newPrefix - base.prefixlen) := Nat.mul_le_mul_right _ hlt
        _ = 2 ^ newPrefix := by rw [← pow_add, Nat.add_sub_cancel' h.1]⟩
  else none

/-- `IPPlanner(lan_base, link_base)`. -/
def Planner.new (lanBase linkBase : String) : Option Planner :=
  match parseIPv4Network lanBase.toList, parseIPv4Network linkBase.toList with
  | .ok lanBase, .ok linkBase => some { lanBase, linkBase }
  | _, _ => none

/-- `next_lan_subnet`. -/
def Planner.nextLanSubnet (planner : Planner) : Option (IPv4Network × Planner) :=
  (subnetAt planner.lanBase 24 planner.lanNext).map fun subnet =>
    (subnet, { planner with lanNext := planner.lanNext + 1 })

/-- `next_link_subnet`. -/
def Planner.nextLinkSubnet (planner : Planner) : Option (IPv4Network × Planner) :=
  (subnetAt planner.linkBase 30 planner.linkNext).map fun subnet =>
    (subnet, { planner with linkNext := planner.linkNext + 1 })

/-! ## The ends of a link -/

/-- Whether a link joins a router and a switch. -/
def isRouterSwitch (a b : DevicePlan) : Bool :=
  (a.category = "router" && b.category = "switch") ||
    (a.category = "switch" && b.category = "router")

/-- Whether a link joins a router and a cloud. -/
def isRouterCloud (a b : DevicePlan) : Bool :=
  (a.category = "router" && b.category = "cloud") ||
    (a.category = "cloud" && b.category = "router")

/-- Whether a device is an end device that gets an address from its LAN. -/
def isEndDevice (device : DevicePlan) : Bool :=
  ["pc", "server", "laptop"].contains device.category

/-- The name and the port of the router end of a link. -/
def routerEnd (link : LinkPlan) (a : DevicePlan) : String × String :=
  if a.category = "router" then (link.deviceA, link.portA) else (link.deviceB, link.portB)

/-- The end device behind a switch on a link. -/
def endDevice (link : LinkPlan) (switchName : String) (a b : DevicePlan) :
    Option (String × String) :=
  if link.deviceA = switchName ∧ isEndDevice b then some (link.deviceB, link.portB)
  else if link.deviceB = switchName ∧ isEndDevice a then some (link.deviceA, link.portA)
  else none

/-! ## Addresses of the hosts -/

/-- One link of `_assign_host_ips`: the devices and the index of the next host. -/
def assignHostIp (switchName : String) (subnet : IPv4Network) (gateway : String)
    (state : List DevicePlan × ℕ) (link : LinkPlan) : List DevicePlan × ℕ :=
  let (devices, hostIdx) := state
  match deviceByName devices link.deviceA, deviceByName devices link.deviceB with
  | some a, some b =>
    match endDevice link switchName a b, subnet.hostAt hostIdx with
    | some (name, port), some address =>
      (updateFirst (fun device => device.name = name)
        (fun device =>
          { device with
            interfaces := device.interfaces.set port (interfaceText address subnet.prefixlen)
            gateway })
        devices, hostIdx + 1)
    | _, _ => (devices, hostIdx)
  | _, _ => (devices, hostIdx)

/-- `_assign_host_ips`. -/
def assignHostIps (links : List LinkPlan) (switchName : String) (subnet : IPv4Network)
    (gateway : String) (devices : List DevicePlan) : List DevicePlan :=
  (links.foldl (assignHostIp switchName subnet gateway) (devices, 1)).1

/-! ## VLANs -/

/-- The port of the router towards the switch, the parent of the subinterfaces. -/
def parentPort (routerName switchName : String) : List LinkPlan → Option String
  | [] => none
  | link :: links =>
    if link.deviceA = routerName ∧ link.deviceB = switchName then some link.portA
    else if link.deviceB = routerName ∧ link.deviceA = switchName then some link.portB
    else parentPort routerName switchName links

/-- `_pc_port`. -/
def pcPort (switchName pcName : String) : List LinkPlan → Option String
  | [] => none
  | link :: links =>
    if link.deviceA = switchName ∧ link.deviceB = pcName then some link.portB
    else if link.deviceB = switchName ∧ link.deviceA = pcName then some link.portA
    else pcPort switchName pcName links

/-- The hosts of a VLAN take the addresses of its subnet from the given index on. -/
def assignVlanHosts (links : List LinkPlan) (switchName : String) (vlan : VLANConfig)
    (subnet : IPv4Network) (gateway : String) : ℕ → List DevicePlan → List DevicePlan
  | _, [] => []
  | hostIdx, device :: devices =>
    if device.category = "pc" ∧ device.vlan = vlan.vlanId then
      match subnet.hostAt hostIdx with
      | none => device :: devices
      | some address =>
        match pcPort switchName device.name links with
        | some port =>
          if port = "" then
            device :: assignVlanHosts links switchName vlan subnet gateway hostIdx devices
          else
            { device with
              interfaces := device.interfaces.set port (interfaceText address subnet.prefixlen)
              gateway } ::
              assignVlanHosts links switchName vlan subnet gateway (hostIdx + 1) devices
        | none => device :: assignVlanHosts links switchName vlan subnet gateway hostIdx devices
    else device :: assignVlanHosts links switchName vlan subnet gateway hostIdx devices

/-- The pool of a subnet; the gateway is excluded from it. -/
def dhcpPool (router poolName : String) (subnet : IPv4Network) (gateway : String) : DHCPPool where
  router
  poolName
  network := text subnet.networkAddress
  mask := text subnet.netmask
  gateway
  excludedStart := gateway
  excludedEnd := gateway

/-- The VLANs of the plan one after the other. -/
def addressVlans (dhcp : Bool) (router switch : DevicePlan) (port : String) :
    List VLANConfig → Planner → TopologyPlan → Option (Planner × TopologyPlan)
  | [], planner, plan => some (planner, plan)
  | vlan :: vlans, planner, plan => do
    let (subnet, planner) ← planner.nextLanSubnet
    let address ← subnet.hostAt 0
    let gateway := text address
    let cidr := interfaceText address subnet.prefixlen
    let devices := updateFirst (fun device => device.category = "router")
      (fun device =>
        { device with
          interfaces := device.interfaces.set (port ++ "." ++ toString vlan.vlanId) cidr })
      plan.devices
    addressVlans dhcp router switch port vlans planner
      { plan with
        devices := assignVlanHosts plan.links switch.name vlan subnet gateway 1 devices
        vlans := plan.vlans ++ [{ vlan with subnet := subnet.text }]
        subinterfaces := plan.subinterfaces ++
          [{ router := router.name, parentPort := port, vlanId := vlan.vlanId, ipCidr := cidr }]
        dhcpPools := plan.dhcpPools ++
          if dhcp then
            [dhcpPool router.name ("VLAN_" ++ toString vlan.vlanId) subnet gateway]
          else [] }

/-- `_plan_vlan_addressing`: one subnet for each VLAN, behind the first router and the first
switch. -/
def planVlanAddressing (planner : Planner) (plan : TopologyPlan) (dhcp : Bool) :
    Option (Planner × TopologyPlan) :=
  match devicesByCategory plan.devices "router", devicesByCategory plan.devices "switch" with
  | router :: _, switch :: _ =>
    match parentPort router.name switch.name plan.links with
    | none => some (planner, plan)
    | some port =>
      if port = "" then some (planner, plan)
      else addressVlans dhcp router switch port plan.vlans planner { plan with vlans := [] }
  | _, _ => some (planner, plan)

/-! ## Addresses of the links -/

/-- `tuple(sorted([a, b]))`. -/
def sortedPair (a b : String) : String × String := if b < a then (b, a) else (a, b)

/-- What the loop over the links builds. -/
structure Addressing where
  planner : Planner
  devices : List DevicePlan
  routerLans : Dict String (List IPv4Network)
  linkSubnets : Dict (String × String) IPv4Network

/-- A link between a router and a switch: a new LAN, with its first host on the router's port. -/
def addressLan (links : List LinkPlan) (state : Addressing) (target : String × String)
    (switchName : String) : Option Addressing := do
  let (subnet, planner) ← state.planner.nextLanSubnet
  let gateway ← subnet.hostAt 0
  let devices :=
    setInterface state.devices target.1 target.2 (interfaceText gateway subnet.prefixlen)
  return { state with
    planner
    devices := assignHostIps links switchName subnet (text gateway) devices
    routerLans :=
      state.routerLans.set target.1 ((state.routerLans.get? target.1).getD [] ++ [subnet]) }

/-- A link between routers: the first two hosts of a new subnet on its ends. -/
def addressRouters (state : Addressing) (link : LinkPlan) : Option Addressing := do
  let (subnet, planner) ← state.planner.nextLinkSubnet
  let addressA ← subnet.hostAt 0
  let addressB ← subnet.hostAt 1
  let devices :=
    setInterface state.devices link.deviceA link.portA (interfaceText addressA subnet.prefixlen)
  return { state with
    planner
    devices := setInterface devices link.deviceB link.portB
      (interfaceText addressB subnet.prefixlen)
    linkSubnets := state.linkSubnets.set (sortedPair link.deviceA link.deviceB) subnet }

/-- A link between a router and a cloud: the first host of a new subnet on the router's port. -/
def addressCloud (state : Addressing) (target : String × String) : Option Addressing := do
  let (subnet, planner) ← state.planner.nextLinkSubnet
  let address ← subnet.hostAt 0
  return { state with
    planner
    devices :=
      setInterface state.devices target.1 target.2 (interfaceText address subnet.prefixlen) }

/-- One link of the loop. -/
def addressLink (links : List LinkPlan) (vlanMode : Bool) (state : Addressing) (link : LinkPlan) :
    Option Addressing :=
  match deviceByName state.devices link.deviceA, deviceByName state.devices link.deviceB with
  | some a, some b =>
    if isRouterSwitch a b then
      if vlanMode then some state
      else addressLan links state (routerEnd link a)
        (if b.category = "switch" then link.deviceB else link.deviceA)
    else if a.category = "router" ∧ b.category = "router" then addressRouters state link
    else if isRouterCloud a b then addressCloud state (routerEnd link a)
    else some state
  | _, _ => some state

/-- The loop over the links. -/
def addressLinks (links : List LinkPlan) (vlanMode : Bool) :
    List LinkPlan → Addressing → Option Addressing
  | [], state => some state
  | link :: rest, state => (addressLink links vlanMode state link).bind
      (addressLinks links vlanMode rest)

/-! ## Routes -/

/-- The order in which sets of names are iterated. -/
structure SetOrder where
  iterate : List String → List String
  perm : ∀ names, (iterate names).Perm names

/-- `adjacency.setdefault(r, set()).add(s)`. -/
def addNeighbour (adjacency : Dict String (List String)) (r s : String) :
    Dict String (List String) :=
  let neighbours := (adjacency.get? r).getD []
  adjacency.set r (if s ∈ neighbours then neighbours else neighbours ++ [s])

/-- The adjacency of the routers, from the links between them. -/
def adjacencyOf (routers : List DevicePlan) (linkSubnets : Dict (String × String) IPv4Network) :
    Dict String (List String) :=
  linkSubnets.keys.foldl
    (fun adjacency key => addNeighbour (addNeighbour adjacency key.1 key.2) key.2 key.1)
    (Dict.ofList (routers.map fun router => (router.name, [])))

/-- The neighbours of a router in the order in which their set is iterated. -/
def adjacent (order : SetOrder) (adjacency : Dict String (List String)) (name : String) :
    List String := order.iterate ((adjacency.get? name).getD [])

/-- `_first_hop`, and `_bfs_first_hop` with blocked routers. -/
def firstHopOf (order : SetOrder) (adjacency : Dict String (List String)) (source target : String)
    (blocked : List String) : Option String :=
  firstHop (adjacent order adjacency) adjacency.keys source target blocked

/-- The first interface on a subnet among interface texts; the outer `none` is a `ValueError`. -/
def findOnSubnet (subnet : IPv4Network) : List String → Option (Option String)
  | [] => some none
  | cidr :: cidrs =>
    match parseIPv4Interface cidr with
    | none => none
    | some (ip, network) =>
      if network = subnet then some (some (text ip)) else findOnSubnet subnet cidrs

/-- `_ip_on_subnet`. -/
def ipOnSubnet (routers : List DevicePlan) (name : String) (subnet : IPv4Network) :
    Option (Option String) :=
  match (Dict.ofList (routers.map fun router => (router.name, router))).get? name with
  | none => some none
  | some router => findOnSubnet subnet router.interfaces.values

/-- What the planners of routes share: the routers and what the loop over the links has built. -/
structure RouteContext where
  routers : List DevicePlan
  routerLans : Dict String (List IPv4Network)
  linkSubnets : Dict (String × String) IPv4Network

/-- The adjacency of the routers. -/
def RouteContext.adjacency (context : RouteContext) : Dict String (List String) :=
  adjacencyOf context.routers context.linkSubnets

/-- The routes from a router to the LANs of another one through a hop. -/
def RouteContext.routesVia (context : RouteContext) (router other hop : String)
    (adminDistance : ℕ) : Option (List StaticRoute) :=
  match context.linkSubnets.get? (sortedPair router hop) with
  | none => some []
  | some subnet => do
    let nextHop ← ipOnSubnet context.routers hop subnet
    return match nextHop with
    | none => []
    | some nextHop =>
      ((context.routerLans.get? other).getD []).map fun lan =>
        { router
          destination := text lan.networkAddress
          mask := text lan.netmask
          nextHop
          adminDistance }

/-- The static routes from a router to another one.  An empty hop is false in the source. -/
def RouteContext.staticRoutes (order : SetOrder) (context : RouteContext) (router other : String) :
    Option (List StaticRoute) :=
  if other = router then some []
  else
    match firstHopOf order context.adjacency router other [] with
    | none => some []
    | some hop => if hop = "" then some [] else context.routesVia router other hop 1

/-- The floating routes from a router to another one: a path that avoids the primary hop. -/
def RouteContext.floatingRoutes (order : SetOrder) (context : RouteContext) (adminDistance : ℕ)
    (router other : String) : Option (List StaticRoute) :=
  if other = router then some []
  else
    match firstHopOf order context.adjacency router other [] with
    | none => some []
    | some primaryHop =>
      if primaryHop = "" then some []
      else
        match firstHopOf order context.adjacency router other [primaryHop] with
        | none => some []
        | some altHop =>
          if altHop = "" then some [] else context.routesVia router other altHop adminDistance

/-- The routes of all pairs of routers, in the order of the two loops. -/
def RouteContext.allPairs (context : RouteContext)
    (routes : String → String → Option (List StaticRoute)) : Option (List StaticRoute) := do
  let lists ← (context.routers.product context.routers).mapM fun pair =>
    routes pair.1.name pair.2.name
  return lists.flatten

/-- `_plan_static_routes`. -/
def planStaticRoutes (order : SetOrder) (context : RouteContext) : Option (List StaticRoute) :=
  context.allPairs (context.staticRoutes order)

/-- `_plan_floating_static_routes`. -/
def planFloatingStaticRoutes (order : SetOrder) (context : RouteContext)
    (adminDistance : ℕ := 254) : Option (List StaticRoute) :=
  context.allPairs (context.floatingRoutes order adminDistance)

/-! ## The plan -/

/-- The pools of the LANs of a router. -/
def lanPools (router : String) (lans : List IPv4Network) : Option (List DHCPPool) :=
  lans.zipIdx.mapM fun (subnet, i) =>
    (subnet.hostAt 0).map fun gateway =>
      dhcpPool router ("LAN_" ++ router ++ "_" ++ toString i) subnet (text gateway)

/-- The pools of the LANs of all routers, when DHCP is asked for. -/
def planPools (dhcp : Bool) (routers : List DevicePlan)
    (routerLans : Dict String (List IPv4Network)) : Option (List DHCPPool) :=
  if dhcp then
    (routers.mapM fun router =>
      lanPools router.name ((routerLans.get? router.name).getD [])).map List.flatten
  else some []

/-- The addresses of the VLANs, when the plan has any. -/
def planVlans (planner : Planner) (plan : TopologyPlan) (dhcp : Bool) :
    Option (Planner × TopologyPlan) :=
  if plan.vlans.isEmpty then some (planner, plan) else planVlanAddressing planner plan dhcp

/-- The floating routes, when they are asked for. -/
def planBackups (order : SetOrder) (context : RouteContext) (floatingRoutes : Bool) :
    Option (List StaticRoute) :=
  if floatingRoutes then planFloatingStaticRoutes order context else some []

/-- `plan_addressing` with static routing. -/
def planAddressing (order : SetOrder) (planner : Planner) (plan : TopologyPlan)
    (dhcp floatingRoutes : Bool) : Option (Planner × TopologyPlan) := do
  let vlanMode := !plan.vlans.isEmpty
  let (planner, plan) ← planVlans planner plan dhcp
  let state ← addressLinks plan.links vlanMode plan.links
    { planner, devices := plan.devices, routerLans := Dict.empty, linkSubnets := Dict.empty }
  let routers := devicesByCategory state.devices "router"
  let pools ← planPools dhcp routers state.routerLans
  let context := ⟨routers, state.routerLans, state.linkSubnets⟩
  let routes ← planStaticRoutes order context
  let floating ← planBackups order context floatingRoutes
  return (state.planner,
    { plan with
      devices := state.devices
      dhcpPools := plan.dhcpPools ++ pools
      staticRoutes := plan.staticRoutes ++ routes ++ floating })

end IPPlanner

end PacketTracer
