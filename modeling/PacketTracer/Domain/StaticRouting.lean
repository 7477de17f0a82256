import PacketTracer.Domain.IpPlanner
import PacketTracer.Library.Fallible

/-!
# The planned static routes deliver

Every router finds its first hop towards another router with a search of its own.  Since each of
these hops is one step closer to the owner of a LAN, the routes of all routers together lead there:
`primary_routes_deliver`.  The next hop of a route is an address of the neighbour on a subnet that
both ends share.

This needs routers with pairwise distinct, nonempty names and router ports that carry one link each,
and it is about the LANs of links between routers and switches and the routes that are not floating.
Those lead around the first hop, where there is a way around it: `floating_route_iff`.
-/

namespace PacketTracer

open BreadthFirsts Dicts Fallible Ipaddress

namespace IPPlanner

/-! ## What a plan says about its routers -/

/-- Names and categories of the devices: what addressing never changes. -/
def signature (devices : List DevicePlan) : List (String × String) :=
  devices.map fun device => (device.name, device.category)

/-- The category of the first device of a name. -/
def kindOf (devices : List DevicePlan) (name : String) : Option String :=
  (deviceByName devices name).map DevicePlan.category

/-- The text on a port of the first device of a name. -/
def interfaceOf (devices : List DevicePlan) (name port : String) : Option String :=
  (deviceByName devices name).bind fun device => device.interfaces.get? port

/-- The names of the routers. -/
def routerNames (devices : List DevicePlan) : List String :=
  (devicesByCategory devices "router").map DevicePlan.name

/-- The ends of a link that are routers. -/
def routerEnds (devices : List DevicePlan) (link : LinkPlan) : List (String × String) :=
  [(link.deviceA, link.portA), (link.deviceB, link.portB)].filter fun port =>
    kindOf devices port.1 = some "router"

/-- The routers have pairwise distinct names, none of them empty, and none of their ports carries
two links. -/
structure WellFormed (plan : TopologyPlan) : Prop where
  names_nodup : (routerNames plan.devices).Nodup
  name_ne_empty : "" ∉ routerNames plan.devices
  ports_nodup : (plan.links.flatMap (routerEnds plan.devices)).Nodup

instance (plan : TopologyPlan) : Decidable (WellFormed plan) :=
  decidable_of_iff ((routerNames plan.devices).Nodup ∧ "" ∉ routerNames plan.devices ∧
      (plan.links.flatMap (routerEnds plan.devices)).Nodup)
    ⟨fun ⟨hnames, hne, hports⟩ => ⟨hnames, hne, hports⟩,
      fun h => ⟨h.names_nodup, h.name_ne_empty, h.ports_nodup⟩⟩

/-- Whether a link joins two routers. -/
def joinsRouters (devices : List DevicePlan) (link : LinkPlan) : Bool :=
  kindOf devices link.deviceA = some "router" && kindOf devices link.deviceB = some "router"

/-- The router graph: the routers at the other end of the links of a router. -/
def neighbours (plan : TopologyPlan) (name : String) : List String :=
  (plan.links.filter (joinsRouters plan.devices)).flatMap fun link =>
    (if link.deviceA = name then [link.deviceB] else []) ++
      (if link.deviceB = name then [link.deviceA] else [])

/-- A router holds an address on a subnet. -/
def HasAddress (plan : TopologyPlan) (name address : String) (subnet : IPv4Network) : Prop :=
  ∃ router ∈ devicesByCategory plan.devices "router", router.name = name ∧
    ∃ cidr ∈ router.interfaces.values, ∃ ip,
      parseIPv4Interface cidr = some (ip, subnet) ∧ text ip = address

/-- The next hop of a route is an address of a neighbour on a subnet that both share. -/
def NextRouter (plan : TopologyPlan) (route : StaticRoute) (next : String) : Prop :=
  next ∈ neighbours plan route.router ∧ ∃ subnet, HasAddress plan next route.nextHop subnet ∧
    ∃ address, HasAddress plan route.router address subnet

/-- The router end of a link between a router and a switch. -/
def lanEnd (devices : List DevicePlan) (link : LinkPlan) : Option (String × String) :=
  if kindOf devices link.deviceA = some "router" ∧ kindOf devices link.deviceB = some "switch" then
    some (link.deviceA, link.portA)
  else if kindOf devices link.deviceA = some "switch" ∧
      kindOf devices link.deviceB = some "router" then
    some (link.deviceB, link.portB)
  else none

/-- A router owns the LAN of a link to a switch: the network on its port. -/
def OwnsLinkLan (plan : TopologyPlan) (owner : String) (lan : IPv4Network) : Prop :=
  ∃ link ∈ plan.links, ∃ port, lanEnd plan.devices link = some (owner, port) ∧
    ∃ cidr, interfaceOf plan.devices owner port = some cidr ∧
      ∃ ip, parseIPv4Interface cidr = some (ip, lan)

/-- A router owns the LAN of a VLAN: the network on a subinterface. -/
def OwnsVlanLan (plan : TopologyPlan) (owner : String) (lan : IPv4Network) : Prop :=
  ∃ subinterface ∈ plan.subinterfaces, subinterface.router = owner ∧
    ∃ ip, parseIPv4Interface subinterface.ipCidr = some (ip, lan)

/-- The routes of a router to a LAN. -/
def routesTo (routes : List StaticRoute) (router : String) (lan : IPv4Network) :
    List StaticRoute :=
  routes.filter fun route => route.router = router ∧
    route.destination = text lan.networkAddress ∧ route.mask = text lan.netmask

/-- Following the routes to a LAN ends at its owner after the given number of hops, whichever route
each router takes, and every hop is one step closer to the owner. -/
def Delivers (plan : TopologyPlan) (routes : List StaticRoute) (owner : String)
    (lan : IPv4Network) : ℕ → String → Prop
  | 0, router => router = owner
  | n + 1, router => routesTo routes router lan ≠ [] ∧
    ∀ route ∈ routesTo routes router lan, ∃ next, NextRouter plan route next ∧
      IsDist (neighbours plan) next owner n ∧ Delivers plan routes owner lan n next

/-- A route leads around a hop, through the first router of a shortest way that avoids it. -/
def LeadsAround (plan : TopologyPlan) (owner hop : String) (route : StaticRoute) : Prop :=
  ∃ alt, NextRouter plan route alt ∧ alt ≠ hop ∧
    ∃ n, IsDist (avoiding (neighbours plan) [hop]) alt owner n ∧
      IsDist (avoiding (neighbours plan) [hop]) route.router owner (n + 1)

/-- The routes that planning has added. -/
def emitted (plan planned : TopologyPlan) : List StaticRoute :=
  planned.staticRoutes.drop plan.staticRoutes.length

/-- The routes that are not floating. -/
def primary (routes : List StaticRoute) : List StaticRoute :=
  routes.filter fun route => route.adminDistance = 1

/-! ## Writes keep names and categories -/

section Writes

variable {devices : List DevicePlan} {test : DevicePlan → Bool} {write : DevicePlan → DevicePlan}

lemma deviceByName_updateFirst {target name : String}
    (hwrite : ∀ device, (write device).name = device.name) :
    deviceByName (updateFirst (fun device => device.name = target) write devices) name =
      if target = name then (deviceByName devices name).map write
      else deviceByName devices name := by
  induction devices with
  | nil => simp [deviceByName, updateFirst]
  | cons device devices ih =>
    unfold deviceByName at ih ⊢
    by_cases htarget : device.name = target
    · rw [updateFirst, if_pos (by simpa using htarget)]
      by_cases hname : target = name
      · simp [hwrite, htarget, hname]
      · simp [hwrite, htarget, hname]
    · rw [updateFirst, if_neg (by simpa using htarget)]
      by_cases hname : device.name = name
      · have hne : target ≠ name := fun h => htarget (hname.trans h.symm)
        simp [hname, hne]
      · simpa [hname] using ih

lemma signature_updateFirst (hwrite : ∀ device, (write device).name = device.name ∧
      (write device).category = device.category) :
    signature (updateFirst test write devices) = signature devices := by
  induction devices with
  | nil => rfl
  | cons device devices ih =>
    unfold signature at ih ⊢
    rw [updateFirst]
    split_ifs with htest
    · rw [List.map_cons, List.map_cons, (hwrite device).1, (hwrite device).2]
    · rw [List.map_cons, List.map_cons, ih]

end Writes

section Signature

variable {devices devices' : List DevicePlan}

lemma kindOf_eq_find? (devices : List DevicePlan) (name : String) :
    kindOf devices name = ((signature devices).find? fun entry => entry.1 = name).map Prod.snd := by
  rw [kindOf, deviceByName, signature, List.find?_map, Option.map_map]
  rfl

lemma routerNames_eq_map (devices : List DevicePlan) :
    routerNames devices = ((signature devices).filter fun entry => entry.2 = "router").map
      Prod.fst := by
  rw [routerNames, devicesByCategory, signature, List.filter_map, List.map_map]
  rfl

lemma kindOf_congr (h : signature devices = signature devices') (name : String) :
    kindOf devices name = kindOf devices' name := by
  rw [kindOf_eq_find?, kindOf_eq_find?, h]

lemma routerNames_congr (h : signature devices = signature devices') :
    routerNames devices = routerNames devices' := by
  rw [routerNames_eq_map, routerNames_eq_map, h]

lemma routerEnds_congr (h : signature devices = signature devices') (link : LinkPlan) :
    routerEnds devices link = routerEnds devices' link := by
  simp only [routerEnds, kindOf_congr h]

end Signature

/-! ## Writes to interfaces -/

section Interfaces

variable {devices : List DevicePlan}

@[simp] lemma signature_setInterface (devices : List DevicePlan) (name port text : String) :
    signature (setInterface devices name port text) = signature devices :=
  signature_updateFirst fun _ => ⟨rfl, rfl⟩

variable {name : String}

lemma interfaceOf_setInterface_self (port text : String) (h : (deviceByName devices name).isSome) :
    interfaceOf (setInterface devices name port text) name port = some text := by
  obtain ⟨device, hdevice⟩ := Option.isSome_iff_exists.mp h
  rw [interfaceOf, setInterface, deviceByName_updateFirst, if_pos rfl, hdevice]
  · simp
  · exact fun _ => rfl

variable {port : String}

lemma interfaceOf_setInterface_of_ne {name' port' : String} (text : String)
    (h : (name, port) ≠ (name', port')) :
    interfaceOf (setInterface devices name port text) name' port' =
      interfaceOf devices name' port' := by
  rw [interfaceOf, setInterface, deviceByName_updateFirst (by intro _; rfl)]
  split_ifs with hname
  · subst hname
    have hport : port ≠ port' := fun hport => h (by rw [hport])
    cases hdevice : deviceByName devices name with
    | none => simp [interfaceOf, hdevice]
    | some device => simp [interfaceOf, hdevice, hport]
  · rfl

lemma kindOf_endDevice {link : LinkPlan} {switchName : String} {a b : DevicePlan}
    (ha : deviceByName devices link.deviceA = some a)
    (hb : deviceByName devices link.deviceB = some b)
    (h : endDevice link switchName a b = some (name, port)) :
    kindOf devices name ≠ some "router" := by
  have hend : ∀ device, isEndDevice device = true → device.category ≠ "router" := by
    intro device hdevice hrouter
    rw [isEndDevice, hrouter] at hdevice
    revert hdevice
    decide
  unfold endDevice at h
  split_ifs at h with hswitch hswitch
  · obtain ⟨rfl, -⟩ := Prod.mk.inj (Option.some.inj h)
    rw [kindOf, hb]
    exact fun hkind => hend b hswitch.2 (Option.some.inj hkind)
  · obtain ⟨rfl, -⟩ := Prod.mk.inj (Option.some.inj h)
    rw [kindOf, ha]
    exact fun hkind => hend a hswitch.2 (Option.some.inj hkind)

/-- Giving a host its address keeps the signature and the interfaces of the routers. -/
lemma assignHostIp_spec (switchName : String) (subnet : IPv4Network) (gateway : String)
    (state : List DevicePlan × ℕ) (link : LinkPlan) :
    signature (assignHostIp switchName subnet gateway state link).1 = signature state.1 ∧
      ∀ name port, kindOf state.1 name = some "router" →
        interfaceOf (assignHostIp switchName subnet gateway state link).1 name port =
          interfaceOf state.1 name port := by
  obtain ⟨devices, hostIdx⟩ := state
  simp only [assignHostIp]
  split
  · next a b ha hb =>
    split
    · next target port address hend haddress =>
      refine ⟨signature_updateFirst fun _ => ⟨rfl, rfl⟩, fun name port' hrouter => ?_⟩
      have hne : target ≠ name := by
        rintro rfl
        exact kindOf_endDevice ha hb hend hrouter
      unfold interfaceOf
      rw [deviceByName_updateFirst (by intro _; rfl), if_neg hne]
    · exact ⟨rfl, fun _ _ _ => rfl⟩
  · exact ⟨rfl, fun _ _ _ => rfl⟩

/-- Giving the hosts their addresses keeps the signature and the interfaces of the routers. -/
lemma assignHostIps_spec (links : List LinkPlan) (switchName : String) (subnet : IPv4Network)
    (gateway : String) (devices : List DevicePlan) :
    signature (assignHostIps links switchName subnet gateway devices) = signature devices ∧
      ∀ name port, kindOf devices name = some "router" →
        interfaceOf (assignHostIps links switchName subnet gateway devices) name port =
          interfaceOf devices name port := by
  unfold assignHostIps
  generalize hstate : (devices, 1) = state
  obtain rfl : state.1 = devices := by rw [← hstate]
  clear hstate
  induction links generalizing state with
  | nil => exact ⟨rfl, fun _ _ _ => rfl⟩
  | cons link links ih =>
    obtain ⟨hsignature, hinterface⟩ := assignHostIp_spec switchName subnet gateway state link
    obtain ⟨hsignature', hinterface'⟩ := ih (assignHostIp switchName subnet gateway state link)
    refine ⟨hsignature'.trans hsignature, fun name port hrouter => ?_⟩
    rw [← kindOf_congr hsignature] at hrouter
    refine (hinterface' name port hrouter).trans (hinterface name port ?_)
    rwa [← kindOf_congr hsignature]

end Interfaces

/-! ## One link -/

/-- A port carries an address of a subnet. -/
def OnSubnet (devices : List DevicePlan) (name port : String) (subnet : IPv4Network) : Prop :=
  ∃ ip : IPv4Address, (ip : ℕ) ∈ subnet ∧
    interfaceOf devices name port = some (interfaceText ip subnet.prefixlen)

/-- What addressing a link leaves alone. -/
structure Framed (link : LinkPlan) (state state' : Addressing) : Prop where
  signature_eq : signature state'.devices = signature state.devices
  interfaceOf_eq : ∀ name port, kindOf state.devices name = some "router" →
    (name, port) ∉ routerEnds state.devices link →
    interfaceOf state'.devices name port = interfaceOf state.devices name port
  lanBase_eq : state'.planner.lanBase = state.planner.lanBase

/-- What addressing a link does. -/
inductive Effect (vlanMode : Bool) (link : LinkPlan) (state state' : Addressing) : Prop
  /-- The router end of a link to a switch gets a new LAN. -/
  | lan (router port : String) (subnet : IPv4Network) (hmode : vlanMode = false)
    (hend : lanEnd state.devices link = some (router, port))
    (hjoins : joinsRouters state.devices link = false)
    (hsubnet : subnetAt state.planner.lanBase 24 state.planner.lanNext = some subnet)
    (hnext : state'.planner.lanNext = state.planner.lanNext + 1)
    (hport : OnSubnet state'.devices router port subnet)
    (hlans : state'.routerLans =
      state.routerLans.set router ((state.routerLans.get? router).getD [] ++ [subnet]))
    (hlinks : state'.linkSubnets = state.linkSubnets)
  /-- Both ends of a link between routers get an address of a new subnet. -/
  | routers (subnet : IPv4Network) (hjoins : joinsRouters state.devices link = true)
    (hend : lanEnd state.devices link = none)
    (hnext : state'.planner.lanNext = state.planner.lanNext)
    (hportA : OnSubnet state'.devices link.deviceA link.portA subnet)
    (hportB : OnSubnet state'.devices link.deviceB link.portB subnet)
    (hlans : state'.routerLans = state.routerLans)
    (hlinks : state'.linkSubnets =
      state.linkSubnets.set (sortedPair link.deviceA link.deviceB) subnet)
  /-- Neither a LAN nor a link between routers. -/
  | other (hend : vlanMode = false → lanEnd state.devices link = none)
    (hjoins : joinsRouters state.devices link = false)
    (hnext : state'.planner.lanNext = state.planner.lanNext)
    (hlans : state'.routerLans = state.routerLans)
    (hlinks : state'.linkSubnets = state.linkSubnets)

section Link

variable {state state' : Addressing} {link : LinkPlan} {a b : DevicePlan}

section Ends

variable (ha : deviceByName state.devices link.deviceA = some a)
  (hb : deviceByName state.devices link.deviceB = some b)
include ha hb

/-- The router end of a link between a router and a switch, read off the devices. -/
lemma lanEnd_of_isRouterSwitch (h : isRouterSwitch a b = true) :
    lanEnd state.devices link = some (routerEnd link a) ∧
      joinsRouters state.devices link = false ∧
      kindOf state.devices (routerEnd link a).1 = some "router" := by
  have hkindA : kindOf state.devices link.deviceA = some a.category := by rw [kindOf, ha]; rfl
  have hkindB : kindOf state.devices link.deviceB = some b.category := by rw [kindOf, hb]; rfl
  simp only [isRouterSwitch, Bool.or_eq_true, Bool.and_eq_true, decide_eq_true_eq] at h
  rcases h with ⟨hcategoryA, hcategoryB⟩ | ⟨hcategoryA, hcategoryB⟩ <;>
    simp [lanEnd, joinsRouters, routerEnd, hkindA, hkindB, hcategoryA, hcategoryB]

lemma lanEnd_eq_none (h : ¬isRouterSwitch a b = true) :
    lanEnd state.devices link = none := by
  have hkindA : kindOf state.devices link.deviceA = some a.category := by rw [kindOf, ha]; rfl
  have hkindB : kindOf state.devices link.deviceB = some b.category := by rw [kindOf, hb]; rfl
  simp only [isRouterSwitch, Bool.or_eq_true, Bool.and_eq_true, decide_eq_true_eq] at h
  simp only [lanEnd, hkindA, hkindB, Option.some.injEq]
  rw [if_neg fun hab => h (Or.inl hab), if_neg fun hab => h (Or.inr hab)]

lemma joinsRouters_iff :
    joinsRouters state.devices link = true ↔ a.category = "router" ∧ b.category = "router" := by
  simp [joinsRouters, kindOf, ha, hb]

end Ends

variable {devices : List DevicePlan} {name port : String} {links : List LinkPlan}
  {target : String × String}

lemma mem_routerEnds :
    (name, port) ∈ routerEnds devices link ↔
      ((name, port) = (link.deviceA, link.portA) ∨ (name, port) = (link.deviceB, link.portB)) ∧
        kindOf devices name = some "router" := by
  simp [routerEnds]

lemma routerEnd_eq (link : LinkPlan) (a : DevicePlan) :
    routerEnd link a = (link.deviceA, link.portA) ∨
      routerEnd link a = (link.deviceB, link.portB) := by
  unfold routerEnd
  split_ifs
  · exact Or.inl rfl
  · exact Or.inr rfl

lemma interfaceOf_setInterface_of_notMem (target : String × String) (text : String)
    (htarget : target = (link.deviceA, link.portA) ∨ target = (link.deviceB, link.portB))
    (hrouter : kindOf devices name = some "router")
    (hport : (name, port) ∉ routerEnds devices link) :
    interfaceOf (setInterface devices target.1 target.2 text) name port =
      interfaceOf devices name port := by
  refine interfaceOf_setInterface_of_ne text fun h => hport ?_
  obtain rfl : target = (name, port) := h
  exact mem_routerEnds.mpr ⟨htarget, hrouter⟩

/-- Addressing the router end of a link to a switch. -/
lemma addressLan_spec {switchName : String}
    (htarget : target = (link.deviceA, link.portA) ∨ target = (link.deviceB, link.portB))
    (hkind : kindOf state.devices target.1 = some "router")
    (hend : lanEnd state.devices link = some target)
    (hjoins : joinsRouters state.devices link = false)
    (h : addressLan links state target switchName = some state') :
    Framed link state state' ∧ Effect false link state state' := by
  simp only [addressLan, Option.bind_eq_bind, Option.bind_eq_some_iff, Option.pure_def,
    Option.some.injEq] at h
  obtain ⟨⟨subnet, planner⟩, hsubnet, gateway, hgateway, rfl⟩ := h
  obtain ⟨subnet', hsubnet', heq⟩ := Option.map_eq_some_iff.mp hsubnet
  obtain ⟨rfl, rfl⟩ := Prod.mk.inj heq
  obtain ⟨router, port⟩ := target
  have hsome : (deviceByName state.devices router).isSome := by
    rw [← Option.isSome_map (f := DevicePlan.category)]
    exact Option.isSome_iff_exists.mpr ⟨_, hkind⟩
  obtain ⟨hsignature, hhosts⟩ := assignHostIps_spec links switchName subnet' (text gateway)
    (setInterface state.devices router port (interfaceText gateway subnet'.prefixlen))
  have hkinds := kindOf_congr (signature_setInterface state.devices router port
    (interfaceText gateway subnet'.prefixlen))
  refine ⟨⟨hsignature.trans (signature_setInterface _ _ _ _), fun name port' hname hport => ?_,
    rfl⟩, .lan _ _ _ rfl hend hjoins hsubnet' rfl ⟨gateway, subnet'.mem_of_hostAt hgateway, ?_⟩ rfl rfl⟩
  · refine (hhosts name port' ((hkinds name).trans hname)).trans ?_
    exact interfaceOf_setInterface_of_notMem _ _ htarget hname hport
  · refine (hhosts router port ((hkinds router).trans hkind)).trans ?_
    exact interfaceOf_setInterface_self _ _ hsome

variable {vlanMode : Bool}

/-- Addressing both ends of a link between routers. -/
lemma addressRouters_spec (hnodup : (routerEnds state.devices link).Nodup)
    (hkindA : kindOf state.devices link.deviceA = some "router")
    (hkindB : kindOf state.devices link.deviceB = some "router")
    (hend : lanEnd state.devices link = none) (h : addressRouters state link = some state') :
    Framed link state state' ∧ Effect vlanMode link state state' := by
  simp only [addressRouters, Option.bind_eq_bind, Option.bind_eq_some_iff, Option.pure_def,
    Option.some.injEq] at h
  obtain ⟨⟨subnet, planner⟩, hsubnet, addressA, haddressA, addressB, haddressB, rfl⟩ := h
  obtain ⟨subnet', hsubnet', heq⟩ := Option.map_eq_some_iff.mp hsubnet
  obtain ⟨rfl, rfl⟩ := Prod.mk.inj heq
  have hjoins : joinsRouters state.devices link = true := by simp [joinsRouters, hkindA, hkindB]
  have hne : (link.deviceB, link.portB) ≠ (link.deviceA, link.portA) := by
    intro heq
    simp [routerEnds, hkindA, heq] at hnodup
  have hsome : ∀ {devices : List DevicePlan} {name : String},
      kindOf devices name = some "router" → (deviceByName devices name).isSome := by
    intro devices name hkind
    rw [← Option.isSome_map (f := DevicePlan.category)]
    exact Option.isSome_iff_exists.mpr ⟨_, hkind⟩
  have hsignature := signature_setInterface state.devices link.deviceA link.portA
    (interfaceText addressA subnet'.prefixlen)
  refine ⟨⟨(signature_setInterface _ _ _ _).trans hsignature, fun name port hname hport => ?_,
    rfl⟩, .routers _ hjoins hend rfl ⟨addressA, subnet'.mem_of_hostAt haddressA, ?_⟩
    ⟨addressB, subnet'.mem_of_hostAt haddressB, ?_⟩ rfl rfl⟩
  · refine (interfaceOf_setInterface_of_notMem (link.deviceB, link.portB) _
      (Or.inr rfl) ((kindOf_congr hsignature name).trans hname) ?_).trans ?_
    · rwa [routerEnds_congr hsignature]
    · exact interfaceOf_setInterface_of_notMem (link.deviceA, link.portA) _
        (Or.inl rfl) hname hport
  · refine (interfaceOf_setInterface_of_ne _ hne).trans ?_
    exact interfaceOf_setInterface_self _ _ (hsome hkindA)
  · refine interfaceOf_setInterface_self _ _ (hsome ?_)
    rw [kindOf_congr hsignature, hkindB]

lemma addressCloud_spec
    (htarget : target = (link.deviceA, link.portA) ∨ target = (link.deviceB, link.portB))
    (hend : lanEnd state.devices link = none) (hjoins : joinsRouters state.devices link = false)
    (h : addressCloud state target = some state') :
    Framed link state state' ∧ Effect vlanMode link state state' := by
  simp only [addressCloud, Option.bind_eq_bind, Option.bind_eq_some_iff, Option.pure_def,
    Option.some.injEq] at h
  obtain ⟨⟨subnet, planner⟩, hsubnet, address, haddress, rfl⟩ := h
  obtain ⟨subnet', hsubnet', heq⟩ := Option.map_eq_some_iff.mp hsubnet
  cases heq
  exact ⟨⟨signature_setInterface _ _ _ _, fun name port' hname hport =>
      interfaceOf_setInterface_of_notMem _ _ htarget hname hport, rfl⟩,
    .other (fun _ => hend) hjoins rfl rfl rfl⟩

/-- What addressing a link does and what it leaves alone. -/
theorem addressLink_spec (hnodup : (routerEnds state.devices link).Nodup)
    (h : addressLink links vlanMode state link = some state') :
    Framed link state state' ∧ Effect vlanMode link state state' := by
  unfold addressLink at h
  split at h
  · next a b ha hb =>
    by_cases hswitch : isRouterSwitch a b = true
    · obtain ⟨hend, hjoins, hkind⟩ := lanEnd_of_isRouterSwitch ha hb hswitch
      rw [if_pos hswitch] at h
      cases vlanMode with
      | true =>
        cases h
        exact ⟨⟨rfl, fun _ _ _ _ => rfl, rfl⟩,
          .other (fun hmode => by cases hmode) hjoins rfl rfl rfl⟩
      | false => exact addressLan_spec (routerEnd_eq link a) hkind hend hjoins h
    · have hend := lanEnd_eq_none ha hb hswitch
      rw [if_neg hswitch] at h
      split_ifs at h with hrouters hcloud
      · refine addressRouters_spec hnodup ?_ ?_ hend h
        · rw [kindOf, ha, Option.map_some, hrouters.1]
        · rw [kindOf, hb, Option.map_some, hrouters.2]
      · refine addressCloud_spec (routerEnd_eq link a) hend ?_ h
        exact Bool.eq_false_iff.mpr fun hjoins => hrouters ((joinsRouters_iff ha hb).mp hjoins)
      · cases h
        refine ⟨⟨rfl, fun _ _ _ _ => rfl, rfl⟩, .other (fun _ => hend) ?_ rfl rfl rfl⟩
        exact Bool.eq_false_iff.mpr fun hjoins => hrouters ((joinsRouters_iff ha hb).mp hjoins)
  · next hmissing =>
    cases h
    have hkind : kindOf state.devices link.deviceA = none ∨
        kindOf state.devices link.deviceB = none := by
      rcases ha : deviceByName state.devices link.deviceA with _ | a
      · exact Or.inl (by rw [kindOf, ha]; rfl)
      cases hb : deviceByName state.devices link.deviceB with
      | none => exact Or.inr (by rw [kindOf, hb]; rfl)
      | some b => exact absurd hb (hmissing a b ha)
    refine ⟨⟨rfl, fun _ _ _ _ => rfl, rfl⟩, .other (fun _ => ?_) ?_ rfl rfl rfl⟩
    · rcases hkind with hkind | hkind <;> simp [lanEnd, hkind]
    · rcases hkind with hkind | hkind <;> simp [joinsRouters, hkind]

end Link

/-! ## The loop -/

/-- The LANs recorded for a router. -/
def Addressing.lansOf (state : Addressing) (name : String) : List IPv4Network :=
  (state.routerLans.get? name).getD []

lemma subnetAt_injective {base subnet : IPv4Network} {newPrefix i j : ℕ}
    (hi : subnetAt base newPrefix i = some subnet) (hj : subnetAt base newPrefix j = some subnet) :
    i = j := by
  unfold subnetAt at hi hj
  split_ifs at hi hj with hsingle hzero hzero' hbound hbound'
  · rw [hzero, hzero']
  · have heq := (Option.some.inj hi).trans (Option.some.inj hj).symm
    have hindex := congrArg PrefixBlocks.Block.index heq
    exact Nat.add_left_cancel hindex

/-- What holds after the links `done` have been addressed. -/
structure Addressed (devices : List DevicePlan) (vlanMode : Bool) (done : List LinkPlan)
    (state : Addressing) : Prop where
  signature_eq : signature state.devices = signature devices
  /-- The port of a LAN end carries an address of a LAN of its router. -/
  lans : vlanMode = false → ∀ link ∈ done, ∀ router port,
    lanEnd devices link = some (router, port) →
    ∃ subnet ∈ state.lansOf router, OnSubnet state.devices router port subnet
  /-- The LANs come from the generator. -/
  drawn : ∀ router, ∀ subnet ∈ state.lansOf router, ∃ i < state.planner.lanNext,
    subnetAt state.planner.lanBase 24 i = some subnet
  /-- A LAN has one owner. -/
  owner : ∀ router router' subnet, subnet ∈ state.lansOf router →
    subnet ∈ state.lansOf router' → router = router'
  /-- The subnet of two routers is on both ends of a link between them. -/
  shared : ∀ key subnet, state.linkSubnets.get? key = some subnet →
    ∃ link ∈ done, joinsRouters devices link = true ∧
      key = sortedPair link.deviceA link.deviceB ∧
      OnSubnet state.devices link.deviceA link.portA subnet ∧
      OnSubnet state.devices link.deviceB link.portB subnet
  /-- Linked routers have a subnet. -/
  joined : ∀ link ∈ done, joinsRouters devices link = true →
    (state.linkSubnets.get? (sortedPair link.deviceA link.deviceB)).isSome

section Loop

variable {devices : List DevicePlan} {vlanMode : Bool} {done : List LinkPlan}
  {state state' : Addressing} {link : LinkPlan}
  {devices' : List DevicePlan} {port : String} {links : List LinkPlan}

lemma lanEnd_congr (h : signature devices = signature devices') (link : LinkPlan) :
    lanEnd devices link = lanEnd devices' link := by
  simp only [lanEnd, kindOf_congr h]

lemma joinsRouters_congr (h : signature devices = signature devices') (link : LinkPlan) :
    joinsRouters devices link = joinsRouters devices' link := by
  simp only [joinsRouters, kindOf_congr h]

lemma lanEnd_mem_routerEnds {router : String} (h : lanEnd devices link = some (router, port)) :
    (router, port) ∈ routerEnds devices link := by
  unfold lanEnd at h
  split_ifs at h with hab hba
  · cases h
    exact mem_routerEnds.mpr ⟨Or.inl rfl, hab.1⟩
  · cases h
    exact mem_routerEnds.mpr ⟨Or.inr rfl, hba.2⟩

lemma mem_routerEnds_of_joinsRouters (h : joinsRouters devices link = true) :
    (link.deviceA, link.portA) ∈ routerEnds devices link ∧
      (link.deviceB, link.portB) ∈ routerEnds devices link := by
  simp only [joinsRouters, Bool.and_eq_true, decide_eq_true_eq] at h
  exact ⟨mem_routerEnds.mpr ⟨Or.inl rfl, h.1⟩, mem_routerEnds.mpr ⟨Or.inr rfl, h.2⟩⟩

/-- An address on a router end of an earlier link stays. -/
lemma OnSubnet.of_framed {name : String} {subnet : IPv4Network} {earlier : LinkPlan}
    (hframed : Framed link state state')
    (hsignature : signature state.devices = signature devices)
    (hnodup : ((done ++ [link]).flatMap (routerEnds devices)).Nodup) (hearlier : earlier ∈ done)
    (hend : (name, port) ∈ routerEnds devices earlier)
    (h : OnSubnet state.devices name port subnet) : OnSubnet state'.devices name port subnet := by
  obtain ⟨ip, hip, hinterface⟩ := h
  refine ⟨ip, hip, ?_⟩
  rw [← hinterface]
  refine hframed.interfaceOf_eq name port ?_ fun hlink => ?_
  · rw [kindOf_congr hsignature]
    exact (mem_routerEnds.mp hend).2
  · rw [List.flatMap_append, List.nodup_append] at hnodup
    rw [routerEnds_congr hsignature] at hlink
    refine hnodup.2.2 _ (List.mem_flatMap.mpr ⟨earlier, hearlier, hend⟩) (name, port) ?_ rfl
    exact List.mem_flatMap.mpr ⟨link, List.mem_singleton_self link, hlink⟩

lemma addressed_nil (planner : Planner) (devices : List DevicePlan) (vlanMode : Bool) :
    Addressed devices vlanMode []
      { planner, devices, routerLans := Dict.empty, linkSubnets := Dict.empty } where
  signature_eq := rfl
  lans := by simp
  drawn := by simp [Addressing.lansOf]
  owner := by simp [Addressing.lansOf]
  shared := by simp
  joined := by simp

/-- Addressing a link keeps what holds of the earlier ones, and it holds of the link as well. -/
lemma Addressed.step (h : Addressed devices vlanMode done state)
    (hnodup : ((done ++ [link]).flatMap (routerEnds devices)).Nodup)
    (hlink : addressLink links vlanMode state link = some state') :
    Addressed devices vlanMode (done ++ [link]) state' := by
  have hlinkNodup : (routerEnds state.devices link).Nodup := by
    rw [List.flatMap_append, List.nodup_append] at hnodup
    simpa [routerEnds_congr h.signature_eq] using hnodup.2.1
  obtain ⟨hframed, heffect⟩ := addressLink_spec hlinkNodup hlink
  have hkeep : ∀ earlier ∈ done, ∀ name port subnet, (name, port) ∈ routerEnds devices earlier →
      OnSubnet state.devices name port subnet → OnSubnet state'.devices name port subnet :=
    fun earlier hearlier name port subnet hend hport =>
      hport.of_framed hframed h.signature_eq hnodup hearlier hend
  have hshared : ∀ key subnet, state.linkSubnets.get? key = some subnet →
      ∃ earlier ∈ done ++ [link], joinsRouters devices earlier = true ∧
        key = sortedPair earlier.deviceA earlier.deviceB ∧
        OnSubnet state'.devices earlier.deviceA earlier.portA subnet ∧
        OnSubnet state'.devices earlier.deviceB earlier.portB subnet := by
    intro key subnet hget
    obtain ⟨earlier, hearlier, hjoins, hkey, hportA, hportB⟩ := h.shared key subnet hget
    obtain ⟨hendA, hendB⟩ := mem_routerEnds_of_joinsRouters hjoins
    exact ⟨earlier, List.mem_append_left _ hearlier, hjoins, hkey,
      hkeep earlier hearlier _ _ _ hendA hportA, hkeep earlier hearlier _ _ _ hendB hportB⟩
  have hlans : (∀ router, ∀ subnet ∈ state.lansOf router, subnet ∈ state'.lansOf router) →
      (vlanMode = false → ∀ router port, lanEnd state.devices link = some (router, port) →
        ∃ subnet ∈ state'.lansOf router, OnSubnet state'.devices router port subnet) →
      vlanMode = false → ∀ earlier ∈ done ++ [link], ∀ router port,
        lanEnd devices earlier = some (router, port) →
        ∃ subnet ∈ state'.lansOf router, OnSubnet state'.devices router port subnet := by
    intro hsubset hnew hmode earlier hearlier router port hend
    rcases List.mem_concat_iff.mp hearlier with hearlier | hearlier
    · obtain ⟨subnet, hsubnet, hport⟩ := h.lans hmode earlier hearlier router port hend
      exact ⟨subnet, hsubset router subnet hsubnet,
        hkeep earlier hearlier _ _ _ (lanEnd_mem_routerEnds hend) hport⟩
    · rw [hearlier, ← lanEnd_congr h.signature_eq] at hend
      exact hnew hmode router port hend
  have hjoined : joinsRouters state.devices link = false →
      state'.linkSubnets = state.linkSubnets → ∀ earlier ∈ done ++ [link],
        joinsRouters devices earlier = true →
        (state'.linkSubnets.get? (sortedPair earlier.deviceA earlier.deviceB)).isSome := by
    intro hjoins hlinks earlier hearlier hjoins'
    rw [hlinks]
    rcases List.mem_concat_iff.mp hearlier with hearlier | hearlier
    · exact h.joined earlier hearlier hjoins'
    · rw [hearlier, ← joinsRouters_congr h.signature_eq, hjoins] at hjoins'
      cases hjoins'
  have hsame : state'.routerLans = state.routerLans → ∀ router,
      state'.lansOf router = state.lansOf router := fun hlansEq router => by
    rw [Addressing.lansOf, hlansEq, Addressing.lansOf]
  have hdrawn : state'.routerLans = state.routerLans →
      state'.planner.lanNext = state.planner.lanNext → ∀ router, ∀ subnet ∈ state'.lansOf router,
        ∃ i < state'.planner.lanNext, subnetAt state'.planner.lanBase 24 i = some subnet := by
    intro hlansEq hnext router subnet hsubnet
    rw [hsame hlansEq] at hsubnet
    rw [hframed.lanBase_eq, hnext]
    exact h.drawn router subnet hsubnet
  have howner : state'.routerLans = state.routerLans → ∀ router router' subnet,
      subnet ∈ state'.lansOf router → subnet ∈ state'.lansOf router' → router = router' := by
    intro hlansEq router router' subnet hsubnet hsubnet'
    rw [hsame hlansEq] at hsubnet hsubnet'
    exact h.owner router router' subnet hsubnet hsubnet'
  have hsignature := hframed.signature_eq.trans h.signature_eq
  cases heffect with
  | lan owner port subnet hmode hend hjoins hsubnet hnext hport hlansEq hlinks =>
    have hlansOf : ∀ router other, other ∈ state'.lansOf router ↔
        other ∈ state.lansOf router ∨ (router = owner ∧ other = subnet) := by
      intro router other
      rw [Addressing.lansOf, hlansEq, Dict.get?_set]
      split_ifs with heq
      · subst heq
        simp [Addressing.lansOf]
      · simp [Addressing.lansOf, Ne.symm heq]
    have hfresh : ∀ router, subnet ∉ state.lansOf router := by
      intro router hmem
      obtain ⟨i, hi, hdrawn⟩ := h.drawn router subnet hmem
      exact hi.ne (subnetAt_injective hdrawn hsubnet)
    refine ⟨hsignature,
      hlans (fun router other hother => (hlansOf router other).mpr (Or.inl hother))
        fun _ router port' hend' => ?_,
      fun router other hother => ?_, fun router router' other hother hother' => ?_,
      fun key other hget => hshared key other (by rwa [← hlinks]), hjoined hjoins hlinks⟩
    · rw [hend] at hend'
      obtain ⟨rfl, rfl⟩ := Prod.mk.inj (Option.some.inj hend')
      exact ⟨subnet, (hlansOf owner subnet).mpr (Or.inr ⟨rfl, rfl⟩), hport⟩
    · rw [hframed.lanBase_eq, hnext]
      rcases (hlansOf router other).mp hother with hold | ⟨-, rfl⟩
      · obtain ⟨i, hi, hdrawn⟩ := h.drawn router other hold
        exact ⟨i, hi.trans (Nat.lt_succ_self _), hdrawn⟩
      · exact ⟨_, Nat.lt_succ_self _, hsubnet⟩
    · rcases (hlansOf router other).mp hother with hold | ⟨hrouter, rfl⟩
      · rcases (hlansOf router' other).mp hother' with hold' | ⟨-, rfl⟩
        · exact h.owner router router' other hold hold'
        · exact absurd hold (hfresh router)
      · rcases (hlansOf router' other).mp hother' with hold' | ⟨hrouter', -⟩
        · exact absurd hold' (hfresh router')
        · exact hrouter.trans hrouter'.symm
  | routers subnet hjoins hend hnext hportA hportB hlansEq hlinks =>
    refine ⟨hsignature,
      hlans (fun router other hother => by rwa [hsame hlansEq])
        fun _ router port hend' => (by cases hend ▸ hend'),
      hdrawn hlansEq hnext, howner hlansEq, fun key other hget => ?_,
      fun earlier hearlier hjoins' => ?_⟩
    · rw [hlinks, Dict.get?_set] at hget
      split_ifs at hget with hkey
      · cases hget
        rw [joinsRouters_congr h.signature_eq] at hjoins
        exact ⟨link, List.mem_append_right _ (List.mem_singleton_self link), hjoins, hkey.symm,
          hportA, hportB⟩
      · exact hshared key other hget
    · rw [hlinks, Dict.get?_set]
      split_ifs with hkey
      · rfl
      · rcases List.mem_concat_iff.mp hearlier with hearlier | hearlier
        · exact h.joined earlier hearlier hjoins'
        · exact absurd (by rw [hearlier]) hkey
  | other hend hjoins hnext hlansEq hlinks =>
    exact ⟨hsignature,
      hlans (fun router other hother => by rwa [hsame hlansEq])
        fun hmode router port hend' => (by cases hend hmode ▸ hend'),
      hdrawn hlansEq hnext, howner hlansEq,
      fun key other hget => hshared key other (by rwa [← hlinks]), hjoined hjoins hlinks⟩

lemma Addressed.run {rest : List LinkPlan} (h : Addressed devices vlanMode done state)
    (hnodup : ((done ++ rest).flatMap (routerEnds devices)).Nodup)
    (hrun : addressLinks links vlanMode rest state = some state') :
    Addressed devices vlanMode (done ++ rest) state' := by
  induction rest generalizing done state with
  | nil =>
    cases hrun
    rwa [List.append_nil]
  | cons link rest ih =>
    obtain ⟨next, hlink, hrest⟩ := Option.bind_eq_some_iff.mp hrun
    have hsplit : done ++ link :: rest = done ++ [link] ++ rest := by
      rw [List.append_assoc, List.singleton_append]
    rw [hsplit] at hnodup ⊢
    refine ih (h.step ?_ hlink) hnodup hrest
    rw [List.flatMap_append] at hnodup
    exact hnodup.of_append_left

end Loop

/-! ## The router graph -/

section Graph

variable {order : SetOrder} {devices : List DevicePlan} {vlanMode : Bool} {state : Addressing}
  {plan : TopologyPlan} {u v : String} {routers : List DevicePlan}
  {adjacency : Dict String (List String)} {r s : String}
  {linkSubnets : Dict (String × String) IPv4Network}

lemma mem_addNeighbour :
    v ∈ ((addNeighbour adjacency r s).get? u).getD [] ↔
      v ∈ (adjacency.get? u).getD [] ∨ (u = r ∧ v = s) := by
  unfold addNeighbour
  rw [Dict.get?_set]
  by_cases hu : r = u
  · subst hu
    rw [if_pos rfl, Option.getD_some]
    split_ifs with hs
    · constructor
      · exact Or.inl
      · rintro (hv | ⟨-, rfl⟩)
        · exact hv
        · exact hs
    · simp
  · rw [if_neg hu]
    simp [Ne.symm hu]

lemma mem_keys_addNeighbour :
    u ∈ (addNeighbour adjacency r s).keys ↔ u = r ∨ u ∈ adjacency.keys := by
  rw [← Dict.isSome_get?_iff_mem_keys, ← Dict.isSome_get?_iff_mem_keys]
  unfold addNeighbour
  rw [Dict.get?_set]
  by_cases hu : r = u
  · simp [hu]
  · simp [hu, Ne.symm hu]

/-- Two routers are adjacent when their pair has a subnet. -/
lemma mem_adjacencyOf :
    v ∈ ((adjacencyOf routers linkSubnets).get? u).getD [] ↔
      (u, v) ∈ linkSubnets.keys ∨ (v, u) ∈ linkSubnets.keys := by
  have hfold : ∀ (keys : List (String × String)) (adjacency : Dict String (List String)),
      v ∈ ((keys.foldl (fun adjacency key =>
        addNeighbour (addNeighbour adjacency key.1 key.2) key.2 key.1) adjacency).get? u).getD [] ↔
      v ∈ (adjacency.get? u).getD [] ∨ (u, v) ∈ keys ∨ (v, u) ∈ keys := by
    intro keys
    induction keys with
    | nil => simp
    | cons key keys ih =>
      intro adjacency
      obtain ⟨r, s⟩ := key
      rw [List.foldl_cons, ih, mem_addNeighbour, mem_addNeighbour, List.mem_cons, List.mem_cons,
        Prod.mk.injEq, Prod.mk.injEq]
      tauto
  have hinit : v ∉ ((Dict.ofList (routers.map fun router =>
      (router.name, ([] : List String)))).get? u).getD [] := by
    cases hget : (Dict.ofList (routers.map fun router =>
        (router.name, ([] : List String)))).get? u with
    | none => simp
    | some names =>
      obtain ⟨router, -, rfl, rfl⟩ := Dict.exists_of_get?_ofList hget
      simp
  rw [adjacencyOf, hfold]
  simp [hinit]

lemma mem_keys_adjacencyOf :
    u ∈ (adjacencyOf routers linkSubnets).keys ↔
      u ∈ routers.map DevicePlan.name ∨ ∃ key ∈ linkSubnets.keys, u = key.1 ∨ u = key.2 := by
  have hfold : ∀ (keys : List (String × String)) (adjacency : Dict String (List String)),
      u ∈ (keys.foldl (fun adjacency key =>
        addNeighbour (addNeighbour adjacency key.1 key.2) key.2 key.1) adjacency).keys ↔
      u ∈ adjacency.keys ∨ ∃ key ∈ keys, u = key.1 ∨ u = key.2 := by
    intro keys
    induction keys with
    | nil => simp
    | cons key keys ih =>
      intro adjacency
      rw [List.foldl_cons, ih, mem_keys_addNeighbour, mem_keys_addNeighbour]
      simp only [List.mem_cons, exists_eq_or_imp]
      grind
  rw [adjacencyOf, hfold, ← Dict.isSome_get?_iff_mem_keys, Dict.isSome_get?_ofList_iff,
    List.map_map]
  rfl

lemma sortedPair_eq_or (a b : String) : sortedPair a b = (a, b) ∨ sortedPair a b = (b, a) := by
  unfold sortedPair
  split_ifs
  · exact Or.inr rfl
  · exact Or.inl rfl

lemma sortedPair_comm (a b : String) : sortedPair a b = sortedPair b a := by
  unfold sortedPair
  split_ifs with hba hab hab
  · exact absurd hab (lt_asymm hba)
  · rfl
  · rfl
  · rw [le_antisymm (not_lt.mp hba) (not_lt.mp hab)]

lemma eq_sortedPair_iff {a b : String} :
    ((u, v) = sortedPair a b ∨ (v, u) = sortedPair a b) ↔ (a = u ∧ b = v) ∨ (b = u ∧ a = v) := by
  rcases sortedPair_eq_or a b with h | h <;> rw [h, Prod.mk.injEq, Prod.mk.injEq] <;> constructor
  · rintro (⟨rfl, rfl⟩ | ⟨rfl, rfl⟩) <;> simp
  · rintro (⟨rfl, rfl⟩ | ⟨rfl, rfl⟩) <;> simp
  · rintro (⟨rfl, rfl⟩ | ⟨rfl, rfl⟩) <;> simp
  · rintro (⟨rfl, rfl⟩ | ⟨rfl, rfl⟩) <;> simp

lemma mem_neighbours :
    v ∈ neighbours plan u ↔ ∃ link ∈ plan.links, joinsRouters plan.devices link = true ∧
      ((link.deviceA = u ∧ link.deviceB = v) ∨ (link.deviceB = u ∧ link.deviceA = v)) := by
  simp only [neighbours, List.mem_flatMap, List.mem_filter, List.mem_append]
  refine exists_congr fun link => ?_
  rw [and_assoc]
  refine and_congr_right fun _ => and_congr_right fun _ => or_congr ?_ ?_ <;>
    split_ifs with h <;> simp [h, eq_comm]

/-- The neighbours that the planner searches are those of the router graph. -/
lemma mem_adjacent_iff {links : List LinkPlan} (h : Addressed devices vlanMode links state)
    (hlinks : plan.links = links) (hdevices : plan.devices = state.devices) :
    v ∈ adjacent order (adjacencyOf routers state.linkSubnets) u ↔ v ∈ neighbours plan u := by
  rw [adjacent, (order.perm _).mem_iff, mem_adjacencyOf, mem_neighbours, hlinks, hdevices]
  constructor
  · intro hkey
    have hshared : ∀ key ∈ state.linkSubnets.keys, ∃ link ∈ links,
        joinsRouters devices link = true ∧ key = sortedPair link.deviceA link.deviceB := by
      intro key hmem
      obtain ⟨subnet, hget⟩ := Option.isSome_iff_exists.mp (Dict.isSome_get?_iff_mem_keys.mpr hmem)
      obtain ⟨link, hlink, hjoins, heq, -⟩ := h.shared key subnet hget
      exact ⟨link, hlink, hjoins, heq⟩
    rcases hkey with hkey | hkey
    · obtain ⟨link, hlink, hjoins, heq⟩ := hshared _ hkey
      exact ⟨link, hlink, by rwa [joinsRouters_congr h.signature_eq],
        eq_sortedPair_iff.mp (Or.inl heq)⟩
    · obtain ⟨link, hlink, hjoins, heq⟩ := hshared _ hkey
      exact ⟨link, hlink, by rwa [joinsRouters_congr h.signature_eq],
        eq_sortedPair_iff.mp (Or.inr heq)⟩
  · rintro ⟨link, hlink, hjoins, hends⟩
    rw [joinsRouters_congr h.signature_eq] at hjoins
    have hmem := Dict.isSome_get?_iff_mem_keys.mp (h.joined link hlink hjoins)
    rcases eq_sortedPair_iff.mpr hends with heq | heq
    · exact Or.inl (heq ▸ hmem)
    · exact Or.inr (heq ▸ hmem)

end Graph

/-! ## Addresses on shared subnets -/

section Addresses

variable {devices : List DevicePlan} {vlanMode : Bool} {state : Addressing} {plan : TopologyPlan}
  {name port : String} {subnet : IPv4Network}

lemma exists_router_of_kindOf (h : kindOf devices name = some "router") :
    ∃ router ∈ devicesByCategory devices "router", router.name = name ∧
      deviceByName devices name = some router := by
  obtain ⟨router, hrouter, hcategory⟩ := Option.map_eq_some_iff.mp h
  have hmem := List.mem_of_find?_eq_some hrouter
  have hname := List.find?_some hrouter
  exact ⟨router, List.mem_filter.mpr ⟨hmem, by simpa using hcategory⟩, by simpa using hname,
    hrouter⟩

lemma parseIPv4Interface_of_mem {ip : IPv4Address} (h : (ip : ℕ) ∈ subnet) :
    parseIPv4Interface (interfaceText ip subnet.prefixlen) = some (ip, subnet) := by
  rw [parseIPv4Interface_interfaceText ip subnet.prefixlen_le, blockOf_of_mem h]

lemma OnSubnet.exists_hasAddress (h : OnSubnet plan.devices name port subnet)
    (hrouter : kindOf plan.devices name = some "router") :
    ∃ address, HasAddress plan name address subnet := by
  obtain ⟨ip, hip, hinterface⟩ := h
  obtain ⟨router, hmem, hname, hfirst⟩ := exists_router_of_kindOf hrouter
  rw [interfaceOf, hfirst, Option.bind_some] at hinterface
  exact ⟨text ip, router, hmem, hname, _, Dict.mem_values_iff.mpr ⟨port, hinterface⟩, ip,
    parseIPv4Interface_of_mem hip, rfl⟩

variable {result : Option String}

/-- What the search of the interfaces for a subnet finds. -/
lemma findOnSubnet_spec {cidrs : List String} (h : findOnSubnet subnet cidrs = some result) :
    match result with
    | some address => ∃ cidr ∈ cidrs, ∃ ip, parseIPv4Interface cidr = some (ip, subnet) ∧
        text ip = address
    | none => ∀ cidr ∈ cidrs, ∀ ip, parseIPv4Interface cidr ≠ some (ip, subnet) := by
  induction cidrs with
  | nil =>
    cases h
    intro cidr hcidr
    cases hcidr
  | cons cidr cidrs ih =>
    unfold findOnSubnet at h
    split at h
    · cases h
    rename_i ip network hparse
    split_ifs at h with hnetwork
    · cases h
      exact ⟨cidr, List.mem_cons_self, ip, by rw [hparse, hnetwork], rfl⟩
    have hrest := ih h
    cases result with
    | some address =>
      obtain ⟨other, hother, hfound⟩ := hrest
      exact ⟨other, List.mem_cons_of_mem _ hother, hfound⟩
    | none =>
      intro other hother
      rcases List.mem_cons.mp hother with rfl | hother
      · intro ip' hip'
        rw [hparse] at hip'
        exact hnetwork (congrArg Prod.snd (Option.some.inj hip'))
      · exact hrest other hother

/-- The address of a router that has one on the subnet is found. -/
lemma ipOnSubnet_spec {address : String} (hnodup : (routerNames plan.devices).Nodup)
    (haddress : HasAddress plan name address subnet)
    (h : ipOnSubnet (devicesByCategory plan.devices "router") name subnet = some result) :
    ∃ nextHop, result = some nextHop ∧ HasAddress plan name nextHop subnet := by
  obtain ⟨router, hmem, rfl, cidr, hcidr, ip, hparse, -⟩ := haddress
  have hget : (Dict.ofList ((devicesByCategory plan.devices "router").map fun router =>
      (router.name, router))).get? router.name = some router := by
    refine Dict.get?_ofList_of_mem ?_ (List.mem_map_of_mem hmem)
    rw [List.map_map]
    exact hnodup
  rw [ipOnSubnet, hget] at h
  have hfound := findOnSubnet_spec h
  cases result with
  | some nextHop =>
    obtain ⟨cidr', hcidr', ip', hparse', htext⟩ := hfound
    exact ⟨nextHop, rfl, router, hmem, rfl, cidr', hcidr', ip', hparse', htext⟩
  | none => exact absurd hparse (hfound cidr hcidr ip)

end Addresses

/-! ## Routes -/

/-- The routes of all pairs are those of each pair of routers. -/
lemma allPairs_spec {context : RouteContext} {f : String → String → Option (List StaticRoute)}
    {routes : List StaticRoute} (h : context.allPairs f = some routes) :
    (∀ a ∈ context.routers, ∀ b ∈ context.routers, ∃ list, f a.name b.name = some list ∧
      ∀ route ∈ list, route ∈ routes) ∧
    ∀ route ∈ routes, ∃ a ∈ context.routers, ∃ b ∈ context.routers, ∃ list,
      f a.name b.name = some list ∧ route ∈ list := by
  simp only [RouteContext.allPairs, Option.bind_eq_bind, Option.bind_eq_some_iff, Option.pure_def,
    Option.some.injEq] at h
  obtain ⟨lists, hlists, rfl⟩ := h
  obtain ⟨hforward, hbackward⟩ := mapM_eq_some hlists
  constructor
  · intro a ha b hb
    obtain ⟨list, hlist, heq⟩ := hforward (a, b) (List.pair_mem_product.mpr ⟨ha, hb⟩)
    exact ⟨list, heq, fun route hroute => List.mem_flatten.mpr ⟨list, hlist, hroute⟩⟩
  · intro route hroute
    obtain ⟨list, hlist, hmem⟩ := List.mem_flatten.mp hroute
    obtain ⟨⟨a, b⟩, hpair, heq⟩ := hbackward list hlist
    obtain ⟨ha, hb⟩ := List.pair_mem_product.mp hpair
    exact ⟨a, ha, b, hb, list, heq, hmem⟩

/-- What the planners of routes work on after the loop over the links. -/
structure Routing (order : SetOrder) (plan : TopologyPlan) (state : Addressing) : Prop where
  devices_eq : plan.devices = state.devices
  exists_addressed : ∃ devices vlanMode, Addressed devices vlanMode plan.links state
  names_nodup : (routerNames plan.devices).Nodup
  name_ne_empty : "" ∉ routerNames plan.devices

/-- The context of the planners of routes. -/
def contextOf (plan : TopologyPlan) (state : Addressing) : RouteContext :=
  ⟨devicesByCategory plan.devices "router", state.routerLans, state.linkSubnets⟩

section Routes

variable {order : SetOrder} {plan : TopologyPlan} {state : Addressing} {router other hop : String}
  {u v : String} {adminDistance : ℕ}

lemma kindOf_of_mem_neighbours (h : v ∈ neighbours plan u) :
    kindOf plan.devices u = some "router" ∧ kindOf plan.devices v = some "router" := by
  obtain ⟨link, -, hjoins, hends⟩ := mem_neighbours.mp h
  simp only [joinsRouters, Bool.and_eq_true, decide_eq_true_eq] at hjoins
  rcases hends with ⟨rfl, rfl⟩ | ⟨rfl, rfl⟩
  · exact hjoins
  · exact hjoins.symm

/-- Neighbours share a subnet, on which both hold an address. -/
lemma Routing.shared_subnet (h : Routing order plan state) (hhop : hop ∈ neighbours plan router) :
    ∃ subnet, state.linkSubnets.get? (sortedPair router hop) = some subnet ∧
      (∃ address, HasAddress plan router address subnet) ∧
      ∃ address, HasAddress plan hop address subnet := by
  obtain ⟨devices, vlanMode, haddressed⟩ := h.exists_addressed
  have hsignature : signature plan.devices = signature devices := by
    rw [h.devices_eq, haddressed.signature_eq]
  obtain ⟨link, hlink, hjoins, hends⟩ := mem_neighbours.mp hhop
  rw [joinsRouters_congr hsignature] at hjoins
  have hpair : sortedPair router hop = sortedPair link.deviceA link.deviceB := by
    rcases hends with ⟨rfl, rfl⟩ | ⟨rfl, rfl⟩
    · rfl
    · exact sortedPair_comm _ _
  obtain ⟨subnet, hget⟩ := Option.isSome_iff_exists.mp (haddressed.joined link hlink hjoins)
  rw [← hpair] at hget
  obtain ⟨shared, hshared, hjoins', heq, hportA, hportB⟩ := haddressed.shared _ subnet hget
  have hends' : (shared.deviceA = router ∧ shared.deviceB = hop) ∨
      (shared.deviceB = router ∧ shared.deviceA = hop) := by
    rw [← eq_sortedPair_iff, ← heq]
    exact (sortedPair_eq_or router hop).imp Eq.symm Eq.symm
  have hneighbour : shared.deviceB ∈ neighbours plan shared.deviceA :=
    mem_neighbours.mpr ⟨shared, hshared, by rwa [joinsRouters_congr hsignature],
      Or.inl ⟨rfl, rfl⟩⟩
  obtain ⟨hkindA, hkindB⟩ := kindOf_of_mem_neighbours hneighbour
  rw [← h.devices_eq] at hportA hportB
  refine ⟨subnet, hget, ?_⟩
  rcases hends' with ⟨rfl, rfl⟩ | ⟨rfl, rfl⟩
  · exact ⟨hportA.exists_hasAddress hkindA, hportB.exists_hasAddress hkindB⟩
  · exact ⟨hportB.exists_hasAddress hkindB, hportA.exists_hasAddress hkindA⟩

variable {list : List StaticRoute} {route : StaticRoute} {n : ℕ} {routes : List StaticRoute}
  {lan : IPv4Network}

/-- A router and another one that it reaches are two of the routers of the plan. -/
lemma exists_pair_of_isDist (hdist : IsDist (neighbours plan) router other (n + 1)) :
    other ≠ router ∧ ∃ a ∈ devicesByCategory plan.devices "router",
      ∃ b ∈ devicesByCategory plan.devices "router", a.name = router ∧ b.name = other := by
  have hne : other ≠ router := by
    rintro rfl
    have hle := hdist.least 0 (Walk.nil other)
    omega
  have hother : kindOf plan.devices other = some "router" := by
    rcases hdist.walk with _ | ⟨-, hlast⟩
    exact (kindOf_of_mem_neighbours hlast).2
  obtain ⟨v, hv⟩ := hdist.walk.exists_mem_next
  obtain ⟨a, ha, haname, -⟩ := exists_router_of_kindOf (kindOf_of_mem_neighbours hv).1
  obtain ⟨b, hb, hbname, -⟩ := exists_router_of_kindOf hother
  exact ⟨hne, a, ha, b, hb, haname, hbname⟩

section Routed

variable (h : Routing order plan state)
include h

/-- The routes through a neighbour: one for each LAN, to an address of the neighbour on a shared
subnet. -/
lemma Routing.routesVia_spec (hhop : hop ∈ neighbours plan router)
    (hlist : (contextOf plan state).routesVia router other hop adminDistance = some list) :
    ∃ nextHop, (∃ subnet, HasAddress plan hop nextHop subnet ∧
        ∃ address, HasAddress plan router address subnet) ∧
      list = (state.lansOf other).map fun lan =>
        ⟨router, text lan.networkAddress, text lan.netmask, nextHop, adminDistance⟩ := by
  obtain ⟨subnet, hget, hrouter, address, haddress⟩ := h.shared_subnet hhop
  unfold RouteContext.routesVia at hlist
  rw [show (contextOf plan state).linkSubnets = state.linkSubnets from rfl, hget] at hlist
  simp only [Option.bind_eq_bind, Option.bind_eq_some_iff, Option.pure_def,
    Option.some.injEq] at hlist
  obtain ⟨result, hresult, rfl⟩ := hlist
  obtain ⟨nextHop, rfl, hnextHop⟩ := ipOnSubnet_spec h.names_nodup haddress hresult
  exact ⟨nextHop, ⟨subnet, hnextHop, hrouter⟩, rfl⟩

lemma Routing.nextRouter_of_routesVia (hhop : hop ∈ neighbours plan router)
    (hlist : (contextOf plan state).routesVia router other hop adminDistance = some list)
    (hroute : route ∈ list) :
    NextRouter plan route hop ∧ route.router = router ∧ route.adminDistance = adminDistance ∧
      ∃ lan ∈ state.lansOf other, route.destination = text lan.networkAddress ∧
        route.mask = text lan.netmask := by
  obtain ⟨nextHop, hshared, rfl⟩ := h.routesVia_spec hhop hlist
  obtain ⟨lan, hlan, rfl⟩ := List.mem_map.mp hroute
  exact ⟨⟨hhop, hshared⟩, rfl, rfl, lan, hlan, rfl, rfl⟩

lemma Routing.mem_adjacent_iff :
    v ∈ adjacent order (contextOf plan state).adjacency u ↔ v ∈ neighbours plan u := by
  obtain ⟨devices, vlanMode, haddressed⟩ := h.exists_addressed
  exact IPPlanner.mem_adjacent_iff haddressed rfl h.devices_eq

lemma Routing.mem_neighbours_of_firstHopOf {blocked : List String}
    (hhop : firstHopOf order (contextOf plan state).adjacency router other blocked = some hop) :
    hop ∈ neighbours plan router ∧ hop ≠ "" := by
  have hmem : hop ∈ neighbours plan router := h.mem_adjacent_iff.mp (mem_next_of_firstHop hhop)
  refine ⟨hmem, ?_⟩
  rintro rfl
  obtain ⟨device, hdevice, hname, -⟩ :=
    exists_router_of_kindOf (kindOf_of_mem_neighbours hmem).2
  exact h.name_ne_empty (hname ▸ List.mem_map_of_mem hdevice)

/-- What a search from a router finds that enters no blocked one: the first hop of a shortest way
around them. -/
lemma Routing.firstHopOf_avoiding (hdist : IsDist (neighbours plan) router other (n + 1))
    (blocked : List String) :
    match firstHopOf order (contextOf plan state).adjacency router other blocked with
    | some hop => hop ∉ blocked ∧ ∃ m, IsDist (avoiding (neighbours plan) blocked) hop other m ∧
        IsDist (avoiding (neighbours plan) blocked) router other (m + 1)
    | none => ¬Reaches (avoiding (neighbours plan) blocked) router other := by
  have hne : router ≠ other := by
    rintro rfl
    have hle := hdist.least 0 (Walk.nil router)
    omega
  have hkeys : ∀ u, kindOf plan.devices u = some "router" →
      u ∈ (contextOf plan state).adjacency.keys := by
    intro u hkind
    obtain ⟨device, hdevice, hname, -⟩ := exists_router_of_kindOf hkind
    exact mem_keys_adjacencyOf.mpr (Or.inl (hname ▸ List.mem_map_of_mem hdevice))
  have hsource : router ∈ (contextOf plan state).adjacency.keys := by
    obtain ⟨v, hv⟩ := hdist.walk.exists_mem_next
    exact hkeys router (kindOf_of_mem_neighbours hv).1
  have hgraph : ∀ u v, v ∈ avoiding (adjacent order (contextOf plan state).adjacency) blocked u ↔
      v ∈ avoiding (neighbours plan) blocked u := by
    intro u v
    simp only [avoiding, List.mem_filter, h.mem_adjacent_iff]
  have hclosed : ∀ u ∈ (contextOf plan state).adjacency.keys,
      ∀ v ∈ avoiding (adjacent order (contextOf plan state).adjacency) blocked u,
        v ∈ (contextOf plan state).adjacency.keys := fun u _ v hv =>
    hkeys v (kindOf_of_mem_neighbours (h.mem_adjacent_iff.mp (List.mem_of_mem_filter hv))).2
  have hspec := BreadthFirsts.firstHop_spec hclosed hsource hne
  rw [firstHopOf, firstHop_blocked]
  split at hspec
  · next hop hfound =>
    rw [hfound]
    obtain ⟨hmem, m, hhop, hrouter⟩ := hspec
    refine ⟨?_, m, hhop.congr hgraph, hrouter.congr hgraph⟩
    simpa using (List.mem_filter.mp hmem).2
  · next hnone =>
    rw [hnone]
    rintro ⟨m, hwalk⟩
    exact hspec ⟨m, hwalk.congr fun u v => (hgraph u v).mpr⟩

/-- The first hop of a router towards another one that it reaches is one step closer. -/
lemma Routing.firstHopOf_spec (hdist : IsDist (neighbours plan) router other (n + 1)) :
    ∃ hop, firstHopOf order (contextOf plan state).adjacency router other [] = some hop ∧
      hop ∈ neighbours plan router ∧ hop ≠ "" ∧ IsDist (neighbours plan) hop other n := by
  have hspec := h.firstHopOf_avoiding hdist []
  simp only [avoiding_nil] at hspec
  split at hspec
  · next hop hfirst =>
    obtain ⟨-, m, hhop, hrouter⟩ := hspec
    obtain rfl : m = n := by
      have heq := hrouter.unique hdist
      omega
    obtain ⟨hmem, hnonempty⟩ := h.mem_neighbours_of_firstHopOf hfirst
    exact ⟨hop, hfirst, hmem, hnonempty, hhop⟩
  · exact absurd ⟨n + 1, hdist.walk⟩ hspec

lemma Routing.staticRoutes_spec
    (hlist : (contextOf plan state).staticRoutes order router other = some list)
    (hroute : route ∈ list) :
    ∃ hop, firstHopOf order (contextOf plan state).adjacency router other [] = some hop ∧
      NextRouter plan route hop ∧ route.router = router ∧ route.adminDistance = 1 ∧
      ∃ lan ∈ state.lansOf other, route.destination = text lan.networkAddress ∧
        route.mask = text lan.netmask := by
  unfold RouteContext.staticRoutes at hlist
  split_ifs at hlist with heq
  · cases hlist
    cases hroute
  split at hlist
  · cases hlist
    cases hroute
  rename_i hop hhop
  split_ifs at hlist with hempty
  · cases hlist
    cases hroute
  · exact ⟨hop, hhop, h.nextRouter_of_routesVia (h.mem_neighbours_of_firstHopOf hhop).1 hlist
      hroute⟩

/-- The floating routes of a pair go through the first hop that avoids the primary one. -/
lemma Routing.floatingRoutes_via
    (hlist : (contextOf plan state).floatingRoutes order adminDistance router other = some list)
    (hroute : route ∈ list) :
    ∃ hop alt, firstHopOf order (contextOf plan state).adjacency router other [] = some hop ∧
      firstHopOf order (contextOf plan state).adjacency router other [hop] = some alt ∧
      NextRouter plan route alt ∧ route.router = router ∧ route.adminDistance = adminDistance ∧
      ∃ lan ∈ state.lansOf other, route.destination = text lan.networkAddress ∧
        route.mask = text lan.netmask := by
  unfold RouteContext.floatingRoutes at hlist
  split_ifs at hlist with heq
  · cases hlist
    cases hroute
  split at hlist
  · cases hlist
    cases hroute
  rename_i hop hhop
  split_ifs at hlist with hempty
  · cases hlist
    cases hroute
  split at hlist
  · cases hlist
    cases hroute
  rename_i alt halt
  split_ifs at hlist with hempty'
  · cases hlist
    cases hroute
  · exact ⟨hop, alt, hhop, halt, h.nextRouter_of_routesVia (h.mem_neighbours_of_firstHopOf halt).1
      hlist hroute⟩

/-- A floating route of a pair goes through a neighbour as well. -/
lemma Routing.floatingRoutes_spec
    (hlist : (contextOf plan state).floatingRoutes order adminDistance router other = some list)
    (hroute : route ∈ list) :
    (∃ hop, NextRouter plan route hop) ∧ route.adminDistance = adminDistance := by
  obtain ⟨-, alt, -, -, hnext, -, hdistance, -⟩ := h.floatingRoutes_via hlist hroute
  exact ⟨⟨alt, hnext⟩, hdistance⟩

/-- There is a static route from every router to every LAN of another router that it reaches. -/
lemma Routing.exists_staticRoute
    (hroutes : planStaticRoutes order (contextOf plan state) = some routes)
    (hdist : IsDist (neighbours plan) router other (n + 1)) (hlan : lan ∈ state.lansOf other) :
    routesTo routes router lan ≠ [] := by
  obtain ⟨hne, a, ha, b, hb, haname, hbname⟩ := exists_pair_of_isDist hdist
  obtain ⟨hop, hhop, hmem, hnonempty, -⟩ := h.firstHopOf_spec hdist
  obtain ⟨list, hlist, hsubset⟩ := (allPairs_spec hroutes).1 a ha b hb
  rw [haname, hbname, RouteContext.staticRoutes, if_neg hne, hhop] at hlist
  simp only [if_neg hnonempty] at hlist
  obtain ⟨nextHop, -, rfl⟩ := h.routesVia_spec hmem hlist
  refine List.ne_nil_of_mem (List.mem_filter.mpr
    ⟨hsubset _ (List.mem_map_of_mem hlan), decide_eq_true ⟨rfl, rfl, rfl⟩⟩)

/-- A LAN at the destination of a route belongs to the router that the route was planned for. -/
lemma Routing.owner_eq (hlan : lan ∈ state.lansOf other)
    (hroute : route ∈ routesTo routes router lan) {name : String}
    (hplanned : ∃ lan' ∈ state.lansOf name, route.destination = text lan'.networkAddress ∧
      route.mask = text lan'.netmask) : name = other := by
  obtain ⟨-, hdestination, hmask⟩ := of_decide_eq_true (List.mem_filter.mp hroute).2
  obtain ⟨lan', hlan', hdestination', hmask'⟩ := hplanned
  obtain rfl : lan' = lan := IPv4Network.eq_of_networkAddress_netmask
    (text_injective (hdestination'.symm.trans hdestination))
    (text_injective (hmask'.symm.trans hmask))
  obtain ⟨devices, vlanMode, haddressed⟩ := h.exists_addressed
  exact haddressed.owner _ _ lan' hlan' hlan

/-- A static route to a LAN goes through the first hop towards its owner. -/
lemma Routing.nextRouter_of_mem_routesTo
    (hroutes : planStaticRoutes order (contextOf plan state) = some routes)
    (hhop : firstHopOf order (contextOf plan state).adjacency router other [] = some hop)
    (hlan : lan ∈ state.lansOf other) (hroute : route ∈ routesTo routes router lan) :
    route.adminDistance = 1 ∧ NextRouter plan route hop := by
  obtain ⟨hmem, hmatch⟩ := List.mem_filter.mp hroute
  obtain ⟨a, -, b, -, list, hlist, hmem⟩ := (allPairs_spec hroutes).2 route hmem
  obtain ⟨hop', hhop', hnext, haname, hdistance, hplanned⟩ := h.staticRoutes_spec hlist hmem
  rw [← haname, (of_decide_eq_true hmatch).1, h.owner_eq hlan hroute hplanned, hhop] at hhop'
  exact ⟨hdistance, Option.some.inj hhop' ▸ hnext⟩

/-- A static route to a LAN leads one step closer to its owner. -/
lemma Routing.isDist_of_mem_routesTo
    (hroutes : planStaticRoutes order (contextOf plan state) = some routes)
    (hdist : IsDist (neighbours plan) router other (n + 1)) (hlan : lan ∈ state.lansOf other)
    (hroute : route ∈ routesTo routes router lan) :
    ∃ next, NextRouter plan route next ∧ IsDist (neighbours plan) next other n := by
  obtain ⟨hop, hhop, -, -, hcloser⟩ := h.firstHopOf_spec hdist
  exact ⟨hop, (h.nextRouter_of_mem_routesTo hroutes hhop hlan hroute).2, hcloser⟩

/-- A floating route to a LAN leads around the first hop towards its owner. -/
lemma Routing.leadsAround_of_mem_routesTo
    (hroutes : planFloatingStaticRoutes order (contextOf plan state) = some routes)
    (hdist : IsDist (neighbours plan) router other (n + 1))
    (hhop : firstHopOf order (contextOf plan state).adjacency router other [] = some hop)
    (hlan : lan ∈ state.lansOf other) (hroute : route ∈ routesTo routes router lan) :
    route.adminDistance = 254 ∧ LeadsAround plan other hop route := by
  obtain ⟨hmem, hmatch⟩ := List.mem_filter.mp hroute
  obtain ⟨a, -, b, -, list, hlist, hmem⟩ := (allPairs_spec hroutes).2 route hmem
  obtain ⟨hop', alt, hhop', halt, hnext, haname, hdistance, hplanned⟩ :=
    h.floatingRoutes_via hlist hmem
  have hrouter := (of_decide_eq_true hmatch).1
  rw [← haname, hrouter, h.owner_eq hlan hroute hplanned] at hhop' halt
  obtain rfl := Option.some.inj (hhop'.symm.trans hhop)
  have haround := h.firstHopOf_avoiding hdist [hop']
  rw [halt] at haround
  obtain ⟨hne, hway⟩ := haround
  exact ⟨hdistance, alt, hnext, List.ne_of_not_mem_cons hne, hrouter ▸ hway⟩

/-- There is a floating route to every LAN that a router reaches around its first hop. -/
lemma Routing.exists_floatingRoute
    (hroutes : planFloatingStaticRoutes order (contextOf plan state) = some routes)
    (hdist : IsDist (neighbours plan) router other (n + 1))
    (hhop : firstHopOf order (contextOf plan state).adjacency router other [] = some hop)
    (hlan : lan ∈ state.lansOf other)
    (hreaches : Reaches (avoiding (neighbours plan) [hop]) router other) :
    ∃ route ∈ routesTo routes router lan, route.adminDistance = 254 := by
  obtain ⟨hne, a, ha, b, hb, haname, hbname⟩ := exists_pair_of_isDist hdist
  obtain ⟨-, hnonempty⟩ := h.mem_neighbours_of_firstHopOf hhop
  obtain ⟨list, hlist, hsubset⟩ := (allPairs_spec hroutes).1 a ha b hb
  have haround := h.firstHopOf_avoiding hdist [hop]
  rcases halt : firstHopOf order (contextOf plan state).adjacency router other [hop] with _ | alt
  · rw [halt] at haround
    exact absurd hreaches haround
  obtain ⟨hmem, haltne⟩ := h.mem_neighbours_of_firstHopOf halt
  rw [haname, hbname, RouteContext.floatingRoutes, if_neg hne, hhop] at hlist
  simp only [if_neg hnonempty, halt, if_neg haltne] at hlist
  obtain ⟨nextHop, -, rfl⟩ := h.routesVia_spec hmem hlist
  exact ⟨⟨router, text lan.networkAddress, text lan.netmask, nextHop, 254⟩, List.mem_filter.mpr
    ⟨hsubset _ (List.mem_map_of_mem hlan), decide_eq_true ⟨rfl, rfl, rfl⟩⟩, rfl⟩

/-- The static routes deliver to every LAN that a router reaches. -/
theorem Routing.delivers (hroutes : planStaticRoutes order (contextOf plan state) = some routes)
    (hdist : IsDist (neighbours plan) router other n) (hlan : lan ∈ state.lansOf other) :
    Delivers plan routes other lan n router := by
  induction n generalizing router with
  | zero =>
    rcases hdist.walk with _ | _
    rfl
  | succ n ih =>
    refine ⟨h.exists_staticRoute hroutes hdist hlan, fun route hroute => ?_⟩
    obtain ⟨next, hnext, hcloser⟩ := h.isDist_of_mem_routesTo hroutes hdist hlan hroute
    exact ⟨next, hnext, hcloser, ih hcloser⟩

end Routed

end Routes

/-! ## The plan -/

section Plan

variable {order : SetOrder} {planner planner' : Planner} {plan planned : TopologyPlan}
  {dhcp floatingRoutes : Bool} {devices : List DevicePlan}

lemma signature_assignVlanHosts {links : List LinkPlan} {switchName : String} {vlan : VLANConfig}
    {subnet : IPv4Network} {gateway : String} {hostIdx : ℕ} :
    signature (assignVlanHosts links switchName vlan subnet gateway hostIdx devices) =
      signature devices := by
  unfold signature
  induction devices generalizing hostIdx with
  | nil => rfl
  | cons device devices ih =>
    rw [assignVlanHosts]
    split_ifs with hvlan
    · split
      · rfl
      split
      · split_ifs
        · rw [List.map_cons, List.map_cons, ih]
        · rw [List.map_cons, List.map_cons, ih]
      · rw [List.map_cons, List.map_cons, ih]
    · rw [List.map_cons, List.map_cons, ih]

lemma addressVlans_spec {router switch : DevicePlan} {port : String} {vlans : List VLANConfig}
    (h : addressVlans dhcp router switch port vlans planner plan = some (planner', planned)) :
    signature planned.devices = signature plan.devices ∧ planned.links = plan.links ∧
      planned.staticRoutes = plan.staticRoutes := by
  induction vlans generalizing planner plan with
  | nil =>
    obtain ⟨-, rfl⟩ := Prod.mk.inj (Option.some.inj h)
    exact ⟨rfl, rfl, rfl⟩
  | cons vlan vlans ih =>
    simp only [addressVlans, Option.bind_eq_bind, Option.bind_eq_some_iff] at h
    obtain ⟨⟨subnet, planner''⟩, -, address, -, hrest⟩ := h
    obtain ⟨hsignature, hlinks, hroutes⟩ := ih hrest
    refine ⟨hsignature.trans ?_, hlinks, hroutes⟩
    exact signature_assignVlanHosts.trans (signature_updateFirst fun _ => ⟨rfl, rfl⟩)

lemma planVlanAddressing_spec
    (h : planVlanAddressing planner plan dhcp = some (planner', planned)) :
    signature planned.devices = signature plan.devices ∧ planned.links = plan.links ∧
      planned.staticRoutes = plan.staticRoutes := by
  unfold planVlanAddressing at h
  split at h
  · split at h
    · obtain ⟨-, rfl⟩ := Prod.mk.inj (Option.some.inj h)
      exact ⟨rfl, rfl, rfl⟩
    split_ifs at h
    · obtain ⟨-, rfl⟩ := Prod.mk.inj (Option.some.inj h)
      exact ⟨rfl, rfl, rfl⟩
    · obtain ⟨hsignature, hlinks, hroutes⟩ := addressVlans_spec h
      exact ⟨hsignature, hlinks, hroutes⟩
  · obtain ⟨-, rfl⟩ := Prod.mk.inj (Option.some.inj h)
    exact ⟨rfl, rfl, rfl⟩

/-- A planned topology: the loop has addressed its links, and the routes are those that the two
planners of routes derive from it. -/
lemma planAddressing_stages (hplan : WellFormed plan)
    (h : planAddressing order planner plan dhcp floatingRoutes = some (planner', planned)) :
    ∃ devices state routes floating, Addressed devices (!plan.vlans.isEmpty) planned.links state ∧
      Routing order planned state ∧
      planStaticRoutes order (contextOf planned state) = some routes ∧
      planBackups order (contextOf planned state) floatingRoutes = some floating ∧
      emitted plan planned = routes ++ floating := by
  simp only [planAddressing, Option.bind_eq_bind, Option.bind_eq_some_iff, Option.pure_def,
    Option.some.injEq] at h
  obtain ⟨⟨planner₁, plan₁⟩, hvlan, state, hstate, pools, -, routes, hroutes, floating, hfloating,
    heq⟩ := h
  cases heq
  obtain ⟨hsignature, hlinks, hstatic⟩ : signature plan₁.devices = signature plan.devices ∧
      plan₁.links = plan.links ∧ plan₁.staticRoutes = plan.staticRoutes := by
    unfold planVlans at hvlan
    split_ifs at hvlan
    · obtain ⟨-, rfl⟩ := Prod.mk.inj (Option.some.inj hvlan)
      exact ⟨rfl, rfl, rfl⟩
    · exact planVlanAddressing_spec hvlan
  have hnodup : (([] ++ plan₁.links).flatMap (routerEnds plan₁.devices)).Nodup := by
    have hends : routerEnds plan₁.devices = routerEnds plan.devices :=
      funext (routerEnds_congr hsignature)
    rw [List.nil_append, hlinks, hends]
    exact hplan.ports_nodup
  have haddressed := (addressed_nil planner₁ plan₁.devices (!plan.vlans.isEmpty)).run hnodup hstate
  have hnames : routerNames state.devices = routerNames plan.devices :=
    routerNames_congr (haddressed.signature_eq.trans hsignature)
  refine ⟨plan₁.devices, state, routes, floating, haddressed, ⟨rfl, ⟨_, _, haddressed⟩, ?_, ?_⟩,
    hroutes, hfloating, ?_⟩
  · rw [hnames]
    exact hplan.names_nodup
  · rw [hnames]
    exact hplan.name_ne_empty
  · rw [emitted, ← hstatic, List.append_assoc, List.drop_left]

lemma planAddressing_spec (hplan : WellFormed plan)
    (h : planAddressing order planner plan dhcp floatingRoutes = some (planner', planned)) :
    ∃ devices state routes floating, Addressed devices (!plan.vlans.isEmpty) planned.links state ∧
      Routing order planned state ∧
      planStaticRoutes order (contextOf planned state) = some routes ∧
      (floating = [] ∨
        planFloatingStaticRoutes order (contextOf planned state) = some floating) ∧
      emitted plan planned = routes ++ floating := by
  obtain ⟨devices, state, routes, floating, haddressed, hrouting, hroutes, hfloating, hemitted⟩ :=
    planAddressing_stages hplan h
  refine ⟨devices, state, routes, floating, haddressed, hrouting, hroutes, ?_, hemitted⟩
  unfold planBackups at hfloating
  split_ifs at hfloating
  · exact Or.inr hfloating
  · exact Or.inl (Option.some.inj hfloating).symm

lemma OwnsLinkLan.mem_lansOf {state : Addressing} {owner : String} {lan : IPv4Network}
    (h : OwnsLinkLan planned owner lan)
    (haddressed : Addressed devices false planned.links state)
    (hdevices : planned.devices = state.devices) : lan ∈ state.lansOf owner := by
  obtain ⟨link, hlink, port, hend, cidr, hcidr, ip, hparse⟩ := h
  have hsignature : signature planned.devices = signature devices := by
    rw [hdevices, haddressed.signature_eq]
  rw [lanEnd_congr hsignature] at hend
  obtain ⟨subnet, hsubnet, ip', hip', hinterface⟩ :=
    haddressed.lans rfl link hlink owner port hend
  rw [hdevices, hinterface] at hcidr
  cases hcidr
  rw [parseIPv4Interface_of_mem hip'] at hparse
  obtain ⟨-, rfl⟩ := Prod.mk.inj (Option.some.inj hparse)
  exact hsubnet

/-- In a well-formed plan every planned route names an address of a neighbour on a shared subnet;
and in a plan without VLANs the routes that are not floating deliver to every LAN from every router
that reaches its owner. -/
theorem primary_routes_deliver (hplan : WellFormed plan)
    (h : planAddressing order planner plan dhcp floatingRoutes = some (planner', planned)) :
    (∀ route ∈ emitted plan planned, ∃ next, NextRouter planned route next) ∧
    (plan.vlans = [] → ∀ owner lan, OwnsLinkLan planned owner lan →
      ∀ router n, IsDist (neighbours planned) router owner n →
        Delivers planned (primary (emitted plan planned)) owner lan n router) := by
  obtain ⟨devices, state, routes, floating, haddressed, hrouting, hroutes, hfloating, hemitted⟩ :=
    planAddressing_spec hplan h
  have hstatic : ∀ route ∈ routes, (∃ next, NextRouter planned route next) ∧
      route.adminDistance = 1 := by
    intro route hroute
    obtain ⟨a, -, b, -, list, hlist, hmem⟩ := (allPairs_spec hroutes).2 route hroute
    obtain ⟨hop, -, hnext, -, hdistance, -⟩ := hrouting.staticRoutes_spec hlist hmem
    exact ⟨⟨hop, hnext⟩, hdistance⟩
  have hbackup : ∀ route ∈ floating, (∃ next, NextRouter planned route next) ∧
      route.adminDistance = 254 := by
    intro route hroute
    rcases hfloating with rfl | hfloating
    · cases hroute
    · obtain ⟨a, -, b, -, list, hlist, hmem⟩ := (allPairs_spec hfloating).2 route hroute
      exact hrouting.floatingRoutes_spec hlist hmem
  constructor
  · intro route hroute
    rw [hemitted] at hroute
    rcases List.mem_append.mp hroute with hroute | hroute
    · exact (hstatic route hroute).1
    · exact (hbackup route hroute).1
  · intro hvlans owner lan howns router n hdist
    rw [hvlans] at haddressed
    have hprimary : primary (emitted plan planned) = routes := by
      rw [hemitted, primary, List.filter_append, List.filter_eq_self.mpr,
        List.filter_eq_nil_iff.mpr, List.append_nil]
      · intro route hroute
        rw [(hbackup route hroute).2]
        decide
      · intro route hroute
        rw [(hstatic route hroute).2]
        rfl
    rw [hprimary]
    exact hrouting.delivers hroutes hdist (howns.mem_lansOf haddressed hrouting.devices_eq)

/-- **A floating route is planned exactly when there is a way around the primary hop.**  Every
route of a router to a LAN that it reaches is a primary one through its first hop, or a floating one
that leads around it; so there is no floating route to a LAN of the first hop itself. -/
theorem floating_route_iff (hplan : WellFormed plan) (hvlans : plan.vlans = [])
    (h : planAddressing order planner plan dhcp true = some (planner', planned))
    {owner router : String} {lan : IPv4Network} {n : ℕ} (howns : OwnsLinkLan planned owner lan)
    (hdist : IsDist (neighbours planned) router owner (n + 1)) :
    ∃ hop ∈ neighbours planned router, IsDist (neighbours planned) hop owner n ∧
      ((∃ route ∈ routesTo (emitted plan planned) router lan, route.adminDistance = 254) ↔
        Reaches (avoiding (neighbours planned) [hop]) router owner) ∧
      ∀ route ∈ routesTo (emitted plan planned) router lan,
        route.adminDistance = 1 ∧ NextRouter planned route hop ∨
        route.adminDistance = 254 ∧ LeadsAround planned owner hop route := by
  obtain ⟨devices, state, routes, floating, haddressed, hrouting, hroutes, hfloating, hemitted⟩ :=
    planAddressing_stages hplan h
  rw [hvlans] at haddressed
  have hlan := howns.mem_lansOf haddressed hrouting.devices_eq
  obtain ⟨hop, hhop, hmem, -, hcloser⟩ := hrouting.firstHopOf_spec hdist
  have hsplit : ∀ route, route ∈ routesTo (emitted plan planned) router lan ↔
      route ∈ routesTo routes router lan ∨ route ∈ routesTo floating router lan := by
    intro route
    rw [hemitted, routesTo, List.filter_append, List.mem_append]
    rfl
  refine ⟨hop, hmem, hcloser, ⟨?_, fun hreaches => ?_⟩, fun route hroute => ?_⟩
  · rintro ⟨route, hroute, hdistance⟩
    rcases (hsplit route).mp hroute with hroute | hroute
    · have hprimary := (hrouting.nextRouter_of_mem_routesTo hroutes hhop hlan hroute).1
      omega
    · obtain ⟨-, alt, -, -, m, -, hrouter⟩ :=
        hrouting.leadsAround_of_mem_routesTo hfloating hdist hhop hlan hroute
      exact ⟨m + 1, (of_decide_eq_true (List.mem_filter.mp hroute).2).1 ▸ hrouter.walk⟩
  · obtain ⟨route, hroute, hdistance⟩ :=
      hrouting.exists_floatingRoute hfloating hdist hhop hlan hreaches
    exact ⟨route, (hsplit route).mpr (Or.inr hroute), hdistance⟩
  · exact ((hsplit route).mp hroute).imp (hrouting.nextRouter_of_mem_routesTo hroutes hhop hlan)
      (hrouting.leadsAround_of_mem_routesTo hfloating hdist hhop hlan)

end Plan

/-! ## Where the routes do not deliver -/

/-- Every emitted route, from every router to every LAN that it reaches, leads one step closer, and
the routes deliver. -/
def RoutesDeliver (plan planned : TopologyPlan) : Prop :=
  ∀ owner lan, OwnsLinkLan planned owner lan ∨ OwnsVlanLan planned owner lan →
    ∀ router n, IsDist (neighbours planned) router owner n →
      Delivers planned (emitted plan planned) owner lan n router

/-- A device without addresses. -/
def bareDevice (name category : String) : DevicePlan :=
  { name, category, interfaces := Dict.empty }

/-- Sets are iterated as they were built. -/
def builtOrder : SetOrder := ⟨id, fun _ => List.Perm.refl _⟩

/-- The default planner, at the start of its generators. -/
def defaultPlanner : Planner where
  lanBase := ⟨16, 49320, by decide, by decide⟩
  linkBase := ⟨16, 2560, by decide, by decide⟩

/-- The plan after addressing. -/
def defaultPlanned (plan : TopologyPlan) (floatingRoutes : Bool) : TopologyPlan :=
  ((planAddressing builtOrder defaultPlanner plan true floatingRoutes).map Prod.snd).getD plan

/-- The planner accepts the plan, and the routes it emits do not deliver. -/
def Misroutes (plan : TopologyPlan) (floatingRoutes : Bool) : Prop :=
  ∃ planner' planned, planAddressing builtOrder defaultPlanner plan true floatingRoutes =
    some (planner', planned) ∧ ¬RoutesDeliver plan planned

lemma exists_planAddressing_eq (plan : TopologyPlan) (floatingRoutes : Bool)
    (h : (planAddressing builtOrder defaultPlanner plan true floatingRoutes).isSome) :
    ∃ planner', planAddressing builtOrder defaultPlanner plan true floatingRoutes =
      some (planner', defaultPlanned plan floatingRoutes) := by
  obtain ⟨⟨planner', planned⟩, heq⟩ := Option.isSome_iff_exists.mp h
  refine ⟨planner', ?_⟩
  rw [defaultPlanned, heq]
  rfl

lemma misroutes_of_missing {plan : TopologyPlan} {floatingRoutes : Bool} (owner router : String)
    (lan : IPv4Network)
    (haccepted : (planAddressing builtOrder defaultPlanner plan true floatingRoutes).isSome)
    (howns : OwnsLinkLan (defaultPlanned plan floatingRoutes) owner lan ∨
      OwnsVlanLan (defaultPlanned plan floatingRoutes) owner lan)
    (hnext : owner ∈ neighbours (defaultPlanned plan floatingRoutes) router) (hne : router ≠ owner)
    (hmissing : routesTo (emitted plan (defaultPlanned plan floatingRoutes)) router lan = []) :
    Misroutes plan floatingRoutes := by
  obtain ⟨planner', heq⟩ := exists_planAddressing_eq plan floatingRoutes haccepted
  refine ⟨planner', _, heq, fun h => ?_⟩
  exact (h owner lan howns router 1 (isDist_one hnext hne)).1 hmissing

/-- A router with a link to a router on a stick. -/
def vlanPlan : TopologyPlan where
  devices := [bareDevice "R2" "router", bareDevice "R1" "router", bareDevice "S1" "switch"]
  links := [⟨"R2", "g0", "S1", "f1"⟩, ⟨"R1", "g1", "R2", "g1"⟩]
  vlans := [{ vlanId := 10 }]

/-- The port of the second router carries two links. -/
def sharedPortPlan : TopologyPlan where
  devices := [bareDevice "R1" "router", bareDevice "R2" "router", bareDevice "S1" "switch"]
  links := [⟨"R1", "g1", "R2", "g0"⟩, ⟨"R2", "g0", "S1", "f1"⟩]

/-- Two routers have the same name. -/
def twinPlan : TopologyPlan where
  devices := [bareDevice "R1" "router", bareDevice "R2" "router", bareDevice "R2" "router",
    bareDevice "S1" "switch"]
  links := [⟨"R1", "g1", "R2", "g1"⟩, ⟨"R2", "g0", "S1", "f1"⟩]

/-- The second router has an empty name. -/
def namelessPlan : TopologyPlan where
  devices := [bareDevice "R1" "router", bareDevice "" "router", bareDevice "S1" "switch"]
  links := [⟨"R1", "g1", "", "g1"⟩, ⟨"", "g0", "S1", "f1"⟩]

/-- Five routers in a ring, with a LAN behind the third. -/
def ringPlan : TopologyPlan where
  devices := [bareDevice "R1" "router", bareDevice "R2" "router", bareDevice "R3" "router",
    bareDevice "R4" "router", bareDevice "R5" "router", bareDevice "S1" "switch"]
  links := [⟨"R1", "a", "R2", "b"⟩, ⟨"R2", "a", "R3", "b"⟩, ⟨"R3", "a", "R4", "b"⟩,
    ⟨"R4", "a", "R5", "b"⟩, ⟨"R5", "a", "R1", "b"⟩, ⟨"R3", "lan", "S1", "f1"⟩]

/-- The first LAN of the default planner. -/
def firstLan : IPv4Network := ⟨24, 12625920, by decide, by decide⟩

/-- The gateway of the first LAN. -/
def firstGateway : IPv4Address := ⟨3232235521, by decide⟩

/-- The floating route of the first router of the ring. -/
def ringBackup : StaticRoute := ⟨"R1", "192.168.0.0", "255.255.255.0", "10.0.0.17", 254⟩

/-- The texts of the addresses of a router. -/
def addressTexts (plan : TopologyPlan) (name : String) : List String :=
  ((devicesByCategory plan.devices "router").filter fun router => router.name = name).flatMap
    fun router => router.interfaces.values.filterMap fun cidr =>
      (parseIPv4Interface cidr).map fun interface => text interface.1

lemma HasAddress.mem_addressTexts {plan : TopologyPlan} {name address : String}
    {subnet : IPv4Network} (h : HasAddress plan name address subnet) :
    address ∈ addressTexts plan name := by
  obtain ⟨router, hrouter, hname, cidr, hcidr, ip, hparse, rfl⟩ := h
  refine List.mem_flatMap.mpr ⟨router, List.mem_filter.mpr ⟨hrouter, by simpa using hname⟩, ?_⟩
  exact List.mem_filterMap.mpr ⟨cidr, hcidr, by rw [hparse]; rfl⟩

lemma ownsLinkLan_ringPlan : OwnsLinkLan (defaultPlanned ringPlan true) "R3" firstLan :=
  ⟨⟨"R3", "lan", "S1", "f1"⟩, by decide +kernel, "lan", by decide +kernel, "192.168.0.1/24",
    by decide +kernel, firstGateway, by decide +kernel⟩

lemma isDist_ringPlan : IsDist (neighbours (defaultPlanned ringPlan true)) "R1" "R3" 2 :=
  isDist_two (v := "R2") (by decide +kernel) (by decide +kernel) (by decide) (by decide +kernel)

/-- The floating route of the first router of the ring does not lead closer to the LAN. -/
lemma misroutes_ringPlan : Misroutes ringPlan true := by
  obtain ⟨planner', heq⟩ := exists_planAddressing_eq ringPlan true (by decide +kernel)
  refine ⟨planner', _, heq, fun h => ?_⟩
  have hneighbours : neighbours (defaultPlanned ringPlan true) "R1" = ["R2", "R5"] := by
    decide +kernel
  have hapart : "R3" ∉ neighbours (defaultPlanned ringPlan true) "R5" := by decide +kernel
  have hother : "10.0.0.17" ∉ addressTexts (defaultPlanned ringPlan true) "R2" := by
    decide +kernel
  obtain ⟨next, ⟨hnext, subnet, haddress, -⟩, hcloser, -⟩ :=
    (h "R3" firstLan (Or.inl ownsLinkLan_ringPlan) "R1" 2 isDist_ringPlan).2 ringBackup
      (by decide +kernel)
  rw [show ringBackup.router = "R1" from rfl, hneighbours] at hnext
  rcases List.mem_cons.mp hnext with rfl | hnext
  · exact hother haddress.mem_addressTexts
  · rw [List.mem_singleton.mp hnext] at hcloser
    exact hapart (walk_one_iff.mp hcloser.walk)

/-- The emitted routes do not always deliver: there are none to the LANs of VLANs and through a
router whose port was overwritten or whose name is not unique or empty; and floating routes lead
through routers that are no closer. -/
theorem not_forall_routesDeliver :
    Misroutes vlanPlan false ∧ Misroutes sharedPortPlan false ∧ Misroutes twinPlan false ∧
      Misroutes namelessPlan false ∧ Misroutes ringPlan true := by
  have hlink : ∀ plan owner, ⟨owner, "g0", "S1", "f1"⟩ ∈ (defaultPlanned plan false).links →
      lanEnd (defaultPlanned plan false).devices ⟨owner, "g0", "S1", "f1"⟩ = some (owner, "g0") →
      interfaceOf (defaultPlanned plan false).devices owner "g0" = some "192.168.0.1/24" →
      OwnsLinkLan (defaultPlanned plan false) owner firstLan := fun plan owner hmem hend hcidr =>
    ⟨_, hmem, "g0", hend, _, hcidr, firstGateway, by decide⟩
  refine ⟨?_, ?_, ?_, ?_, misroutes_ringPlan⟩
  · refine misroutes_of_missing "R2" "R1" firstLan (by decide +kernel) (Or.inr ?_)
      (by decide +kernel) (by decide) (by decide +kernel)
    exact ⟨⟨"R2", "g0", 10, "192.168.0.1/24"⟩, by decide +kernel, rfl, firstGateway,
      by decide⟩
  · exact misroutes_of_missing "R2" "R1" firstLan (by decide +kernel)
      (Or.inl (hlink _ _ (by decide +kernel) (by decide +kernel) (by decide +kernel)))
      (by decide +kernel) (by decide) (by decide +kernel)
  · exact misroutes_of_missing "R2" "R1" firstLan (by decide +kernel)
      (Or.inl (hlink _ _ (by decide +kernel) (by decide +kernel) (by decide +kernel)))
      (by decide +kernel) (by decide) (by decide +kernel)
  · exact misroutes_of_missing "" "R1" firstLan (by decide +kernel)
      (Or.inl (hlink _ _ (by decide +kernel) (by decide +kernel) (by decide +kernel)))
      (by decide +kernel) (by decide) (by decide +kernel)

/-- The routes of the ring that are not floating deliver. -/
theorem primary_routes_deliver_ring :
    Delivers (defaultPlanned ringPlan true)
      (primary (emitted ringPlan (defaultPlanned ringPlan true))) "R3" firstLan 2 "R1" := by
  obtain ⟨planner', heq⟩ := exists_planAddressing_eq ringPlan true (by decide +kernel)
  exact (primary_routes_deliver (by decide) heq).2 rfl "R3" firstLan ownsLinkLan_ringPlan
    "R1" 2 isDist_ringPlan

/-- There is a way around the primary hop in the ring. -/
theorem floating_route_iff_ring : ∃ hop ∈ neighbours (defaultPlanned ringPlan true) "R1",
    Reaches (avoiding (neighbours (defaultPlanned ringPlan true)) [hop]) "R1" "R3" := by
  obtain ⟨planner', heq⟩ := exists_planAddressing_eq ringPlan true (by decide +kernel)
  obtain ⟨hop, hmem, -, hiff, -⟩ :=
    floating_route_iff (by decide) rfl heq ownsLinkLan_ringPlan isDist_ringPlan
  exact ⟨hop, hmem, hiff.mp ⟨ringBackup, by decide +kernel, rfl⟩⟩

end IPPlanner

end PacketTracer
