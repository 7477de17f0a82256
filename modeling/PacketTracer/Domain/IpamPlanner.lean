import PacketTracer.Library.Dict
import PacketTracer.Library.Ipaddress
import PacketTracer.Library.PyDecimal
import PacketTracer.Library.PyText

/-!
# The IPAM planner

`addressing.py` and `ipam_planner.py`: deterministic VLSM allocation.  Blocks for the sites are
carved from the enterprise network, transits from what the blocks leave, and the subnets of the
segments from the block of their site.

Each loop of the planner is a machine: over the sites that need a block, over the pairs of sites
with a WAN link, and over the requirements of a site.  A loop that ends early does so with the
error that the planner reports or with an exception that it raises.
-/

namespace PacketTracer

open Dicts Ipaddress Machines PrefixBlocks PyDecimal PyText

/-! ## Models -/

/-- `LinkMedia`. -/
inductive LinkMedia
  | serial
  | ethernet
  | unknown
  deriving DecidableEq

def LinkMedia.value : LinkMedia → String
  | serial => "serial"
  | ethernet => "ethernet"
  | unknown => "unknown"

/-- `WanLinkRequirement`. -/
structure WanLinkRequirement where
  targetSiteId : String
  media : LinkMedia := .ethernet
  network : Option String := none
  sourceIpv4 : Option String := none
  targetIpv4 : Option String := none
  deriving DecidableEq

/-- `NetworkSegment`. -/
structure NetworkSegment where
  name : String
  hostRequirement : ℤ
  growthPercent : Option PyFloat := none
  subnet : Option String := none
  gateway : Option String := none
  deriving DecidableEq

/-- `SitePlan`. -/
structure SitePlan where
  name : String
  siteId : String
  segments : List NetworkSegment := []
  uplinks : List WanLinkRequirement := []
  growthPercent : PyFloat := .finite ⟨0, 0⟩
  addressBlock : Option String := none
  deriving DecidableEq

/-- `TrafficFlowIntent`: a demand between two sites, with the WAN links it is to take if it names
any. -/
structure TrafficFlowIntent where
  id : String
  sourceSiteId : String
  destinationSiteId : String
  perUnitBps : ℤ := 0
  units : ℤ := 1
  concurrency : PyFloat := .finite ⟨1, 0⟩
  explicitLinkIds : List String := []
  deriving DecidableEq

/-- `EnterprisePlan`. -/
structure EnterprisePlan where
  sites : List SitePlan := []
  addressSpace : Option String := none
  trafficFlows : List TrafficFlowIntent := []
  deriving DecidableEq

/-- `SiteAddressBlock`. -/
structure SiteAddressBlock where
  siteId : String
  network : String
  prefixLength : ℕ
  explicit : Bool := false
  deriving DecidableEq

/-- `SubnetRequirement`. -/
structure SubnetRequirement where
  segmentId : String
  rawHosts : ℤ
  growthPercent : PyFloat
  growthHosts : ℤ
  gatewayCount : ℤ := 1
  reservedHosts : ℤ := 0
  requiredUsableHosts : ℤ
  prefixLength : ℕ
  deriving DecidableEq

/-- `SubnetAllocation`. -/
structure SubnetAllocation where
  segmentId : String
  network : String
  prefixLength : ℕ
  netmask : String
  gateway : String
  firstUsable : String
  lastUsable : String
  broadcast : String
  usableHosts : ℤ
  requiredHosts : ℤ
  growthPercent : PyFloat
  reservedHosts : ℤ := 0
  deriving DecidableEq

/-- `WanTransitAllocation`. -/
structure WanTransitAllocation where
  id : String
  sourceSiteId : String
  targetSiteId : String
  media : String
  network : String
  prefixLength : ℕ := 30
  netmask : String
  sourceIpv4 : String
  targetIpv4 : String
  deriving DecidableEq

/-- `AddressingPlan`, with the address space as its network text. -/
structure AddressingPlan where
  addressSpace : String
  siteBlocks : List SiteAddressBlock := []
  allocations : List SubnetAllocation := []
  transitAllocations : List WanTransitAllocation := []
  deriving DecidableEq

/-- `ErrorCode`, restricted to the codes that the planner reports. -/
inductive ErrorCode
  | enterpriseAddressSpaceInvalid
  | enterpriseNoUsableSubnet
  | siteAddressSpaceOutsideEnterprise
  | siteAddressSpaceTooSmall
  | siteAddressSpaceOverlap
  | segmentAddressSpaceTooSmall
  | subnetOverlap
  deriving DecidableEq

/-- `PlanError`. -/
structure PlanError where
  code : ErrorCode
  message : String
  device : String := ""
  deriving DecidableEq

/-- `IPAMPlanResult`, with the errors of its validation. -/
structure IPAMPlanResult where
  plan : Option AddressingPlan := none
  errors : List PlanError := []
  deriving DecidableEq

/-- The exceptions that the planner lets through. -/
inductive PyException
  | valueError
  | keyError
  | indexError
  | invalidOperation
  | overflowError
  deriving DecidableEq

/-- How a loop of the planner ends early. -/
inductive PlanFailure
  /-- The planner returns this error. -/
  | reported (error : PlanError)
  /-- The planner raises. -/
  | raised (exception : PyException)
  deriving DecidableEq

namespace IPAMPlanner

/-! ## Requirements -/

/-- `growth_fraction`: a fraction stays, a percentage is divided by 100. -/
def growthFraction (value : Decimal) : Decimal := if value.leInt 1 then value else value.divHundred

/-- `growth_hosts`. -/
def growthHosts (rawHosts : ℤ) (growthPercent : PyFloat) : Except PyException ℤ :=
  if rawHosts ≤ 0 then .ok 0
  else
    match growthPercent with
    | .nan => .error .invalidOperation
    | .infinite _ => .error .overflowError
    | .finite value => .ok (Decimal.mulInt rawHosts (growthFraction value)).ceil

/-- `usable_hosts`, for a prefix length of at most 32. -/
def usableHosts (prefixLength : ℕ) : ℤ := 2 ^ (32 - prefixLength) - 2

/-- The search of `subnet_requirement_for`: the longest prefix that is long enough, and zero when
there is none. -/
def searchPrefix (required : ℤ) : ℕ → Except PyException ℕ
  | 0 => .ok 0
  | prefixLength + 1 =>
    if 32 < prefixLength + 1 then .error .valueError
    else if required ≤ usableHosts (prefixLength + 1) then .ok (prefixLength + 1)
    else searchPrefix required prefixLength

/-- `subnet_requirement_for`; a negative minimum prefix leaves nothing to search. -/
def subnetRequirementFor (segmentId : String) (rawHosts : ℤ) (growthPercent : PyFloat)
    (minimumLanPrefix : ℤ := 30) (reservedHosts : ℤ := 0) :
    Except PyException SubnetRequirement :=
  match growthHosts rawHosts growthPercent with
  | .error exception => .error exception
  | .ok growthCount =>
    let required := rawHosts + growthCount + 1 + reservedHosts
    match searchPrefix required minimumLanPrefix.toNat with
    | .error exception => .error exception
    | .ok prefixLength =>
      .ok
        { segmentId := segmentId
          rawHosts := rawHosts
          growthPercent := growthPercent
          growthHosts := growthCount
          requiredUsableHosts := required
          reservedHosts := reservedHosts
          prefixLength := prefixLength }

/-- The loop of `_site_requirements`. -/
def requirementsOfSegments (minimumLanPrefix : ℤ) (growthPercent : PyFloat) :
    List NetworkSegment → Except PyException (List SubnetRequirement)
  | [] => .ok []
  | segment :: segments =>
    match subnetRequirementFor segment.name segment.hostRequirement
      (segment.growthPercent.getD growthPercent) minimumLanPrefix with
    | .error exception => .error exception
    | .ok requirement =>
      match requirementsOfSegments minimumLanPrefix growthPercent segments with
      | .error exception => .error exception
      | .ok requirements => .ok (requirement :: requirements)

/-- `_site_requirements`: the largest requirements first. -/
def siteRequirements (minimumLanPrefix : ℤ) (site : SitePlan) :
    Except PyException (List SubnetRequirement) :=
  match requirementsOfSegments minimumLanPrefix site.growthPercent site.segments with
  | .error exception => .error exception
  | .ok requirements => .ok (sortedBy
      (fun item : SubnetRequirement => toLex (item.prefixLength, item.segmentId)) requirements)

/-- The comprehension that computes the requirements of all sites, by site id. -/
def allRequirements (minimumLanPrefix : ℤ) :
    List SitePlan → Except PyException (List (String × List SubnetRequirement))
  | [] => .ok []
  | site :: sites =>
    match siteRequirements minimumLanPrefix site with
    | .error exception => .error exception
    | .ok requirements =>
      match allRequirements minimumLanPrefix sites with
      | .error exception => .error exception
      | .ok rest => .ok ((site.siteId, requirements) :: rest)

/-- `requirements[site_id]`; every site has an entry. -/
def requirementsFor (requirements : Dict String (List SubnetRequirement)) (siteId : String) :
    List SubnetRequirement := (requirements.get? siteId).getD []

/-- The number of addresses that a list of requirements needs. -/
def footprint (requirements : List SubnetRequirement) : ℕ :=
  (requirements.map fun requirement => 2 ^ (32 - requirement.prefixLength)).sum

/-- `_site_prefix`: the prefix of the smallest block that holds the footprint. -/
def sitePrefix (requirements : List SubnetRequirement) : ℤ :=
  if footprint requirements ≤ 1 then 32
  else 32 - (Nat.log2 (footprint requirements - 1) + 1)

/-! ## Free lists -/

/-- The sort key of `_exclude`. -/
def networkKey (network : IPv4Network) : ℕ ×ₗ ℕ := toLex (network.first, network.prefixlen)

/-- `_exclude`: split the blocks that contain the reserved one; the others stay. -/
def exclude (available : List IPv4Network) (reserved : IPv4Network) : List IPv4Network :=
  sortedBy networkKey (available.flatMap fun candidate =>
    if reserved ≤ candidate then
      if candidate = reserved then [] else candidate.exclude reserved
    else [candidate])

/-- `next(network.subnets(new_prefix=prefix))`. -/
def firstSubnet (network : IPv4Network) (prefixLength : ℕ) : IPv4Network :=
  if h : network.prefixlen ≤ prefixLength ∧ prefixLength ≤ 32 then
    network.leading prefixLength h.1 h.2
  else network

/-- `_take_subnet`: the first subnet of the first block that is large enough. -/
def takeSubnet (available : List IPv4Network) (prefixLength : ℤ) :
    Option IPv4Network × List IPv4Network :=
  match available.find? fun candidate => (candidate.prefixlen : ℤ) ≤ prefixLength with
  | none => (none, available)
  | some candidate =>
    let subnet := firstSubnet candidate prefixLength.toNat
    (some subnet, exclude available subnet)

/-! ## Blocks of the sites -/

/-- The block that a site declares, or why it is rejected, given the blocks declared before. -/
def explicitSiteBlock (enterprise : IPv4Network) (requirements : List SubnetRequirement)
    (blocks : Dict String IPv4Network) (site : SitePlan) (addressBlock : String) :
    Except PlanError IPv4Network :=
  let outside : PlanError :=
    { code := .siteAddressSpaceOutsideEnterprise
      message := s!"El bloque de {quoted site.name} debe pertenecer al espacio Enterprise."
      device := site.name }
  match ipNetwork addressBlock with
  | none =>
    .error
      { code := .enterpriseAddressSpaceInvalid
        message := s!"El bloque de {quoted site.name} no es una red IPv4 CIDR válida."
        device := site.name }
  | some (.v6 _) => .error outside
  | some (.v4 block) =>
    if ¬block ≤ enterprise then .error outside
    else if block.size < footprint requirements then
      .error
        { code := .siteAddressSpaceTooSmall
          message := s!"El bloque de {quoted site.name} no contiene el footprint VLSM requerido."
          device := site.name }
    else
      match blocks.entries.find? fun other => Block.Overlaps block other.2 with
      | some other =>
        .error
          { code := .siteAddressSpaceOverlap
            message := s!"El bloque de {quoted site.name} se solapa con {quoted other.1}."
            device := site.name }
      | none => .ok block

/-- The loop of `_explicit_site_blocks`. -/
def explicitSiteBlocksFrom (enterprise : IPv4Network)
    (requirements : Dict String (List SubnetRequirement)) :
    List SitePlan → Dict String IPv4Network → List PlanError →
      Dict String IPv4Network × List PlanError
  | [], blocks, errors => (blocks, errors)
  | site :: sites, blocks, errors =>
    match site.addressBlock with
    | none => explicitSiteBlocksFrom enterprise requirements sites blocks errors
    | some addressBlock =>
      match explicitSiteBlock enterprise (requirementsFor requirements site.siteId) blocks site
        addressBlock with
      | .ok block =>
        explicitSiteBlocksFrom enterprise requirements sites (blocks.set site.siteId block) errors
      | .error error =>
        explicitSiteBlocksFrom enterprise requirements sites blocks (errors ++ [error])

/-- `_explicit_site_blocks`. -/
def explicitSiteBlocks (sites : List SitePlan) (enterprise : IPv4Network)
    (requirements : Dict String (List SubnetRequirement)) :
    Dict String IPv4Network × List PlanError :=
  explicitSiteBlocksFrom enterprise requirements (sortedBy SitePlan.siteId sites) Dict.empty []

/-- The blocks of the sites and what they leave of the enterprise network. -/
structure SiteState where
  available : List IPv4Network
  siteBlocks : Dict String IPv4Network

/-- The body of the loop that gives a block to a site without a declared one. -/
def takeSiteBlock (requirements : Dict String (List SubnetRequirement)) (state : SiteState)
    (site : SitePlan) : Except PlanError SiteState :=
  match takeSubnet state.available (sitePrefix (requirementsFor requirements site.siteId)) with
  | (none, _) =>
    .error
      { code := .enterpriseNoUsableSubnet
        message := s!"No hay bloque IPv4 disponible para la sede {quoted site.name}."
        device := site.name }
  | (some block, available) =>
    .ok { available := available, siteBlocks := state.siteBlocks.set site.siteId block }

/-- The loop that gives blocks to sites without a declared one. -/
def siteMachine (requirements : Dict String (List SubnetRequirement)) :
    Machine SiteState SitePlan PlanError where
  step := takeSiteBlock requirements

/-- The sites that need a block and declare none, largest first. -/
def automaticSites (requirements : Dict String (List SubnetRequirement))
    (explicit : Dict String IPv4Network) (sites : List SitePlan) : List SitePlan :=
  sortedBy
    (fun item : SitePlan =>
      toLex (sitePrefix (requirementsFor requirements item.siteId), item.siteId))
    (sites.filter fun site =>
      !explicit.contains site.siteId && requirementsFor requirements site.siteId ≠ [])

/-- The part of `plan` that fixes the blocks of the sites, once the declared ones are accepted. -/
def assignSiteBlocks (enterprise : IPv4Network)
    (requirements : Dict String (List SubnetRequirement)) (explicit : Dict String IPv4Network)
    (sites : List SitePlan) : Except PlanError SiteState :=
  (siteMachine requirements).run
    { available := explicit.values.foldl exclude [enterprise]
      siteBlocks := explicit }
    (automaticSites requirements explicit sites)

/-! ## Transits -/

/-- An entry of `_wan_pairs`. -/
structure WanDeclaration where
  source : String
  target : String
  media : String
  network : String
  sourceIpv4 : String
  targetIpv4 : String
  deriving DecidableEq

/-- The order of declarations as tuples. -/
def WanDeclaration.key (item : WanDeclaration) :
    String ×ₗ String ×ₗ String ×ₗ String ×ₗ String ×ₗ String :=
  toLex (item.source, toLex (item.target, toLex (item.media, toLex (item.network,
    toLex (item.sourceIpv4, item.targetIpv4)))))

/-- `tuple(sorted((a, b)))`. -/
def sortedPair (a b : String) : String × String := if a ≤ b then (a, b) else (b, a)

/-- Add the uplinks of one site to the declarations of its pairs. -/
def declareUplinks (known : List String) (site : SitePlan) :
    List WanLinkRequirement → Dict (String × String) (List WanDeclaration) →
      Dict (String × String) (List WanDeclaration)
  | [], declarations => declarations
  | uplink :: uplinks, declarations =>
    if uplink.targetSiteId ∉ known ∨ uplink.targetSiteId = site.siteId then
      declareUplinks known site uplinks declarations
    else
      let pair := sortedPair site.siteId uplink.targetSiteId
      declareUplinks known site uplinks
        (declarations.set pair ((declarations.get? pair).getD [] ++
          [{ source := site.siteId
             target := uplink.targetSiteId
             media := uplink.media.value
             network := uplink.network.getD ""
             sourceIpv4 := uplink.sourceIpv4.getD ""
             targetIpv4 := uplink.targetIpv4.getD "" }]))

/-- The declaration that stands for a pair of sites, if they agree on the medium. -/
def resolvePair (pair : String × String) (entries : List WanDeclaration) :
    Option WanDeclaration :=
  match (entries.map WanDeclaration.media).dedup with
  | [media] =>
    let explicit := entries.filter fun item =>
      item.network ≠ "" || item.sourceIpv4 ≠ "" || item.targetIpv4 ≠ ""
    match sortedBy WanDeclaration.key explicit with
    | item :: _ => some item
    | [] => some ⟨pair.1, pair.2, media, "", "", ""⟩
  | _ => none

/-- `_wan_pairs`. -/
def wanPairs (plan : EnterprisePlan) : List WanDeclaration :=
  let known := plan.sites.map SitePlan.siteId
  let declarations := plan.sites.foldl
    (fun declarations site => declareUplinks known site site.uplinks declarations) Dict.empty
  (sortedBy (fun item => toLex item.1) declarations.entries).filterMap fun item =>
    resolvePair item.1 item.2

/-- The local variables of the loop over the transits. -/
structure TransitState where
  available : List IPv4Network
  usedTransits : List IPv4Network := []
  allocations : List WanTransitAllocation := []

/-- `address in network.hosts()`. -/
def isHost (network : IPv4Network) : IPAddress → Bool
  | .v4 address => (address : ℕ) ∈ network.hosts
  | .v6 _ => false

/-- `str` of an address that is a host of an IPv4 network. -/
def hostText : IPAddress → String
  | .v4 address => text address
  | .v6 _ => ""

/-- The declared transit, with the texts of its ends, or why it is rejected. -/
def explicitTransit (pair : WanDeclaration) (usedTransits : List IPv4Network) :
    Except PlanError (IPv4Network × String × String) :=
  let undeclared : PlanError :=
    { code := .enterpriseAddressSpaceInvalid
      message := s!"El tránsito explícito {pair.source}<->{pair.target} debe declarar " ++
        "dos hosts distintos dentro de una red IPv4 /30." }
  match ipNetwork pair.network, ipAddress pair.sourceIpv4, ipAddress pair.targetIpv4 with
  | some (.v4 subnet), some source, some target =>
    if subnet.prefixlen ≠ 30 ∨ isHost subnet source = false ∨ isHost subnet target = false ∨
        source = target then .error undeclared
    else if usedTransits.any fun item => Block.Overlaps subnet item then
      .error
        { code := .subnetOverlap
          message := s!"El tránsito explícito {pair.source}<->{pair.target} se solapa." }
    else .ok (subnet, hostText source, hostText target)
  | some (.v6 _), some _, some _ => .error undeclared
  | _, _, _ =>
    .error
      { code := .enterpriseAddressSpaceInvalid
        message := s!"El tránsito explícito {pair.source}<->{pair.target} no es IPv4 válido." }

/-- `WanTransitAllocation` of a transit. -/
def transitAllocation (pair : WanDeclaration) (subnet : IPv4Network)
    (sourceIpv4 targetIpv4 : String) : WanTransitAllocation :=
  { id := s!"transit/{pair.source}/{pair.target}"
    sourceSiteId := pair.source
    targetSiteId := pair.target
    media := pair.media
    network := text (IPv4Network.networkAddress subnet)
    prefixLength := subnet.prefixlen
    netmask := text (IPv4Network.netmask subnet)
    sourceIpv4 := sourceIpv4
    targetIpv4 := targetIpv4 }

/-- The loop body over the transits. -/
def allocateTransit (state : TransitState) (pair : WanDeclaration) :
    Except PlanFailure TransitState :=
  if pair.network ≠ "" then
    match explicitTransit pair state.usedTransits with
    | .error error => .error (.reported error)
    | .ok (subnet, sourceIpv4, targetIpv4) =>
      .ok
        { available := exclude state.available subnet
          usedTransits := state.usedTransits ++ [subnet]
          allocations :=
            state.allocations ++ [transitAllocation pair subnet sourceIpv4 targetIpv4] }
  else
    match takeSubnet state.available 30 with
    | (none, _) =>
      .error (.reported
        { code := .enterpriseNoUsableSubnet
          message := s!"No hay /30 disponible para el tránsito {pair.source}<->{pair.target}." })
    | (some subnet, available) =>
      match IPv4Network.addressAt subnet 1, IPv4Network.addressAt subnet 2 with
      | some source, some target =>
        .ok
          { available := available
            usedTransits := state.usedTransits ++ [subnet]
            allocations :=
              state.allocations ++ [transitAllocation pair subnet (text source) (text target)] }
      | _, _ => .error (.raised .indexError)

/-- The loop over the transits. -/
def transitMachine : Machine TransitState WanDeclaration PlanFailure where
  step := allocateTransit

/-! ## Subnets of the segments -/

/-- `_allocation`. -/
def allocation (network : IPv4Network) (requirement : SubnetRequirement)
    (gateway : Option String) : Except PyException SubnetAllocation :=
  match IPv4Network.addressAt network 1, IPv4Network.penultimate network with
  | some firstUsable, some lastUsable =>
    .ok
      { segmentId := requirement.segmentId
        network := text (IPv4Network.networkAddress network)
        prefixLength := network.prefixlen
        netmask := text (IPv4Network.netmask network)
        gateway := gateway.getD (text firstUsable)
        firstUsable := text firstUsable
        lastUsable := text lastUsable
        broadcast := text (IPv4Network.broadcastAddress network)
        usableHosts := usableHosts network.prefixlen
        requiredHosts := requirement.requiredUsableHosts
        growthPercent := requirement.growthPercent
        reservedHosts := requirement.reservedHosts }
  | _, _ => .error .indexError

/-- The local variables of the loops of `_allocate_site`. -/
structure SegmentState where
  available : List IPv4Network
  allocations : List SubnetAllocation := []
  automatic : List SubnetRequirement := []
  explicitNetworks : List IPv4Network := []

/-- The declared subnet of a segment with the text of its gateway, or why it is rejected. -/
def explicitSegment (site : SitePlan) (block : IPv4Network) (segment : NetworkSegment)
    (subnetText : String) (requirement : SubnetRequirement)
    (explicitNetworks : List IPv4Network) : Except PlanError (IPv4Network × String) :=
  let unfit : PlanError :=
    { code := .segmentAddressSpaceTooSmall
      message := s!"El segmento explícito {quoted segment.name} no cabe en " ++
        s!"{IPv4Network.text block} o no satisface su demanda."
      device := site.name }
  match ipNetwork subnetText, ipAddress (segment.gateway.getD "") with
  | some (.v4 subnet), some gateway =>
    if ¬subnet ≤ block ∨ isHost subnet gateway = false ∨
        usableHosts subnet.prefixlen < requirement.requiredUsableHosts then .error unfit
    else if explicitNetworks.any fun item => Block.Overlaps subnet item then
      .error
        { code := .subnetOverlap
          message := s!"El segmento explícito {quoted segment.name} se solapa."
          device := site.name }
    else .ok (subnet, hostText gateway)
  | some (.v6 _), some _ => .error unfit
  | _, _ =>
    .error
      { code := .enterpriseAddressSpaceInvalid
        message := s!"El segmento {quoted segment.name} no declara subnet/gateway IPv4 válidos."
        device := site.name }

/-- The first loop body of `_allocate_site`: place a declared subnet, put the others off. -/
def placeExplicit (site : SitePlan) (block : IPv4Network) (state : SegmentState)
    (requirement : SubnetRequirement) : Except PlanFailure SegmentState :=
  match (Dict.ofList (site.segments.map fun item => (item.name, item))).get?
    requirement.segmentId with
  | none => .error (.raised .keyError)
  | some segment =>
    let subnetText := segment.subnet.getD ""
    if subnetText = "" then .ok { state with automatic := state.automatic ++ [requirement] }
    else
      match explicitSegment site block segment subnetText requirement state.explicitNetworks with
      | .error error => .error (.reported error)
      | .ok (subnet, gateway) =>
        match allocation subnet requirement (some gateway) with
        | .error exception => .error (.raised exception)
        | .ok allocated =>
          .ok
            { state with
              available := exclude state.available subnet
              allocations := state.allocations ++ [allocated]
              explicitNetworks := state.explicitNetworks ++ [subnet] }

/-- The second loop body of `_allocate_site`: carve the subnets that were put off. -/
def carveAutomatic (site : SitePlan) (state : SegmentState) (requirement : SubnetRequirement) :
    Except PlanFailure SegmentState :=
  match takeSubnet state.available requirement.prefixLength with
  | (none, _) =>
    .error (.reported
      { code := .segmentAddressSpaceTooSmall
        message := s!"El bloque de {quoted site.name} no alcanza para " ++
          s!"{quoted requirement.segmentId}."
        device := site.name })
  | (some subnet, available) =>
    match allocation subnet requirement none with
    | .error exception => .error (.raised exception)
    | .ok allocated =>
      .ok { state with available := available, allocations := state.allocations ++ [allocated] }

/-- The loop over the declared subnets of a site. -/
def explicitMachine (site : SitePlan) (block : IPv4Network) :
    Machine SegmentState SubnetRequirement PlanFailure where
  step := placeExplicit site block

/-- The loop over the subnets of a site that were put off. -/
def automaticMachine (site : SitePlan) : Machine SegmentState SubnetRequirement PlanFailure where
  step := carveAutomatic site

/-- `_allocate_site`. -/
def allocateSite (site : SitePlan) (block : IPv4Network) (requirements : List SubnetRequirement) :
    Except PlanFailure (List SubnetAllocation) :=
  match (explicitMachine site block).run { available := [block] } requirements with
  | .error failure => .error failure
  | .ok state =>
    match (automaticMachine site).run state state.automatic with
    | .error failure => .error failure
    | .ok state => .ok state.allocations

/-! ## The plan -/

/-- The local variables of the last loop of `plan`. -/
structure PlanState where
  allocations : List SubnetAllocation := []
  blocks : List SiteAddressBlock := []
  errors : List PlanError := []

/-- The last loop body of `plan`: list the block of a site and carve its segments. -/
def planSite (requirements : Dict String (List SubnetRequirement))
    (siteBlocks : Dict String IPv4Network) (state : PlanState) (site : SitePlan) :
    Except PyException PlanState :=
  match siteBlocks.get? site.siteId with
  | none => .ok state
  | some block =>
    let listed : PlanState :=
      { state with
        blocks := state.blocks ++
          [{ siteId := site.siteId
             network := text (IPv4Network.networkAddress block)
             prefixLength := block.prefixlen
             explicit := site.addressBlock.isSome }] }
    match allocateSite site block (requirementsFor requirements site.siteId) with
    | .error (.raised exception) => .error exception
    | .error (.reported error) => .ok { listed with errors := listed.errors ++ [error] }
    | .ok allocations => .ok { listed with allocations := listed.allocations ++ allocations }

/-- The last loop of `plan`. -/
def planMachine (requirements : Dict String (List SubnetRequirement))
    (siteBlocks : Dict String IPv4Network) : Machine PlanState SitePlan PyException where
  step := planSite requirements siteBlocks

/-- The result that reports one error. -/
def failure (error : PlanError) : IPAMPlanResult := { errors := [error] }

/-- `plan` from the point where the blocks of the sites are fixed. -/
def planFromBlocks (enterprise : IPv4Network)
    (requirements : Dict String (List SubnetRequirement)) (enterprisePlan : EnterprisePlan)
    (state : SiteState) : Except PyException IPAMPlanResult :=
  match transitMachine.run { available := state.available } (wanPairs enterprisePlan) with
  | .error (.raised exception) => .error exception
  | .error (.reported error) => .ok (failure error)
  | .ok transits =>
    match (planMachine requirements state.siteBlocks).run {}
      (sortedBy SitePlan.siteId enterprisePlan.sites) with
    | .error exception => .error exception
    | .ok planned =>
      if planned.errors ≠ [] then .ok { errors := planned.errors }
      else
        .ok
          { plan := some
              { addressSpace := IPv4Network.text enterprise
                siteBlocks := planned.blocks
                allocations := planned.allocations
                transitAllocations := transits.allocations } }

/-- `plan`. -/
def plan (minimumLanPrefix : ℤ) (enterprisePlan : EnterprisePlan) :
    Except PyException IPAMPlanResult :=
  match enterprisePlan.addressSpace with
  | none => .ok {}
  | some addressSpace =>
    match ipNetwork addressSpace with
    | none => .ok (failure
        { code := .enterpriseAddressSpaceInvalid
          message := "El espacio Enterprise debe ser una red IPv4 CIDR válida." })
    | some (.v6 _) => .ok (failure
        { code := .enterpriseAddressSpaceInvalid
          message := "E2 sólo admite direccionamiento IPv4." })
    | some (.v4 enterprise) =>
      match allRequirements minimumLanPrefix enterprisePlan.sites with
      | .error exception => .error exception
      | .ok entries =>
        let requirements := Dict.ofList entries
        match explicitSiteBlocks enterprisePlan.sites enterprise requirements with
        | (explicit, errors) =>
          if errors ≠ [] then .ok { errors := errors }
          else
            match assignSiteBlocks enterprise requirements explicit enterprisePlan.sites with
            | .error error => .ok (failure error)
            | .ok state => planFromBlocks enterprise requirements enterprisePlan state

end IPAMPlanner

end PacketTracer
