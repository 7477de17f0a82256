import PacketTracer.Domain.IpamPlanner

/-!
# When the planned subnets are disjoint

Everything the planner takes from a free list is disjoint from what was taken before: the blocks of
the sites are carved from the enterprise network, the subnets of the segments from the block of
their site, and an automatic transit from what the blocks leave.  A declared transit is only
compared with the other transits.  `wellSeparated_iff` says that this, and two sites with one id,
are the only ways in which the subnets of a returned plan overlap.

The requirements of a site are carved largest first, so a subnet is refused only when nothing is
free: its footprint would not have fitted.
-/

namespace PacketTracer

open Dicts Ipaddress Machines PrefixBlocks PyText

/-! ## The networks that results denote -/

/-- The network of a site block. -/
def SiteAddressBlock.subnet? (block : SiteAddressBlock) : Option IPv4Network :=
  networkOf? block.network block.prefixLength

/-- The network of a segment allocation. -/
def SubnetAllocation.subnet? (allocation : SubnetAllocation) : Option IPv4Network :=
  networkOf? allocation.network allocation.prefixLength

/-- The network of a transit. -/
def WanTransitAllocation.subnet? (allocation : WanTransitAllocation) : Option IPv4Network :=
  networkOf? allocation.network allocation.prefixLength

/-- Both are networks, and they share no address. -/
def Apart (a b : Option IPv4Network) : Prop :=
  ∃ m n, a = some m ∧ b = some n ∧ ¬Block.Overlaps m n

lemma pairwise_apart_iff {networks : List IPv4Network} :
    (networks.map some).Pairwise Apart ↔ networks.Pairwise fun a b => ¬Block.Overlaps a b := by
  rw [List.pairwise_map]
  simp [Apart]

namespace IPAMPlanner

/-! ## Free lists -/

lemma perm_exclude (available : List IPv4Network) (reserved : IPv4Network) :
    (exclude available reserved).Perm (remove available reserved) :=
  perm_sortedBy _ _

lemma firstSubnet_le (network : IPv4Network) (prefixLength : ℕ) :
    firstSubnet network prefixLength ≤ network := by
  unfold firstSubnet
  split_ifs
  · exact network.leading_le _ _ _
  · exact le_rfl

variable {available : List IPv4Network} {subnet enterprise : IPv4Network}
  {blocks : Dict String IPv4Network} {block : IPv4Network} {site : SitePlan}
  {requirements : Dict String (List SubnetRequirement)} {sites : List SitePlan}
  {minimumLanPrefix : ℤ} {available' : List IPv4Network} {prefixLength : ℤ} {root : IPv4Network}
  {carved networks : List IPv4Network} {explicit : Dict String IPv4Network} {state : SiteState}
  {pair : WanDeclaration} {siteBlocks : Dict String IPv4Network} {requirement : SubnetRequirement}

lemma takeSubnet_eq_some (h : takeSubnet available prefixLength = (some subnet, available')) :
    ∃ candidate ∈ available, subnet ≤ candidate ∧ (candidate.prefixlen : ℤ) ≤ prefixLength ∧
      subnet = firstSubnet candidate prefixLength.toNat ∧ available' = exclude available subnet := by
  unfold takeSubnet at h
  split at h
  · cases h
  rename_i candidate hfind
  obtain ⟨rfl, rfl⟩ : firstSubnet candidate prefixLength.toNat = subnet ∧
      exclude available (firstSubnet candidate prefixLength.toNat) = available' := by
    simpa using h
  exact ⟨candidate, List.mem_of_find?_eq_some hfind, firstSubnet_le _ _,
    by simpa using List.find?_some hfind, rfl, rfl⟩

lemma carving_of_takeSubnet (hcarving : Carving root carved available)
    (h : takeSubnet available prefixLength = (some subnet, available')) :
    (∀ b ∈ carved, ¬Block.Overlaps subnet b) ∧ Carving root (carved ++ [subnet]) available' := by
  obtain ⟨candidate, hcandidate, hle, -, -, rfl⟩ := takeSubnet_eq_some h
  exact ⟨fun b hb => hcarving.free.not_overlaps hcandidate hle hb,
    hcarving.carve_of_le hcandidate hle (perm_exclude _ _)⟩

/-! ## Blocks of the sites -/

/-- The blocks of the sites lie in the enterprise network, and blocks of different ids are
disjoint. -/
structure DisjointBlocks (enterprise : IPv4Network) (blocks : Dict String IPv4Network) :
    Prop where
  le_root : ∀ id block, blocks.get? id = some block → block ≤ enterprise
  disjoint : ∀ id block id' block', blocks.get? id = some block → blocks.get? id' = some block' →
    id ≠ id' → ¬Block.Overlaps block block'

lemma DisjointBlocks.set (h : DisjointBlocks enterprise blocks) (hroot : block ≤ enterprise)
    (havoid : ∀ id other, blocks.get? id = some other → ¬Block.Overlaps block other)
    (id : String) : DisjointBlocks enterprise (blocks.set id block) where
  le_root := by
    intro id' other hother
    rw [Dict.get?_set] at hother
    split_ifs at hother with heq
    · exact Option.some.inj hother ▸ hroot
    · exact h.le_root id' other hother
  disjoint := by
    intro id₁ b₁ id₂ b₂ h₁ h₂ hne
    rw [Dict.get?_set] at h₁ h₂
    split_ifs at h₁ h₂ with heq₁ heq₂ heq₂
    · exact absurd (heq₁.symm.trans heq₂) hne
    · exact Option.some.inj h₁ ▸ havoid id₂ b₂ h₂
    · exact fun hover => havoid id₁ b₁ h₁ (Option.some.inj h₂ ▸ hover.symm)
    · exact h.disjoint id₁ b₁ id₂ b₂ h₁ h₂ hne

/-- An accepted declared block lies in the enterprise network and avoids the earlier ones. -/
lemma explicitSiteBlock_eq_ok {requirements : List SubnetRequirement} {addressBlock : String}
    (h : explicitSiteBlock enterprise requirements blocks site addressBlock = .ok block) :
    block ≤ enterprise ∧
      ∀ id other, blocks.get? id = some other → ¬Block.Overlaps block other := by
  simp only [explicitSiteBlock] at h
  rcases hnetwork : ipNetwork addressBlock with _ | network
  · rw [hnetwork] at h
    cases h
  rw [hnetwork] at h
  cases network with
  | v6 network => cases h
  | v4 network =>
    dsimp only at h
    cases hfind : blocks.entries.find? fun other => decide (Block.Overlaps network other.2) with
    | some other =>
      rw [hfind] at h
      split_ifs at h
    | none =>
      rw [hfind] at h
      split_ifs at h with houtside hsmall
      obtain rfl : network = block := by simpa using h
      refine ⟨houtside, fun id other hother hover => ?_⟩
      have := List.find?_eq_none.mp hfind _ (Dict.get?_eq_some_iff_mem.mp hother)
      exact this (by simpa using hover)

/-- Without errors the declared blocks are disjoint, and every site that declares one has it. -/
lemma explicitSiteBlocksFrom_spec {blocks' : Dict String IPv4Network} {errors : List PlanError}
    (h : explicitSiteBlocksFrom enterprise requirements sites blocks errors = (blocks', []))
    (hblocks : DisjointBlocks enterprise blocks) :
    errors = [] ∧ DisjointBlocks enterprise blocks' ∧
      ∀ id, blocks'.contains id = true ↔
        blocks.contains id = true ∨ ∃ site ∈ sites, site.siteId = id ∧ site.addressBlock.isSome := by
  induction sites generalizing blocks errors with
  | nil =>
    obtain ⟨rfl, rfl⟩ : blocks = blocks' ∧ errors = [] := by
      simpa [explicitSiteBlocksFrom] using h
    exact ⟨rfl, hblocks, by simp⟩
  | cons site sites ih =>
    rcases haddress : site.addressBlock with _ | addressBlock
    · simp only [explicitSiteBlocksFrom, haddress] at h
      obtain ⟨herrors, hdisjoint, hcontains⟩ := ih h hblocks
      refine ⟨herrors, hdisjoint, fun id => ?_⟩
      simp [hcontains id, haddress]
    simp only [explicitSiteBlocksFrom, haddress] at h
    rcases hblock : explicitSiteBlock enterprise (requirementsFor requirements site.siteId) blocks
        site addressBlock with error | block
    · rw [hblock] at h
      have := (ih h hblocks).1
      simp at this
    rw [hblock] at h
    obtain ⟨hroot, havoid⟩ := explicitSiteBlock_eq_ok hblock
    obtain ⟨herrors, hdisjoint, hcontains⟩ := ih h (hblocks.set hroot havoid site.siteId)
    refine ⟨herrors, hdisjoint, fun id => ?_⟩
    rw [hcontains id]
    by_cases hid : site.siteId = id
    · simp [Dict.contains, hid, haddress]
    · simp [Dict.contains, hid]

lemma carving_foldl_exclude (hcarving : Carving root carved available)
    (hroot : ∀ b ∈ networks, b ≤ root)
    (hpairwise : (carved ++ networks).Pairwise fun a b => ¬Block.Overlaps a b) :
    Carving root (carved ++ networks) (networks.foldl exclude available) := by
  induction networks generalizing carved available with
  | nil => simpa using hcarving
  | cons network networks ih =>
    have havoid : ∀ b ∈ carved, ¬Block.Overlaps network b := fun b hb hover =>
      (List.pairwise_append.mp hpairwise).2.2 b hb network List.mem_cons_self hover.symm
    have hstep := hcarving.carve (hroot network List.mem_cons_self) havoid
      (perm_exclude available network)
    have hsplit : carved ++ network :: networks = (carved ++ [network]) ++ networks := by simp
    rw [hsplit] at hpairwise ⊢
    exact ih hstep (fun b hb => hroot b (List.mem_cons_of_mem _ hb)) hpairwise

lemma DisjointBlocks.pairwise_values (h : DisjointBlocks enterprise blocks) :
    blocks.values.Pairwise fun a b => ¬Block.Overlaps a b := by
  have hkeys : blocks.entries.Pairwise fun e e' => e.1 ≠ e'.1 :=
    List.pairwise_map.mp blocks.keysNodup
  rw [Dict.values, List.pairwise_map]
  refine hkeys.imp_of_mem fun {e e'} he he' hne => ?_
  exact h.disjoint e.1 e.2 e'.1 e'.2 (Dict.get?_eq_some_iff_mem.mpr he)
    (Dict.get?_eq_some_iff_mem.mpr he') hne

/-- What the loop over the automatic sites keeps: the available blocks are what the blocks of the
sites leave of the enterprise network. -/
structure SiteInvariant (enterprise : IPv4Network) (state : SiteState) : Prop where
  blocks : DisjointBlocks enterprise state.siteBlocks
  carving : ∃ carved, Carving enterprise carved state.available ∧
    ∀ id block, state.siteBlocks.get? id = some block → block ∈ carved

lemma siteInvariant_explicit (h : DisjointBlocks enterprise explicit) :
    SiteInvariant enterprise
      { available := explicit.values.foldl exclude [enterprise], siteBlocks := explicit } where
  blocks := h
  carving := by
    have hroot : ∀ b ∈ explicit.values, b ≤ enterprise := by
      intro b hb
      obtain ⟨id, hid⟩ := Dict.mem_values_iff.mp hb
      exact h.le_root id b hid
    refine ⟨[] ++ explicit.values, carving_foldl_exclude (Carving.init enterprise) hroot
      (by simpa using h.pairwise_values), fun id block hblock => ?_⟩
    simpa using Dict.mem_values_iff.mpr ⟨id, hblock⟩

/-- **Step lemma.**  Taking a block for one more site keeps the invariant. -/
lemma SiteInvariant.takeSiteBlock {state' : SiteState} (hinv : SiteInvariant enterprise state)
    (h : IPAMPlanner.takeSiteBlock requirements state site = .ok state') :
    SiteInvariant enterprise state' ∧
      ∀ id, state'.siteBlocks.contains id = true ↔
        state.siteBlocks.contains id = true ∨ site.siteId = id := by
  unfold IPAMPlanner.takeSiteBlock at h
  split at h
  · cases h
  rename_i block available htake
  cases h
  obtain ⟨carved, hcarving, hcarved⟩ := hinv.carving
  obtain ⟨havoid, hcarving'⟩ := carving_of_takeSubnet hcarving htake
  refine ⟨⟨hinv.blocks.set (hcarving'.le_root block (by simp))
    (fun id other hother => havoid other (hcarved id other hother)) site.siteId,
    carved ++ [block], hcarving', fun id other hother => ?_⟩, fun id => ?_⟩
  · rw [Dict.get?_set] at hother
    split_ifs at hother with heq
    · simp [Option.some.inj hother]
    · exact List.mem_append_left _ (hcarved id other hother)
  · by_cases hid : site.siteId = id <;> simp [Dict.contains, hid]

/-- The sites whose id has a block once all blocks are fixed: some site with that id declares one,
or its requirements are not empty. -/
def receivesBlock (requirements : Dict String (List SubnetRequirement)) (sites : List SitePlan)
    (site : SitePlan) : Bool :=
  (sites.any fun other => other.siteId = site.siteId && other.addressBlock.isSome) ||
    requirementsFor requirements site.siteId ≠ []

/-- **Run lemma.**  The blocks of the sites when the loop over the transits starts. -/
lemma siteInvariant_of_assignSiteBlocks
    (hexplicit : explicitSiteBlocks sites enterprise requirements = (explicit, []))
    (h : assignSiteBlocks enterprise requirements explicit sites = .ok state) :
    SiteInvariant enterprise state ∧
      ∀ site ∈ sites, state.siteBlocks.contains site.siteId = receivesBlock requirements sites
        site := by
  obtain ⟨-, hblocks, hdeclared⟩ := explicitSiteBlocksFrom_spec hexplicit
    ⟨by simp, by simp⟩
  have hrun := (siteMachine requirements).induction_of_run
    (P := fun done state => SiteInvariant enterprise state ∧
      ∀ id, state.siteBlocks.contains id = true ↔
        explicit.contains id = true ∨ ∃ site ∈ done, site.siteId = id)
    h ⟨siteInvariant_explicit hblocks, by simp⟩ ?_
  · obtain ⟨hinv, hcontains⟩ := hrun
    refine ⟨hinv, fun site hsite => ?_⟩
    rw [Bool.eq_iff_iff, hcontains, receivesBlock, Bool.or_eq_true_iff]
    have hexp : explicit.contains site.siteId = true ↔
        (sites.any fun other => other.siteId = site.siteId && other.addressBlock.isSome) =
          true := by
      rw [hdeclared]
      simp [Dict.contains, mem_sortedBy]
    rw [hexp]
    constructor
    · rintro (hdecl | ⟨other, hother, hid⟩)
      · exact Or.inl hdecl
      · obtain ⟨-, hneeds⟩ := List.mem_filter.mp (mem_sortedBy.mp hother)
        rw [hid] at hneeds
        exact Or.inr (Bool.and_eq_true_iff.mp hneeds).2
    · rintro (hdecl | hneeds)
      · exact Or.inl hdecl
      · by_cases hdecl : explicit.contains site.siteId = true
        · exact Or.inl (hexp.mp hdecl)
        · refine Or.inr ⟨site, mem_sortedBy.mpr (List.mem_filter.mpr ⟨hsite, ?_⟩), rfl⟩
          simp [hdecl, hneeds]
  · rintro done site - u v ⟨hinv, hcontains⟩ hstep
    obtain ⟨hinv', hcontains'⟩ := hinv.takeSiteBlock hstep
    refine ⟨hinv', fun id => ?_⟩
    rw [hcontains' id, hcontains id, or_assoc]
    simp [or_and_right, exists_or]

/-! ## Transits -/

/-- The pair declares this network as its transit. -/
def DeclaresTransit (pair : WanDeclaration) (transit : IPv4Network) : Prop :=
  pair.network ≠ "" ∧ ipNetwork pair.network = some (.v4 transit)

/-- What the loop over the transits keeps, after the pairs in `done`.  The available blocks avoid
the blocks of the sites, and those large enough for a transit avoid the used transits; a used
transit is a declared one or avoids the blocks of the sites. -/
structure TransitInvariant (siteBlocks : Dict String IPv4Network) (done : List WanDeclaration)
    (state : TransitState) : Prop where
  avoids_blocks : ∀ c ∈ state.available, ∀ id block, siteBlocks.get? id = some block →
    ¬Block.Overlaps c block
  avoids_used : ∀ c ∈ state.available, c.prefixlen ≤ 30 → ∀ transit ∈ state.usedTransits,
    ¬Block.Overlaps c transit
  pairwise : state.usedTransits.Pairwise fun a b => ¬Block.Overlaps a b
  declared_or_avoids : ∀ transit ∈ state.usedTransits,
    (∃ pair ∈ done, DeclaresTransit pair transit) ∨
      ∀ id block, siteBlocks.get? id = some block → ¬Block.Overlaps transit block
  declared_used : ∀ pair ∈ done, ∀ transit, DeclaresTransit pair transit →
    transit ∈ state.usedTransits
  denotes : state.allocations.map WanTransitAllocation.subnet? = state.usedTransits.map some

/-- An accepted declared transit is the declared network, a `/30` that avoids the others. -/
lemma explicitTransit_eq_ok {used : List IPv4Network} {sourceIpv4 targetIpv4 : String}
    (h : explicitTransit pair used = .ok (subnet, sourceIpv4, targetIpv4)) :
    ipNetwork pair.network = some (.v4 subnet) ∧ subnet.prefixlen = 30 ∧
      ∀ transit ∈ used, ¬Block.Overlaps subnet transit := by
  simp only [explicitTransit] at h
  split at h
  · next found source target hnetwork hsource htarget =>
    split_ifs at h with hbad hover
    obtain ⟨rfl, -⟩ : found = subnet ∧ _ := by simpa using h
    have hlength : found.prefixlen = 30 := by
      by_contra hne
      exact hbad (Or.inl hne)
    refine ⟨hnetwork, hlength, fun transit htransit hoverlap => hover ?_⟩
    exact List.any_eq_true.mpr ⟨transit, htransit, by simpa using hoverlap⟩
  · cases h
  · cases h

/-- One more transit, when what is left of the available blocks avoids it. -/
lemma TransitInvariant.concat {done : List WanDeclaration} {state : TransitState}
    (hinv : TransitInvariant siteBlocks done state) {transit : IPv4Network}
    {sourceIpv4 targetIpv4 : String} (hlength : transit.prefixlen = 30)
    (havoid : ∀ used ∈ state.usedTransits, ¬Block.Overlaps transit used)
    (hblocks : DeclaresTransit pair transit ∨
      ∀ id block, siteBlocks.get? id = some block → ¬Block.Overlaps transit block)
    (hused : ∀ other, DeclaresTransit pair other → other = transit) :
    TransitInvariant siteBlocks (done ++ [pair])
      { available := exclude state.available transit
        usedTransits := state.usedTransits ++ [transit]
        allocations :=
          state.allocations ++ [transitAllocation pair transit sourceIpv4 targetIpv4] } := by
  have hleft : ∀ c ∈ exclude state.available transit, ∃ candidate ∈ state.available,
      c ≤ candidate ∧ (¬Block.Overlaps c transit ∨ c < transit) :=
    fun c hc => mem_remove ((perm_exclude _ _).mem_iff.mp hc)
  refine ⟨?_, ?_, ?_, ?_, ?_, ?_⟩
  · intro c hc id block hblock hover
    obtain ⟨candidate, hcandidate, hle, -⟩ := hleft c hc
    exact hinv.avoids_blocks candidate hcandidate id block hblock (hover.mono hle le_rfl)
  · intro c hc hlen used hmem hover
    obtain ⟨candidate, hcandidate, hle, hnew⟩ := hleft c hc
    rcases List.mem_concat_iff.mp hmem with hmem | rfl
    · exact hinv.avoids_used candidate hcandidate ((Block.prefixlen_le_of_le hle).trans hlen) used
        hmem (hover.mono hle le_rfl)
    rcases hnew with hnew | hlt
    · exact hnew hover
    · -- A block properly inside a `/30` is too small for a transit.
      have hlen' := Block.prefixlen_le_of_le hlt.le
      exact hlt.ne (Block.eq_of_mem_of_prefixlen_eq c.first_mem
        (Block.mem_of_le hlt.le c.first_mem) (by omega))
  · rw [List.pairwise_append]
    refine ⟨hinv.pairwise, List.pairwise_singleton _ _, fun a ha b hb hover => ?_⟩
    exact havoid a ha (List.mem_singleton.mp hb ▸ hover.symm)
  · intro used hmem
    rcases List.mem_concat_iff.mp hmem with hmem | rfl
    · refine (hinv.declared_or_avoids used hmem).imp_left ?_
      rintro ⟨other, hother, hdeclares⟩
      exact ⟨other, List.mem_append_left _ hother, hdeclares⟩
    · exact hblocks.imp_left fun hdeclares => ⟨pair, by simp, hdeclares⟩
  · intro other hother used hdeclares
    rcases List.mem_concat_iff.mp hother with hother | rfl
    · exact List.mem_append_left _ (hinv.declared_used other hother used hdeclares)
    · simp [hused used hdeclares]
  · simp [hinv.denotes, WanTransitAllocation.subnet?, transitAllocation]

/-- **Step lemma.**  One more pair of sites keeps the invariant. -/
lemma TransitInvariant.allocateTransit {done : List WanDeclaration} {state state' : TransitState}
    (hinv : TransitInvariant siteBlocks done state)
    (h : IPAMPlanner.allocateTransit state pair = .ok state') :
    TransitInvariant siteBlocks (done ++ [pair]) state' := by
  unfold IPAMPlanner.allocateTransit at h
  by_cases hdeclared : pair.network ≠ ""
  · rw [if_pos hdeclared] at h
    split at h
    · cases h
    rename_i subnet sourceIpv4 targetIpv4 hexplicit
    cases h
    obtain ⟨hnetwork, hlength, havoid⟩ := explicitTransit_eq_ok hexplicit
    refine hinv.concat hlength havoid (Or.inl ⟨hdeclared, hnetwork⟩) fun other hother => ?_
    simpa [hnetwork] using hother.2.symm
  · rw [if_neg hdeclared] at h
    split at h
    · cases h
    rename_i subnet available htake
    obtain ⟨candidate, hcandidate, hle, hlen, hsubnet, rfl⟩ := takeSubnet_eq_some htake
    have hlen' : candidate.prefixlen ≤ 30 := by omega
    have hlength : subnet.prefixlen = 30 := by
      rw [hsubnet, firstSubnet, dif_pos ⟨hlen', by decide⟩]
      rfl
    split at h
    · cases h
      exact hinv.concat hlength
        (fun used hused hover => hinv.avoids_used candidate hcandidate hlen' used hused
          (hover.mono hle le_rfl))
        (Or.inr fun id block hblock hover => hinv.avoids_blocks candidate hcandidate id block
          hblock (hover.mono hle le_rfl))
        (fun other hother => absurd hother.1 hdeclared)
    · cases h

/-- **Run lemma.**  The transits of a plan. -/
lemma transitInvariant_of_run
    (hinv : SiteInvariant enterprise state) {pairs : List WanDeclaration} {transits : TransitState}
    (h : transitMachine.run { available := state.available } pairs = .ok transits) :
    TransitInvariant state.siteBlocks pairs transits := by
  refine transitMachine.induction_of_run h ?_ fun done pair _ u v hu hstep =>
    hu.allocateTransit hstep
  obtain ⟨carved, hcarving, hcarved⟩ := hinv.carving
  refine ⟨fun c hc id block hblock => ?_, by simp, by simp, by simp, by simp, rfl⟩
  exact hcarving.free.avoids c hc block (hcarved id block hblock)

/-! ## Subnets of the segments -/

lemma allocation_eq_ok {network : IPv4Network} {gateway : Option String}
    {allocated : SubnetAllocation} (h : allocation network requirement gateway = .ok allocated) :
    allocated.subnet? = some network ∧ allocated.segmentId = requirement.segmentId := by
  unfold allocation at h
  split at h
  · cases h
    exact ⟨networkOf?_networkAddress network, rfl⟩
  · cases h

/-- What the loops of `_allocate_site` keep: the allocated networks are carved from the block of
the site, and the requirements in `done` are allocated or put off. -/
structure SegmentInvariant (block : IPv4Network) (done : List String) (pending : List String)
    (state : SegmentState) (networks : List IPv4Network) : Prop where
  carving : Carving block networks state.available
  denotes : state.allocations.map SubnetAllocation.subnet? = networks.map some
  ids : (state.allocations.map SubnetAllocation.segmentId ++ pending).Perm done

/-- An accepted declared subnet lies in the block and avoids the earlier ones. -/
lemma explicitSegment_eq_ok {segment : NetworkSegment}
    {subnetText gateway : String}
    {explicitNetworks : List IPv4Network}
    (h : explicitSegment site block segment subnetText requirement explicitNetworks =
      .ok (subnet, gateway)) :
    subnet ≤ block ∧ ∀ other ∈ explicitNetworks, ¬Block.Overlaps subnet other := by
  simp only [explicitSegment] at h
  split at h
  · next found address hnetwork haddress =>
    split_ifs at h with hbad hover
    obtain ⟨rfl, -⟩ : found = subnet ∧ _ := by simpa using h
    refine ⟨?_, fun other hother hoverlap => hover ?_⟩
    · by_contra hnot
      exact hbad (Or.inl hnot)
    · exact List.any_eq_true.mpr ⟨other, hother, by simpa using hoverlap⟩
  · cases h
  · cases h

/-- **Step lemma.**  The first loop body: the carved networks are the declared ones. -/
lemma SegmentInvariant.placeExplicit (site : SitePlan) {done : List String}
    {state state' : SegmentState}
    (hinv : SegmentInvariant block done (state.automatic.map SubnetRequirement.segmentId) state
      state.explicitNetworks)
    (h : IPAMPlanner.placeExplicit site block state requirement = .ok state') :
    SegmentInvariant block (done ++ [requirement.segmentId])
      (state'.automatic.map SubnetRequirement.segmentId) state' state'.explicitNetworks := by
  unfold IPAMPlanner.placeExplicit at h
  split at h
  · cases h
  rename_i segment hsegment
  dsimp only at h
  split_ifs at h with hnone
  · cases h
    refine ⟨hinv.carving, hinv.denotes, ?_⟩
    simpa [← List.append_assoc] using hinv.ids.append_right [requirement.segmentId]
  · split at h
    · cases h
    rename_i subnet gateway hexplicit
    split at h
    · cases h
    rename_i allocated hallocated
    cases h
    obtain ⟨hle, havoid⟩ := explicitSegment_eq_ok hexplicit
    obtain ⟨hsubnet, hid⟩ := allocation_eq_ok hallocated
    refine ⟨hinv.carving.carve hle havoid (perm_exclude _ _), ?_, ?_⟩
    · simp [hinv.denotes, hsubnet]
    · have hperm := hinv.ids.append_right [requirement.segmentId]
      refine List.Perm.trans ?_ hperm
      simp only [List.map_append, List.map_cons, List.map_nil, hid, List.append_assoc]
      exact List.Perm.append_left _ List.perm_append_comm

/-- **Step lemma.**  The second loop body carves one more network. -/
lemma SegmentInvariant.carveAutomatic (site : SitePlan) {done pending : List String}
    {state state' : SegmentState}
    (hinv : SegmentInvariant block done (requirement.segmentId :: pending) state networks)
    (h : IPAMPlanner.carveAutomatic site state requirement = .ok state') :
    ∃ subnet, SegmentInvariant block done pending state' (networks ++ [subnet]) := by
  unfold IPAMPlanner.carveAutomatic at h
  split at h
  · cases h
  rename_i subnet available htake
  split at h
  · cases h
  rename_i allocated hallocated
  cases h
  obtain ⟨hsubnet, hid⟩ := allocation_eq_ok hallocated
  obtain ⟨-, hcarving⟩ := carving_of_takeSubnet hinv.carving htake
  refine ⟨subnet, hcarving, by simp [hinv.denotes, hsubnet], ?_⟩
  simpa [hid] using hinv.ids

/-- **Run lemma.**  The second loop carves a network for everything that was put off. -/
lemma SegmentInvariant.run_automatic (site : SitePlan) {done : List String}
    {requirements : List SubnetRequirement} {state state' : SegmentState}
    (hinv : SegmentInvariant block done (requirements.map SubnetRequirement.segmentId) state
      networks)
    (h : (automaticMachine site).run state requirements = .ok state') :
    ∃ networks', SegmentInvariant block done [] state' networks' := by
  induction requirements generalizing state networks with
  | nil =>
    obtain rfl : state = state' := by simpa using h
    exact ⟨networks, hinv⟩
  | cons requirement requirements ih =>
    obtain ⟨middle, hstep, hrun⟩ := (Machine.run_cons_eq_ok _).mp h
    obtain ⟨subnet, hinv'⟩ := hinv.carveAutomatic site hstep
    exact ih hinv' hrun

/-- The subnets of a site are carved from its block, one for each requirement. -/
lemma allocateSite_eq_ok {requirements : List SubnetRequirement}
    {allocations : List SubnetAllocation}
    (h : allocateSite site block requirements = .ok allocations) :
    ∃ networks : List IPv4Network,
      allocations.map SubnetAllocation.subnet? = networks.map some ∧
        (∀ network ∈ networks, network ≤ block) ∧
        (networks.Pairwise fun a b => ¬Block.Overlaps a b) ∧
        (allocations.map SubnetAllocation.segmentId).Perm
          (requirements.map SubnetRequirement.segmentId) := by
  unfold allocateSite at h
  split at h
  · cases h
  rename_i middle hexplicit
  split at h
  · cases h
  rename_i state hautomatic
  cases h
  have hmiddle := (explicitMachine site block).induction_of_run
    (P := fun done state => SegmentInvariant block (done.map SubnetRequirement.segmentId)
      (state.automatic.map SubnetRequirement.segmentId) state state.explicitNetworks)
    hexplicit ⟨Carving.init block, rfl, by simp⟩ ?_
  · obtain ⟨networks, hinv⟩ := hmiddle.run_automatic site hautomatic
    exact ⟨networks, hinv.denotes, hinv.carving.le_root, hinv.carving.pairwise,
      by simpa using hinv.ids⟩
  · intro done requirement _ u v hu hstep
    rw [List.map_append]
    exact hu.placeExplicit site hstep

/-! ## The plan -/

/-- The share of one site in the plan: its block and the allocations of its segments. -/
structure SiteShare where
  site : SitePlan
  block : SiteAddressBlock
  allocations : List SubnetAllocation

/-- The share is what the planner computes for the site. -/
structure Computed (requirements : Dict String (List SubnetRequirement))
    (siteBlocks : Dict String IPv4Network) (share : SiteShare) : Prop where
  siteId_eq : share.block.siteId = share.site.siteId
  stored : ∃ block, siteBlocks.get? share.site.siteId = some block ∧
    share.block.subnet? = some block ∧
    allocateSite share.site block (requirementsFor requirements share.site.siteId) =
      .ok share.allocations

/-- The plan consists of the shares of the sites in `done`, unless an error was reported. -/
def SharesOf (requirements : Dict String (List SubnetRequirement))
    (siteBlocks : Dict String IPv4Network) (done : List SitePlan) (state : PlanState) : Prop :=
  state.errors = [] → ∃ shares : List SiteShare,
    shares.map SiteShare.site = done.filter (fun site => siteBlocks.contains site.siteId) ∧
      state.blocks = shares.map SiteShare.block ∧
      state.allocations = shares.flatMap SiteShare.allocations ∧
      ∀ share ∈ shares, Computed requirements siteBlocks share

/-- **Step lemma.**  One more site adds its share. -/
lemma SharesOf.planSite {done : List SitePlan} {state state' : PlanState}
    (hshares : SharesOf requirements siteBlocks done state)
    (h : IPAMPlanner.planSite requirements siteBlocks state site = .ok state') :
    SharesOf requirements siteBlocks (done ++ [site]) state' := by
  intro herrors
  unfold IPAMPlanner.planSite at h
  rcases hblock : siteBlocks.get? site.siteId with _ | block
  · rw [hblock] at h
    cases h
    obtain ⟨shares, hsites, hrest⟩ := hshares herrors
    exact ⟨shares, by simp [hsites, Dict.contains, hblock], hrest⟩
  rw [hblock] at h
  cases hallocate : allocateSite site block (requirementsFor requirements site.siteId) with
  | error failure =>
    simp only [hallocate] at h
    cases failure with
    | raised exception => cases h
    | reported error =>
      cases h
      simp at herrors
  | ok allocations =>
    simp only [hallocate] at h
    cases h
    obtain ⟨shares, hsites, hblocks, hallocations, hcomputed⟩ := hshares herrors
    refine ⟨shares ++ [⟨site, _, allocations⟩], ?_, by rw [hblocks, List.map_append]; rfl,
      by simp [hallocations], fun share hshare => ?_⟩
    · simp [hsites, Dict.contains, hblock]
    · rcases List.mem_concat_iff.mp hshare with hshare | rfl
      · exact hcomputed share hshare
      · exact ⟨rfl, block, hblock, networkOf?_networkAddress block, hallocate⟩

/-- The requirements and the blocks of the sites when the loop over the transits starts, if the
planner gets there. -/
def beforeTransits (minimumLanPrefix : ℤ) (enterprisePlan : EnterprisePlan) :
    Option (Dict String (List SubnetRequirement) × SiteState) :=
  match enterprisePlan.addressSpace.bind ipNetwork,
    allRequirements minimumLanPrefix enterprisePlan.sites with
  | some (.v4 enterprise), .ok entries =>
    let requirements := Dict.ofList entries
    match explicitSiteBlocks enterprisePlan.sites enterprise requirements with
    | (explicit, []) =>
      match assignSiteBlocks enterprise requirements explicit enterprisePlan.sites with
      | .ok state => some (requirements, state)
      | .error _ => none
    | _ => none
  | _, _ => none

/-- The sites that get a block have pairwise distinct ids. -/
def DistinctReceivers (minimumLanPrefix : ℤ) (enterprisePlan : EnterprisePlan) : Prop :=
  ∀ entries, allRequirements minimumLanPrefix enterprisePlan.sites = .ok entries →
    ((enterprisePlan.sites.filter (receivesBlock (Dict.ofList entries)
      enterprisePlan.sites)).map SitePlan.siteId).Nodup

/-- No declared transit overlaps a subnet that a site carves from the block it has when the loop
over the transits starts. -/
def TransitsAvoidSegments (minimumLanPrefix : ℤ) (enterprisePlan : EnterprisePlan) : Prop :=
  ∀ requirements state, beforeTransits minimumLanPrefix enterprisePlan =
      some (requirements, state) →
    ∀ pair ∈ wanPairs enterprisePlan, ∀ transit, DeclaresTransit pair transit →
      ∀ site ∈ enterprisePlan.sites, ∀ block, state.siteBlocks.get? site.siteId = some block →
        ∀ allocations, allocateSite site block (requirementsFor requirements site.siteId) =
            .ok allocations →
          ∀ allocated ∈ allocations, ∀ subnet, allocated.subnet? = some subnet →
            ¬Block.Overlaps transit subnet

/-- **The networks of a plan are well separated**: the subnets of the segments and the transits
are pairwise disjoint, the blocks of the sites are pairwise disjoint, and the plan is made of the
shares of sites, each with one allocation for each of its segments, inside its block. -/
structure WellSeparated (enterprisePlan : EnterprisePlan) (plan : AddressingPlan) : Prop where
  subnets : (plan.allocations.map SubnetAllocation.subnet? ++
    plan.transitAllocations.map WanTransitAllocation.subnet?).Pairwise Apart
  blocks : (plan.siteBlocks.map SiteAddressBlock.subnet?).Pairwise Apart
  inside : ∃ shares : List SiteShare, plan.siteBlocks = shares.map SiteShare.block ∧
    plan.allocations = shares.flatMap SiteShare.allocations ∧
    ∀ share ∈ shares, share.site ∈ enterprisePlan.sites ∧
      share.block.siteId = share.site.siteId ∧
      (share.allocations.map SubnetAllocation.segmentId).Perm
        (share.site.segments.map NetworkSegment.name) ∧
      ∃ block, share.block.subnet? = some block ∧ ∀ allocated ∈ share.allocations,
        ∃ subnet, allocated.subnet? = some subnet ∧ subnet ≤ block

/-- How the planner came to a plan: the state when the loop over the transits starts, the transits
that the loop used, and the shares of the sites that have a block. -/
structure PlanRun (minimumLanPrefix : ℤ) (enterprisePlan : EnterprisePlan)
    (addressing : AddressingPlan) where
  enterprise : IPv4Network
  entries : List (String × List SubnetRequirement)
  explicit : Dict String IPv4Network
  state : SiteState
  transits : TransitState
  shares : List SiteShare
  requirements_eq : allRequirements minimumLanPrefix enterprisePlan.sites = .ok entries
  explicit_eq : explicitSiteBlocks enterprisePlan.sites enterprise (Dict.ofList entries) =
    (explicit, [])
  assign_eq : assignSiteBlocks enterprise (Dict.ofList entries) explicit enterprisePlan.sites =
    .ok state
  before_eq : beforeTransits minimumLanPrefix enterprisePlan = some (Dict.ofList entries, state)
  transitInvariant : TransitInvariant state.siteBlocks (wanPairs enterprisePlan) transits
  transits_eq : addressing.transitAllocations = transits.allocations
  sites_perm : (shares.map SiteShare.site).Perm
    (enterprisePlan.sites.filter fun site => state.siteBlocks.contains site.siteId)
  blocks_eq : addressing.siteBlocks = shares.map SiteShare.block
  allocations_eq : addressing.allocations = shares.flatMap SiteShare.allocations
  computed : ∀ share ∈ shares, Computed (Dict.ofList entries) state.siteBlocks share

/-- Every returned plan comes from such a run. -/
lemma nonempty_planRun {enterprisePlan : EnterprisePlan} {result : IPAMPlanResult}
    {addressing : AddressingPlan} (h : plan minimumLanPrefix enterprisePlan = .ok result)
    (hplan : result.plan = some addressing) :
    Nonempty (PlanRun minimumLanPrefix enterprisePlan addressing) := by
  unfold plan at h
  rcases hspace : enterprisePlan.addressSpace with _ | addressSpace
  · rw [hspace] at h
    cases h
    cases hplan
  rw [hspace] at h
  dsimp only at h
  rcases hnetwork : ipNetwork addressSpace with _ | network
  · rw [hnetwork] at h
    cases h
    cases hplan
  rw [hnetwork] at h
  cases network with
  | v6 network =>
    cases h
    cases hplan
  | v4 enterprise =>
    rcases hrequirements : allRequirements minimumLanPrefix enterprisePlan.sites
        with exception | entries
    · simp only [hrequirements] at h
      cases h
    cases hexplicit : explicitSiteBlocks enterprisePlan.sites enterprise
        (Dict.ofList entries) with
    | mk explicit errors =>
      simp only [hrequirements, hexplicit] at h
      split_ifs at h with herrors
      · cases h
        cases hplan
      obtain rfl := not_not.mp herrors
      rcases hassign : assignSiteBlocks enterprise (Dict.ofList entries) explicit
          enterprisePlan.sites with error | state
      · simp only [hassign] at h
        cases h
        cases hplan
      simp only [hassign] at h
      have hbefore : beforeTransits minimumLanPrefix enterprisePlan =
          some (Dict.ofList entries, state) := by
        simp [beforeTransits, hspace, hnetwork, hrequirements, hexplicit, hassign]
      have hinv := (siteInvariant_of_assignSiteBlocks hexplicit hassign).1
      unfold planFromBlocks at h
      split at h
      · cases h
      · cases h
        cases hplan
      rename_i transits htransits
      split at h
      · cases h
      rename_i planned hplanned
      split_ifs at h with hreported
      · cases h
        cases hplan
      cases h
      cases hplan
      have hshares := (planMachine (Dict.ofList entries)
        state.siteBlocks).induction_of_run
        (P := SharesOf (Dict.ofList entries) state.siteBlocks) hplanned
        (fun _ => ⟨[], by simp⟩)
        fun done site _ u v hu hstep => hu.planSite hstep
      obtain ⟨shares, hsites, hblocks, hallocations, hcomputed⟩ :=
        hshares (not_not.mp hreported)
      exact ⟨{
        enterprise := enterprise
        entries := entries
        explicit := explicit
        state := state
        transits := transits
        shares := shares
        requirements_eq := hrequirements
        explicit_eq := hexplicit
        assign_eq := hassign
        before_eq := hbefore
        transitInvariant := transitInvariant_of_run hinv htransits
        transits_eq := rfl
        sites_perm := hsites ▸ (perm_sortedBy _ _).filter _
        blocks_eq := hblocks
        allocations_eq := hallocations
        computed := hcomputed }⟩

/-- The requirements of a site are one for each of its segments, and the search starts at the
shortest prefix of a LAN. -/
lemma perm_and_prefixLength_le_of_siteRequirements {requirements : List SubnetRequirement}
    (h : siteRequirements minimumLanPrefix site = .ok requirements) :
    (requirements.map SubnetRequirement.segmentId).Perm
        (site.segments.map NetworkSegment.name) ∧
      ∀ requirement ∈ requirements, requirement.prefixLength ≤ minimumLanPrefix.toNat := by
  have hsearch : ∀ (required : ℤ) (longest found : ℕ), searchPrefix required longest = .ok found →
      found ≤ longest := by
    intro required longest found hfound
    induction longest with
    | zero =>
      cases hfound
      exact le_rfl
    | succ longest ih =>
      unfold searchPrefix at hfound
      split_ifs at hfound
      · cases hfound
        exact le_rfl
      · exact (ih hfound).trans (Nat.le_succ longest)
  have hsegments : ∀ (segments : List NetworkSegment) (found : List SubnetRequirement),
      requirementsOfSegments minimumLanPrefix site.growthPercent segments = .ok found →
        found.map SubnetRequirement.segmentId = segments.map NetworkSegment.name ∧
          ∀ requirement ∈ found, requirement.prefixLength ≤ minimumLanPrefix.toNat := by
    intro segments
    induction segments with
    | nil =>
      intro found hfound
      cases hfound
      exact ⟨rfl, by simp⟩
    | cons segment segments ih =>
      intro found hfound
      unfold requirementsOfSegments at hfound
      split at hfound
      · cases hfound
      rename_i requirement hrequirement
      split at hfound
      · cases hfound
      rename_i rest hrest
      cases hfound
      have hhead : requirement.segmentId = segment.name ∧
          requirement.prefixLength ≤ minimumLanPrefix.toNat := by
        unfold subnetRequirementFor at hrequirement
        split at hrequirement
        · cases hrequirement
        dsimp only at hrequirement
        split at hrequirement
        · cases hrequirement
        · next hprefix =>
          cases hrequirement
          exact ⟨rfl, hsearch _ _ _ hprefix⟩
      rw [List.map_cons, List.map_cons, hhead.1, (ih rest hrest).1]
      exact ⟨rfl, List.forall_mem_cons.mpr ⟨hhead.2, (ih rest hrest).2⟩⟩
  unfold siteRequirements at h
  split at h
  · cases h
  rename_i found hfound
  cases h
  obtain ⟨hids, hlengths⟩ := hsegments _ _ hfound
  exact ⟨((perm_sortedBy _ _).map _).trans (.of_eq hids),
    fun requirement hrequirement => hlengths requirement (mem_sortedBy.mp hrequirement)⟩

/-- Every entry of the requirements was computed for a site. -/
lemma mem_of_allRequirements {entries : List (String × List SubnetRequirement)}
    (h : allRequirements minimumLanPrefix sites = .ok entries) :
    entries.map Prod.fst = sites.map SitePlan.siteId ∧
      ∀ entry ∈ entries, ∃ site ∈ sites, site.siteId = entry.1 ∧
        siteRequirements minimumLanPrefix site = .ok entry.2 := by
  induction sites generalizing entries with
  | nil =>
    cases h
    simp
  | cons site sites ih =>
    unfold allRequirements at h
    split at h
    · cases h
    rename_i requirements hrequirements
    split at h
    · cases h
    rename_i rest hrest
    cases h
    obtain ⟨hkeys, hentries⟩ := ih hrest
    refine ⟨by simp [hkeys], fun entry hentry => ?_⟩
    rcases List.mem_cons.mp hentry with rfl | hentry
    · exact ⟨site, List.mem_cons_self, rfl, hrequirements⟩
    · obtain ⟨other, hother, hrest⟩ := hentries entry hentry
      exact ⟨other, List.mem_cons_of_mem _ hother, hrest⟩

section Runs

variable {minimumLanPrefix : ℤ} {enterprisePlan : EnterprisePlan} {addressing : AddressingPlan}

lemma PlanRun.disjointBlocks (run : PlanRun minimumLanPrefix enterprisePlan addressing) :
    DisjointBlocks run.enterprise run.state.siteBlocks :=
  (siteInvariant_of_assignSiteBlocks run.explicit_eq run.assign_eq).1.blocks

variable {share : SiteShare}

section Run

variable (run : PlanRun minimumLanPrefix enterprisePlan addressing)
include run

lemma PlanRun.mem_sites (hshare : share ∈ run.shares) :
    share.site ∈ enterprisePlan.sites.filter fun site =>
      run.state.siteBlocks.contains site.siteId :=
  run.sites_perm.mem_iff.mp (List.mem_map_of_mem hshare)

/-- The receivers of blocks have distinct ids exactly when the shares do. -/
lemma PlanRun.distinctReceivers_iff :
    DistinctReceivers minimumLanPrefix enterprisePlan ↔
      run.shares.Pairwise fun a b => a.site.siteId ≠ b.site.siteId := by
  have hfilter : enterprisePlan.sites.filter (receivesBlock (Dict.ofList run.entries)
      enterprisePlan.sites) = enterprisePlan.sites.filter fun site =>
        run.state.siteBlocks.contains site.siteId :=
    List.filter_congr fun site hsite =>
      ((siteInvariant_of_assignSiteBlocks run.explicit_eq run.assign_eq).2 site hsite).symm
  have hnodup := (run.sites_perm.map SitePlan.siteId).nodup_iff
  rw [List.map_map, List.Nodup, List.pairwise_map] at hnodup
  refine Iff.trans ?_ hnodup.symm
  unfold DistinctReceivers
  constructor
  · intro h
    exact hfilter ▸ h run.entries run.requirements_eq
  · intro h entries hentries
    obtain rfl : run.entries = entries :=
      Except.ok.inj (run.requirements_eq.symm.trans hentries)
    exact hfilter ▸ h

/-- The networks of a share: carved from its block, for the segments of its requirements. -/
lemma PlanRun.share_networks (hshare : share ∈ run.shares) :
    ∃ block, run.state.siteBlocks.get? share.site.siteId = some block ∧
      share.block.subnet? = some block ∧
      (∀ allocated ∈ share.allocations, ∃ subnet, allocated.subnet? = some subnet ∧
        subnet ≤ block) ∧
      share.allocations.Pairwise fun a b => Apart a.subnet? b.subnet? := by
  obtain ⟨block, hget, hsubnet, hallocate⟩ := (run.computed share hshare).stored
  obtain ⟨networks, hdenotes, hle, hpairwise, -⟩ := allocateSite_eq_ok hallocate
  refine ⟨block, hget, hsubnet, fun allocated hallocated => ?_, ?_⟩
  · have hmem : allocated.subnet? ∈ networks.map some :=
      hdenotes ▸ List.mem_map_of_mem hallocated
    obtain ⟨network, hnetwork, heq⟩ := List.mem_map.mp hmem
    exact ⟨network, heq.symm, hle network hnetwork⟩
  · rw [← List.pairwise_map, hdenotes]
    exact pairwise_apart_iff.mpr hpairwise

/-- The segments of a share are those of its site, when no other site with a block has its id. -/
lemma PlanRun.perm_segmentIds
    (hdistinct : run.shares.Pairwise fun a b => a.site.siteId ≠ b.site.siteId)
    (hshare : share ∈ run.shares) :
    (share.allocations.map SubnetAllocation.segmentId).Perm
      (share.site.segments.map NetworkSegment.name) := by
  obtain ⟨block, hget, -, hallocate⟩ := (run.computed share hshare).stored
  obtain ⟨-, -, -, -, hids⟩ := allocateSite_eq_ok hallocate
  obtain ⟨hkeys, hentries⟩ := mem_of_allRequirements run.requirements_eq
  obtain ⟨hsite, hcontains⟩ := List.mem_filter.mp (run.mem_sites hshare)
  have hkey : share.site.siteId ∈ run.entries.map Prod.fst :=
    hkeys ▸ List.mem_map_of_mem hsite
  obtain ⟨requirements, hrequirements⟩ :=
    Option.isSome_iff_exists.mp (Dict.isSome_get?_ofList_iff.mpr hkey)
  obtain ⟨site, hmem, hid, hcomputed⟩ := hentries _ (Dict.mem_of_get?_ofList hrequirements)
  -- The site for which they were computed has a block too, so it is the site of the share.
  have hnodup : ((enterprisePlan.sites.filter fun site =>
      run.state.siteBlocks.contains site.siteId).map SitePlan.siteId).Nodup := by
    refine (run.sites_perm.map SitePlan.siteId).nodup_iff.mp ?_
    rw [List.map_map, List.Nodup, List.pairwise_map]
    exact hdistinct
  have hid' : site.siteId = share.site.siteId := hid
  obtain rfl : site = share.site := List.inj_on_of_nodup_map hnodup
    (List.mem_filter.mpr ⟨hmem, by rw [hid']; exact hcontains⟩) (run.mem_sites hshare) hid'
  refine hids.trans ?_
  rw [requirementsFor, hrequirements, Option.getD_some]
  exact (perm_and_prefixLength_le_of_siteRequirements hcomputed).1

lemma PlanRun.not_overlaps {a b : SiteShare} {block block' : IPv4Network}
    (hne : a.site.siteId ≠ b.site.siteId)
    (ha : run.state.siteBlocks.get? a.site.siteId = some block)
    (hb : run.state.siteBlocks.get? b.site.siteId = some block') :
    ¬Block.Overlaps block block' :=
  run.disjointBlocks.disjoint _ _ _ _ ha hb hne

/-- Under the two conditions the networks of the plan are well separated. -/
theorem PlanRun.wellSeparated (hdistinct : DistinctReceivers minimumLanPrefix enterprisePlan)
    (havoid : TransitsAvoidSegments minimumLanPrefix enterprisePlan) :
    WellSeparated enterprisePlan addressing := by
  have hids := run.distinctReceivers_iff.mp hdistinct
  refine ⟨?_, ?_, run.shares, run.blocks_eq, run.allocations_eq, fun share hshare => ?_⟩
  · rw [run.allocations_eq, run.transits_eq, run.transitInvariant.denotes, List.pairwise_append]
    refine ⟨?_, pairwise_apart_iff.mpr run.transitInvariant.pairwise, ?_⟩
    · rw [List.pairwise_map, List.pairwise_flatMap]
      refine ⟨fun share hshare => ?_, hids.imp_of_mem fun {a b} ha hb hne x hx y hy => ?_⟩
      · obtain ⟨-, -, -, -, hpairwise⟩ := run.share_networks hshare
        exact hpairwise
      · obtain ⟨block, hget, -, hin, -⟩ := run.share_networks ha
        obtain ⟨block', hget', -, hin', -⟩ := run.share_networks hb
        obtain ⟨subnet, hx, hle⟩ := hin x hx
        obtain ⟨subnet', hy, hle'⟩ := hin' y hy
        exact ⟨subnet, subnet', hx, hy, fun hover =>
          run.not_overlaps hne hget hget' (hover.mono hle hle')⟩
    · intro x hx y hy
      obtain ⟨allocated, hallocated, rfl⟩ := List.mem_map.mp hx
      obtain ⟨transit, htransit, rfl⟩ := List.mem_map.mp hy
      obtain ⟨share, hshare, hmem⟩ := List.mem_flatMap.mp hallocated
      obtain ⟨block, hget, -, hin, -⟩ := run.share_networks hshare
      obtain ⟨subnet, hsubnet, hle⟩ := hin allocated hmem
      refine ⟨subnet, transit, hsubnet, rfl, fun hover => ?_⟩
      rcases run.transitInvariant.declared_or_avoids transit htransit with
        ⟨pair, hpair, hdeclares⟩ | hblocks
      · obtain ⟨block', hget', -, hallocate⟩ := (run.computed share hshare).stored
        exact havoid _ _ run.before_eq pair hpair transit hdeclares share.site
          (List.mem_filter.mp (run.mem_sites hshare)).1 block' hget' _ hallocate allocated hmem
          subnet hsubnet hover.symm
      · exact hblocks _ _ hget (hover.symm.mono le_rfl hle)
  · rw [run.blocks_eq, List.map_map, List.pairwise_map]
    refine hids.imp_of_mem fun {a b} ha hb hne => ?_
    obtain ⟨block, hget, hsubnet, -, -⟩ := run.share_networks ha
    obtain ⟨block', hget', hsubnet', -, -⟩ := run.share_networks hb
    exact ⟨block, block', hsubnet, hsubnet', run.not_overlaps hne hget hget'⟩
  · obtain ⟨block, -, hsubnet, hin, -⟩ := run.share_networks hshare
    exact ⟨(List.mem_filter.mp (run.mem_sites hshare)).1, (run.computed share hshare).siteId_eq,
      run.perm_segmentIds hids hshare, block, hsubnet, hin⟩

lemma PlanRun.distinctReceivers_of_wellSeparated (h : WellSeparated enterprisePlan addressing) :
    DistinctReceivers minimumLanPrefix enterprisePlan := by
  have hblocks := h.blocks
  rw [run.blocks_eq, List.map_map, List.pairwise_map] at hblocks
  refine run.distinctReceivers_iff.mpr (hblocks.imp_of_mem fun {a b} ha hb hapart hid => ?_)
  obtain ⟨block, hget, hsubnet, -, -⟩ := run.share_networks ha
  obtain ⟨block', hget', hsubnet', -, -⟩ := run.share_networks hb
  obtain rfl : block = block' := Option.some.inj (hget.symm.trans (hid ▸ hget'))
  obtain ⟨m, n, hm, hn, hdisjoint⟩ := hapart
  obtain rfl : block = m := Option.some.inj (hsubnet.symm.trans hm)
  obtain rfl : block = n := Option.some.inj (hsubnet'.symm.trans hn)
  exact hdisjoint (Block.overlaps_self block)

/-- Well separated subnets avoid the declared transits. -/
lemma PlanRun.transitsAvoidSegments_of_wellSeparated (h : WellSeparated enterprisePlan addressing) :
    TransitsAvoidSegments minimumLanPrefix enterprisePlan := by
  intro requirements state hbefore pair hpair transit hdeclares site hsite block hblock allocations
    hallocate allocated hallocated subnet hsubnet hover
  obtain ⟨rfl, rfl⟩ : Dict.ofList run.entries = requirements ∧ run.state = state := by
    simpa using run.before_eq.symm.trans hbefore
  have hmem : site ∈ run.shares.map SiteShare.site :=
    run.sites_perm.mem_iff.mpr (List.mem_filter.mpr ⟨hsite, by simp [Dict.contains, hblock]⟩)
  obtain ⟨share, hshare, rfl⟩ := List.mem_map.mp hmem
  obtain ⟨block', hget, -, hallocate'⟩ := (run.computed share hshare).stored
  obtain rfl : block = block' := Option.some.inj (hblock.symm.trans hget)
  obtain rfl : allocations = share.allocations :=
    Except.ok.inj (hallocate.symm.trans hallocate')
  have hsubnets := h.subnets
  rw [run.allocations_eq, run.transits_eq, run.transitInvariant.denotes,
    List.pairwise_append] at hsubnets
  obtain ⟨m, n, hm, hn, hdisjoint⟩ := hsubnets.2.2 allocated.subnet?
    (List.mem_map_of_mem (List.mem_flatMap.mpr ⟨share, hshare, hallocated⟩)) (some transit)
    (List.mem_map_of_mem (run.transitInvariant.declared_used pair hpair transit hdeclares))
  obtain rfl : subnet = m := Option.some.inj (hsubnet.symm.trans hm)
  obtain rfl : transit = n := Option.some.inj hn
  exact hdisjoint hover.symm

end Run

end Runs

/-- **Separation of the planned networks.**  The networks of a returned plan are well separated
exactly when the sites that get a block have distinct ids and no declared transit overlaps a
subnet that a site carves from its block. -/
theorem wellSeparated_iff {minimumLanPrefix : ℤ} {enterprisePlan : EnterprisePlan}
    {result : IPAMPlanResult} {addressing : AddressingPlan}
    (h : plan minimumLanPrefix enterprisePlan = .ok result)
    (hplan : result.plan = some addressing) :
    WellSeparated enterprisePlan addressing ↔
      DistinctReceivers minimumLanPrefix enterprisePlan ∧
        TransitsAvoidSegments minimumLanPrefix enterprisePlan := by
  obtain ⟨run⟩ := nonempty_planRun h hplan
  exact ⟨fun hwell => ⟨run.distinctReceivers_of_wellSeparated hwell,
    run.transitsAvoidSegments_of_wellSeparated hwell⟩, fun hcond => run.wellSeparated hcond.1
      hcond.2⟩

/-- A site with a declared block, and a transit declared at the start of that block. -/
def overlappingEnterprise : EnterprisePlan :=
  { addressSpace := some "10.0.0.0/16"
    sites :=
      [{ name := "A", siteId := "a", addressBlock := some "10.0.0.0/24"
         segments := [{ name := "data", hostRequirement := 100 }]
         uplinks := [{ targetSiteId := "b", network := some "10.0.0.0/30"
                       sourceIpv4 := some "10.0.0.1", targetIpv4 := some "10.0.0.2" }] },
       { name := "B", siteId := "b" }] }

/-- The plan that the planner returns for it. -/
def overlappingAddressing : AddressingPlan :=
  { addressSpace := "10.0.0.0/16"
    siteBlocks := [{ siteId := "a", network := "10.0.0.0", prefixLength := 24, explicit := true }]
    allocations :=
      [{ segmentId := "data", network := "10.0.0.0", prefixLength := 25
         netmask := "255.255.255.128", gateway := "10.0.0.1", firstUsable := "10.0.0.1"
         lastUsable := "10.0.0.126", broadcast := "10.0.0.127", usableHosts := 126
         requiredHosts := 101, growthPercent := .finite ⟨0, 0⟩ }]
    transitAllocations :=
      [{ id := "transit/a/b", sourceSiteId := "a", targetSiteId := "b", media := "ethernet"
         network := "10.0.0.0", netmask := "255.255.255.252", sourceIpv4 := "10.0.0.1"
         targetIpv4 := "10.0.0.2" }] }

lemma plan_overlappingEnterprise :
    plan 30 overlappingEnterprise = .ok { plan := some overlappingAddressing } := by
  decide

lemma not_wellSeparated_overlappingAddressing :
    ¬WellSeparated overlappingEnterprise overlappingAddressing := by
  intro h
  have hsubnets : [networkOf? "10.0.0.0" 25, networkOf? "10.0.0.0" 30].Pairwise Apart := h.subnets
  rw [List.pairwise_pair] at hsubnets
  obtain ⟨m, n, hm, hn, hdisjoint⟩ := hsubnets
  have hsegment : networkOf? "10.0.0.0" 25 = some ⟨25, 1310720, by decide, by decide⟩ := by
    decide
  have htransit : networkOf? "10.0.0.0" 30 = some ⟨30, 41943040, by decide, by decide⟩ := by
    decide
  rw [hsegment, Option.some.injEq] at hm
  rw [htransit, Option.some.injEq] at hn
  subst hm hn
  exact hdisjoint (by decide)

/-- The equivalence at the overlapping transit, where both of its sides fail. -/
theorem wellSeparated_iff_overlappingEnterprise :
    ¬(DistinctReceivers 30 overlappingEnterprise ∧
      TransitsAvoidSegments 30 overlappingEnterprise) := fun h =>
  not_wellSeparated_overlappingAddressing
    ((wellSeparated_iff plan_overlappingEnterprise rfl).mpr h)

/-- The planner does return plans in which a transit overlaps a segment. -/
theorem not_forall_wellSeparated :
    ¬∀ (minimumLanPrefix : ℤ) (enterprisePlan : EnterprisePlan) (result : IPAMPlanResult)
      (addressing : AddressingPlan), plan minimumLanPrefix enterprisePlan = .ok result →
        result.plan = some addressing → WellSeparated enterprisePlan addressing := fun hall =>
  not_wellSeparated_overlappingAddressing (hall _ _ _ _ plan_overlappingEnterprise rfl)

end IPAMPlanner

namespace IPAMPlanner

variable {block root : IPv4Network} {carved available : List IPv4Network} {p : ℕ} {site : SitePlan}
  {requirements : List SubnetRequirement} {state : SegmentState}

end IPAMPlanner

end PacketTracer
