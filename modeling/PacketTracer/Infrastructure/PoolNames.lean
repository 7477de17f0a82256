import PacketTracer.Domain.DhcpPools
import PacketTracer.Infrastructure.VoiceRenderer
import PacketTracer.Library.TerminalText

/-!
# The names under which two renderers write a DHCP pool

The configuration renderer writes a pool under the identifier that `safe_ios_identifier` makes of
its name; the voice renderer adds option 150 to the pool of the name itself, when that name matches
a pattern.  `PoolNamesAgree` says that the lines with which both open a pool are the same and that
different pools of a device are opened with different lines.  This holds exactly when the names of
the extended pools are short and start with a letter or a digit, and no two names on a device merge
(`poolNamesAgree_iff`).
-/

namespace PacketTracer

open Dicts PyStrs PyText TerminalTexts Fallible

/-! ## The configuration renderer -/

/-- The characters that `_UNSAFE_IOS_IDENTIFIER_CHARS` leaves alone. -/
def isIdentifierChar (c : Char) : Bool := c.isAlphanum || c ∈ ['_', '.', '-']

/-- What a character becomes in an identifier. -/
def underscored (c : Char) : Char := if isIdentifierChar c then c else '_'

/-- The characters that `strip("._-")` removes. -/
def isEdge (c : Char) : Bool := c ∈ ['.', '_', '-']

/-- `safe_ios_identifier`. -/
def safeIosIdentifier (value : Text) (fallback : Text := "ITEM".toList) (maxLength : ℕ := 32) :
    Text :=
  let cleaned := trim isEdge ((strip value).map underscored)
  (if cleaned = [] then fallback else cleaned).take maxLength

/-- The line with which the commands of a pool open. -/
def poolHeader (name : Text) : String := "ip dhcp pool " ++ String.ofList name

lemma poolHeader_inj {s t : Text} : poolHeader s = poolHeader t ↔ s = t := by
  constructor
  · intro h
    have hlist := congrArg String.toList h
    simp only [poolHeader, String.toList_append, String.toList_ofList,
      List.append_cancel_left_eq] at hlist
    exact hlist
  · rintro rfl
    rfl

/-- The line that excludes a range of addresses. -/
def exclusionLine (ipAddress : String → Except String String) (range : AddressRange) :
    Except String String := do
  let start ← ipAddress range.start
  let stop ← ipAddress range.stop
  return if stop ≠ start then s!"ip dhcp excluded-address {start} {stop}"
    else s!"ip dhcp excluded-address {start}"

/-- The lines about a DNS server. -/
def dnsLines (ipAddress : String → Except String String) : Option String →
    Except String (List String)
  | none => .ok []
  | some server =>
    if server = "" then .ok []
    else do
      let address ← ipAddress server
      return [s!" dns-server {address}"]

/-- The branch of `_render_body` for a `ConfigureDhcpPool`; `ipAddress` is
`str(ipaddress.ip_address(…))`, or the message of its `ValueError`. -/
def renderPool (ipAddress : String → Except String String) :
    ConfigurationActionDetail → Except String (List String)
  | .configureDhcpPool poolName _ network _ netmask gateway dnsServer excludedRanges _ _ => do
    let exclusions ← excludedRanges.mapM (exclusionLine ipAddress)
    let dns ← dnsLines ipAddress dnsServer
    return exclusions ++ [poolHeader (safeIosIdentifier poolName.toList),
      s!" network {network} {netmask}", s!" default-router {gateway}"] ++ dns ++ [" exit"]
  | _ => .ok []

/-- The line with which the configuration renderer opens the pool of an action. -/
def poolLine? (action : ConfigurationAction) : Option String :=
  match action.detail with
  | .configureDhcpPool poolName .. => some (poolHeader (safeIosIdentifier poolName.toList))
  | _ => none

/-! ## Texts -/

section Texts

lemma take_eq_take_iff {n : ℕ} {s t : Text} :
    s.take n = t.take n ↔ s = t ∨ (n ≤ s.length ∧ n ≤ t.length ∧ s.take n = t.take n) := by
  constructor
  · intro h
    have hlengths := congrArg List.length h
    rw [List.length_take, List.length_take] at hlengths
    by_cases hlong : n ≤ s.length ∧ n ≤ t.length
    · exact Or.inr ⟨hlong.1, hlong.2, h⟩
    · left
      have hs : s.length ≤ n := by omega
      have ht : t.length ≤ n := by omega
      rwa [List.take_of_length_le hs, List.take_of_length_le ht] at h
  · rintro (rfl | ⟨-, -, h⟩)
    · rfl
    · exact h

/-- A character that is stripped first does not matter when it becomes one that is stripped. -/
lemma trim_map_trim {p q : Char → Bool} {f : Char → Char} (h : ∀ c, p c = true → q (f c) = true)
    (s : Text) : trim q ((trim p s).map f) = trim q (s.map f) := by
  have hfront := List.takeWhile_append_dropWhile (p := p) (l := s)
  have hback := List.rdropWhile_append_rtakeWhile (p := p) (l := s.dropWhile p)
  have hsplit : s = s.takeWhile p ++ trim p s ++ (s.dropWhile p).rtakeWhile p := by
    rw [trim, List.append_assoc, hback, hfront]
  conv_rhs => rw [hsplit, List.map_append, List.map_append]
  refine (trim_pad ?_ ?_ _).symm
  · intro c hc
    obtain ⟨d, hd, rfl⟩ := List.mem_map.mp hc
    exact h d (List.mem_takeWhile_imp hd)
  · intro c hc
    obtain ⟨d, hd, rfl⟩ := List.mem_map.mp hc
    exact h d (List.mem_rtakeWhile_imp hd)

variable {c : Char}

lemma toNat_of_isIdentifierChar (h : isIdentifierChar c = true) : 33 ≤ c.toNat ∧ c.toNat ≤ 122 := by
  rw [isIdentifierChar, Bool.or_eq_true, decide_eq_true_eq] at h
  rcases h with halnum | hother
  · simp only [Char.isAlphanum, Char.isAlpha, Char.isUpper, Char.isLower, Char.isDigit,
      Bool.or_eq_true, Bool.and_eq_true, decide_eq_true_eq, ge_iff_le, UInt32.le_iff_toNat_le]
      at halnum
    have hvalue : c.toNat = c.val.toNat := rfl
    rw [hvalue]
    simp at halnum
    omega
  · have hall : ∀ d ∈ ['_', '.', '-'], 33 ≤ d.toNat ∧ d.toNat ≤ 122 := by decide
    exact hall c hother

lemma isEdge_underscored_of_isSpace (h : isSpace c = true) : isEdge (underscored c) = true := by
  have hnot : isIdentifierChar c = false := by
    by_contra hne
    have hrange := toNat_of_isIdentifierChar (Bool.eq_true_of_not_eq_false hne)
    simp only [isSpace, Bool.or_eq_true, Bool.and_eq_true, decide_eq_true_eq] at h
    omega
  rw [underscored, hnot, if_neg Bool.false_ne_true]
  decide

lemma safeIosIdentifier_eq (s : Text) (h : trim isEdge (s.map underscored) ≠ []) :
    safeIosIdentifier s = (trim isEdge (s.map underscored)).take 32 := by
  have hstrip : trim isEdge ((strip s).map underscored) = trim isEdge (s.map underscored) :=
    trim_map_trim (fun _ => isEdge_underscored_of_isSpace) s
  rw [safeIosIdentifier, hstrip, if_neg h]

end Texts

/-! ## The names of compiled pools -/

/-- How the name of a site reads in an identifier. -/
def siteText (site : Text) : Text := (site.map underscored).dropWhile isEdge

/-- How the name of a pool reads in an identifier, before it is cut. -/
def nameText (site : Text) (role : SegmentRole) : Text :=
  if siteText site = [] then role.upperText else siteText site ++ '_' :: role.upperText

section Names

variable {site site' : Text} {role role' : SegmentRole}

lemma map_underscored_role (role : SegmentRole) :
    ('_' :: role.upperText).map underscored = '_' :: role.upperText := by
  cases role <;> decide

lemma dropWhile_isEdge_role (role : SegmentRole) :
    ('_' :: role.upperText).dropWhile isEdge = role.upperText := by
  cases role <;> decide

lemma exists_last_role (role : SegmentRole) :
    ∃ init c, role.upperText = init ++ [c] ∧ isEdge c = false := by
  cases role <;> exact ⟨_, _, (List.dropLast_append_getLast (by decide)).symm, by decide⟩

lemma upperText_injective : Function.Injective SegmentRole.upperText := by
  intro role role' h
  cases role <;> cases role' <;> first | rfl | exact absurd h (by decide)

lemma not_suffix_role (role role' : SegmentRole) :
    ¬('_' :: role.upperText) <:+ role'.upperText := by
  cases role <;> cases role' <;> decide

/-- **The identifier of a compiled pool.** -/
lemma safeIosIdentifier_name (site : Text) (role : SegmentRole) :
    safeIosIdentifier (site ++ '_' :: role.upperText) = (nameText site role).take 32 := by
  have hmap : (site ++ '_' :: role.upperText).map underscored =
      site.map underscored ++ '_' :: role.upperText := by
    rw [List.map_append, map_underscored_role]
  have hfront : (site.map underscored ++ '_' :: role.upperText).dropWhile isEdge =
      nameText site role := by
    rw [List.dropWhile_append, dropWhile_isEdge_role, nameText, siteText]
    simp only [List.isEmpty_iff]
  obtain ⟨init, c, hlast, hc⟩ := exists_last_role role
  have hend : ∃ init, nameText site role = init ++ [c] := by
    unfold nameText
    split_ifs
    · exact ⟨init, hlast⟩
    · exact ⟨siteText site ++ '_' :: init, by rw [hlast, List.append_assoc, List.cons_append]⟩
  obtain ⟨init', hinit'⟩ := hend
  have htrim : trim isEdge ((site ++ '_' :: role.upperText).map underscored) =
      nameText site role := by
    rw [hmap, trim, hfront, hinit', List.rdropWhile_concat_neg _ _ _ (by simp [hc])]
  rw [safeIosIdentifier_eq _ (by rw [htrim, hinit']; simp), htrim]

/-- Two names read the same exactly when their sites and their roles do. -/
lemma nameText_eq_iff :
    nameText site role = nameText site' role' ↔ role = role' ∧ siteText site = siteText site' := by
  have hbehind : ∀ {s : Text} {role role' : SegmentRole},
      s ++ '_' :: role.upperText ≠ role'.upperText :=
    fun {s role role'} h => not_suffix_role role role' ⟨s, h⟩
  constructor
  · intro h
    unfold nameText at h
    split_ifs at h with hsite hsite' hsite'
    · exact ⟨upperText_injective h, hsite.trans hsite'.symm⟩
    · exact absurd h.symm hbehind
    · exact absurd h hbehind
    -- both names end with an underscore and a role
    rcases List.append_eq_append_iff.mp h with ⟨rest, hrest, hrole⟩ | ⟨rest, hrest, hrole⟩
    · cases rest with
      | nil =>
        rw [List.append_nil] at hrest
        exact ⟨upperText_injective (List.cons.inj hrole).2, hrest.symm⟩
      | cons c rest => exact absurd (List.cons.inj hrole).2.symm hbehind
    · cases rest with
      | nil =>
        rw [List.append_nil] at hrest
        exact ⟨(upperText_injective (List.cons.inj hrole).2).symm, hrest⟩
      | cons c rest => exact absurd (List.cons.inj hrole).2.symm hbehind
  · rintro ⟨rfl, h⟩
    rw [nameText, nameText, h]

lemma isEdge_of_isAlphanum {c : Char} (h : c.isAlphanum = true) : isEdge c = false := by
  by_contra hne
  have hmem : c ∈ ['.', '_', '-'] := of_decide_eq_true (Bool.eq_true_of_not_eq_false hne)
  have hall : ∀ d ∈ ['.', '_', '-'], d.isAlphanum = false := by decide
  rw [hall c hmem] at h
  cases h

/-- **The identifier is the name itself** exactly when the name is short and its site starts with a
letter or a digit, provided that nothing in the name has to be replaced. -/
lemma safeIosIdentifier_eq_self_iff (hsite : ∀ c ∈ site, isIdentifierChar c = true) :
    safeIosIdentifier (site ++ '_' :: role.upperText) = site ++ '_' :: role.upperText ↔
      (∃ c ∈ site.head?, c.isAlphanum = true) ∧
        (site ++ '_' :: role.upperText).length ≤ 32 := by
  have hmap : site.map underscored = site := by
    refine (List.map_congr_left fun c hc => ?_).trans (List.map_id site)
    rw [underscored, if_pos (hsite c hc), id]
  have hsiteText : siteText site = site.dropWhile isEdge := by rw [siteText, hmap]
  rw [safeIosIdentifier_name]
  constructor
  · intro h
    have hlengths := congrArg List.length h
    rw [List.length_take] at hlengths
    refine ⟨?_, by omega⟩
    rcases site with _ | ⟨c, rest⟩
    · have hname : nameText [] role = role.upperText := rfl
      rw [hname] at hlengths
      simp only [List.nil_append, List.length_cons] at hlengths
      omega
    refine ⟨c, rfl, ?_⟩
    by_contra hnot
    -- a character that is stripped makes the identifier shorter
    have hedge : isEdge c = true := by
      have hc := hsite c List.mem_cons_self
      rw [isIdentifierChar, Bool.or_eq_true] at hc
      have hmem : c ∈ ['_', '.', '-'] := of_decide_eq_true (hc.resolve_left hnot)
      have hall : ∀ d ∈ ['_', '.', '-'], isEdge d = true := by decide
      exact hall c hmem
    have hshort : (siteText (c :: rest)).length ≤ rest.length := by
      rw [hsiteText, List.dropWhile_cons_of_pos hedge]
      exact (List.dropWhile_suffix isEdge).length_le
    have hname : (nameText (c :: rest) role).length ≤ rest.length + 1 + role.upperText.length := by
      unfold nameText
      split_ifs
      · omega
      · rw [List.length_append, List.length_cons]
        omega
    rw [List.length_append, List.length_cons, List.length_cons] at hlengths
    omega
  · rintro ⟨⟨c, hhead, hc⟩, hlength⟩
    obtain ⟨rest, rfl⟩ := List.head?_eq_some_iff.mp (Option.mem_def.mp hhead)
    have hself : siteText (c :: rest) = c :: rest := by
      rw [hsiteText, List.dropWhile_cons_of_neg (by simp [isEdge_of_isAlphanum hc])]
    rw [nameText, hself, if_neg (List.cons_ne_nil c rest), List.take_of_length_le hlength]

end Names

/-! ## What is claimed, and what it takes -/

/-- The pool that the voice renderer extends is opened with the line that created it, and two
different pools of a device are opened with different lines. -/
structure PoolNamesAgree (renderer : Voice.VoiceRenderer) (phoneMacs : Dict String String)
    (configuration : ConfigurationPlan) (plan : Voice.VoicePlan) : Prop where
  extended : ∀ action ∈ plan.actions, ∀ operation name address sourceId,
    action.detail = .configureVoiceDhcpOption operation name address sourceId →
      ∃ pool ∈ configuration.actions, pool.id = sourceId ∧
        pool.deviceId = action.hostDeviceId ∧
        ∃ line, poolLine? pool = some line ∧ renderer.header phoneMacs action = some line
  apart : ∀ pool ∈ configuration.actions, ∀ other ∈ configuration.actions,
    pool.deviceId = other.deviceId → pool ≠ other →
      ∀ line, poolLine? pool = some line → poolLine? other ≠ some line

/-- The voice plan extends a pool. -/
def ExtendedBy (plan : Voice.VoicePlan) (pool : ConfigurationAction) : Prop :=
  ∃ action ∈ plan.actions, ∃ operation name address,
    action.detail = .configureVoiceDhcpOption operation name address pool.id

namespace ConfigurationCompiler

variable (compiler : ConfigurationCompiler)

/-- The name of the site of a segment in upper case. -/
def siteName (segment : SiteSegment) : Text := compiler.upper.text segment.site.toList

/-- The site starts with a letter or a digit, and the name of the pool has at most 32 characters. -/
def ShortName (segment : SiteSegment) : Prop :=
  (∃ c ∈ (compiler.siteName segment).head?, c.isAlphanum = true) ∧
    (compiler.poolText segment).length ≤ 32

/-- The names of two pools merge: the sites read the same and the roles are the same, or both names
are so long that they read the same as far as they are kept. -/
def NamesMerge (segment other : SiteSegment) : Prop :=
  (segment.role = other.role ∧
      siteText (compiler.siteName segment) = siteText (compiler.siteName other)) ∨
    (32 ≤ (nameText (compiler.siteName segment) segment.role).length ∧
      32 ≤ (nameText (compiler.siteName other) other.role).length ∧
      (nameText (compiler.siteName segment) segment.role).take 32 =
        (nameText (compiler.siteName other) other.role).take 32)

end ConfigurationCompiler

/-- The names of the extended pools are short, and the names of no two pools of a device merge. -/
structure NamesSurvive (compiler : ConfigurationCompiler)
    (outcomes : List (SiteSegment × DhcpOutcome)) (plan : Voice.VoicePlan) : Prop where
  short : ∀ segment pool, (segment, .pool pool) ∈ outcomes → ExtendedBy plan pool →
    compiler.ShortName segment
  apart : ∀ segment pool other pool', (segment, .pool pool) ∈ outcomes →
    (other, .pool pool') ∈ outcomes → pool.deviceId = pool'.deviceId → pool ≠ pool' →
      ¬compiler.NamesMerge segment other

/-- The voice renderer accepts a plan: it renders the batches of every device. -/
def VoiceAccepted (renderer : Voice.VoiceRenderer) (phoneMacs : Dict String String)
    (plan : Voice.VoicePlan) : Prop :=
  ∀ deviceName, ∃ batches,
    renderer.renderDeviceBatches phoneMacs deviceName plan.actions = .ok batches

/-! ## What the two renderers write -/

namespace Voice

variable {renderer : VoiceRenderer} {phoneMacs : Dict String String} {plan : VoicePlan}
  {action : VoiceAction}

/-- Every action of an accepted plan is rendered. -/
lemma exists_renderAction (h : VoiceAccepted renderer phoneMacs plan)
    (haction : action ∈ plan.actions) :
    ∃ lines, renderer.renderAction phoneMacs action.detail = .ok lines := by
  obtain ⟨batches, hbatches⟩ := h action.hostDeviceName
  obtain ⟨groups, hgroups, -⟩ := bind_eq_ok.mp hbatches
  have hhosted : action ∈ plan.actions.filter (·.hostDeviceName = action.hostDeviceName) :=
    List.mem_filter.mpr ⟨haction, decide_eq_true rfl⟩
  have hgroup : ∃ group, action ∈ group ∧ (action.phase, group) ∈
      (sortedBy VoicePhase.value ((plan.actions.filter
          (·.hostDeviceName = action.hostDeviceName)).map VoiceAction.phase).dedup).flatMap
        fun phase => (VoiceRenderer.actionGroups phase ((plan.actions.filter
          (·.hostDeviceName = action.hostDeviceName)).filter (·.phase = phase))).map
            fun group => (phase, group) := by
    have hphase : action.phase ∈ sortedBy VoicePhase.value ((plan.actions.filter
        (·.hostDeviceName = action.hostDeviceName)).map VoiceAction.phase).dedup :=
      mem_sortedBy.mpr (List.mem_dedup.mpr (List.mem_map_of_mem hhosted))
    have hmem : action ∈ sortedBy VoiceRenderer.sortKey ((plan.actions.filter
        (·.hostDeviceName = action.hostDeviceName)).filter (·.phase = action.phase)) :=
      mem_sortedBy.mpr (List.mem_filter.mpr ⟨hhosted, decide_eq_true rfl⟩)
    have hgroups : ∃ group, action ∈ group ∧ group ∈ VoiceRenderer.actionGroups action.phase
        ((plan.actions.filter (·.hostDeviceName = action.hostDeviceName)).filter
          (·.phase = action.phase)) := by
      unfold VoiceRenderer.actionGroups
      split_ifs
      · exact ⟨[action], List.mem_singleton_self _, List.mem_map.mpr ⟨action, hmem, rfl⟩⟩
      · exact ⟨_, hmem, List.mem_singleton_self _⟩
    obtain ⟨group, hin, hgroup⟩ := hgroups
    exact ⟨group, hin, List.mem_flatMap.mpr ⟨_, hphase, List.mem_map.mpr ⟨group, hgroup, rfl⟩⟩⟩
  obtain ⟨group, hin, hmem⟩ := hgroup
  obtain ⟨batch, -, hbatch⟩ := exists_result_of_mapM_eq_ok hgroups hmem
  obtain ⟨body, hbody, -⟩ := bind_eq_ok.mp hbatch
  obtain ⟨lines, hlines, -⟩ := bind_eq_ok.mp hbody
  obtain ⟨rendered, -, hrendered⟩ := exists_result_of_mapM_eq_ok hlines hin
  exact ⟨rendered, hrendered⟩

lemma mem_of_mem_actionGroups {phase : VoicePhase} {actions group : List VoiceAction}
    (hgroup : group ∈ VoiceRenderer.actionGroups phase actions) (haction : action ∈ group) :
    action ∈ actions := by
  unfold VoiceRenderer.actionGroups at hgroup
  split_ifs at hgroup
  · obtain ⟨single, hsingle, rfl⟩ := List.mem_map.mp hgroup
    obtain rfl := List.mem_singleton.mp haction
    exact mem_sortedBy.mp hsingle
  · obtain rfl := List.mem_singleton.mp hgroup
    exact mem_sortedBy.mp haction

/-- A group of rendered actions is rendered. -/
lemma exists_renderGroup (deviceName : String) (phase : VoicePhase) {group : List VoiceAction}
    (h : ∀ action ∈ group,
      (renderer.renderAction phoneMacs action.detail).toOption.isSome = true) :
    ∃ batch, renderer.renderGroup phoneMacs deviceName phase group = .ok batch := by
  obtain ⟨lines, hlines⟩ : ∃ lines, group.mapM
      (fun action => renderer.renderAction phoneMacs action.detail) = .ok lines := by
    refine exists_mapM_eq_ok fun action haction => ?_
    have hsome := h action haction
    cases hcase : renderer.renderAction phoneMacs action.detail with
    | error e => simp [hcase, Except.toOption] at hsome
    | ok rendered => exact ⟨rendered, rfl⟩
  have hbody : renderer.renderBody phoneMacs group = .ok lines.flatten := by
    rw [VoiceRenderer.renderBody, hlines]
    rfl
  rw [VoiceRenderer.renderGroup, hbody]
  by_cases hempty : lines.flatten = []
  · exact ⟨none, by simp only [bind, Except.bind, if_pos hempty]; rfl⟩
  · exact ⟨some _, by simp only [bind, Except.bind, if_neg hempty]; rfl⟩

lemma voiceAccepted_of_renderAction
    (h : ∀ action ∈ plan.actions,
      (renderer.renderAction phoneMacs action.detail).toOption.isSome = true) :
    VoiceAccepted renderer phoneMacs plan := by
  intro deviceName
  refine exists_mapM_bind_eq_ok (fun entry hentry => ?_) fun batches => ⟨_, rfl⟩
  obtain ⟨phase, -, hentry⟩ := List.mem_flatMap.mp hentry
  obtain ⟨group, hgroup, rfl⟩ := List.mem_map.mp hentry
  refine exists_renderGroup deviceName phase fun action haction => h action ?_
  exact List.mem_of_mem_filter (List.mem_of_mem_filter (mem_of_mem_actionGroups hgroup haction))

variable {operation : OperationSemantics} {name address sourceId : String}

/-- **What the voice renderer writes about a pool**: its name, which matched the pattern. -/
lemma header_option (h : VoiceAccepted renderer phoneMacs plan) (haction : action ∈ plan.actions)
    (hdetail : action.detail = .configureVoiceDhcpOption operation name address sourceId) :
    isPoolName name = true ∧ renderer.header phoneMacs action = some (poolHeader name.toList) := by
  obtain ⟨lines, hlines⟩ := exists_renderAction h haction
  have hrender := hlines
  rw [hdetail, VoiceRenderer.renderAction] at hrender
  split_ifs at hrender with hname
  · obtain ⟨text, -, htext⟩ := bind_eq_ok.mp hrender
    refine ⟨Bool.eq_true_of_not_eq_false hname, ?_⟩
    rw [VoiceRenderer.header, hlines, ← Except.ok.inj htext]
    simp only [Except.toOption, Option.bind_some, List.head?_cons, poolHeader, String.ofList_toList]
    rfl

variable {compiler : VoiceCompiler} {request : VoiceRequest}

/-- **Where a pool is extended**: on the device that has it, under its name. -/
lemma exists_pool_of_option (h : (compiler.compile request).plan = some plan)
    (haction : action ∈ plan.actions)
    (hdetail : action.detail = .configureVoiceDhcpOption operation name address sourceId) :
    ∃ pool ∈ request.configuration.actions, pool.id = sourceId ∧
      pool.deviceId = action.hostDeviceId ∧
      ∃ segmentId network prefixLength netmask gateway dnsServer excluded leaseStart leaseEnd,
        pool.detail = .configureDhcpPool name segmentId network prefixLength netmask gateway
          dnsServer excluded leaseStart leaseEnd := by
  obtain ⟨emitted, hemitted, rfl⟩ := (VoiceCompiler.mem_actions h).mp haction
  have hemitted' : emitted.detail =
    .configureVoiceDhcpOption operation name address sourceId := hdetail
  rcases List.mem_append.mp hemitted with hemitted | hrule
  · rcases List.mem_append.mp hemitted with hemitted | hbootstrap
    · rcases List.mem_append.mp hemitted with hcontrol | hbinding
      · obtain ⟨entry, -, hentry⟩ := List.mem_flatMap.mp hcontrol
        rcases List.mem_cons.mp hentry with rfl | hentry
        · cases hemitted'
        rcases List.mem_cons.mp hentry with rfl | hentry
        · cases hemitted'
        · obtain ⟨phone, -, rfl⟩ := List.mem_map.mp hentry
          cases hemitted'
      · obtain ⟨bound, -, rfl⟩ := List.mem_map.mp hbinding
        cases hemitted'
    · obtain ⟨entry, -, hentry⟩ := List.mem_flatMap.mp hbootstrap
      rcases List.mem_concat_iff.mp hentry with hoption | hfiles
      · obtain ⟨pool, hpool, rfl⟩ := List.mem_map.mp hoption
        obtain ⟨segmentId, -, hfind⟩ := List.mem_filterMap.mp hpool
        have hmem := List.mem_of_find?_eq_some hfind
        have hdevice : pool.action.deviceId = entry.2.host.semanticId := by
          simpa using List.find?_some hfind
        obtain ⟨source, hsource, hread⟩ := List.mem_filterMap.mp (mem_sortedBy.mp hmem)
        cases hemitted'
        split at hread
        · next hsourceDetail =>
          split_ifs at hread
          cases hread
          exact ⟨source, hsource, rfl, hdevice, _, _, _, _, _, _, _, _, _, hsourceDetail⟩
        · cases hread
      · rw [hfiles] at hemitted'
        cases hemitted'
  · obtain ⟨rule, hmem, rfl⟩ := List.mem_map.mp hrule
    obtain ⟨_, _, _, _, _, hdial⟩ := VoiceCompiler.exists_detail_dialRule hmem
    rw [hdial] at hemitted'
    cases hemitted'

end Voice

/-! ## The names agree exactly when they survive -/

section Agreement

variable {compiler : ConfigurationCompiler} {pools : DhcpRequest}
  {outcomes : List (SiteSegment × DhcpOutcome)} {voice : Voice.VoiceCompiler}
  {request : Voice.VoiceRequest} {plan : Voice.VoicePlan} {renderer : Voice.VoiceRenderer}
  {phoneMacs : Dict String String}

lemma ConfigurationCompiler.poolText_eq (segment : SiteSegment) :
    compiler.poolText segment =
      compiler.siteName segment ++ '_' :: segment.role.upperText := by
  rw [poolText, Uppercase.text_append, Uppercase.text_role, siteName]

variable {configuration : ConfigurationPlan} {segment : SiteSegment} {pool : ConfigurationAction}

lemma poolLine?_of_mem (h : CompiledFrom compiler pools outcomes configuration)
    (hmem : (segment, DhcpOutcome.pool pool) ∈ outcomes) :
    pool ∈ configuration.actions ∧
      poolLine? pool = some (poolHeader (safeIosIdentifier (compiler.poolText segment))) := by
  obtain ⟨_, _, _, _, _, _, _, _, _, hdetail⟩ := h.detail_of_mem hmem
  have hpool : pool.isDhcpPool = true := by simp [ConfigurationAction.isDhcpPool, hdetail]
  refine ⟨(h.mem_iff hpool).mpr ⟨segment, hmem⟩, ?_⟩
  simp [poolLine?, hdetail]

lemma exists_segment_of_poolLine? (h : CompiledFrom compiler pools outcomes configuration)
    (hpool : pool ∈ configuration.actions) {line : String} (hline : poolLine? pool = some line) :
    ∃ segment, (segment, DhcpOutcome.pool pool) ∈ outcomes := by
  have hkind : pool.isDhcpPool = true := by
    unfold poolLine? at hline
    split at hline
    · next hdetail => simp [ConfigurationAction.isDhcpPool, hdetail]
    · cases hline
  exact (h.mem_iff hkind).mp hpool

lemma poolHeader_eq_iff (segment other : SiteSegment) :
    poolHeader (safeIosIdentifier (compiler.poolText segment)) =
        poolHeader (safeIosIdentifier (compiler.poolText other)) ↔
      compiler.NamesMerge segment other := by
  rw [poolHeader_inj, compiler.poolText_eq, compiler.poolText_eq, safeIosIdentifier_name,
    safeIosIdentifier_name, take_eq_take_iff, nameText_eq_iff]
  rfl

/-- A pool whose name the voice renderer accepts is opened with its own name exactly when that is
short. -/
lemma poolHeader_eq_self_iff
    (h : Voice.isPoolName (String.ofList (compiler.poolText segment)) = true) :
    poolHeader (safeIosIdentifier (compiler.poolText segment)) =
        poolHeader (compiler.poolText segment) ↔ compiler.ShortName segment := by
  have hsite : ∀ c ∈ compiler.siteName segment, isIdentifierChar c = true := by
    rw [Voice.isPoolName, String.toList_ofList, Bool.and_eq_true] at h
    intro c hc
    refine List.all_eq_true.mp h.2 c ?_
    rw [compiler.poolText_eq]
    exact List.mem_append_left _ hc
  rw [poolHeader_inj, compiler.poolText_eq, safeIosIdentifier_eq_self_iff hsite,
    ConfigurationCompiler.ShortName, compiler.poolText_eq]

/-- **The names of the pools agree** in what both renderers write exactly when the names of the
extended pools start with a letter or a digit and have at most 32 characters, and the names of no
two pools of a device merge. -/
theorem poolNamesAgree_iff
    (hconfiguration : CompiledFrom compiler pools outcomes request.configuration)
    (hplan : (voice.compile request).plan = some plan)
    (haccepted : VoiceAccepted renderer phoneMacs plan) :
    PoolNamesAgree renderer phoneMacs request.configuration plan ↔
      NamesSurvive compiler outcomes plan := by
  constructor
  · intro hagree
    constructor
    · rintro segment pool hmem ⟨action, haction, operation, name, address, hdetail⟩
      obtain ⟨hpool, hline⟩ := poolLine?_of_mem hconfiguration hmem
      obtain ⟨hname, hheader⟩ := Voice.header_option haccepted haction hdetail
      obtain ⟨source, hsource, hid, -, line, hcreated, hwritten⟩ :=
        hagree.extended action haction _ _ _ _ hdetail
      obtain rfl := hconfiguration.eq_of_id_eq hsource hpool hid
      -- the option carries the name of the pool that it was made for
      obtain ⟨extended, hextended, hextendedId, -, _, _, _, _, _, _, _, _, _, hsourceDetail⟩ :=
        Voice.exists_pool_of_option hplan haction hdetail
      obtain rfl := hconfiguration.eq_of_id_eq hextended hpool hextendedId
      obtain ⟨_, _, _, _, _, _, _, _, _, hpoolDetail⟩ := hconfiguration.detail_of_mem hmem
      rw [hpoolDetail] at hsourceDetail
      obtain ⟨rfl, -⟩ := ConfigurationActionDetail.configureDhcpPool.inj hsourceDetail
      rw [hline] at hcreated
      rw [hheader, String.toList_ofList] at hwritten
      exact (poolHeader_eq_self_iff hname).mp
        (Option.some.inj (hcreated.trans hwritten.symm))
    · intro segment pool other pool' hmem hmem' hdevice hne hmerge
      obtain ⟨hpool, hline⟩ := poolLine?_of_mem hconfiguration hmem
      obtain ⟨hpool', hline'⟩ := poolLine?_of_mem hconfiguration hmem'
      refine hagree.apart pool hpool pool' hpool' hdevice hne _ hline ?_
      rw [hline', (poolHeader_eq_iff segment other).mpr hmerge]
  · intro hsurvive
    constructor
    · intro action haction operation name address sourceId hdetail
      obtain ⟨hname, hheader⟩ := Voice.header_option haccepted haction hdetail
      obtain ⟨pool, hpool, rfl, hdevice, _, _, _, _, _, _, _, _, _, hpoolDetail⟩ :=
        Voice.exists_pool_of_option hplan haction hdetail
      have hkind : pool.isDhcpPool = true := by
        simp [ConfigurationAction.isDhcpPool, hpoolDetail]
      obtain ⟨segment, hmem⟩ := (hconfiguration.mem_iff hkind).mp hpool
      obtain ⟨_, _, _, _, _, _, _, _, _, hcompiled⟩ := hconfiguration.detail_of_mem hmem
      rw [hcompiled] at hpoolDetail
      obtain ⟨rfl, -⟩ := ConfigurationActionDetail.configureDhcpPool.inj hpoolDetail
      have hshort := hsurvive.short segment pool hmem ⟨action, haction, _, _, _, hdetail⟩
      refine ⟨pool, hpool, rfl, hdevice, _, (poolLine?_of_mem hconfiguration hmem).2, ?_⟩
      rw [hheader, String.toList_ofList, (poolHeader_eq_self_iff hname).mpr hshort]
    · intro pool hpool other hother hdevice hne line hline hline'
      obtain ⟨segment, hmem⟩ := exists_segment_of_poolLine? hconfiguration hpool hline
      obtain ⟨segment', hmem'⟩ := exists_segment_of_poolLine? hconfiguration hother hline'
      rw [(poolLine?_of_mem hconfiguration hmem).2] at hline
      rw [(poolLine?_of_mem hconfiguration hmem').2] at hline'
      exact hsurvive.apart segment pool segment' other hmem hmem' hdevice hne
        ((poolHeader_eq_iff segment segment').mp (Option.some.inj (hline.trans hline'.symm)))

end Agreement

/-! ## A site with a short name, and one with a long name -/

/-- A compiler whose digest of a text is the text. -/
def sampleConfigurationCompiler : ConfigurationCompiler where
  digest := id
  upper := asciiUppercase

/-- A router `r1` that leases the addresses of the voice segment of a site, which is called as its
site. -/
def sampleDhcpRequest (site : String) : DhcpRequest where
  devices := .empty
  siteSegments := .ofList [((site, .voice),
    { name := site, hostRequirement := 1, role := .voice, site := site })]
  allocations := .ofList [(site,
    { segmentId := site, network := "10.0.0.0", prefixLength := 30, netmask := "255.255.255.252"
      gateway := "10.0.0.1", firstUsable := "10.0.0.1", lastUsable := "10.0.0.2"
      broadcast := "10.0.0.3", usableHosts := 2, requiredHosts := 2
      growthPercent := .finite ⟨0, 0⟩ })]
  pending := [site]
  gatewayDevices := .ofList [(site, Voice.VoiceCompiler.sampleDevice "r1" "edge_router" site)]

/-- The pools of the site. -/
def sampleOutcomes (site : String) : List (SiteSegment × DhcpOutcome) :=
  (sampleConfigurationCompiler.dhcpActions (sampleDhcpRequest site)).getD []

/-- The actions of the configuration plan of a site with one phone. -/
def sampleActions (site : String) : Except ConfigurationDependencyError (List ConfigurationAction) :=
  orderDependencyActions (Voice.VoiceCompiler.sampleSite site "r1" "phone-1" ++
    (sampleOutcomes site).filterMap (fun entry => entry.2.pool?) ++ [])

/-- The phone of a site wants to be registered at its router. -/
def samplePhoneRequest (site : String) : Voice.VoiceRequest where
  intent :=
    { id := "voice"
      callControlDeviceIds := .ofList [(site, "r1")]
      centralCallControlDeviceId := "r1" }
  topology :=
    { id := "topology", semanticHash := "topology"
      devices := [Voice.VoiceCompiler.sampleDevice "r1" "edge_router" site,
        { Voice.VoiceCompiler.sampleDevice "phone-1" "ip_phone" site with model := "7960" }] }
  configuration :=
    { id := "configuration", sourceTopologyHash := "topology", semanticHash := "configuration"
      actions := (sampleActions site).toOption.getD [] }

/-- A renderer that takes every address as it is. -/
def literalRenderer : Voice.VoiceRenderer where
  ipAddress := .ok
  upper := id
  jsonDumps := id

/-- The address of the phone. -/
def samplePhoneMacs : Dict String String := .ofList [("phone-1", "00:01:02:03:04:05")]

/-- Whether a site of the sample is compiled without an issue and all its actions are ordered. -/
def sampleCompiles (site : String) : Bool :=
  (sampleConfigurationCompiler.dhcpActions (sampleDhcpRequest site)).isSome &&
    (sampleOutcomes site).all (fun entry => entry.2.pool?.isSome) &&
    (sampleActions site).toOption.isSome

/-- The configuration plan of a compiled site is made of its pools. -/
lemma compiledFrom_sample {site : String} (h : sampleCompiles site = true) :
    CompiledFrom sampleConfigurationCompiler (sampleDhcpRequest site) (sampleOutcomes site)
      (samplePhoneRequest site).configuration := by
  rw [sampleCompiles, Bool.and_eq_true, Bool.and_eq_true] at h
  obtain ⟨⟨hcompiled, hpools⟩, hordered⟩ := h
  constructor
  · obtain ⟨outcomes, houtcomes⟩ := Option.isSome_iff_exists.mp hcompiled
    rw [sampleOutcomes, houtcomes, Option.getD_some]
  · intro entry hentry issue hissue
    have hpool := List.all_eq_true.mp hpools entry hentry
    rw [hissue] at hpool
    cases hpool
  · refine ⟨Voice.VoiceCompiler.sampleSite site "r1" "phone-1", [], ?_, ?_⟩
    · intro action haction
      rw [List.append_nil, Voice.VoiceCompiler.sampleSite, List.mem_cons, List.mem_pair] at haction
      rcases haction with rfl | rfl | rfl <;> rfl
    · have hactions : (samplePhoneRequest site).configuration.actions =
          (sampleActions site).toOption.getD [] := rfl
      rw [hactions]
      change sampleActions site = _
      cases hcase : sampleActions site with
      | error e => simp [hcase, Except.toOption] at hordered
      | ok actions => rfl

/-- What the voice compiler emits for the site. -/
def sampleEmitted (site : String) : List Voice.VoiceAction :=
  (Voice.VoiceCompiler.sampleCompiler.contextOf (samplePhoneRequest site)).emittedActions
    Voice.VoiceCompiler.sampleCompiler

/-- Emitted actions that stand after their dependencies and are rendered make an accepted plan. -/
lemma exists_plan_sample {site : String}
    (h : (Voice.VoiceCompiler.sampleCompiler.sourceIssues (samplePhoneRequest site)).any
        (·.severity = .error) = false ∧
      ((sampleEmitted site).map Voice.VoiceAction.id).Nodup ∧
      standInOrder [] (sampleEmitted site) = true)
    (hrendered : (sampleEmitted site).all (fun action =>
      (literalRenderer.renderAction samplePhoneMacs action.detail).toOption.isSome) = true) :
    ∃ plan, (Voice.VoiceCompiler.sampleCompiler.compile (samplePhoneRequest site)).plan =
        some plan ∧
      VoiceAccepted literalRenderer samplePhoneMacs plan ∧
      ∀ action ∈ sampleEmitted site,
        { action with applyDependencies := action.dependsOn } ∈ plan.actions := by
  obtain ⟨actions, hperm, hplan⟩ := Voice.VoiceCompiler.exists_plan_of_standInOrder h
  refine ⟨_, hplan, Voice.voiceAccepted_of_renderAction fun action haction => ?_,
    fun action haction => List.mem_map.mpr ⟨action, hperm.mem_iff.mpr haction, rfl⟩⟩
  obtain ⟨emitted, hemitted, rfl⟩ := List.mem_map.mp haction
  exact List.all_eq_true.mp hrendered emitted (hperm.mem_iff.mp hemitted)

/-- The pool of the site `hq` is one that `poolNamesAgree_iff` speaks of. -/
theorem poolNamesAgree_iff_hq :
    ∃ plan, (Voice.VoiceCompiler.sampleCompiler.compile (samplePhoneRequest "hq")).plan =
        some plan ∧
      (PoolNamesAgree literalRenderer samplePhoneMacs (samplePhoneRequest "hq").configuration
          plan ↔
        NamesSurvive sampleConfigurationCompiler (sampleOutcomes "hq") plan) := by
  have hcompiled : sampleCompiles "hq" = true := by decide
  obtain ⟨plan, hplan, haccepted, -⟩ :=
    @exists_plan_sample "hq" (by decide) (by decide)
  exact ⟨plan, hplan, poolNamesAgree_iff (compiledFrom_sample hcompiled) hplan haccepted⟩

/-- The configuration renderer accepts the pools of a plan. -/
def PoolsAccepted (ipAddress : String → Except String String) (configuration : ConfigurationPlan) :
    Prop :=
  ∀ action ∈ configuration.actions, ∃ lines, renderPool ipAddress action.detail = .ok lines

/-- A site with a long name: its pool is created under the first 32 characters of its name, and
option 150 is added to a pool of the whole name. -/
theorem not_forall_poolNamesAgree :
    ¬∀ (compiler : ConfigurationCompiler) (pools : DhcpRequest)
      (outcomes : List (SiteSegment × DhcpOutcome)) (voice : Voice.VoiceCompiler)
      (request : Voice.VoiceRequest) (plan : Voice.VoicePlan) (renderer : Voice.VoiceRenderer)
      (phoneMacs : Dict String String),
      CompiledFrom compiler pools outcomes request.configuration →
      (voice.compile request).plan = some plan →
      PoolsAccepted renderer.ipAddress request.configuration →
      VoiceAccepted renderer phoneMacs plan →
      PoolNamesAgree renderer phoneMacs request.configuration plan := by
  intro hall
  let site := "hq-buenos-aires-microcentro"
  have hcompiled : sampleCompiles site = true := by decide
  have haccepted : (samplePhoneRequest site).configuration.actions.all (fun action =>
      (renderPool literalRenderer.ipAddress action.detail).toOption.isSome) = true := by
    decide
  obtain ⟨plan, hplan, hrendered, hmem⟩ :=
    @exists_plan_sample site (by decide +kernel) (by decide +kernel)
  have hwrong : ((sampleEmitted site).any fun action =>
      (match action.detail with
        | .configureVoiceDhcpOption .. => true
        | _ => false) &&
      (samplePhoneRequest site).configuration.actions.all fun pool =>
        poolLine? pool ≠ literalRenderer.header samplePhoneMacs action) = true := by
    decide
  obtain ⟨action, haction, hoption⟩ := List.any_eq_true.mp hwrong
  obtain ⟨hkind, hlines⟩ := Bool.and_eq_true_iff.mp hoption
  have hpools : PoolsAccepted literalRenderer.ipAddress
      (samplePhoneRequest site).configuration := by
    intro pool hpool
    have hsome := List.all_eq_true.mp haccepted pool hpool
    cases hcase : renderPool literalRenderer.ipAddress pool.detail with
    | error e => simp [hcase, Except.toOption] at hsome
    | ok lines => exact ⟨lines, rfl⟩
  have hagree := hall _ _ _ _ _ plan _ _ (compiledFrom_sample hcompiled) hplan hpools
    hrendered
  split at hkind
  · next operation name address sourceId hdetail =>
    obtain ⟨pool, hpool, -, -, line, hcreated, hwritten⟩ :=
      hagree.extended _ (hmem action haction) _ _ _ _ hdetail
    have hne := of_decide_eq_true (List.all_eq_true.mp hlines pool hpool)
    exact hne (hcreated.trans hwritten.symm)
  · cases hkind

end PacketTracer
