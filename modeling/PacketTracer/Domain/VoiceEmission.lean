import PacketTracer.Domain.VoiceCompiler

/-!
# What the voice compiler emits

The second half of `compile`: from the phones, their extensions and the call controls of their sites
to the actions, assignments, dial rules, foundations and expectations of a Voice plan.  Every site
of an accepted compilation has the call control named by the site and its host (`ControlsOf`).
-/

namespace PacketTracer

open Dicts PyText Numerals

open SecurityCompiler (deduplicateIssues dependencyActionIds)

namespace Voice

namespace VoiceCompiler

variable (compiler : VoiceCompiler)

/-- What the emission reads: the phones, their extensions and the call controls. -/
structure VoiceContext where
  request : VoiceRequest
  usable : List UsablePhone
  extensions : Dict String String
  controls : CallControls

namespace VoiceContext

variable (context : VoiceContext)

/-- `intent`. -/
def intent : VoiceIntent := context.request.intent

/-- `usable_by_id`. -/
def usableById : Dict String UsablePhone :=
  Dict.ofList (context.usable.map fun item => (item.id, item))

/-- The sites with phones, in their natural order. -/
def sites : List String := compiler.naturallySorted (phonesBySite context.usable).keys

/-- The call controls in their natural order, with what was found about them. -/
def sortedControls : List (String × CallControlData) :=
  (compiler.naturallySorted context.controls.data.keys).filterMap fun controlId =>
    (context.controls.data.get? controlId).map fun data => (controlId, data)

/-- `extensions[phone_id]`: every phone has one when the allocation succeeded. -/
def extensionOf (phoneId : String) : String := (context.extensions.get? phoneId).getD ""

/-- `hosted_phone_ids`. -/
def hostedPhoneIds (data : CallControlData) : List String :=
  compiler.naturallySorted (data.siteIds.flatMap fun siteId =>
    ((phonesBySite context.usable).get? siteId).getD [])

/-- The phones of a call control with their directory indices, from 1 on. -/
def directory (data : CallControlData) : List (String × ℕ) :=
  (context.hostedPhoneIds compiler data).zipIdx 1

/-- `enable_id`. -/
def enableId (controlId : String) : String := compiler.stableId "enable" [controlId]

/-- `source_action_by_control[call_control_id]`. -/
def sourceId (controlId : String) (data : CallControlData) : String :=
  compiler.stableId "source" [controlId, data.source.id]

/-- `extension_id` of a phone at a call control. -/
def extensionId (controlId phoneId : String) : String :=
  compiler.stableId "extension" [controlId, phoneId, context.extensionOf phoneId]

/-- The site of a phone. -/
def siteOf (phoneId : String) : String :=
  ((context.usableById.get? phoneId).map fun item => item.phone.siteId).getD ""

/-- The `EnableCallControl` action of a call control. -/
def enableAction (controlId : String) (data : CallControlData) : VoiceAction :=
  let capacity := (context.intent.callControlCapacities.get? data.host.semanticId).getD
    (context.hostedPhoneIds compiler data).length
  { id := enableId compiler controlId
    phase := .callControl
    callControlId := controlId
    hostDeviceId := data.host.semanticId
    hostDeviceName := data.host.name
    hostModel := data.host.model
    siteId := data.siteIds.headD ""
    requiredCapability := .callControlConfig
    detail := .enableCallControl .setValue capacity capacity context.intent.registrationRequired }

/-- The `ConfigureCallControlSource` action of a call control. -/
def sourceAction (controlId : String) (data : CallControlData) : VoiceAction :=
  { id := sourceId compiler controlId data
    phase := .callControl
    callControlId := controlId
    hostDeviceId := data.host.semanticId
    hostDeviceName := data.host.name
    hostModel := data.host.model
    siteId := data.siteIds.headD ""
    dependsOn := [enableId compiler controlId]
    requiredCapability := .callControlConfig
    detail := .configureCallControlSource .setValue (l3Ipv4 data.source)
      context.intent.policy.signalingPort data.source.id }

/-- The `CreateExtension` action of a phone. -/
def extensionAction (controlId : String) (data : CallControlData) (entry : String × ℕ) :
    VoiceAction :=
  { id := context.extensionId compiler controlId entry.1
    phase := .extensions
    callControlId := controlId
    hostDeviceId := data.host.semanticId
    hostDeviceName := data.host.name
    hostModel := data.host.model
    siteId := context.siteOf entry.1
    dependsOn := [sourceId compiler controlId data]
    requiredCapability := .phoneExtensionConfig
    detail := .createExtension (context.extensionOf entry.1) entry.2 }

/-- The actions of one call control. -/
def controlActions (entry : String × CallControlData) : List VoiceAction :=
  context.enableAction compiler entry.1 entry.2 :: context.sourceAction compiler entry.1 entry.2 ::
    (context.directory compiler entry.2).map (context.extensionAction compiler entry.1 entry.2)

/-- `directory_index_by_phone`. -/
def directoryIndices : Dict String ℕ :=
  Dict.ofList ((context.sortedControls compiler).flatMap fun entry =>
    context.directory compiler entry.2)

/-- `extension_action_by_phone`. -/
def extensionActions : Dict String String :=
  Dict.ofList ((context.sortedControls compiler).flatMap fun entry =>
    (context.directory compiler entry.2).map fun item =>
      (item.1, context.extensionId compiler entry.1 item.1))

/-- The call control of a site, with what was found about it. -/
def controlOf? (siteId : String) : Option (String × CallControlData) :=
  (context.controls.forSite.get? siteId).bind fun controlId =>
    (context.controls.data.get? controlId).map fun data => (controlId, data)

/-- `binding_id` of a phone at a call control. -/
def bindingId (controlId phoneId : String) : String :=
  compiler.stableId "binding" [controlId, phoneId, context.extensionOf phoneId]

/-- The `BindPhoneToExtension` action of a phone. -/
def bindingAction (item : UsablePhone) (control : String × CallControlData) : VoiceAction :=
  { id := context.bindingId compiler control.1 item.id
    phase := .phoneBindings
    callControlId := control.1
    hostDeviceId := control.2.host.semanticId
    hostDeviceName := control.2.host.name
    hostModel := control.2.host.model
    siteId := item.phone.siteId
    dependsOn := [((context.extensionActions compiler).get? item.id).getD ""]
    requiredCapability := .phoneExtensionConfig
    detail := .bindPhoneToExtension .setValue item.id item.phone.name item.phone.model
      (context.extensionOf item.id) (((context.directoryIndices compiler).get? item.id).getD 0 : ℕ)
      context.intent.registrationRequired }

/-- The `PhoneAssignment` of a phone. -/
def assignment (item : UsablePhone) (control : String × CallControlData) : PhoneAssignment :=
  let pool := (dhcpPoolsOf context.request.configuration item.segmentId).head?
  { phoneId := item.id
    physicalDeviceName := item.phone.name
    model := item.phone.model
    siteId := item.phone.siteId
    floorId := item.phone.floorId
    zoneId := item.phone.zoneId
    extension := context.extensionOf item.id
    callControlId := control.1
    voiceVlanId := item.access.phoneVlanId
    voiceSegmentId := item.segmentId
    accessConfigurationActionId := item.access.action.id
    addressingConfigurationActionId := (item.addressing.map ConfigurationAction.id).getD ""
    bindingActionId := context.bindingId compiler control.1 item.id
    addressingInterface :=
      match item.addressing with
      | some action => (addressingData action).1
      | none => s!"Vlan{item.access.phoneVlanId}"
    voiceNetwork :=
      match item.addressing with
      | some action => (addressingData action).2.1
      | none => (pool.map DhcpPool.network).getD ""
    voicePrefix :=
      match item.addressing with
      | some action => (addressingData action).2.2
      | none => (pool.map DhcpPool.prefixLength).getD 0
    metadata := sortedBy toLex item.phone.metadata.entries }

/-- The phones in their natural order, each with the call control of its site. -/
def boundPhones : List (UsablePhone × String × CallControlData) :=
  (compiler.naturallySorted context.usableById.keys).filterMap fun phoneId =>
    (context.usableById.get? phoneId).bind fun item =>
      (context.controlOf? item.phone.siteId).map fun control => (item, control)

/-- `assignments`. -/
def assignments : List PhoneAssignment :=
  (context.boundPhones compiler).map fun bound => context.assignment compiler bound.1 bound.2

/-- The assignments at a call control. -/
def hosted (controlId : String) : List PhoneAssignment :=
  (context.assignments compiler).filter (·.callControlId = controlId)

/-- The DHCP pools of a host on the voice segments of its phones, the first of each segment. -/
def hostPools (entry : String × CallControlData) : List DhcpPool :=
  (sortedBy id ((context.hosted compiler entry.1).map PhoneAssignment.voiceSegmentId).dedup).filterMap
    fun segmentId => (dhcpPoolsOf context.request.configuration segmentId).find? fun pool =>
      pool.action.deviceId = entry.2.host.semanticId

/-- The site of the first phone of a call control. -/
def bootstrapSite (controlId : String) : String :=
  (((context.hosted compiler controlId).map PhoneAssignment.siteId).head?).getD ""

/-- `option_id` of a pool. -/
def optionId (entry : String × CallControlData) (pool : DhcpPool) : String :=
  compiler.stableId "voice-dhcp-option" [entry.1, pool.action.id, l3Ipv4 entry.2.source]

/-- The `ConfigureVoiceDhcpOption` action of a pool. -/
def optionAction (entry : String × CallControlData) (pool : DhcpPool) : VoiceAction :=
  { id := optionId compiler entry pool
    phase := .phoneBootstrap
    callControlId := entry.1
    hostDeviceId := entry.2.host.semanticId
    hostDeviceName := entry.2.host.name
    hostModel := entry.2.host.model
    siteId := context.bootstrapSite compiler entry.1
    dependsOn := [sourceId compiler entry.1 entry.2]
    requiredCapability := .voiceDhcpOptions
    detail := .configureVoiceDhcpOption .setValue pool.poolName (l3Ipv4 entry.2.source)
      pool.action.id }

/-- The foundation of a pool. -/
def optionFoundation (entry : String × CallControlData) (pool : DhcpPool) :
    VoiceFoundationRequirement :=
  { id := compiler.stableId "foundation-voice-dhcp" [entry.1, pool.action.id]
    kind := .voiceDhcpPool
    sourceId := pool.action.id
    deviceId := entry.2.host.semanticId
    siteId := context.bootstrapSite compiler entry.1 }

/-- The bootstrap actions of one call control. -/
def bootstrapActions (entry : String × CallControlData) : List VoiceAction :=
  let pools := context.hostPools compiler entry
  let bindingIds := compiler.naturallySorted
    ((context.hosted compiler entry.1).map PhoneAssignment.bindingActionId)
  pools.map (context.optionAction compiler entry) ++
    [{ id := compiler.stableId "phone-files" [entry.1]
       phase := .phoneBootstrap
       callControlId := entry.1
       hostDeviceId := entry.2.host.semanticId
       hostDeviceName := entry.2.host.name
       hostModel := entry.2.host.model
       siteId := context.bootstrapSite compiler entry.1
       dependsOn := compiler.naturallySorted
         (bindingIds ++ pools.map (optionId compiler entry))
       requiredCapability := .tftpPhoneBootstrap
       detail := .generatePhoneConfigurationFiles }]

/-- `commonprefix` of the two ends of the range of a site. -/
def rangePrefix (siteId : String) : String :=
  let extensionRange := rangeOf context.intent siteId
  String.ofList (commonPrefix (toString extensionRange.start).toList
    (toString extensionRange.stop).toList)

/-- The dial rule of a source site for a destination site, with the action that configures it. -/
def dialRule (sourceSite destinationSite : String) (source destination : String × CallControlData) :
    VoiceAction × DialRule :=
  let isLocal : Bool := sourceSite = destinationSite
  let destinationPrefix := context.rangePrefix destinationSite
  let actionId :=
    if isLocal then compiler.stableId "dial-local" [sourceSite, destinationPrefix]
    else compiler.stableId "dial-intersite" [sourceSite, destinationSite, destinationPrefix]
  ({ id := actionId
     phase := .dialPlan
     callControlId := source.1
     hostDeviceId := source.2.host.semanticId
     hostDeviceName := source.2.host.name
     hostModel := source.2.host.model
     siteId := sourceSite
     dependsOn := [sourceId compiler source.1 source.2]
     requiredCapability := if isLocal then .phoneExtensionConfig else .intersiteCalling
     detail := .configureDialRule sourceSite destinationSite destinationPrefix destination.1
       isLocal },
   { id := if isLocal then s!"dial-rule/{sourceSite}/local"
       else s!"dial-rule/{sourceSite}/{destinationSite}"
     sourceSiteId := sourceSite
     destinationSiteId := destinationSite
     destinationPrefix := destinationPrefix
     destinationCallControlId := destination.1
     isLocal := isLocal
     actionId := actionId })

section Projections

variable {compiler} {context} {sourceSite destinationSite : String}
  {source destination : String × CallControlData}

@[simp] lemma dialRule_sourceSiteId :
    (context.dialRule compiler sourceSite destinationSite source destination).2.sourceSiteId =
      sourceSite := rfl

@[simp] lemma dialRule_destinationPrefix :
    (context.dialRule compiler sourceSite destinationSite source destination).2.destinationPrefix =
      context.rangePrefix destinationSite := rfl

@[simp] lemma dialRule_destinationCallControlId :
    (context.dialRule compiler sourceSite destinationSite source
      destination).2.destinationCallControlId = destination.1 := rfl

end Projections

/-- The rule between two sites that have call controls. -/
def dialRuleBetween? (sourceSite destinationSite : String) : Option (VoiceAction × DialRule) :=
  (context.controlOf? sourceSite).bind fun source =>
    (context.controlOf? destinationSite).map fun destination =>
      context.dialRule compiler sourceSite destinationSite source destination

/-- The rules that keep a call inside its site. -/
def localRules : List (VoiceAction × DialRule) :=
  (context.sites compiler).filterMap fun siteId => context.dialRuleBetween? compiler siteId siteId

/-- The rules between different sites. -/
def intersiteRules : List (VoiceAction × DialRule) :=
  if context.intent.intersiteCalling then
    (context.sites compiler).flatMap fun sourceSite =>
      ((context.sites compiler).filter (sourceSite ≠ ·)).filterMap fun destinationSite =>
        context.dialRuleBetween? compiler sourceSite destinationSite
  else []

/-- All dial rules. -/
def dialRules : List (VoiceAction × DialRule) :=
  context.localRules compiler ++ context.intersiteRules compiler

/-- The actions in the order in which they are emitted. -/
def emittedActions : List VoiceAction :=
  (context.sortedControls compiler).flatMap (context.controlActions compiler) ++
    ((context.boundPhones compiler).map fun bound =>
      context.bindingAction compiler bound.1 bound.2) ++
    (context.sortedControls compiler).flatMap (context.bootstrapActions compiler) ++
    (context.dialRules compiler).map Prod.fst

/-- `foundations` before duplicates are removed. -/
def foundations : List VoiceFoundationRequirement :=
  context.usable.flatMap compiler.phoneFoundations ++ context.controls.foundations ++
    (if context.intent.serviceDependencyIds ≠ [] then
      compiler.serviceFoundations context.request else []) ++
    (context.sortedControls compiler).flatMap fun entry =>
      (context.hostPools compiler entry).map (context.optionFoundation compiler entry)

/-- `_deduplicate_foundations`. -/
def uniqueFoundations : List VoiceFoundationRequirement :=
  let unique := Dict.ofList ((context.foundations compiler).map fun item => (item.id, item))
  (sortedBy id unique.keys).filterMap unique.get?

/-- `_call_controls`. -/
def callControlInstances (actions : List VoiceAction) : List CallControlInstance :=
  (context.sortedControls compiler).map fun entry =>
    { id := entry.1
      siteIds := entry.2.siteIds
      hostDeviceId := entry.2.host.semanticId
      hostDeviceName := entry.2.host.name
      hostModel := entry.2.host.model
      sourceAddress := l3Ipv4 entry.2.source
      sourceConfigurationActionId := entry.2.source.id
      signalingPort := context.intent.policy.signalingPort
      phoneIds := compiler.naturallySorted
        ((context.hosted compiler entry.1).map PhoneAssignment.phoneId)
      actionIds := (actions.filter (·.callControlId = entry.1)).map VoiceAction.id }

end VoiceContext

/-! ## Expectations -/

/-- The expectation that a phone registers. -/
def registrationExpectation (assignment : PhoneAssignment) : VoiceVerificationExpectation :=
  { id := compiler.stableId "verify-registration" [assignment.phoneId]
    kind := .phoneRegistration
    phoneId := assignment.phoneId
    extension := assignment.extension
    callControlId := assignment.callControlId
    actionId := assignment.bindingActionId
    endpointDeviceName := assignment.physicalDeviceName
    endpointInterface := assignment.addressingInterface }

/-- A call expectation with the expectation that verifies it. -/
def verifiedCall (kind : VoiceVerificationKind) (verifyKind : String) (source : PhoneAssignment)
    (expectation : CallExpectation) : CallExpectation × VoiceVerificationExpectation :=
  (expectation,
   { id := compiler.stableId verifyKind [expectation.id]
     kind := kind
     phoneId := source.phoneId
     extension := source.extension
     callControlId := source.callControlId
     actionId := source.bindingActionId
     callExpectationId := expectation.id
     dependsOn := expectation.dependsOn })

/-- The call from one phone of a site to another. -/
def establishedCall (siteId : String) (source target : PhoneAssignment) :
    CallExpectation × VoiceVerificationExpectation :=
  compiler.verifiedCall .callBehavior "verify-call" source
    { id := compiler.stableId "call" [source.phoneId, target.extension, target.phoneId]
      sourcePhoneId := source.phoneId
      sourceExtension := source.extension
      dialedExtension := target.extension
      expectedTargetPhoneId := target.phoneId
      expectedResult := .established
      siteId := siteId
      dependsOn := sortedBy id [(compiler.registrationExpectation source).id,
        (compiler.registrationExpectation target).id] }

/-- The first number behind a range that no phone has; one of the numbers tried is free, since
there are more of them than phones. -/
def negativeNumber (extensionRange : ExtensionRange) (assignments : List PhoneAssignment) : ℤ :=
  (((List.range (assignments.length + 1)).map fun n : ℕ => extensionRange.stop + 1 + n).find?
    fun number => toString number ∉ assignments.map PhoneAssignment.extension).getD
      (extensionRange.stop + 1)

/-- The call to a number nobody has. -/
def negativeCall (siteId : String) (number : ℤ) (source : PhoneAssignment) :
    CallExpectation × VoiceVerificationExpectation :=
  compiler.verifiedCall .callNegativeControl "verify-call-negative" source
    { id := compiler.stableId "call-negative" [source.phoneId, toString number]
      sourcePhoneId := source.phoneId
      sourceExtension := source.extension
      dialedExtension := toString number
      expectedResult := .notConnected
      siteId := siteId
      dependsOn := [(compiler.registrationExpectation source).id] }

/-- The calls of one site, whose phones are given. -/
def siteCalls (request : VoiceRequest) (assignments : List PhoneAssignment)
    (site : String × List PhoneAssignment) : List (CallExpectation × VoiceVerificationExpectation) :=
  let phones := sortedBy (fun item => naturalIdentityKey compiler.casefold item.phoneId) site.2
  (match phones with
    | first :: second :: _ =>
      [compiler.establishedCall site.1 first second, compiler.establishedCall site.1 second first]
    | _ => []) ++
    (match phones with
    | source :: _ =>
      if request.intent.policy.compileNegativeCallControl then
        [compiler.negativeCall site.1 (negativeNumber (rangeOf request.intent site.1) assignments)
          source]
      else []
    | [] => [])

/-- `by_site`. -/
def assignmentsBySite (assignments : List PhoneAssignment) : Dict String (List PhoneAssignment) :=
  assignments.foldl (fun groups item => appendTo groups item.siteId item) .empty

/-- The prerequisites of a verification: its action, and the registrations it depends on. -/
def verificationPrerequisitesOf (verification : VoiceVerificationExpectation) :
    List VerificationPrerequisite :=
  { kind := .actionApplied, referenceId := verification.actionId } ::
    (sortedBy id verification.dependsOn.dedup).map fun identifier =>
      { kind := if verification.kind ≠ .phoneRegistration then .phoneRegistered
          else .verificationVerified
        referenceId := identifier }

/-- The prerequisites of a call: the registrations it depends on. -/
def callPrerequisitesOf (expectation : CallExpectation) : List VerificationPrerequisite :=
  (sortedBy id expectation.dependsOn.dedup).map fun identifier =>
    { kind := .phoneRegistered, referenceId := identifier }

/-- `_expectations`, with the prerequisites that `compile` adds. -/
def expectations (request : VoiceRequest) (assignments : List PhoneAssignment) :
    List CallExpectation × List VoiceVerificationExpectation :=
  let sites := sortedBy (fun site => naturalIdentityKey compiler.casefold site.1)
    (assignmentsBySite assignments).entries
  let calls := sites.flatMap (compiler.siteCalls request assignments)
  let callExpectations := sortedBy (fun item =>
    toLex (naturalIdentityKey compiler.casefold item.sourcePhoneId,
      toLex (item.dialedExtension, item.id))) (calls.map Prod.fst)
  let verifications := sortedBy (fun item => toLex (item.kind.value, toLex (item.phoneId, item.id)))
    (assignments.map compiler.registrationExpectation ++ calls.map Prod.snd)
  (callExpectations.map fun item =>
      { item with verificationPrerequisites := callPrerequisitesOf item },
    verifications.map fun item =>
      { item with verificationPrerequisites := verificationPrerequisitesOf item })

/-! ## Compilation -/

/-- The plan, from the ordered actions. -/
def voicePlan (context : VoiceContext) (actions : List VoiceAction) : VoicePlan :=
  let request := context.request
  let assignments := sortedBy (fun item => naturalIdentityKey compiler.casefold item.phoneId)
    (context.assignments compiler)
  let expected := compiler.expectations request assignments
  let consumed := if request.intent.serviceDependencyIds ≠ [] then request.servicePlan else none
  let plan : VoicePlan :=
    { id := s!"voice-plan/{request.intent.id}"
      sourceTopologyId := request.topology.id
      sourceTopologyHash := request.topology.physicalIdentityHash
      sourceTopologyHashSchema :=
        if request.topology.physicalTopologyHash ≠ "" then "physical-topology-v2"
        else "legacy-full-v1"
      sourceConfigurationId := request.configuration.id
      sourceConfigurationHash := request.configuration.semanticHash
      sourceServiceId := (consumed.map ServicePlan.id).getD ""
      sourceServiceHash := (consumed.map ServicePlan.semanticHash).getD ""
      serviceDependencyIds := sortedBy id request.intent.serviceDependencyIds.dedup
      callControls := context.callControlInstances compiler actions
      phoneAssignments := assignments
      dialRules := sortedBy (fun item =>
        toLex (item.sourceSiteId, toLex (item.destinationSiteId, item.id)))
          ((context.dialRules compiler).map Prod.snd)
      actions := actions.map fun action => { action with applyDependencies := action.dependsOn }
      foundationalRequirements := context.uniqueFoundations compiler
      verificationExpectations := expected.2
      callExpectations := expected.1 }
  { plan with semanticHash := compiler.semanticHash plan }

/-- The extensions of the phones, and the issue when they cannot be allocated. -/
def allocateExtensions (request : VoiceRequest) (usable : List UsablePhone) :
    Dict String String × List ConfigurationIssue :=
  match allocate compiler.casefold (phonesBySite usable) (rangeOf request.intent)
      request.intent.explicitExtensions with
  | .ok extensions => (extensions, [])
  | .error e => (.empty, [voiceError e.code e.message e.subject])

/-- What `compile` has found before it emits actions. -/
def contextOf (request : VoiceRequest) : VoiceContext :=
  let usable := compiler.usablePhones request
  { request := request
    usable := usable
    extensions := (compiler.allocateExtensions request usable).1
    controls := compiler.callControls request usable }

/-- The issues that were found before actions are emitted. -/
def sourceIssues (request : VoiceRequest) : List ConfigurationIssue :=
  let context := compiler.contextOf request
  validateSources request ++ compiler.missingPhoneIssues request ++ compiler.phoneIssues request ++
    (compiler.allocateExtensions request context.usable).2 ++ context.controls.issues

/-- `compile`. -/
def compile (request : VoiceRequest) : VoiceCompileResult :=
  let context := compiler.contextOf request
  let issues := compiler.sourceIssues request
  if issues.any (·.severity = .error) then { issues := deduplicateIssues issues }
  else
    match orderDependencyActions (context.emittedActions compiler) with
    | .error e =>
      { issues := deduplicateIssues (issues ++ [voiceError .dependencyCycle e.message
          (String.intercalate "," (dependencyActionIds e))]) }
    | .ok actions =>
      let plan := compiler.voicePlan context actions
      { plan := some plan, semanticHash := plan.semanticHash, issues := deduplicateIssues issues }

variable {compiler : VoiceCompiler} {request : VoiceRequest}

/-- Where the sources have no error, emitted actions that stand after their dependencies make a
plan. -/
lemma exists_plan_of_standInOrder
    (h : (compiler.sourceIssues request).any (·.severity = .error) = false ∧
      (((compiler.contextOf request).emittedActions compiler).map VoiceAction.id).Nodup ∧
      standInOrder [] ((compiler.contextOf request).emittedActions compiler) = true) :
    ∃ actions, actions.Perm ((compiler.contextOf request).emittedActions compiler) ∧
      (compiler.compile request).plan =
        some (compiler.voicePlan (compiler.contextOf request) actions) := by
  obtain ⟨hissues, hnodup, hstand⟩ := h
  obtain ⟨actions, hactions⟩ := exists_order_of_standInOrder hnodup hstand
  refine ⟨actions, (spec_orderDependencyActions hactions).1, ?_⟩
  simp [compile, hissues, hactions]

/-! ## Phones and sites -/

lemma getD_phonesBySite (usable : List UsablePhone) (siteId : String) :
    ((phonesBySite usable).get? siteId).getD [] =
      (usable.filter (·.phone.siteId = siteId)).map UsablePhone.id := by
  have hfold := getD_foldl_appendTo usable (fun item => item.phone.siteId) UsablePhone.id .empty
    siteId
  simpa [phonesBySite] using hfold

variable {usable : List UsablePhone} {siteId : String}

lemma mem_keys_phonesBySite :
    siteId ∈ (phonesBySite usable).keys ↔ ∃ item ∈ usable, item.phone.siteId = siteId := by
  have hfold := isSome_foldl_appendTo usable (fun item => item.phone.siteId) UsablePhone.id .empty
    siteId
  rw [← Dict.isSome_get?_iff_mem_keys]
  simpa [phonesBySite] using hfold

variable {identifiers : List String} {phone : Plans.DevicePlan} {item : UsablePhone}
  {issues more : List ConfigurationIssue} {controls : CallControls}
  {control : String × CallControlData}

@[simp] lemma mem_naturallySorted {identifier : String} :
    identifier ∈ compiler.naturallySorted identifiers ↔ identifier ∈ identifiers :=
  mem_sortedBy

lemma nodup_naturallySorted : (compiler.naturallySorted identifiers).Nodup ↔ identifiers.Nodup :=
  (perm_sortedBy _ _).nodup_iff

lemma semanticId_of_phoneOf? {phoneId : String} (h : phoneOf? request phoneId = some phone) :
    phone.semanticId = phoneId := by
  obtain ⟨hget, -⟩ := Option.filter_eq_some_iff.mp h
  obtain ⟨item, -, hitem⟩ := List.mem_map.mp (Dict.mem_of_get?_ofList hget)
  have hkey : item.semanticId = phoneId := congrArg Prod.fst hitem
  have hvalue : item = phone := congrArg Prod.snd hitem
  rwa [← hvalue]

lemma phone_of_readPhone (h : readPhone request phone = .ok item) : item.phone = phone := by
  unfold readPhone at h
  simp only at h
  split at h
  · simp at h
  · split_ifs at h
    cases h
    rfl

lemma nodup_requestedIds : (compiler.requestedIds request).Nodup := by
  refine nodup_naturallySorted.mpr ?_
  rw [(compiler.setOrder.perm _).nodup_iff]
  split_ifs
  · exact List.nodup_dedup _
  · exact (Dict.keysNodup _).filter _

lemma sublist_of_filterMap {α β : Type} {f : α → Option β} {g : β → α} {as : List α}
    (h : ∀ a b, f a = some b → g b = a) : ((as.filterMap f).map g).Sublist as := by
  induction as with
  | nil => simp
  | cons a as ih =>
    rw [List.filterMap_cons]
    cases hf : f a with
    | none => exact ih.cons a
    | some b => simpa [h a b hf] using ih

/-- **Every phone is read once**: the identifiers of the usable phones are pairwise distinct. -/
lemma nodup_usablePhones : ((compiler.usablePhones request).map UsablePhone.id).Nodup := by
  have hread : ((compiler.usablePhones request).map UsablePhone.phone).Sublist
      (compiler.requestedPhones request) := by
    refine sublist_of_filterMap fun phone item hitem => ?_
    cases hphone : readPhone request phone with
    | error issue => simp [hphone, Except.toOption] at hitem
    | ok read =>
      obtain rfl : read = item := by simpa [hphone, Except.toOption] using hitem
      exact phone_of_readPhone hphone
  have hrequested : ((compiler.requestedPhones request).map Plans.DevicePlan.semanticId).Sublist
      (compiler.requestedIds request) :=
    sublist_of_filterMap fun _ _ hphone => semanticId_of_phoneOf? hphone
  have hids : (compiler.usablePhones request).map UsablePhone.id =
      ((compiler.usablePhones request).map UsablePhone.phone).map Plans.DevicePlan.semanticId := by
    rw [List.map_map]
    rfl
  rw [hids]
  exact nodup_requestedIds.sublist ((hread.map _).trans hrequested)

/-! ## The loop over the sites -/

/-- The call control of a site: named by the site and its host. -/
def siteControlId (request : VoiceRequest) (siteId : String) : String :=
  callControlId siteId (hostIdOf request.intent siteId)

/-- The devices that host the call controls of sites, by call control.  Should two sites name the
same call control, the host of the later one counts. -/
def controlHosts (request : VoiceRequest) (siteIds : List String) : Dict String Plans.DevicePlan :=
  Dict.ofList (siteIds.filterMap fun siteId =>
    ((devicesOf request).get? (hostIdOf request.intent siteId)).map fun host =>
      (siteControlId request siteId, host))

/-- What the loop over the sites knows about the sites done so far. -/
structure ControlsOf (request : VoiceRequest) (done : List String) (controls : CallControls) :
    Prop where
  forSite : ∀ siteId, controls.forSite.get? siteId =
    if siteId ∈ done then some (siteControlId request siteId) else none
  known : ∀ controlId, (controls.data.get? controlId).isSome ↔
    ∃ siteId ∈ done, siteControlId request siteId = controlId
  siteIds : ∀ controlId data, controls.data.get? controlId = some data →
    ∀ siteId, siteId ∈ data.siteIds ↔ siteId ∈ done ∧ siteControlId request siteId = controlId
  nodup : ∀ controlId data, controls.data.get? controlId = some data → data.siteIds.Nodup
  hosts : ∀ controlId, (controls.data.get? controlId).map CallControlData.host =
    (controlHosts request done).get? controlId

/-- No error was reported. -/
def Faultless (issues : List ConfigurationIssue) : Prop :=
  issues.any (·.severity = .error) = false

lemma Faultless.left (h : Faultless (issues ++ more)) : Faultless issues := by
  simp only [Faultless, List.any_append, Bool.or_eq_false_iff] at h
  exact h.1

lemma Faultless.right (h : Faultless (issues ++ more)) : Faultless more := by
  simp only [Faultless, List.any_append, Bool.or_eq_false_iff] at h
  exact h.2

/-- An iteration without an error finds the host and a source address. -/
lemma addCallControl_of_faultless
    (h : Faultless (compiler.addCallControl request usable controls siteId).issues) :
    Faultless controls.issues ∧
      ∃ host source, (devicesOf request).get? (hostIdOf request.intent siteId) = some host ∧
        (compiler.addCallControl request usable controls siteId).forSite =
          controls.forSite.set siteId (siteControlId request siteId) ∧
        (compiler.addCallControl request usable controls siteId).data =
          controls.data.set (siteControlId request siteId)
            { host := host
              source := source
              siteIds := sortedBy id
                ((((controls.data.get? (siteControlId request siteId)).map
                  CallControlData.siteIds).getD []) ++ [siteId]).dedup } := by
  unfold addCallControl at h ⊢
  rcases hhost : (devicesOf request).get? (hostIdOf request.intent siteId) with _ | host
  · simp only [hhost] at h
    have herror := h.right
    simp [Faultless, voiceError] at herror
  simp only [hhost] at h ⊢
  cases hsource : sourceCandidates request usable siteId (hostIdOf request.intent siteId) with
  | nil =>
    simp only [hsource] at h
    have herror := h.right
    simp [Faultless, voiceError] at herror
  | cons source others =>
    simp only [hsource] at h
    exact ⟨h.left, host, source, rfl, rfl, rfl⟩

/-- One more site. -/
lemma ControlsOf.concat {done : List String} (hcontrols : ControlsOf request done controls)
    (h : Faultless (compiler.addCallControl request usable controls siteId).issues) :
    ControlsOf request (done ++ [siteId]) (compiler.addCallControl request usable controls siteId) := by
  obtain ⟨-, host, source, hhost, hforSite, hdata⟩ := addCallControl_of_faultless h
  refine ⟨fun other => ?_, fun controlId => ?_, fun controlId data hget other => ?_,
    fun controlId data hget => ?_, fun controlId => ?_⟩
  · rw [hforSite, Dict.get?_set, hcontrols.forSite]
    by_cases hother : siteId = other
    · simp [hother]
    · simp [hother, Ne.symm hother]
  · rw [hdata, Dict.get?_set]
    by_cases hid : siteControlId request siteId = controlId
    · simp only [hid, if_true, Option.isSome_some, true_iff]
      exact ⟨siteId, by simp, hid⟩
    simp only [hid, if_false, hcontrols.known, List.mem_append, List.mem_singleton]
    constructor
    · rintro ⟨other, hother, rfl⟩
      exact ⟨other, Or.inl hother, rfl⟩
    · rintro ⟨other, hother | rfl, rfl⟩
      · exact ⟨other, hother, rfl⟩
      · exact absurd rfl hid
  · rw [hdata, Dict.get?_set] at hget
    by_cases hid : siteControlId request siteId = controlId
    · rw [if_pos hid] at hget
      cases hget
      rw [mem_sortedBy, List.mem_dedup, List.mem_append, List.mem_singleton]
      subst hid
      have hold : other ∈ ((controls.data.get? (siteControlId request siteId)).map
          CallControlData.siteIds).getD [] ↔
          other ∈ done ∧ siteControlId request other = siteControlId request siteId := by
        cases hget' : controls.data.get? (siteControlId request siteId) with
        | some data' => simpa using hcontrols.siteIds _ data' hget' other
        | none =>
          have hunknown := hcontrols.known (siteControlId request siteId)
          simp only [hget', Option.isSome_none, Bool.false_eq_true, false_iff] at hunknown
          simp only [Option.map_none, Option.getD_none, List.not_mem_nil, false_iff]
          exact fun hother => hunknown ⟨other, hother.1, hother.2⟩
      rw [hold, List.mem_append, List.mem_singleton]
      constructor
      · rintro (⟨hother, heq⟩ | rfl)
        · exact ⟨Or.inl hother, heq⟩
        · exact ⟨Or.inr rfl, rfl⟩
      · rintro ⟨hother | rfl, heq⟩
        · exact Or.inl ⟨hother, heq⟩
        · exact Or.inr rfl
    · rw [if_neg hid] at hget
      rw [hcontrols.siteIds controlId data hget other, List.mem_append, List.mem_singleton]
      constructor
      · rintro ⟨hother, heq⟩
        exact ⟨Or.inl hother, heq⟩
      · rintro ⟨hother | rfl, heq⟩
        · exact ⟨hother, heq⟩
        · exact absurd heq hid
  · rw [hdata, Dict.get?_set] at hget
    by_cases hid : siteControlId request siteId = controlId
    · rw [if_pos hid] at hget
      cases hget
      exact (perm_sortedBy _ _).nodup_iff.mpr (List.nodup_dedup _)
    · rw [if_neg hid] at hget
      exact hcontrols.nodup controlId data hget
  · have hconcat : controlHosts request (done ++ [siteId]) =
        (controlHosts request done).set (siteControlId request siteId) host := by
      simp [controlHosts, List.filterMap_append, hhost, Dict.ofList, Dict.setAll]
    rw [hconcat, hdata, Dict.get?_set, Dict.get?_set, ← hcontrols.hosts]
    split_ifs <;> rfl

/-- **The call controls of the sites**, when the loop reports no error. -/
lemma controlsOf_callControls (h : Faultless (compiler.callControls request usable).issues) :
    ControlsOf request (compiler.naturallySorted (phonesBySite usable).keys)
      (compiler.callControls request usable) := by
  suffices hall : ∀ done : List String,
      Faultless (done.foldl (compiler.addCallControl request usable) {}).issues →
        ControlsOf request done (done.foldl (compiler.addCallControl request usable) {}) from
    hall _ h
  intro done
  induction done using List.reverseRecOn with
  | nil =>
    intro _
    exact ⟨fun _ => by simp, fun _ => by simp, fun _ _ hget => by simp at hget,
      fun _ _ hget => by simp at hget, fun _ => by simp [controlHosts, Dict.ofList, Dict.setAll]⟩
  | append_singleton done siteId ih =>
    intro h
    rw [List.foldl_append, List.foldl_cons, List.foldl_nil] at h ⊢
    exact (ih (addCallControl_of_faultless h).1).concat h

/-! ## Accepted compilations -/

/-- The sites with phones, in their natural order. -/
def voiceSites (compiler : VoiceCompiler) (request : VoiceRequest) : List String :=
  compiler.naturallySorted (phonesBySite (compiler.usablePhones request)).keys

/-- **An accepted compilation** reports no error and puts its actions in the order of their
dependencies. -/
lemma exists_of_compile {plan : VoicePlan} (h : (compiler.compile request).plan = some plan) :
    Faultless (compiler.sourceIssues request) ∧
      ∃ actions, orderDependencyActions ((compiler.contextOf request).emittedActions compiler) =
          .ok actions ∧ plan = compiler.voicePlan (compiler.contextOf request) actions := by
  unfold compile at h
  simp only at h
  split_ifs at h with herror
  refine ⟨Bool.eq_false_iff.mpr herror, ?_⟩
  cases horder : orderDependencyActions ((compiler.contextOf request).emittedActions compiler) with
  | error e => simp [horder] at h
  | ok actions =>
    simp only [horder, Option.some.injEq] at h
    exact ⟨actions, rfl, h.symm⟩

lemma controlsOf_contextOf (h : Faultless (compiler.sourceIssues request)) :
    ControlsOf request (voiceSites compiler request) (compiler.contextOf request).controls :=
  controlsOf_callControls h.right

lemma mem_voiceSites :
    siteId ∈ voiceSites compiler request ↔
      ∃ item ∈ compiler.usablePhones request, item.phone.siteId = siteId := by
  rw [voiceSites, mem_naturallySorted, mem_keys_phonesBySite]

lemma controlOf?_eq_some (h : Faultless (compiler.sourceIssues request))
    (hsite : siteId ∈ voiceSites compiler request) :
    ∃ data, (compiler.contextOf request).controls.data.get? (siteControlId request siteId) =
        some data ∧
      (compiler.contextOf request).controlOf? siteId = some (siteControlId request siteId, data) := by
  have hcontrols := controlsOf_contextOf h
  obtain ⟨data, hdata⟩ := Option.isSome_iff_exists.mp
    ((hcontrols.known (siteControlId request siteId)).mpr ⟨siteId, hsite, rfl⟩)
  refine ⟨data, hdata, ?_⟩
  rw [VoiceContext.controlOf?, hcontrols.forSite, if_pos hsite, Option.bind_some, hdata,
    Option.map_some]

lemma eq_of_controlOf? (h : Faultless (compiler.sourceIssues request))
    (hcontrol : (compiler.contextOf request).controlOf? siteId = some control) :
    siteId ∈ voiceSites compiler request ∧ control.1 = siteControlId request siteId ∧
      (compiler.contextOf request).controls.data.get? control.1 = some control.2 := by
  have hcontrols := controlsOf_contextOf h
  obtain ⟨controlId, hcontrolId, hdata⟩ := Option.bind_eq_some_iff.mp hcontrol
  obtain ⟨data, hget, rfl⟩ := Option.map_eq_some_iff.mp hdata
  rw [hcontrols.forSite] at hcontrolId
  split_ifs at hcontrolId with hsite
  exact ⟨hsite, (Option.some.inj hcontrolId).symm, hget⟩

/-- The phones that are bound are the usable ones, each to the call control of its site. -/
lemma mem_boundPhones :
    (item, control) ∈ (compiler.contextOf request).boundPhones compiler ↔
      item ∈ compiler.usablePhones request ∧
        (compiler.contextOf request).controlOf? item.phone.siteId = some control := by
  have hnodup : (((compiler.contextOf request).usable.map fun item => (item.id, item)).map
      Prod.fst).Nodup := by
    rw [List.map_map]
    exact nodup_usablePhones
  rw [VoiceContext.boundPhones, List.mem_filterMap]
  constructor
  · rintro ⟨phoneId, -, hbound⟩
    obtain ⟨item', hitem', hmap⟩ := Option.bind_eq_some_iff.mp hbound
    obtain ⟨control', hcontrol', heq⟩ := Option.map_eq_some_iff.mp hmap
    cases heq
    obtain ⟨found, hfound, hentry⟩ := List.mem_map.mp (Dict.mem_of_get?_ofList hitem')
    have hvalue : found = item := congrArg Prod.snd hentry
    exact ⟨hvalue ▸ hfound, hcontrol'⟩
  · rintro ⟨hitem, hcontrol⟩
    have hget : (compiler.contextOf request).usableById.get? item.id = some item :=
      Dict.get?_ofList_of_mem hnodup (List.mem_map_of_mem hitem)
    refine ⟨item.id, ?_, by rw [hget, Option.bind_some, hcontrol, Option.map_some]⟩
    rw [mem_naturallySorted, ← Dict.isSome_get?_iff_mem_keys, hget]
    rfl

end VoiceCompiler
end Voice
end PacketTracer
