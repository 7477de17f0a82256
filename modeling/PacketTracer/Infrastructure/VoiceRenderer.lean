import PacketTracer.Domain.DialPlan

/-!
# One `ephone` for each phone of a device

`voice_renderer.py`: an extension becomes an `ephone-dn` and a phone an `ephone`, both under the
directory index of the action.  The compiler counts the indices of each call control from 1 on, so
`DirectoryCorrect` holds exactly when no device hosts two call controls (`directoryCorrect_iff`).
The texts of IP addresses, `str.upper` and `json.dumps` are parameters.
-/

namespace PacketTracer

open Dicts PyText Fallible

namespace Voice

/-- `PacketTracerVoiceRenderer`, with what it takes from Python: `ipAddress` is
`str(ipaddress.ip_address(…))`, or the message of its `ValueError`. -/
structure VoiceRenderer where
  ipAddress : String → Except String String
  upper : String → String
  jsonDumps : String → String

/-- `RenderedVoiceBatch`. -/
structure RenderedVoiceBatch where
  deviceName : String
  phase : VoicePhase
  actionIds : List String
  iosPayload : String
  jsCall : String
  deriving DecidableEq

/-- `_PHONE_TYPES`. -/
def phoneTypes : Dict String String := Dict.ofList [("7960", "7960"), ("CIPC", "CIPC"), ("ATA", "ata")]

/-- A hexadecimal digit. -/
def isHexDigit (c : Char) : Bool :=
  c.isDigit || ('a' ≤ c && c ≤ 'f') || ('A' ≤ c && c ≤ 'F')

/-- `_mac`: twelve hexadecimal digits in three groups. -/
def macText (value : String) : Except String String :=
  let compact := value.toList.filter (· ∉ ['.', ':', '-'])
  if compact.length = 12 ∧ compact.all isHexDigit then
    let lower := compact.map Char.toLower
    .ok (String.intercalate "." [String.ofList (lower.take 4),
      String.ofList ((lower.drop 4).take 4), String.ofList (lower.drop 8)])
  else .error "Phone MAC is missing or malformed."

/-- `_POOL_NAME`. -/
def isPoolName (name : String) : Bool :=
  1 ≤ name.toList.length && name.toList.length ≤ 64 &&
    name.toList.all fun c => c.isAlphanum || c ∈ ['_', '.', '-']

/-- The opening line of an extension. -/
def extensionHeader (index : ℤ) : String := "ephone-dn " ++ toString index

/-- The opening line of a phone. -/
def phoneHeader (index : ℤ) : String := "ephone " ++ toString index

namespace VoiceRenderer

variable (renderer : VoiceRenderer) (phoneMacs : Dict String String)

/-- One action of the loop of `_render_body`. -/
def renderAction : VoiceActionDetail → Except String (List String)
  | .enableCallControl _ maxPhones maxExtensions _ =>
    if ¬(1 ≤ maxPhones ∧ maxPhones ≤ 144) ∨ ¬(1 ≤ maxExtensions ∧ maxExtensions ≤ 144) then
      .error ("Typed CME structural capacity must be between 1 and 144; " ++
        "live Packet Tracer acceptance is qualified separately.")
    else
      .ok ["telephony-service", s!" max-ephones {maxPhones}", s!" max-dn {maxExtensions}",
        " no auto-reg-ephone", " exit"]
  | .configureCallControlSource _ sourceAddress signalingPort _ => do
    let address ← renderer.ipAddress sourceAddress
    if ¬(2000 ≤ signalingPort ∧ signalingPort ≤ 9999) then
      .error "Call-control signaling port is outside PT IOS bounds."
    else
      .ok ["telephony-service", s!" ip source-address {address} port {signalingPort}", " exit"]
  | .createExtension extension directoryIndex =>
    if isAsciiDigits extension = false then .error "Extension must contain ASCII digits only."
    else .ok [extensionHeader directoryIndex, s!" number {extension}", " exit"]
  | .bindPhoneToExtension _ phoneId _ phoneModel _ directoryIndex _ => do
    let mac ← macText ((phoneMacs.get? phoneId).getD "")
    match phoneTypes.get? (renderer.upper phoneModel) with
    | none => .error s!"No trusted PT ephone type for {quoted phoneModel}."
    | some phoneType =>
      .ok [phoneHeader directoryIndex, s!" mac-address {mac}", s!" type {phoneType}",
        s!" button 1:{directoryIndex}", " exit"]
  | .configureVoiceDhcpOption _ poolName tftpAddress _ =>
    if isPoolName poolName = false then .error "DHCP pool name is outside the trusted IOS subset."
    else do
      let address ← renderer.ipAddress tftpAddress
      .ok [s!"ip dhcp pool {poolName}", s!" option 150 ip {address}", " exit"]
  | .generatePhoneConfigurationFiles => .ok ["telephony-service", " create cnf-files", " exit"]
  | .configureDialRule _ _ _ _ isLocal =>
    if isLocal then .ok [] else .error "Packet Tracer intersite voice rendering is not verified."

/-- `_render_body`. -/
def renderBody (actions : List VoiceAction) : Except String (List String) := do
  let lines ← actions.mapM fun action => renderer.renderAction phoneMacs action.detail
  return lines.flatten

/-- The key by which the actions of a phase are sorted. -/
def sortKey (action : VoiceAction) : ℤ ×ₗ String :=
  match action.detail with
  | .bindPhoneToExtension _ _ _ _ _ directoryIndex _ => toLex (directoryIndex, action.id)
  | _ => toLex (0, action.id)

/-- The actions of one phase that are rendered together: each binding on its own. -/
def actionGroups (phase : VoicePhase) (actions : List VoiceAction) : List (List VoiceAction) :=
  if phase = .phoneBindings then (sortedBy sortKey actions).map fun action => [action]
  else [sortedBy sortKey actions]

/-- The batch of one group, when it has commands. -/
def renderGroup (deviceName : String) (phase : VoicePhase) (actions : List VoiceAction) :
    Except String (Option RenderedVoiceBatch) := do
  let body ← renderer.renderBody phoneMacs actions
  if body = [] then return none
  else
    let payload := String.intercalate "\n"
      (["enable", "configure terminal"] ++ body ++ ["end", "write memory"])
    return some
      { deviceName := deviceName
        phase := phase
        actionIds := actions.map VoiceAction.id
        iosPayload := payload
        jsCall := "configureIosDevice(" ++ renderer.jsonDumps deviceName ++ "," ++
          renderer.jsonDumps payload ++ ");" }

/-- `render_device_batches`. -/
def renderDeviceBatches (deviceName : String) (actions : List VoiceAction) :
    Except String (List RenderedVoiceBatch) := do
  let hosted := actions.filter (·.hostDeviceName = deviceName)
  let phases := sortedBy VoicePhase.value (hosted.map VoiceAction.phase).dedup
  let batches ← (phases.flatMap fun phase =>
      (actionGroups phase (hosted.filter (·.phase = phase))).map fun group => (phase, group)).mapM
    fun group => renderer.renderGroup phoneMacs deviceName group.1 group.2
  return batches.filterMap id

end VoiceRenderer

/-! ## Opening lines -/

/-- The extension that an action creates or binds. -/
def VoiceAction.extension? (action : VoiceAction) : Option String :=
  (action.created?.map Prod.fst).or (action.bound?.map fun bound => bound.2.1)

variable {action : VoiceAction} {extension : String} {index : ℤ}

lemma VoiceAction.extension?_of_created (h : action.created? = some (extension, index)) :
    action.extension? = some extension := by
  simp [VoiceAction.extension?, h]

lemma VoiceAction.extension?_of_bound {phoneId : String}
    (h : action.bound? = some (phoneId, extension, index)) :
    action.extension? = some extension := by
  have hcreated : action.created? = none := by
    unfold VoiceAction.bound? at h
    unfold VoiceAction.created?
    cases hdetail : action.detail <;> simp [hdetail] at h ⊢
  simp [VoiceAction.extension?, hcreated, h]

namespace VoiceRenderer

variable (renderer : VoiceRenderer) (phoneMacs : Dict String String)

/-- The line with which the commands of an action open a section. -/
def header (action : VoiceAction) : Option String :=
  (renderer.renderAction phoneMacs action.detail).toOption.bind List.head?

variable {renderer phoneMacs} {line : String} {index' : ℤ}

lemma renderAction_of_header (h : renderer.header phoneMacs action = some line) :
    ∃ lines, renderer.renderAction phoneMacs action.detail = .ok lines ∧ lines.head? = some line := by
  obtain ⟨lines, hlines, hhead⟩ := Option.bind_eq_some_iff.mp h
  refine ⟨lines, ?_, hhead⟩
  cases hrender : renderer.renderAction phoneMacs action.detail with
  | error message => simp [hrender, Except.toOption] at hlines
  | ok rendered => simpa [hrender, Except.toOption] using hlines

/-- **What an opening line says**: the index of an extension, the index of a phone, or something
that neither opens with. -/
lemma header_eq_some (h : renderer.header phoneMacs action = some line) :
    (∃ extension index, action.created? = some (extension, index) ∧
        line = extensionHeader index) ∨
      (∃ phoneId extension index, action.bound? = some (phoneId, extension, index) ∧
        line = phoneHeader index) ∨
      (action.extension? = none ∧ line.toList.head? ≠ some 'e') := by
  obtain ⟨lines, hlines, hhead⟩ := renderAction_of_header h
  unfold VoiceAction.extension? VoiceAction.created? VoiceAction.bound?
  cases hdetail : action.detail with
  | createExtension extension index =>
    left
    rw [hdetail, renderAction] at hlines
    split_ifs at hlines
    cases hlines
    exact ⟨extension, index, rfl, (Option.some.inj hhead).symm⟩
  | bindPhoneToExtension operation phoneId deviceName model extension index required =>
    right; left
    rw [hdetail, renderAction] at hlines
    obtain ⟨mac, -, hlines⟩ := bind_eq_ok.mp hlines
    split at hlines
    · simp at hlines
    · cases hlines
      exact ⟨phoneId, extension, index, rfl, (Option.some.inj hhead).symm⟩
  | enableCallControl operation maxPhones maxExtensions required =>
    right; right
    rw [hdetail, renderAction] at hlines
    split_ifs at hlines
    cases hlines
    obtain rfl : "telephony-service" = line := Option.some.inj hhead
    exact ⟨rfl, by decide⟩
  | configureCallControlSource operation address port sourceId =>
    right; right
    rw [hdetail, renderAction] at hlines
    obtain ⟨text, -, hlines⟩ := bind_eq_ok.mp hlines
    split_ifs at hlines
    cases hlines
    obtain rfl : "telephony-service" = line := Option.some.inj hhead
    exact ⟨rfl, by decide⟩
  | configureVoiceDhcpOption operation poolName address sourceId =>
    right; right
    rw [hdetail, renderAction] at hlines
    split_ifs at hlines
    obtain ⟨text, -, hlines⟩ := bind_eq_ok.mp hlines
    cases hlines
    obtain rfl : s!"ip dhcp pool {poolName}" = line := Option.some.inj hhead
    exact ⟨rfl, by simp [toString, String.toList_append]⟩
  | generatePhoneConfigurationFiles =>
    right; right
    rw [hdetail, renderAction] at hlines
    cases hlines
    obtain rfl : "telephony-service" = line := Option.some.inj hhead
    exact ⟨rfl, by decide⟩
  | configureDialRule source destination destinationPrefix controlId isLocal =>
    rw [hdetail, renderAction] at hlines
    split_ifs at hlines
    cases hlines
    simp at hhead

lemma extensionHeader_ne_phoneHeader (index index' : ℤ) :
    extensionHeader index ≠ phoneHeader index' := by
  intro h
  have htake := congrArg (fun line : String => line.toList.take 7) h
  simp [extensionHeader, phoneHeader, String.toList_append] at htake

lemma eq_of_extensionHeader (hindex : 0 ≤ index) (hindex' : 0 ≤ index')
    (h : extensionHeader index = extensionHeader index') : index = index' := by
  have htext : toString index = toString index' := by
    simpa [extensionHeader] using h
  rw [← extensionNumber_toString hindex, htext, extensionNumber_toString hindex']

lemma eq_of_phoneHeader (hindex : 0 ≤ index) (hindex' : 0 ≤ index')
    (h : phoneHeader index = phoneHeader index') : index = index' := by
  have htext : toString index = toString index' := by
    simpa [phoneHeader] using h
  rw [← extensionNumber_toString hindex, htext, extensionNumber_toString hindex']

lemma head_extensionHeader (index : ℤ) : (extensionHeader index).toList.head? = some 'e' := by
  simp [extensionHeader, String.toList_append]

lemma head_phoneHeader (index : ℤ) : (phoneHeader index).toList.head? = some 'e' := by
  simp [phoneHeader, String.toList_append]

end VoiceRenderer

/-! ## Directories of a plan -/

/-- No two phones share an index or a section on a device, and a phone is bound to the index of its
own extension. -/
structure DirectoryCorrect (renderer : VoiceRenderer) (plan : VoicePlan) : Prop where
  /-- An extension belongs to one phone. -/
  assigned : ∀ x ∈ plan.phoneAssignments, ∀ y ∈ plan.phoneAssignments,
    x.extension = y.extension → x.phoneId = y.phoneId
  /-- On a device, an index is created for one extension. -/
  created : ∀ a ∈ plan.actions, ∀ b ∈ plan.actions, a.SameHost b →
    ∀ extension extension' index, a.created? = some (extension, index) →
      b.created? = some (extension', index) → extension = extension'
  /-- On a device, an index is bound to one phone. -/
  bound : ∀ a ∈ plan.actions, ∀ b ∈ plan.actions, a.SameHost b →
    ∀ phoneId phoneId' extension extension' index,
      a.bound? = some (phoneId, extension, index) →
      b.bound? = some (phoneId', extension', index) → phoneId = phoneId'
  /-- A phone is bound after its extension was created on the device, under the same index. -/
  own : ∀ b ∈ plan.actions, ∀ phoneId extension index,
    b.bound? = some (phoneId, extension, index) →
      ∃ a ∈ plan.actions, a.id ∈ b.dependsOn ∧ a.hostDeviceId = b.hostDeviceId ∧
        a.hostDeviceName = b.hostDeviceName ∧ a.created? = some (extension, index)
  /-- On a device, the commands of different extensions open different sections. -/
  rendered : ∀ phoneMacs, ∀ a ∈ plan.actions, ∀ b ∈ plan.actions,
    a.hostDeviceName = b.hostDeviceName → a.extension?.isSome → ∀ line,
      renderer.header phoneMacs a = some line → renderer.header phoneMacs b = some line →
        a.extension? = b.extension?

namespace VoiceCompiler

variable {compiler : VoiceCompiler} {request : VoiceRequest} {plan : VoicePlan}
  {renderer : VoiceRenderer}

/-- Phones with the same extension are the same phone. -/
lemma id_eq_of_extensionOf (h : Faultless (compiler.sourceIssues request)) {item other : UsablePhone}
    (hitem : item ∈ compiler.usablePhones request) (hother : other ∈ compiler.usablePhones request)
    (hextension : (compiler.contextOf request).extensionOf item.id =
      (compiler.contextOf request).extensionOf other.id) : item.id = other.id := by
  obtain ⟨-, htotal, hinjective, -⟩ := allocate_correct (allocate_of_faultless h)
  have hsome : ∀ {item : UsablePhone}, item ∈ compiler.usablePhones request →
      ∃ extension, (compiler.contextOf request).extensions.get? item.id = some extension := by
    intro item hitem
    refine Option.ne_none_iff_exists'.mp (htotal item.phone.siteId ?_ item.id ?_)
    · exact mem_keys_phonesBySite.mpr ⟨item, hitem, rfl⟩
    · rw [getD_phonesBySite, List.mem_map]
      exact ⟨item, List.mem_filter.mpr ⟨hitem, by simp⟩, rfl⟩
  obtain ⟨extension, hget⟩ := hsome hitem
  obtain ⟨extension', hget'⟩ := hsome hother
  rw [VoiceContext.extensionOf, VoiceContext.extensionOf, hget, hget', Option.getD_some,
    Option.getD_some] at hextension
  exact hinjective item.id other.id extension hget (hextension ▸ hget')

/-- The call control of a site with phones, on the host found for it, has a first phone. -/
lemma exists_first_of_site (h : Faultless (compiler.sourceIssues request)) {siteId : String}
    (hsite : siteId ∈ voiceSites compiler request) {host : Plans.DevicePlan}
    (hhost : (controlHosts request (voiceSites compiler request)).get?
      (siteControlId request siteId) = some host) :
    ∃ entry ∈ (compiler.contextOf request).sortedControls compiler,
      entry.1 = siteControlId request siteId ∧ entry.2.host = host ∧
      ∃ phoneId, (phoneId, 1) ∈ (compiler.contextOf request).directory compiler entry.2 := by
  obtain ⟨data, hdata, -⟩ := controlOf?_eq_some h hsite
  have hentry : (siteControlId request siteId, data) ∈
      (compiler.contextOf request).sortedControls compiler := mem_sortedControls.mpr hdata
  have hhost' := (exists_site_of_mem_sortedControls h hentry).2
  obtain ⟨item, hitem, rfl⟩ := mem_voiceSites.mp hsite
  obtain ⟨index, hindex⟩ := exists_directory_index h hitem hentry rfl
  exact ⟨_, hentry, rfl, Option.some.inj (hhost'.symm.trans hhost),
    exists_first_of_mem_directory hindex⟩

/-- Hosts of correct directories are apart: the first phones of two call controls on one device
would have the same index. -/
lemma hostsApart_of_directoryCorrect (h : (compiler.compile request).plan = some plan)
    (hcorrect : DirectoryCorrect renderer plan) : HostsApart compiler request := by
  have hfaultless := (exists_of_compile h).1
  intro siteId hsite other hother hne host host' hhost hhost'
  obtain ⟨entry, hentry, hid, rfl, phoneId, hphone⟩ := exists_first_of_site hfaultless hsite hhost
  obtain ⟨entry', hentry', hid', rfl, phoneId', hphone'⟩ :=
    exists_first_of_site hfaultless hother hhost'
  obtain ⟨a, ha, hdevice, hname, -, hcreated⟩ := exists_created h hentry hphone
  obtain ⟨b, hb, hdevice', hname', -, hcreated'⟩ := exists_created h hentry' hphone'
  have happart : ¬a.SameHost b := by
    intro hsame
    have hextension := hcorrect.created a ha b hb hsame _ _ _ hcreated hcreated'
    obtain ⟨item, hitem, -, hitemId⟩ := exists_of_mem_directory hfaultless hentry hphone
    obtain ⟨item', hitem', -, hitemId'⟩ := exists_of_mem_directory hfaultless hentry' hphone'
    simp only at hextension hitemId hitemId'
    rw [← hitemId, ← hitemId'] at hextension
    have hphones := id_eq_of_extensionOf hfaultless hitem hitem' hextension
    rw [hitemId, hitemId'] at hphones
    have hentries := (index_unique hfaultless hentry hentry' hphone hphone' hphones).1
    exact hne (hid.symm.trans ((congrArg Prod.fst hentries).trans hid'))
  rw [VoiceAction.SameHost, not_or, hdevice, hdevice', hname, hname'] at happart
  exact happart

section Apart

variable (h : (compiler.compile request).plan = some plan) (hapart : HostsApart compiler request)
include h hapart

variable {a b : VoiceAction} {extension' : String}

lemma extension_eq_of_created (ha : a ∈ plan.actions) (hb : b ∈ plan.actions)
    (hsame : a.SameHost b)
    (hcreated : a.created? = some (extension, index))
    (hcreated' : b.created? = some (extension', index)) : extension = extension' := by
  obtain ⟨entry, hentry, phone, hphone, hdevice, hname, -, rfl, rfl⟩ :=
    exists_of_created h ha hcreated
  obtain ⟨entry', hentry', phone', hphone', hdevice', hname', -, rfl, hindex⟩ :=
    exists_of_created h hb hcreated'
  rw [VoiceAction.SameHost, hdevice, hdevice', hname, hname'] at hsame
  obtain rfl := hapart.eq_of_host (exists_of_compile h).1 hentry hentry' hsame
  rw [phone_unique hphone hphone' (Int.ofNat_inj.mp hindex)]

/-- On hosts that are apart, an index is bound to one phone with one extension. -/
lemma phone_eq_of_bound (ha : a ∈ plan.actions) (hb : b ∈ plan.actions) (hsame : a.SameHost b)
    {phoneId phoneId' extension : String}
    (hbound : a.bound? = some (phoneId, extension, index))
    (hbound' : b.bound? = some (phoneId', extension', index)) :
    phoneId = phoneId' ∧ extension = extension' := by
  obtain ⟨entry, hentry, phone, hphone, hdevice, hname, -, rfl, rfl, rfl⟩ :=
    exists_of_bound h ha hbound
  obtain ⟨entry', hentry', phone', hphone', hdevice', hname', -, rfl, rfl, hindex⟩ :=
    exists_of_bound h hb hbound'
  rw [VoiceAction.SameHost, hdevice, hdevice', hname, hname'] at hsame
  obtain rfl := hapart.eq_of_host (exists_of_compile h).1 hentry hentry' hsame
  rw [phone_unique hphone hphone' (Int.ofNat_inj.mp hindex)]
  exact ⟨rfl, rfl⟩

/-- On hosts that are apart, the commands of different extensions open different sections. -/
lemma extension?_eq_of_header {phoneMacs : Dict String String} (ha : a ∈ plan.actions)
    (hb : b ∈ plan.actions) (hname : a.hostDeviceName = b.hostDeviceName)
    (hsome : a.extension?.isSome) {line : String}
    (hline : renderer.header phoneMacs a = some line)
    (hline' : renderer.header phoneMacs b = some line) : a.extension? = b.extension? := by
  rcases VoiceRenderer.header_eq_some hline with ⟨extension, index, hcreated, rfl⟩ |
    ⟨phoneId, extension, index, hbound, rfl⟩ | ⟨hnone, -⟩
  · rcases VoiceRenderer.header_eq_some hline' with ⟨extension', index', hcreated', heq⟩ |
      ⟨phoneId', extension', index', -, heq⟩ | ⟨-, hother⟩
    · obtain ⟨_, -, _, -, -, -, -, -, hindex⟩ := exists_of_created h ha hcreated
      obtain ⟨_, -, _, -, -, -, -, -, hindex'⟩ := exists_of_created h hb hcreated'
      obtain rfl := VoiceRenderer.eq_of_extensionHeader (by omega) (by omega) heq
      rw [VoiceAction.extension?_of_created hcreated, VoiceAction.extension?_of_created hcreated',
        extension_eq_of_created h hapart ha hb (Or.inr hname) hcreated hcreated']
    · exact absurd heq (VoiceRenderer.extensionHeader_ne_phoneHeader _ _)
    · exact absurd (VoiceRenderer.head_extensionHeader index) hother
  · rcases VoiceRenderer.header_eq_some hline' with ⟨extension', index', -, heq⟩ |
      ⟨phoneId', extension', index', hbound', heq⟩ | ⟨-, hother⟩
    · exact absurd heq.symm (VoiceRenderer.extensionHeader_ne_phoneHeader _ _)
    · obtain ⟨_, -, _, -, -, -, -, -, -, hindex⟩ := exists_of_bound h ha hbound
      obtain ⟨_, -, _, -, -, -, -, -, -, hindex'⟩ := exists_of_bound h hb hbound'
      obtain rfl := VoiceRenderer.eq_of_phoneHeader (by omega) (by omega) heq
      rw [VoiceAction.extension?_of_bound hbound, VoiceAction.extension?_of_bound hbound',
        (phone_eq_of_bound h hapart ha hb (Or.inr hname) hbound hbound').2]
    · exact absurd (VoiceRenderer.head_phoneHeader index) hother
  · rw [hnone] at hsome
    exact absurd hsome (by simp)

end Apart

/-- **The directories of an accepted plan** are correct exactly when different call controls stand
on different devices. -/
theorem directoryCorrect_iff (h : (compiler.compile request).plan = some plan) :
    DirectoryCorrect renderer plan ↔ HostsApart compiler request := by
  have hfaultless := (exists_of_compile h).1
  refine ⟨hostsApart_of_directoryCorrect h, fun hapart => ?_⟩
  exact
    { assigned := by
        intro x hx y hy hextension
        obtain ⟨item, hitem, control, -, rfl⟩ := (mem_phoneAssignments h).mp hx
        obtain ⟨item', hitem', control', -, rfl⟩ := (mem_phoneAssignments h).mp hy
        exact id_eq_of_extensionOf hfaultless hitem hitem' hextension
      created := fun a ha b hb hsame _ _ _ hcreated hcreated' =>
        extension_eq_of_created h hapart ha hb hsame hcreated hcreated'
      bound := fun a ha b hb hsame _ _ _ _ _ hbound hbound' =>
        (phone_eq_of_bound h hapart ha hb hsame hbound hbound').1
      own := by
        intro b hb phoneId extension index hbound
        obtain ⟨entry, hentry, phone, hphone, hdevice, hname, hdepends, rfl, rfl, rfl⟩ :=
          exists_of_bound h hb hbound
        obtain ⟨a, ha, hdevice', hname', hid, hcreated⟩ := exists_created h hentry hphone
        exact ⟨a, ha, hid ▸ hdepends, hdevice'.trans hdevice.symm, hname'.trans hname.symm, hcreated⟩
      rendered := fun _ a ha b hb hname hsome _ hline hline' =>
        extension?_eq_of_header h hapart ha hb hname hsome hline hline' }

/-! ## One router for two sites -/

/-- The renderer without a network library: no address is accepted. -/
def sampleRenderer : VoiceRenderer where
  ipAddress text := .error text
  upper := id
  jsonDumps := id

/-- The directories of two sites with their own routers. -/
theorem twoRouters_directoryCorrect_iff :
    ∃ plan, (sampleCompiler.compile (sampleRequest separateRanges twoRouters)).plan = some plan ∧
      (DirectoryCorrect sampleRenderer plan ↔
        HostsApart sampleCompiler (sampleRequest separateRanges twoRouters)) := by
  obtain ⟨plan, hplan⟩ := exists_compile_separateRanges
  exact ⟨plan, hplan, directoryCorrect_iff hplan⟩

/-- A central router for two sites: the first phone of each site is given index 1, so both are
configured as `ephone-dn 1` of the router. -/
theorem centralRouter_not_directoryCorrect :
    ∃ plan, (sampleCompiler.compile (sampleRequest separateRanges [])).plan = some plan ∧
      ¬DirectoryCorrect sampleRenderer plan := by
  obtain ⟨actions, hperm, hplan⟩ := @exists_plan_of_standInOrder sampleCompiler
    (sampleRequest separateRanges []) (by decide)
  have hpair : (((sampleCompiler.contextOf (sampleRequest separateRanges [])).emittedActions
      sampleCompiler).any fun a => ((sampleCompiler.contextOf
        (sampleRequest separateRanges [])).emittedActions sampleCompiler).any fun b => decide (
          a.created? = some ("3101", 1) ∧ b.created? = some ("4101", 1) ∧ a.SameHost b)) = true := by
    decide
  obtain ⟨a, ha, hrest⟩ := List.any_eq_true.mp hpair
  obtain ⟨b, hb, hpair⟩ := List.any_eq_true.mp hrest
  obtain ⟨hcreated, hcreated', hsame⟩ := of_decide_eq_true hpair
  refine ⟨_, hplan, fun hcorrect => ?_⟩
  have hextension := hcorrect.created _ (List.mem_map_of_mem (hperm.mem_iff.mpr ha)) _
    (List.mem_map_of_mem (hperm.mem_iff.mpr hb)) hsame _ _ _ hcreated hcreated'
  exact absurd hextension (by decide)

end VoiceCompiler

end Voice
end PacketTracer
