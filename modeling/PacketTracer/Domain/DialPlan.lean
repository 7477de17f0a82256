import PacketTracer.Domain.VoiceEmission

/-!
# Directories and the dial plan

The phones of a call control are numbered from 1 on, so a phone has one index in one directory.  A
call goes by the longest matching prefix; `DialPlanCorrect` says that all longest rules lead to the
call control of the phone that has the extension, which holds exactly when the prefixes resolve the
extension among the sites (`PrefixesResolve`).
-/

namespace PacketTracer

open Dicts PyText

namespace Voice

/-- Two actions are for the same device: by its identifier, or by the name under which the device is
configured. -/
def VoiceAction.SameHost (a b : VoiceAction) : Prop :=
  a.hostDeviceId = b.hostDeviceId ∨ a.hostDeviceName = b.hostDeviceName

instance (a b : VoiceAction) : Decidable (a.SameHost b) := inferInstanceAs (Decidable (_ ∨ _))

/-- The extension of a directory entry and its index: what `CreateExtension` creates. -/
def VoiceAction.created? (action : VoiceAction) : Option (String × ℤ) :=
  match action.detail with
  | .createExtension extension index => some (extension, index)
  | _ => none

/-- The phone, the extension and the index that `BindPhoneToExtension` binds. -/
def VoiceAction.bound? (action : VoiceAction) : Option (String × String × ℤ) :=
  match action.detail with
  | .bindPhoneToExtension _ phoneId _ _ extension index _ => some (phoneId, extension, index)
  | _ => none

namespace VoiceCompiler

variable {compiler : VoiceCompiler} {request : VoiceRequest}

/-! ## Directories -/

variable {context : VoiceContext} {entry : String × CallControlData} {data : CallControlData}
  {phone : String × ℕ} {item : UsablePhone} {action : VoiceAction}

lemma mem_sortedControls :
    entry ∈ context.sortedControls compiler ↔
      context.controls.data.get? entry.1 = some entry.2 := by
  rw [VoiceContext.sortedControls, List.mem_filterMap]
  constructor
  · rintro ⟨controlId, -, hentry⟩
    obtain ⟨data, hdata, rfl⟩ := Option.map_eq_some_iff.mp hentry
    exact hdata
  · intro hdata
    refine ⟨entry.1, ?_, by rw [hdata, Option.map_some]⟩
    rw [mem_naturallySorted, ← Dict.isSome_get?_iff_mem_keys, hdata]
    rfl

variable {phoneId : String} {phone' : String × ℕ} {control : String × CallControlData}
  {extension : String} {index : ℤ}

lemma mem_hostedPhoneIds :
    phoneId ∈ (compiler.contextOf request).hostedPhoneIds compiler data ↔
      ∃ item ∈ compiler.usablePhones request, item.phone.siteId ∈ data.siteIds ∧
        item.id = phoneId := by
  rw [VoiceContext.hostedPhoneIds, mem_naturallySorted, List.mem_flatMap]
  have husable : (compiler.contextOf request).usable = compiler.usablePhones request := rfl
  constructor
  · rintro ⟨siteId, hsite, hphone⟩
    rw [husable, getD_phonesBySite, List.mem_map] at hphone
    obtain ⟨item, hitem, rfl⟩ := hphone
    obtain ⟨hitem, hitemSite⟩ := List.mem_filter.mp hitem
    exact ⟨item, hitem, of_decide_eq_true hitemSite ▸ hsite, rfl⟩
  · rintro ⟨item, hitem, hsite, rfl⟩
    refine ⟨item.phone.siteId, hsite, ?_⟩
    rw [husable, getD_phonesBySite, List.mem_map]
    exact ⟨item, List.mem_filter.mpr ⟨hitem, by simp⟩, rfl⟩

/-- A phone stands once among the phones of a call control whose sites are distinct. -/
lemma nodup_hostedPhoneIds (hdata : data.siteIds.Nodup) :
    ((compiler.contextOf request).hostedPhoneIds compiler data).Nodup := by
  rw [VoiceContext.hostedPhoneIds, nodup_naturallySorted, List.nodup_flatMap]
  have husable : (compiler.contextOf request).usable = compiler.usablePhones request := rfl
  have hnodup := @nodup_usablePhones compiler request
  constructor
  · intro siteId _
    rw [husable, getD_phonesBySite]
    exact hnodup.sublist (List.filter_sublist.map _)
  · refine hdata.imp fun {siteId other} hne phoneId hphone hother => hne ?_
    -- a phone in two of the lists would stand in two sites
    simp only [husable, getD_phonesBySite, List.mem_map] at hphone hother
    obtain ⟨item, hitem, rfl⟩ := hphone
    obtain ⟨item', hitem', hid⟩ := hother
    obtain ⟨hitem, hsite⟩ := List.mem_filter.mp hitem
    obtain ⟨hitem', hsite'⟩ := List.mem_filter.mp hitem'
    obtain rfl : item' = item := List.inj_on_of_nodup_map hnodup hitem' hitem hid
    exact (of_decide_eq_true hsite).symm.trans (of_decide_eq_true hsite')

@[simp] lemma map_fst_directory :
    (context.directory compiler data).map Prod.fst = context.hostedPhoneIds compiler data :=
  List.zipIdx_map_fst 1 _

lemma exists_of_mem_directory (h : Faultless (compiler.sourceIssues request))
    (hentry : entry ∈ (compiler.contextOf request).sortedControls compiler)
    (hphone : phone ∈ (compiler.contextOf request).directory compiler entry.2) :
    ∃ item ∈ compiler.usablePhones request,
      siteControlId request item.phone.siteId = entry.1 ∧ item.id = phone.1 := by
  have hhosted := List.fst_mem_of_mem_zipIdx hphone
  obtain ⟨item, hitem, hsite, hid⟩ := mem_hostedPhoneIds.mp hhosted
  have hsites := (controlsOf_contextOf h).siteIds entry.1 entry.2 (mem_sortedControls.mp hentry)
  exact ⟨item, hitem, ((hsites item.phone.siteId).mp hsite).2, hid⟩

/-- Every usable phone stands in the directory of the call control of its site. -/
lemma exists_directory_index (h : Faultless (compiler.sourceIssues request))
    (hitem : item ∈ compiler.usablePhones request)
    (hentry : entry ∈ (compiler.contextOf request).sortedControls compiler)
    (hcontrol : siteControlId request item.phone.siteId = entry.1) :
    ∃ index, (item.id, index) ∈ (compiler.contextOf request).directory compiler entry.2 := by
  have hsites := (controlsOf_contextOf h).siteIds entry.1 entry.2 (mem_sortedControls.mp hentry)
  have hsite : item.phone.siteId ∈ voiceSites compiler request :=
    mem_voiceSites.mpr ⟨item, hitem, rfl⟩
  have hhosted : item.id ∈ (compiler.contextOf request).hostedPhoneIds compiler entry.2 :=
    mem_hostedPhoneIds.mpr ⟨item, hitem, (hsites _).mpr ⟨hsite, hcontrol⟩, rfl⟩
  rw [← map_fst_directory] at hhosted
  obtain ⟨⟨phoneId, index⟩, hmem, rfl⟩ := List.mem_map.mp hhosted
  exact ⟨index, hmem⟩

lemma exists_first_of_mem_directory (hphone : phone ∈ context.directory compiler data) :
    ∃ phoneId, (phoneId, 1) ∈ context.directory compiler data := by
  have hhosted := List.fst_mem_of_mem_zipIdx hphone
  rw [VoiceContext.directory]
  cases hlist : context.hostedPhoneIds compiler data with
  | nil => simp [hlist] at hhosted
  | cons phoneId others => exact ⟨phoneId, by simp⟩

/-- **A phone has one index** in all directories. -/
lemma index_unique (h : Faultless (compiler.sourceIssues request))
    {other : String × CallControlData}
    (hentry : entry ∈ (compiler.contextOf request).sortedControls compiler)
    (hother : other ∈ (compiler.contextOf request).sortedControls compiler)
    (hphone : phone ∈ (compiler.contextOf request).directory compiler entry.2)
    (hphone' : phone' ∈ (compiler.contextOf request).directory compiler other.2)
    (hid : phone.1 = phone'.1) : entry = other ∧ phone = phone' := by
  obtain ⟨item, hitem, hcontrol, hitemId⟩ := exists_of_mem_directory h hentry hphone
  obtain ⟨item', hitem', hcontrol', hitemId'⟩ := exists_of_mem_directory h hother hphone'
  obtain rfl : item = item' := List.inj_on_of_nodup_map nodup_usablePhones hitem hitem'
    (hitemId.trans (hid.trans hitemId'.symm))
  have hkey : entry.1 = other.1 := hcontrol.symm.trans hcontrol'
  have hget := mem_sortedControls.mp hentry
  have hget' := mem_sortedControls.mp hother
  rw [hkey, hget'] at hget
  obtain rfl : entry = other := Prod.ext hkey (Option.some.inj hget).symm
  refine ⟨rfl, ?_⟩
  have hnodup : (((compiler.contextOf request).directory compiler entry.2).map Prod.fst).Nodup := by
    rw [map_fst_directory]
    exact nodup_hostedPhoneIds ((controlsOf_contextOf h).nodup entry.1 entry.2 hget')
  exact List.inj_on_of_nodup_map hnodup hphone hphone' hid

/-- **An index has one phone** in a directory. -/
lemma phone_unique (hphone : phone ∈ context.directory compiler data)
    (hphone' : phone' ∈ context.directory compiler data) (hindex : phone.2 = phone'.2) :
    phone = phone' := by
  have hnodup : ((context.directory compiler data).map Prod.snd).Nodup := by
    rw [VoiceContext.directory, List.zipIdx_map_snd]
    exact List.nodup_range'
  exact List.inj_on_of_nodup_map hnodup hphone hphone' hindex

lemma get?_directoryIndices (h : Faultless (compiler.sourceIssues request))
    (hentry : entry ∈ (compiler.contextOf request).sortedControls compiler)
    (hphone : phone ∈ (compiler.contextOf request).directory compiler entry.2) :
    ((compiler.contextOf request).directoryIndices compiler).get? phone.1 = some phone.2 := by
  refine Dict.get?_ofList_of_unique (List.mem_flatMap.mpr ⟨entry, hentry, hphone⟩) fun index hmem => ?_
  obtain ⟨other, hother, hphone'⟩ := List.mem_flatMap.mp hmem
  exact congrArg Prod.snd (index_unique h hother hentry hphone' hphone rfl).2

lemma get?_extensionActions (h : Faultless (compiler.sourceIssues request))
    (hentry : entry ∈ (compiler.contextOf request).sortedControls compiler)
    (hphone : phone ∈ (compiler.contextOf request).directory compiler entry.2) :
    ((compiler.contextOf request).extensionActions compiler).get? phone.1 =
      some ((compiler.contextOf request).extensionId compiler entry.1 phone.1) := by
  refine Dict.get?_ofList_of_unique (List.mem_flatMap.mpr ⟨entry, hentry,
    List.mem_map.mpr ⟨phone, hphone, rfl⟩⟩) fun actionId hmem => ?_
  obtain ⟨other, hother, hitem⟩ := List.mem_flatMap.mp hmem
  obtain ⟨phone', hphone', heq⟩ := List.mem_map.mp hitem
  obtain ⟨hid, rfl⟩ := Prod.mk.inj heq
  obtain ⟨rfl, rfl⟩ := index_unique h hother hentry hphone' hphone hid
  rfl

/-! ## The actions of a directory -/

/-- A dial rule is configured as one. -/
lemma exists_detail_dialRule {entry : VoiceAction × DialRule}
    (hentry : entry ∈ context.dialRules compiler) :
    ∃ source destination destinationPrefix controlId isLocal, entry.1.detail =
      .configureDialRule source destination destinationPrefix controlId isLocal := by
  have hbetween : ∀ {source destination},
      context.dialRuleBetween? compiler source destination = some entry →
        ∃ source destination destinationPrefix controlId isLocal, entry.1.detail =
          .configureDialRule source destination destinationPrefix controlId isLocal := by
    intro source destination hrule
    obtain ⟨sourceControl, -, hrule⟩ := Option.bind_eq_some_iff.mp hrule
    obtain ⟨destinationControl, -, rfl⟩ := Option.map_eq_some_iff.mp hrule
    exact ⟨_, _, _, _, _, rfl⟩
  rw [VoiceContext.dialRules, List.mem_append] at hentry
  rcases hentry with hlocal | hintersite
  · obtain ⟨siteId, -, hrule⟩ := List.mem_filterMap.mp hlocal
    exact hbetween hrule
  unfold VoiceContext.intersiteRules at hintersite
  split_ifs at hintersite
  · obtain ⟨sourceSite, -, hmem⟩ := List.mem_flatMap.mp hintersite
    obtain ⟨destinationSite, -, hrule⟩ := List.mem_filterMap.mp hmem
    exact hbetween hrule
  · simp at hintersite

lemma created?_dialRule {entry : VoiceAction × DialRule}
    (hentry : entry ∈ context.dialRules compiler) :
    entry.1.created? = none ∧ entry.1.bound? = none := by
  obtain ⟨source, destination, destinationPrefix, controlId, isLocal, hdetail⟩ :=
    exists_detail_dialRule hentry
  simp [VoiceAction.created?, VoiceAction.bound?, hdetail]

lemma created?_bootstrapActions (haction : action ∈ context.bootstrapActions compiler entry) :
    action.created? = none ∧ action.bound? = none := by
  rw [VoiceContext.bootstrapActions, List.mem_append, List.mem_map, List.mem_singleton] at haction
  rcases haction with ⟨pool, -, rfl⟩ | rfl <;> exact ⟨rfl, rfl⟩

/-- **An emitted action** is an entry of a directory, a binding, or neither creates nor binds. -/
lemma emittedActions_cases (haction : action ∈ context.emittedActions compiler) :
    (∃ entry ∈ context.sortedControls compiler, ∃ phone ∈ context.directory compiler entry.2,
      action = context.extensionAction compiler entry.1 entry.2 phone) ∨
    (∃ phone ∈ context.boundPhones compiler,
      action = context.bindingAction compiler phone.1 phone.2) ∨
    action.created? = none ∧ action.bound? = none := by
  rw [VoiceContext.emittedActions, List.mem_append, List.mem_append, List.mem_append] at haction
  rcases haction with ((hcontrol | hbinding) | hbootstrap) | hrule
  · obtain ⟨entry, hentry, hmem⟩ := List.mem_flatMap.mp hcontrol
    rw [VoiceContext.controlActions, List.mem_cons, List.mem_cons, List.mem_map] at hmem
    rcases hmem with rfl | rfl | ⟨phone, hphone, rfl⟩
    · exact Or.inr (Or.inr ⟨rfl, rfl⟩)
    · exact Or.inr (Or.inr ⟨rfl, rfl⟩)
    · exact Or.inl ⟨entry, hentry, phone, hphone, rfl⟩
  · obtain ⟨phone, hphone, rfl⟩ := List.mem_map.mp hbinding
    exact Or.inr (Or.inl ⟨phone, hphone, rfl⟩)
  · obtain ⟨entry, -, hmem⟩ := List.mem_flatMap.mp hbootstrap
    exact Or.inr (Or.inr (created?_bootstrapActions hmem))
  · obtain ⟨entry, hentry, rfl⟩ := List.mem_map.mp hrule
    exact Or.inr (Or.inr (created?_dialRule hentry))

/-- **What is created** are the entries of the directories. -/
lemma mem_emittedActions_created (haction : action ∈ context.emittedActions compiler)
    {created : String × ℤ} (hcreated : action.created? = some created) :
    ∃ entry ∈ context.sortedControls compiler, ∃ phone ∈ context.directory compiler entry.2,
      action = context.extensionAction compiler entry.1 entry.2 phone := by
  rcases emittedActions_cases haction with hentry | ⟨phone, -, rfl⟩ | ⟨hnone, -⟩
  · exact hentry
  · simp [VoiceAction.created?, VoiceContext.bindingAction] at hcreated
  · simp [hnone] at hcreated

/-- **What is bound** are the phones that have a call control. -/
lemma mem_emittedActions_bound (haction : action ∈ context.emittedActions compiler)
    {bound : String × String × ℤ} (hbound : action.bound? = some bound) :
    ∃ phone ∈ context.boundPhones compiler,
      action = context.bindingAction compiler phone.1 phone.2 := by
  rcases emittedActions_cases haction with ⟨entry, -, phone, -, rfl⟩ | hphone | ⟨-, hnone⟩
  · simp [VoiceAction.bound?, VoiceContext.extensionAction] at hbound
  · exact hphone
  · simp [hnone] at hbound

/-- **The index of a binding** is that of the phone in the directory of its call control. -/
lemma exists_index_of_mem_boundPhones (h : Faultless (compiler.sourceIssues request))
    (hphone : (item, control) ∈ (compiler.contextOf request).boundPhones compiler) :
    control ∈ (compiler.contextOf request).sortedControls compiler ∧
      ∃ index, (item.id, index) ∈ (compiler.contextOf request).directory compiler control.2 ∧
        ((compiler.contextOf request).directoryIndices compiler).get? item.id = some index := by
  obtain ⟨hitem, hcontrol⟩ := mem_boundPhones.mp hphone
  obtain ⟨-, hid, hdata⟩ := eq_of_controlOf? h hcontrol
  have hentry : control ∈ (compiler.contextOf request).sortedControls compiler :=
    mem_sortedControls.mpr hdata
  obtain ⟨index, hindex⟩ := exists_directory_index h hitem hentry hid.symm
  have hget := get?_directoryIndices h hentry hindex
  exact ⟨hentry, index, hindex, hget⟩

lemma created?_extensionAction :
    (context.extensionAction compiler entry.1 entry.2 phone).created? =
      some (context.extensionOf phone.1, (phone.2 : ℤ)) := rfl

lemma bound?_bindingAction :
    (context.bindingAction compiler item control).bound? =
      some (item.id, context.extensionOf item.id,
        ((((context.directoryIndices compiler).get? item.id).getD 0 : ℕ) : ℤ)) := rfl

/-! ## Hosts -/

/-- Different call controls stand on devices with different identifiers and names. -/
def HostsApart (compiler : VoiceCompiler) (request : VoiceRequest) : Prop :=
  ∀ siteId ∈ voiceSites compiler request, ∀ other ∈ voiceSites compiler request,
    siteControlId request siteId ≠ siteControlId request other → ∀ host host',
      (controlHosts request (voiceSites compiler request)).get? (siteControlId request siteId) =
        some host →
      (controlHosts request (voiceSites compiler request)).get? (siteControlId request other) =
        some host' →
      host.semanticId ≠ host'.semanticId ∧ host.name ≠ host'.name

/-- A call control belongs to a site with phones, and stands on the host found for it. -/
lemma exists_site_of_mem_sortedControls (h : Faultless (compiler.sourceIssues request))
    (hentry : entry ∈ (compiler.contextOf request).sortedControls compiler) :
    (∃ siteId ∈ voiceSites compiler request, siteControlId request siteId = entry.1) ∧
      (controlHosts request (voiceSites compiler request)).get? entry.1 = some entry.2.host := by
  have hcontrols := controlsOf_contextOf h
  have hdata := mem_sortedControls.mp hentry
  have hknown : ((compiler.contextOf request).controls.data.get? entry.1).isSome = true := by
    rw [hdata, Option.isSome_some]
  have hhosts := hcontrols.hosts entry.1
  rw [hdata, Option.map_some] at hhosts
  exact ⟨(hcontrols.known entry.1).mp hknown, hhosts.symm⟩

/-- On hosts that are apart, one host has one call control. -/
lemma HostsApart.eq_of_host (hapart : HostsApart compiler request)
    (h : Faultless (compiler.sourceIssues request)) {entry other : String × CallControlData}
    (hentry : entry ∈ (compiler.contextOf request).sortedControls compiler)
    (hother : other ∈ (compiler.contextOf request).sortedControls compiler)
    (hhost : entry.2.host.semanticId = other.2.host.semanticId ∨
      entry.2.host.name = other.2.host.name) : entry = other := by
  obtain ⟨⟨siteId, hsite, hid⟩, hhostOf⟩ := exists_site_of_mem_sortedControls h hentry
  obtain ⟨⟨siteId', hsite', hid'⟩, hhostOf'⟩ := exists_site_of_mem_sortedControls h hother
  have hkey : entry.1 = other.1 := by
    by_contra hne
    obtain ⟨hids, hnames⟩ := hapart siteId hsite siteId' hsite' (by rwa [hid, hid']) _ _
      (hid ▸ hhostOf) (hid' ▸ hhostOf')
    exact hhost.elim hids hnames
  have hdata := mem_sortedControls.mp hentry
  rw [hkey, mem_sortedControls.mp hother] at hdata
  exact Prod.ext hkey (Option.some.inj hdata).symm

/-! ## The directories of a plan -/

variable {plan : VoicePlan}

section Compiled

variable (h : (compiler.compile request).plan = some plan)
include h

lemma mem_actions :
    action ∈ plan.actions ↔ ∃ emitted ∈ (compiler.contextOf request).emittedActions compiler,
      { emitted with applyDependencies := emitted.dependsOn } = action := by
  obtain ⟨-, actions, hordered, rfl⟩ := exists_of_compile h
  have hplan : (compiler.voicePlan (compiler.contextOf request) actions).actions =
      actions.map fun action => { action with applyDependencies := action.dependsOn } := rfl
  rw [hplan, List.mem_map]
  exact exists_congr fun emitted =>
    and_congr_left fun _ => (spec_orderDependencyActions hordered).1.mem_iff

/-- **Where an extension is created**: in the directory of a call control on the host of the
action. -/
lemma exists_of_created
    (haction : action ∈ plan.actions) (hcreated : action.created? = some (extension, index)) :
    ∃ entry ∈ (compiler.contextOf request).sortedControls compiler,
      ∃ phone ∈ (compiler.contextOf request).directory compiler entry.2,
        action.hostDeviceId = entry.2.host.semanticId ∧
        action.hostDeviceName = entry.2.host.name ∧
        action.id = (compiler.contextOf request).extensionId compiler entry.1 phone.1 ∧
        extension = (compiler.contextOf request).extensionOf phone.1 ∧ index = phone.2 := by
  obtain ⟨emitted, hemitted, rfl⟩ := (mem_actions h).mp haction
  have hcreated' : emitted.created? = some (extension, index) := hcreated
  obtain ⟨entry, hentry, phone, hphone, rfl⟩ := mem_emittedActions_created hemitted hcreated'
  rw [created?_extensionAction] at hcreated'
  obtain ⟨rfl, rfl⟩ := Prod.mk.inj (Option.some.inj hcreated')
  exact ⟨entry, hentry, phone, hphone, rfl, rfl, rfl, rfl, rfl⟩

/-- **Every phone of a directory has its extension created.** -/
lemma exists_created (hentry : entry ∈ (compiler.contextOf request).sortedControls compiler)
    (hphone : phone ∈ (compiler.contextOf request).directory compiler entry.2) :
    ∃ action ∈ plan.actions,
      action.hostDeviceId = entry.2.host.semanticId ∧
      action.hostDeviceName = entry.2.host.name ∧
      action.id = (compiler.contextOf request).extensionId compiler entry.1 phone.1 ∧
      action.created? =
        some ((compiler.contextOf request).extensionOf phone.1, (phone.2 : ℤ)) := by
  have hemitted : (compiler.contextOf request).extensionAction compiler entry.1 entry.2 phone ∈
      (compiler.contextOf request).emittedActions compiler := by
    refine List.mem_append_left _ (List.mem_append_left _ (List.mem_append_left _ ?_))
    refine List.mem_flatMap.mpr ⟨entry, hentry, ?_⟩
    exact List.mem_cons_of_mem _ (List.mem_cons_of_mem _ (List.mem_map.mpr ⟨phone, hphone, rfl⟩))
  exact ⟨_, (mem_actions h).mpr ⟨_, hemitted, rfl⟩, rfl, rfl, rfl, rfl⟩

/-- **Where a phone is bound**: at its index in the directory of its call control, after its
extension was created. -/
lemma exists_of_bound
    (haction : action ∈ plan.actions) (hbound : action.bound? = some (phoneId, extension, index)) :
    ∃ entry ∈ (compiler.contextOf request).sortedControls compiler,
      ∃ phone ∈ (compiler.contextOf request).directory compiler entry.2,
        action.hostDeviceId = entry.2.host.semanticId ∧
        action.hostDeviceName = entry.2.host.name ∧
        (compiler.contextOf request).extensionId compiler entry.1 phone.1 ∈ action.dependsOn ∧
        phoneId = phone.1 ∧ extension = (compiler.contextOf request).extensionOf phone.1 ∧
        index = phone.2 := by
  obtain ⟨emitted, hemitted, rfl⟩ := (mem_actions h).mp haction
  have hbound' : emitted.bound? = some (phoneId, extension, index) := hbound
  obtain ⟨⟨item, control⟩, hphone, rfl⟩ := mem_emittedActions_bound hemitted hbound'
  have hfaultless := (exists_of_compile h).1
  obtain ⟨hentry, n, hmem, hindex⟩ := exists_index_of_mem_boundPhones hfaultless hphone
  rw [bound?_bindingAction, hindex, Option.getD_some] at hbound'
  obtain ⟨rfl, hrest⟩ := Prod.mk.inj (Option.some.inj hbound')
  cases hrest
  have hextension := get?_extensionActions hfaultless hentry hmem
  refine ⟨control, hentry, (item.id, n), hmem, rfl, rfl, ?_, rfl, rfl, rfl⟩
  have hdepends : ((compiler.contextOf request).bindingAction compiler item control).dependsOn =
      [(((compiler.contextOf request).extensionActions compiler).get? item.id).getD ""] := rfl
  rw [hdepends, hextension, Option.getD_some]
  exact List.mem_singleton_self _

end Compiled

end VoiceCompiler

/-! ## Longest matches -/

/-- The prefix of a rule starts an extension. -/
def DialRule.Matches (rule : DialRule) (extension : String) : Prop :=
  rule.destinationPrefix.toList <+: extension.toList

instance (rule : DialRule) (extension : String) : Decidable (rule.Matches extension) :=
  inferInstanceAs (Decidable (_ <+: _))

/-- The rules of a source site. -/
def VoicePlan.rulesOf (plan : VoicePlan) (siteId : String) : List DialRule :=
  plan.dialRules.filter (·.sourceSiteId = siteId)

/-- A rule matches an extension, and no rule of the site matches it with a longer prefix. -/
structure LongestMatch (plan : VoicePlan) (siteId extension : String) (rule : DialRule) : Prop where
  isMatch : rule.Matches extension
  longest : ∀ other ∈ plan.rulesOf siteId, other.Matches extension →
    other.destinationPrefix.toList.length ≤ rule.destinationPrefix.toList.length

instance (plan : VoicePlan) (siteId extension : String) (rule : DialRule) :
    Decidable (LongestMatch plan siteId extension rule) :=
  decidable_of_iff (rule.Matches extension ∧ ∀ other ∈ plan.rulesOf siteId,
      other.Matches extension →
        other.destinationPrefix.toList.length ≤ rule.destinationPrefix.toList.length)
    ⟨fun h => ⟨h.1, h.2⟩, fun h => ⟨h.isMatch, h.longest⟩⟩

/-- Every source site sends every extension to the call control of the phone that has it, and to
no other. -/
def DialPlanCorrect (plan : VoicePlan) : Prop :=
  ∀ siteId ∈ plan.dialRules.map DialRule.sourceSiteId, ∀ assignment ∈ plan.phoneAssignments,
    (∃ rule ∈ plan.rulesOf siteId, LongestMatch plan siteId assignment.extension rule) ∧
      ∀ rule ∈ plan.rulesOf siteId, LongestMatch plan siteId assignment.extension rule →
        rule.destinationCallControlId = assignment.callControlId

instance (plan : VoicePlan) : Decidable (DialPlanCorrect plan) := by
  unfold DialPlanCorrect
  infer_instance

lemma dialPlanCorrect_congr {plan plan' : VoicePlan} (hrules : plan.dialRules = plan'.dialRules)
    (hphones : plan.phoneAssignments = plan'.phoneAssignments) :
    DialPlanCorrect plan ↔ DialPlanCorrect plan' := by
  have hrulesOf : plan.rulesOf = plan'.rulesOf := by
    funext siteId
    rw [VoicePlan.rulesOf, VoicePlan.rulesOf, hrules]
  have hlongest : LongestMatch plan = LongestMatch plan' := by
    funext siteId extension rule
    exact propext ⟨fun h => ⟨h.1, hrulesOf ▸ h.2⟩, fun h => ⟨h.1, hrulesOf ▸ h.2⟩⟩
  rw [DialPlanCorrect, DialPlanCorrect, hrules, hphones, hrulesOf, hlongest]

/-- Among the matching rules of a site there is a longest one. -/
lemma exists_longestMatch {plan : VoicePlan} {siteId extension : String} {rule : DialRule}
    (hmem : rule ∈ plan.rulesOf siteId) (hmatch : rule.Matches extension) :
    ∃ longest ∈ plan.rulesOf siteId, LongestMatch plan siteId extension longest := by
  have hfiltered : rule ∈ (plan.rulesOf siteId).filter (·.Matches extension) :=
    List.mem_filter.mpr ⟨hmem, decide_eq_true hmatch⟩
  rcases hmax : ((plan.rulesOf siteId).filter (·.Matches extension)).argmax
      fun rule => rule.destinationPrefix.toList.length with _ | longest
  · simp [List.argmax_eq_none.mp hmax] at hfiltered
  have hlongest := List.mem_filter.mp (List.argmax_mem hmax)
  refine ⟨longest, hlongest.1, of_decide_eq_true hlongest.2, fun other hother hmatch' => ?_⟩
  have hmem' : other ∈ (plan.rulesOf siteId).filter (·.Matches extension) :=
    List.mem_filter.mpr ⟨hother, decide_eq_true hmatch'⟩
  exact List.le_of_mem_argmax (f := fun rule : DialRule => rule.destinationPrefix.toList.length)
    hmem' hmax

namespace VoiceCompiler

variable {compiler : VoiceCompiler} {request : VoiceRequest}

/-! ## The rules of an accepted compilation -/

/-- The extension that the allocation gives a phone. -/
def extensionOf (compiler : VoiceCompiler) (request : VoiceRequest) (item : UsablePhone) : String :=
  (compiler.contextOf request).extensionOf item.id

/-- The common prefix of the ends of the range of a site. -/
def sitePrefix (compiler : VoiceCompiler) (request : VoiceRequest) (siteId : String) : List Char :=
  ((compiler.contextOf request).rangePrefix siteId).toList

variable {sourceSite : String}

/-- The rule between two sites. -/
lemma dialRuleBetween?_eq_some (h : Faultless (compiler.sourceIssues request))
    {destinationSite : String} (hsource : sourceSite ∈ voiceSites compiler request)
    (hdestination : destinationSite ∈ voiceSites compiler request) :
    ∃ entry, (compiler.contextOf request).dialRuleBetween? compiler sourceSite destinationSite =
        some entry ∧ entry.2.sourceSiteId = sourceSite ∧
      entry.2.destinationPrefix.toList = sitePrefix compiler request destinationSite ∧
      entry.2.destinationCallControlId = siteControlId request destinationSite := by
  obtain ⟨source, -, hsource⟩ := controlOf?_eq_some h hsource
  obtain ⟨destination, -, hdestination⟩ := controlOf?_eq_some h hdestination
  refine ⟨_, by rw [VoiceContext.dialRuleBetween?, hsource, Option.bind_some, hdestination,
    Option.map_some], VoiceContext.dialRule_sourceSiteId, ?_,
    VoiceContext.dialRule_destinationCallControlId⟩
  rw [VoiceContext.dialRule_destinationPrefix, sitePrefix]

/-- With calls between sites, there is a rule from every site to every site. -/
lemma mem_dialRules (hintersite : request.intent.intersiteCalling = true)
    {entry : VoiceAction × DialRule} :
    entry ∈ (compiler.contextOf request).dialRules compiler ↔
      ∃ sourceSite ∈ voiceSites compiler request, ∃ destinationSite ∈ voiceSites compiler request,
        (compiler.contextOf request).dialRuleBetween? compiler sourceSite destinationSite =
          some entry := by
  have hflag : (compiler.contextOf request).intent.intersiteCalling = true := hintersite
  have hsites : (compiler.contextOf request).sites compiler = voiceSites compiler request := rfl
  simp only [VoiceContext.dialRules, VoiceContext.localRules, VoiceContext.intersiteRules, hflag,
    if_true, hsites, List.mem_append, List.mem_filterMap, List.mem_flatMap, List.mem_filter,
    decide_eq_true_eq]
  constructor
  · rintro (⟨siteId, hsite, hrule⟩ | ⟨source, hsource, destination, hdestination, hrule⟩)
    · exact ⟨siteId, hsite, siteId, hsite, hrule⟩
    · exact ⟨source, hsource, destination, hdestination.1, hrule⟩
  · rintro ⟨source, hsource, destination, hdestination, hrule⟩
    by_cases heq : source = destination
    · subst heq
      exact Or.inl ⟨source, hsource, hrule⟩
    · exact Or.inr ⟨source, hsource, destination, ⟨hdestination, heq⟩, hrule⟩

variable {plan : VoicePlan}

/-- **The rules of a source site** of an accepted plan: one for every site with phones. -/
lemma mem_rulesOf (h : (compiler.compile request).plan = some plan)
    (hintersite : request.intent.intersiteCalling = true) {rule : DialRule} :
    rule ∈ plan.rulesOf sourceSite ↔ sourceSite ∈ voiceSites compiler request ∧
      ∃ destinationSite ∈ voiceSites compiler request,
        ((compiler.contextOf request).dialRuleBetween? compiler sourceSite destinationSite).map
          Prod.snd = some rule := by
  obtain ⟨hfaultless, actions, -, rfl⟩ := exists_of_compile h
  have hrules : rule ∈ (compiler.voicePlan (compiler.contextOf request) actions).dialRules ↔
      rule ∈ ((compiler.contextOf request).dialRules compiler).map Prod.snd := mem_sortedBy
  rw [VoicePlan.rulesOf, List.mem_filter, hrules, List.mem_map, decide_eq_true_eq]
  constructor
  · rintro ⟨⟨entry, hentry, rfl⟩, hsource⟩
    obtain ⟨source, hsourceSite, destination, hdestination, hrule⟩ :=
      (mem_dialRules hintersite).mp hentry
    obtain ⟨found, hfound, hfoundSource, -⟩ :=
      dialRuleBetween?_eq_some hfaultless hsourceSite hdestination
    obtain rfl : found = entry := Option.some.inj (hfound.symm.trans hrule)
    obtain rfl : source = sourceSite := hfoundSource.symm.trans hsource
    exact ⟨hsourceSite, destination, hdestination, by rw [hrule, Option.map_some]⟩
  · rintro ⟨hsource, destination, hdestination, hrule⟩
    obtain ⟨entry, hentry, rfl⟩ := Option.map_eq_some_iff.mp hrule
    obtain ⟨found, hfound, hfoundSource, -⟩ :=
      dialRuleBetween?_eq_some hfaultless hsource hdestination
    obtain rfl : found = entry := Option.some.inj (hfound.symm.trans hentry)
    exact ⟨⟨found, (mem_dialRules hintersite).mpr ⟨_, hsource, _, hdestination, hentry⟩, rfl⟩,
      hfoundSource⟩

/-- The phones of an accepted plan: the usable ones, with their extension and call control. -/
lemma mem_phoneAssignments (h : (compiler.compile request).plan = some plan)
    {assignment : PhoneAssignment} :
    assignment ∈ plan.phoneAssignments ↔
      ∃ item ∈ compiler.usablePhones request, ∃ control,
        (compiler.contextOf request).controlOf? item.phone.siteId = some control ∧
        (compiler.contextOf request).assignment compiler item control = assignment := by
  obtain ⟨-, actions, -, rfl⟩ := exists_of_compile h
  have hassignments : assignment ∈
      (compiler.voicePlan (compiler.contextOf request) actions).phoneAssignments ↔
        assignment ∈ (compiler.contextOf request).assignments compiler := mem_sortedBy
  rw [hassignments, VoiceContext.assignments, List.mem_map]
  constructor
  · rintro ⟨⟨item, control⟩, hbound, rfl⟩
    obtain ⟨hitem, hcontrol⟩ := mem_boundPhones.mp hbound
    exact ⟨item, hitem, control, hcontrol, rfl⟩
  · rintro ⟨item, hitem, control, hcontrol, rfl⟩
    exact ⟨(item, control), mem_boundPhones.mpr ⟨hitem, hcontrol⟩, rfl⟩

/-! ## When the dial plan is correct -/

/-- The extension of every phone starts with the prefix of a site of its own call control, and
with no prefix as long of a site of another call control. -/
def PrefixesResolve (compiler : VoiceCompiler) (request : VoiceRequest) : Prop :=
  ∀ item ∈ compiler.usablePhones request,
    ∃ siteId ∈ voiceSites compiler request,
      siteControlId request siteId = siteControlId request item.phone.siteId ∧
      sitePrefix compiler request siteId <+: (extensionOf compiler request item).toList ∧
      ∀ other ∈ voiceSites compiler request,
        siteControlId request other ≠ siteControlId request item.phone.siteId →
        sitePrefix compiler request other <+: (extensionOf compiler request item).toList →
        (sitePrefix compiler request other).length < (sitePrefix compiler request siteId).length

/-- **The dial plan of an accepted intent** with calls between sites is correct exactly when the
prefixes of the extension ranges resolve the extensions. -/
theorem dialPlanCorrect_iff (h : (compiler.compile request).plan = some plan)
    (hintersite : request.intent.intersiteCalling = true) :
    DialPlanCorrect plan ↔ PrefixesResolve compiler request := by
  have hfaultless := (exists_of_compile h).1
  constructor
  · intro hcorrect item hitem
    have hsite : item.phone.siteId ∈ voiceSites compiler request :=
      mem_voiceSites.mpr ⟨item, hitem, rfl⟩
    obtain ⟨data, -, hcontrol⟩ := controlOf?_eq_some hfaultless hsite
    have hassignment := (mem_phoneAssignments h).mpr ⟨item, hitem, _, hcontrol, rfl⟩
    obtain ⟨entry, hentry, hsource, -, -⟩ := dialRuleBetween?_eq_some hfaultless hsite hsite
    have hown : entry.2 ∈ plan.rulesOf item.phone.siteId :=
      (mem_rulesOf h hintersite).mpr ⟨hsite, _, hsite, by rw [hentry, Option.map_some]⟩
    obtain ⟨⟨rule, hruleMem, hlongest⟩, hall⟩ := hcorrect item.phone.siteId
      (List.mem_map.mpr ⟨entry.2, (List.mem_filter.mp hown).1, hsource⟩) _ hassignment
    -- the longest rule leads to the site whose prefix wins
    obtain ⟨-, siteId, hsiteId, hrule⟩ := (mem_rulesOf h hintersite).mp hruleMem
    obtain ⟨found, hfound, -, hpre, hdestination⟩ :=
      dialRuleBetween?_eq_some hfaultless hsite hsiteId
    obtain rfl : found.2 = rule := by
      rw [hfound, Option.map_some] at hrule
      exact Option.some.inj hrule
    refine ⟨siteId, hsiteId, hdestination.symm.trans (hall _ hruleMem hlongest), ?_, ?_⟩
    · rw [← hpre]
      exact hlongest.isMatch
    · intro other hother hne hmatch
      obtain ⟨otherEntry, hotherEntry, -, hotherPrefix, hotherDestination⟩ :=
        dialRuleBetween?_eq_some hfaultless hsite hother
      have hotherMem : otherEntry.2 ∈ plan.rulesOf item.phone.siteId :=
        (mem_rulesOf h hintersite).mpr ⟨hsite, other, hother, by rw [hotherEntry, Option.map_some]⟩
      have hotherMatch : otherEntry.2.Matches (extensionOf compiler request item) := by
        rwa [DialRule.Matches, hotherPrefix]
      rw [← hpre, ← hotherPrefix]
      refine lt_of_le_of_ne (hlongest.longest _ hotherMem hotherMatch) fun heq => hne ?_
      -- as long as the longest rule, it would have to lead to the phone's call control
      have hlongestOther : LongestMatch plan item.phone.siteId _ otherEntry.2 :=
        ⟨hotherMatch, fun third hthird hmatchThird =>
          heq ▸ hlongest.longest third hthird hmatchThird⟩
      exact hotherDestination.symm.trans (hall _ hotherMem hlongestOther)
  · intro hresolve sourceSite hsource assignment hassignment
    obtain ⟨item, hitem, control, hcontrol, rfl⟩ := (mem_phoneAssignments h).mp hassignment
    obtain ⟨hsite, hid, -⟩ := eq_of_controlOf? hfaultless hcontrol
    obtain ⟨siteId, hsiteId, hsame, hmatch, hshorter⟩ := hresolve item hitem
    obtain ⟨anyRule, hanyRule, rfl⟩ := List.mem_map.mp hsource
    have hsourceSite : anyRule.sourceSiteId ∈ voiceSites compiler request :=
      ((mem_rulesOf h hintersite).mp
        (List.mem_filter.mpr ⟨hanyRule, decide_eq_true rfl⟩)).1
    obtain ⟨entry, hentry, -, hpre, hdestination⟩ :=
      dialRuleBetween?_eq_some hfaultless hsourceSite hsiteId
    have hmem : entry.2 ∈ plan.rulesOf anyRule.sourceSiteId :=
      (mem_rulesOf h hintersite).mpr ⟨hsourceSite, siteId, hsiteId, by rw [hentry, Option.map_some]⟩
    have hentryMatch : entry.2.Matches (extensionOf compiler request item) := by
      rwa [DialRule.Matches, hpre]
    refine ⟨exists_longestMatch hmem hentryMatch, fun rule hruleMem hlongest => ?_⟩
    obtain ⟨-, other, hother, hrule⟩ := (mem_rulesOf h hintersite).mp hruleMem
    obtain ⟨found, hfound, -, hfoundPrefix, hfoundDestination⟩ :=
      dialRuleBetween?_eq_some hfaultless hsourceSite hother
    obtain rfl : found.2 = rule := by
      rw [hfound, Option.map_some] at hrule
      exact Option.some.inj hrule
    have hlength := hlongest.longest _ hmem hentryMatch
    rw [hpre, hfoundPrefix] at hlength
    have hcontrolOther : siteControlId request other =
        siteControlId request item.phone.siteId := by
      by_contra hne
      exact absurd (hshorter other hother hne (hfoundPrefix ▸ hlongest.isMatch))
        (not_lt.mpr hlength)
    rw [hfoundDestination, hcontrolOther]
    exact hid.symm

/-! ## The extensions of an accepted compilation -/

/-- The extensions of an accepted compilation are those that the allocator gives out. -/
lemma allocate_of_faultless (h : Faultless (compiler.sourceIssues request)) :
    allocate compiler.casefold (phonesBySite (compiler.usablePhones request))
        (rangeOf request.intent) request.intent.explicitExtensions =
      .ok (compiler.contextOf request).extensions := by
  have hallocation : Faultless (compiler.allocateExtensions request
      (compiler.usablePhones request)).2 := h.left.right
  have hextensions : (compiler.contextOf request).extensions =
      (compiler.allocateExtensions request (compiler.usablePhones request)).1 := rfl
  rw [hextensions]
  unfold allocateExtensions at hallocation ⊢
  split at hallocation
  · next hallocate => rw [hallocate]
  · simp [Faultless, voiceError] at hallocation

/-! ## Two sites -/

/-- A device that only says what the compiler reads. -/
def sampleDevice (id enterpriseRole siteId : String) : Plans.DevicePlan where
  id := id
  name := id
  model := "2811"
  category := "device"
  enterpriseRole := enterpriseRole
  siteId := siteId

/-- What the configuration plan says about a phone behind `switch` on VLAN 20 of a site: its access
port, its address, and the address of the call control. -/
def sampleSite (siteId router phoneId : String) : List ConfigurationAction :=
  [{ id := s!"access/{phoneId}", phase := .l2Interfaces, deviceId := "switch"
     deviceName := "switch", siteId := siteId
     detail := .configureAccessPort "FastEthernet0/1" 10 (some 20) [phoneId] },
   { id := s!"vlan/{siteId}", phase := .l2Definitions, deviceId := "switch"
     deviceName := "switch", siteId := siteId, detail := .createVlan 20 "voice" siteId },
   { id := s!"l3/{siteId}", phase := .l3Interfaces, deviceId := router
     deviceName := router, siteId := siteId
     detail := .configureSubinterface "FastEthernet0/0" 20 "198.18.171.1" 24 "255.255.255.0"
       siteId "dot1q" }]

/-- Two sites with one phone each, and the extension ranges that the intent gives them. -/
def sampleRequest (ranges : List (String × ExtensionRange)) (hosts : List (String × String)) :
    VoiceRequest where
  intent :=
    { id := "voice"
      callControlDeviceIds := .ofList hosts
      centralCallControlDeviceId := "r1"
      extensionRanges := .ofList ranges
      intersiteCalling := true }
  topology :=
    { id := "topology", semanticHash := "topology"
      devices := [sampleDevice "r1" "edge_router" "hq", sampleDevice "r2" "edge_router" "branch",
        sampleDevice "phone-1" "ip_phone" "hq", sampleDevice "phone-2" "ip_phone" "branch"] }
  configuration :=
    { id := "configuration", sourceTopologyHash := "topology", semanticHash := "configuration"
      actions := sampleSite "hq" "r1" "phone-1" ++
        sampleSite "branch" (((Dict.ofList hosts).get? "branch").getD "r1") "phone-2" }

/-- A compiler whose digest of a text is the text. -/
def sampleCompiler : VoiceCompiler where
  digest := id
  semanticHash _ := "voice"
  casefold := id
  setOrder := { iterate := id, perm := List.Perm.refl }

/-- Two sites, each with its own router. -/
def twoRouters : List (String × String) := [("hq", "r1"), ("branch", "r2")]

/-- Ranges of two sites that begin differently. -/
def separateRanges : List (String × ExtensionRange) :=
  [("hq", { start := 3101, stop := 3199 }), ("branch", { start := 4101, stop := 4199 })]

lemma exists_compile_separateRanges :
    ∃ plan, (sampleCompiler.compile (sampleRequest separateRanges twoRouters)).plan = some plan := by
  obtain ⟨actions, -, hplan⟩ := @exists_plan_of_standInOrder sampleCompiler
    (sampleRequest separateRanges twoRouters) (by decide)
  exact ⟨_, hplan⟩

/-- With a range for each site, the dial plan of two sites is the one that `dialPlanCorrect_iff`
speaks of. -/
theorem separateRanges_dialPlanCorrect_iff :
    ∃ plan, (sampleCompiler.compile (sampleRequest separateRanges twoRouters)).plan = some plan ∧
      (DialPlanCorrect plan ↔
        PrefixesResolve sampleCompiler (sampleRequest separateRanges twoRouters)) := by
  obtain ⟨plan, hplan⟩ := exists_compile_separateRanges
  exact ⟨plan, hplan, dialPlanCorrect_iff hplan rfl⟩

/-- Two sites that share the default range: both rules of a source site carry the prefix `3`, and
a call to either phone is as well sent to the other site. -/
theorem sharedRange_not_dialPlanCorrect :
    (sampleRequest [] twoRouters).intent.intersiteCalling = true ∧
      ∃ plan, (sampleCompiler.compile (sampleRequest [] twoRouters)).plan = some plan ∧
        ¬DialPlanCorrect plan := by
  obtain ⟨actions, -, hplan⟩ := @exists_plan_of_standInOrder sampleCompiler
    (sampleRequest [] twoRouters) (by decide)
  have hnot : ¬DialPlanCorrect (sampleCompiler.voicePlan
      (sampleCompiler.contextOf (sampleRequest [] twoRouters)) []) := by
    decide
  have hcongr : DialPlanCorrect (sampleCompiler.voicePlan
      (sampleCompiler.contextOf (sampleRequest [] twoRouters)) actions) ↔
      DialPlanCorrect (sampleCompiler.voicePlan
        (sampleCompiler.contextOf (sampleRequest [] twoRouters)) []) :=
    dialPlanCorrect_congr rfl rfl
  exact ⟨rfl, _, hplan, fun hcorrect => hnot (hcongr.mp hcorrect)⟩

end VoiceCompiler

end Voice
end PacketTracer
