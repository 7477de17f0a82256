import PacketTracer.Infrastructure.DeploymentManifestStore

/-!
# Lookups are exact

A lookup reads every record of the directories that its argument is sanitised to and keeps those
that carry the argument itself.  In a sound tree each of these records reads back as the manifest
whose target it is, so what is kept is exactly what is stored under the argument.
-/

namespace PacketTracer

namespace DeploymentManifestStore

open Dicts Machines PyStrs PyText

variable {C : Type*} {format : RecordFormat C} {manifests : C → VerifiedManifest} {tree : FileTree}

/-! ## Reading the records of some directories -/

lemma mem_globRecords {directory : Text × Text → Bool} {path : RecordPath} :
    path ∈ globRecords tree directory ↔
      (∃ text, tree.files.get? path = some text) ∧ directory path.directory = true ∧
        path.isRecord = true := by
  rw [globRecords, mem_sortedBy, List.mem_filter, ← Dict.isSome_get?_iff_mem_keys,
    Option.isSome_iff_exists, Bool.and_eq_true]

lemma nodup_globRecords (directory : Text × Text → Bool) : (globRecords tree directory).Nodup :=
  (perm_sortedBy _ _).nodup_iff.mpr (tree.files.keysNodup.filter _)

lemma exists_mapM_load {paths : List RecordPath}
    (hpaths : ∀ path ∈ paths, ∃ manifest, path = target format manifest ∧
      Stored format tree manifest) :
    ∃ read, paths.mapM (load format tree) = .ok read ∧ read.map (target format) = paths ∧
      ∀ manifest ∈ read, Stored format tree manifest := by
  induction paths with
  | nil => exact ⟨[], rfl, rfl, by simp⟩
  | cons path paths ih =>
    obtain ⟨manifest, rfl, hstored⟩ := hpaths path List.mem_cons_self
    obtain ⟨read, hread, htargets, hall⟩ := ih fun p hp => hpaths p (List.mem_cons_of_mem _ hp)
    refine ⟨manifest :: read, ?_, by rw [List.map_cons, htargets], ?_⟩
    · rw [List.mapM_cons, load_of_stored format hstored, hread]
      rfl
    · intro m hm
      rcases List.mem_cons.mp hm with rfl | hm
      · exact hstored
      · exact hall m hm

/-- **What a lookup keeps.**  In a sound tree the lookup over some directories succeeds; it gives,
each once and oldest first, the stored manifests with the property whose targets lie in there. -/
lemma exists_recordsWhere (htree : SoundTree format manifests tree)
    (directory : Text × Text → Bool) (test : VerifiedManifest → Bool) :
    ∃ records, recordsWhere format tree directory test = .ok records ∧ records.Nodup ∧
      (∀ manifest, manifest ∈ records ↔
        Stored format tree manifest ∧ directory (target format manifest).directory = true ∧
          test manifest = true) ∧
      records.Pairwise fun m m' => m.createdAt.instant ≤ m'.createdAt.instant := by
  obtain ⟨read, hread, htargets, hall⟩ : ∃ read,
      (globRecords tree directory).mapM (load format tree) = .ok read ∧
        read.map (target format) = globRecords tree directory ∧
        ∀ manifest ∈ read, Stored format tree manifest := by
    refine exists_mapM_load fun path hpath => ?_
    obtain ⟨⟨text, htext⟩, -, hrecord⟩ := mem_globRecords.mp hpath
    obtain ⟨call, -, rfl, rfl⟩ := htree.record hrecord htext
    exact ⟨manifests call, rfl, htext⟩
  have hmem : ∀ manifest, manifest ∈ read ↔
      Stored format tree manifest ∧ directory (target format manifest).directory = true := by
    intro manifest
    rw [← List.mem_map_of_injective target_injective, htargets, mem_globRecords]
    constructor
    · rintro ⟨⟨text, htext⟩, hdirectory, -⟩
      refine ⟨?_, hdirectory⟩
      rw [Stored, htext, htree.text_of_target htext]
    · rintro ⟨hstored, hdirectory⟩
      exact ⟨⟨_, hstored⟩, hdirectory, isRecord_target format manifest⟩
  have hnodup : read.Nodup :=
    List.Nodup.of_map (target format) (htargets ▸ nodup_globRecords directory)
  refine ⟨sortedBy (manifestSortKey format) (read.filter test), ?_, ?_, fun manifest => ?_, ?_⟩
  · unfold recordsWhere
    rw [hread]
    rfl
  · exact (perm_sortedBy _ _).nodup_iff.mpr (hnodup.filter _)
  · rw [mem_sortedBy, List.mem_filter, hmem, and_assoc]
  · refine (pairwise_sortedBy (manifestSortKey format) _).imp fun {m m'} hle => ?_
    rcases (Prod.Lex.toLex_le_toLex).mp hle with hlt | ⟨heq, -⟩
    · exact hlt.le
    · exact heq.le

/-! ## The two lookups -/

/-- `find_by_semantic_hash` returns only and all stored manifests with exactly that semantic
hash, each once and oldest first. -/
def FindsExactly (format : RecordFormat C) (tree : FileTree) : Prop :=
  ∀ semanticHash, ∃ records, findBySemanticHash format tree semanticHash = .ok records ∧
    records.Nodup ∧
    (∀ manifest, manifest ∈ records ↔
      Stored format tree manifest ∧ manifest.semanticHash = semanticHash) ∧
    records.Pairwise fun m m' => m.createdAt.instant ≤ m'.createdAt.instant

/-- `latest_by_deployment_id` returns a stored manifest with exactly that deployment id than which
no other one was created later, and nothing only when there is none. -/
def LatestExactly (format : RecordFormat C) (tree : FileTree) : Prop :=
  ∀ deploymentId, ∃ latest, latestByDeploymentId format tree deploymentId = .ok latest ∧
    (latest = none → ∀ manifest, Stored format tree manifest →
      manifest.deploymentId ≠ deploymentId) ∧
    ∀ manifest, latest = some manifest →
      Stored format tree manifest ∧ manifest.deploymentId = deploymentId ∧
        ∀ other, Stored format tree other → other.deploymentId = deploymentId →
          other.createdAt.instant ≤ manifest.createdAt.instant

section Stored

variable (htree : SoundTree format manifests tree)
include htree

lemma strip_ne_nil_of_stored {manifest : VerifiedManifest} (hstored : Stored format tree manifest) :
    strip manifest.deploymentId.toList ≠ [] ∧ strip manifest.semanticHash.toList ≠ [] := by
  have hidentity := (htree.of_stored hstored).1
  rw [missingIdentity, List.map_eq_nil_iff, List.filter_eq_nil_iff] at hidentity
  constructor
  · simpa using hidentity ("deployment_id", manifest.deploymentId) (by simp)
  · simpa using hidentity ("semantic_hash", manifest.semanticHash) (by simp)

/-- The lookup by semantic hash is exact in a sound tree. -/
theorem findsExactly_of_sound :
    FindsExactly format tree := by
  intro semanticHash
  by_cases hblank : strip semanticHash.toList = []
  · refine ⟨[], by rw [findBySemanticHash, if_pos hblank], by simp, fun manifest => ?_, by simp⟩
    refine ⟨by simp, ?_⟩
    rintro ⟨hstored, rfl⟩
    exact absurd hblank (strip_ne_nil_of_stored htree hstored).2
  · obtain ⟨records, hrecords, hnodup, hmem, hsorted⟩ := exists_recordsWhere htree
      (fun directory => directory.2 = safeNameComponent semanticHash.toList "semantic".toList)
      fun manifest => manifest.semanticHash = semanticHash
    refine ⟨records, ?_, hnodup, fun manifest => ?_, hsorted⟩
    · rw [findBySemanticHash, if_neg hblank]
      exact hrecords
    · rw [hmem]
      simp only [decide_eq_true_eq]
      constructor
      · rintro ⟨hstored, -, hhash⟩
        exact ⟨hstored, hhash⟩
      · rintro ⟨hstored, rfl⟩
        exact ⟨hstored, rfl, rfl⟩

/-- The records of a deployment are the stored manifests with exactly that deployment id. -/
lemma exists_recordsForDeployment (deploymentId : String) :
    ∃ records, recordsForDeployment format tree deploymentId = .ok records ∧
      (∀ manifest, manifest ∈ records ↔
        Stored format tree manifest ∧ manifest.deploymentId = deploymentId) ∧
      records.Pairwise fun m m' => m.createdAt.instant ≤ m'.createdAt.instant := by
  unfold recordsForDeployment
  by_cases hblank : strip deploymentId.toList = []
  · refine ⟨[], by rw [if_pos hblank], fun manifest => ⟨by simp, ?_⟩, by simp⟩
    rintro ⟨hstored, rfl⟩
    exact absurd hblank (strip_ne_nil_of_stored htree hstored).1
  · rw [if_neg hblank]
    by_cases hroot : tree.directories.any fun directory =>
        directory.1 = safeNameComponent deploymentId.toList "deployment".toList
    · obtain ⟨records, hrecords, -, hmem, hsorted⟩ := exists_recordsWhere htree
        (fun directory => directory.1 = safeNameComponent deploymentId.toList "deployment".toList)
        fun manifest => manifest.deploymentId = deploymentId
      refine ⟨records, ?_, fun manifest => ?_, hsorted⟩
      · simp only [hroot, not_true_eq_false, if_false]
        exact hrecords
      · rw [hmem]
        simp only [decide_eq_true_eq]
        constructor
        · rintro ⟨hstored, -, hid⟩
          exact ⟨hstored, hid⟩
        · rintro ⟨hstored, rfl⟩
          exact ⟨hstored, rfl, rfl⟩
    · refine ⟨[], ?_, fun manifest => ⟨by simp, ?_⟩, by simp⟩
      · exact if_pos hroot
      · rintro ⟨hstored, rfl⟩
        -- The directory of a stored record was made, so the root of its deployment exists.
        refine absurd (List.any_eq_true.mpr ?_) hroot
        exact ⟨_, htree.directory _ _ hstored, decide_eq_true rfl⟩

/-- The lookup by deployment id is exact in a sound tree. -/
theorem latestExactly_of_sound :
    LatestExactly format tree := by
  intro deploymentId
  obtain ⟨records, hrecords, hmem, hsorted⟩ := exists_recordsForDeployment htree deploymentId
  refine ⟨records.getLast?, ?_, fun hnone manifest hstored hid => ?_, fun manifest hlast => ?_⟩
  · unfold latestByDeploymentId
    rw [hrecords]
    rfl
  · rw [List.getLast?_eq_none_iff] at hnone
    have hin := (hmem manifest).mpr ⟨hstored, hid⟩
    rw [hnone] at hin
    cases hin
  · obtain ⟨earlier, rfl⟩ := List.getLast?_eq_some_iff.mp hlast
    obtain ⟨hstored, hid⟩ := (hmem manifest).mp (by simp)
    refine ⟨hstored, hid, fun other hother hotherId => ?_⟩
    rcases List.mem_concat_iff.mp ((hmem other).mpr ⟨hother, hotherId⟩) with hin | hin
    · exact (List.pairwise_append.mp hsorted).2.2 other hin manifest (List.mem_singleton_self _)
    · rw [hin]

end Stored

/-! ## Interleavings -/

section Interleavings

variable [DecidableEq C]

/-- A call that had not begun and whose manifest was stored changes no file and no directory in
any of its requests, and it returns the target unless the operating system refuses one of them. -/
def SavesAgain (format : RecordFormat C) (manifests : C → VerifiedManifest) (s : State C)
    (later : List (C × Answer)) (t : State C) : Prop :=
  ∀ call, s.progress call = .entered → Stored format s.tree (manifests call) →
    (∀ before answer u v, before ++ [(call, answer)] <+: later →
      (writers format manifests).run s before = .ok u →
      (writers format manifests).step u (call, answer) = .ok v → v.tree = u.tree) ∧
    ∀ result, t.progress call = .finished result → (∀ text, (call, .raises text) ∉ later) →
      result = .ok (target format (manifests call))

/-- Every call that returned gave the path of its record, which is in the store, and every record
of the store is the record of a call. -/
def HoldsSaves (format : RecordFormat C) (manifests : C → VerifiedManifest) (t : State C) : Prop :=
  (∀ call path, t.progress call = .finished (.ok path) →
    path = target format (manifests call) ∧ Stored format t.tree (manifests call)) ∧
  ∀ path text, path.isRecord = true → t.tree.files.get? path = some text →
    ∃ call, path = target format (manifests call) ∧ text = payload format (manifests call)

variable {s : State C}

lemma savesAgain_of_run {t : State C} {later : List (C × Answer)} (hs : Sound format manifests s)
    (hrun : (writers format manifests).run s later = .ok t) :
    SavesAgain format manifests s later t := by
  intro call hentered hstored
  refine ⟨fun before answer u v _ hbefore hstep => ?_, ?_⟩
  · obtain ⟨hu, hustored, hreads, -⟩ := reads_only_of_stored hs hentered hstored hbefore
    obtain ⟨tree, progress, hsave, rfl⟩ := step_writers hstep
    exact (saveStep_of_stored hu.tree hustored hreads hsave).1
  · exact (reads_only_of_stored hs hentered hstored hrun).2.2.2

/-- **The store under any interleaving.**  Between any two states of a run from the empty store no
record changes or disappears, saving what is stored leaves the store as it is, and in every state
the lookups return exactly what the calls have stored. -/
theorem interleaved_saves_kept {s t : State C} {earlier later : List (C × Answer)}
    (hearlier : (writers format manifests).run (initial C) earlier = .ok s)
    (hlater : (writers format manifests).run s later = .ok t) :
    Keeps s.tree t.tree ∧ SavesAgain format manifests s later t ∧ HoldsSaves format manifests t ∧
      FindsExactly format t.tree ∧ LatestExactly format t.tree := by
  have hs : Sound format manifests s := sound_initial.run hearlier
  have ht : Sound format manifests t := hs.run hlater
  refine ⟨hs.keeps_run hlater, savesAgain_of_run hs hlater, ⟨fun call path hfinished => ?_, ?_⟩,
    findsExactly_of_sound ht.tree, latestExactly_of_sound ht.tree⟩
  · have hentitled := ht.entitled call
    rw [hfinished] at hentitled
    exact hentitled path rfl
  · intro path text hrecord htext
    obtain ⟨call, -, htarget, hpayload⟩ := ht.tree.record hrecord htext
    exact ⟨call, htarget, hpayload⟩

/-- All the requests of one save, each of them granted. -/
def granted (call : C) : List (C × Answer) := List.replicate 7 (call, .done)

/-- **A save that nothing disturbs** returns, and it adds its record to the files. -/
theorem run_granted {call : C} (hentered : s.progress call = .entered)
    (hidentity : missingIdentity (manifests call) = [])
    (htarget : s.tree.files.get? (target format (manifests call)) = none)
    (htemporary : s.tree.files.get? (temporary format (manifests call) call) = none) :
    ∃ t, (writers format manifests).run s (granted call) = .ok t ∧
      (∀ other, t.progress other =
        if other = call then .finished (.ok (target format (manifests call)))
        else s.progress other) ∧
      ∀ path, t.tree.files.get? path =
        if target format (manifests call) = path then some (payload format (manifests call))
        else if temporary format (manifests call) call = path then none
        else s.tree.files.get? path := by
  have hmade : (temporary format (manifests call) call).directory ∈
      (s.tree.mkdir (recordDir (manifests call))).directories :=
    mem_mkdir_directories.mpr (Or.inl rfl)
  have hne := @target_ne_temporary _ format (manifests call) (manifests call) call
  let tree := s.tree.mkdir (recordDir (manifests call))
  let opened := tree.files.set (temporary format (manifests call) call) []
  let written := opened.set (temporary format (manifests call) call) (payload format (manifests call))
  let replaced := (written.erase (temporary format (manifests call) call)).set
    (target format (manifests call)) (payload format (manifests call))
  refine ⟨⟨⟨tree.directories, replaced.erase (temporary format (manifests call) call)⟩,
    Function.update s.progress call (.finished (.ok (target format (manifests call))))⟩, ?_, ?_, ?_⟩
  · simp [granted, List.replicate, Machine.run, writers, saveStep, hentered, hidentity,
      Dict.contains, htarget, htemporary, hmade, FileTree.write, FileTree.unlink, hne.symm,
      tree, opened, written, replaced]
  · intro other
    by_cases hother : other = call
    · subst hother
      simp
    · simp [hother]
  · intro path
    by_cases htarget' : target format (manifests call) = path
    · subst htarget'
      simp [replaced, hne.symm]
    · by_cases htemporary' : temporary format (manifests call) call = path
      · simp [htarget', htemporary']
      · simp [htarget', htemporary', replaced, written, opened, tree]

end Interleavings

/-! ## Two aliases in one directory -/

section Aliases

/-- Prescribe the texts of two values and mark the texts of all others. -/
def prescribe {α : Type*} [DecidableEq α] (a b : α) (atA atB : Text) (others : α → Text) (x : α) :
    Text :=
  if x = a then atA else if x = b then atB else '#' :: others x

lemma prescribe_injective {α : Type*} [DecidableEq α] {a b : α} {atA atB : Text}
    {others : α → Text} (hab : atA ≠ atB) (hA : atA.head? ≠ some '#') (hB : atB.head? ≠ some '#')
    (hothers : Function.Injective others) :
    Function.Injective (prescribe a b atA atB others) := by
  intro x y h
  unfold prescribe at h
  split_ifs at h with hxa hya hyb hxb hya hyb hya hyb
  · rw [hxa, hya]
  · exact absurd h hab
  · exact absurd (congrArg List.head? h) hA
  · exact absurd h.symm hab
  · rw [hxb, hyb]
  · exact absurd (congrArg List.head? h) hB
  · exact absurd (congrArg List.head? h.symm) hA
  · exact absurd (congrArg List.head? h.symm) hB
  · exact hothers (List.cons.inj h).2

instance countableChar : Countable Char :=
  Function.Injective.countable (f := Char.toNat) fun _ _ h => Char.toNat_inj.mp h

instance countableString : Countable String :=
  Function.Injective.countable (f := String.toList) fun _ _ h => String.toList_inj.mp h

instance : Countable Timestamp :=
  Function.Injective.countable (f := fun t => (t.wallClock, t.utcOffset)) fun a b h => by
    cases a
    cases b
    simpa using h

instance : Countable EnvironmentFingerprint :=
  Function.Injective.countable (f := fun e => (e.backend, e.backendVersion, e.bridgeTransport,
    e.extensionVersion, e.platform, e.capabilitySnapshotVersion, e.runtimeMode)) fun a b h => by
    cases a
    cases b
    simpa using h

instance : Countable IdentityMethod :=
  Function.Injective.countable (f := IdentityMethod.ctorIdx) fun a b h => by
    cases a <;> cases b <;> first | rfl | cases h

instance : Countable DeploymentBinding :=
  Function.Injective.countable (f := fun b => (b.semanticDeviceId, b.deployedName, b.model,
    b.runtimeIdentifier, b.runtimeFingerprint, b.ports, b.identityMethod, b.creationEvidence))
    fun a b h => by
    cases a
    cases b
    simpa using h

instance : Countable DeploymentLinkEndpoint :=
  Function.Injective.countable (f := fun e => (e.semanticDeviceId, e.interface,
    e.orientation.value)) fun a b h => by
    obtain ⟨device, interface, orientation⟩ := a
    obtain ⟨device', interface', orientation'⟩ := b
    cases orientation <;> cases orientation' <;>
      simp_all [SerialEndpointOrientation.value]

instance : Countable DeploymentLinkBinding :=
  Function.Injective.countable (f := fun l => (l.semanticLinkId, l.endpointA, l.endpointB,
    l.runtimeLinkIdentifier, l.runtimeLinkIdentityObserved)) fun a b h => by
    cases a
    cases b
    simpa using h

instance : Countable DeploymentManifest :=
  Function.Injective.countable (f := fun m => (m.deploymentId, m.physicalTopologyHash, m.backend,
    m.backendVersion, m.environmentFingerprint, m.bindings, m.linkBindings)) fun a b h => by
    cases a
    cases b
    simpa using h

instance : Countable VerifiedManifest :=
  Function.Injective.countable (f := fun m => (m.toDeploymentManifest, m.semanticHash,
    m.createdAt)) fun a b h => by
    cases a
    cases b
    simpa using h

/-- A manifest of a deployment that was verified at noon of the first of May 2024. -/
def sampleManifest (deploymentId : String) : VerifiedManifest where
  deploymentId := deploymentId
  physicalTopologyHash := "p"
  semanticHash := "s"
  createdAt := ⟨1714564800000000, some 0⟩

/-- The indented JSON of such a manifest, whose id needs no escape. -/
def sampleJson (deploymentId : String) : Text :=
  '\x7b' :: ("\n  \"deployment_id\": \"".toList ++ deploymentId.toList ++
    ("\",\n  \"physical_topology_hash\": \"p\",\n" ++
      "  \"backend\": \"packet_tracer\",\n  \"backend_version\": \"\",\n" ++
      "  \"environment_fingerprint\": \x7b\n    \"backend\": \"packet_tracer\",\n" ++
      "    \"backend_version\": \"\",\n    \"bridge_transport\": \"\",\n" ++
      "    \"extension_version\": \"\",\n    \"platform\": \"\",\n" ++
      "    \"capability_snapshot_version\": \"\",\n    \"runtime_mode\": \"\"\n  \x7d,\n" ++
      "  \"bindings\": [],\n  \"link_bindings\": [],\n  \"semantic_hash\": \"s\",\n" ++
      "  \"created_at\": \"2024-05-01T12:00:00Z\"\n\x7d").toList)

/-- Its canonical payload. -/
def sampleCanonical (deploymentId : String) : Text :=
  '\x7b' :: (("\"backend\":\"packet_tracer\",\"backend_version\":\"\",\"bindings\":[]," ++
    "\"created_at\":\"2024-05-01T12:00:00Z\",\"deployment_id\":\"").toList ++
    deploymentId.toList ++
    ("\",\"environment_fingerprint\":\x7b\"backend\":\"packet_tracer\"," ++
      "\"backend_version\":\"\",\"bridge_transport\":\"\"," ++
      "\"capability_snapshot_version\":\"\",\"extension_version\":\"\",\"platform\":\"\"," ++
      "\"runtime_mode\":\"\"\x7d,\"link_bindings\":[],\"physical_topology_hash\":\"p\"," ++
      "\"semantic_hash\":\"s\"\x7d").toList)

lemma sampleId_ne : "lab 1".toList ≠ "lab_1".toList := by decide

lemma sampleJson_ne : sampleJson "lab 1" ≠ sampleJson "lab_1" := fun h =>
  sampleId_ne (List.append_cancel_left (List.append_cancel_right (List.cons.inj h).2))

lemma sampleCanonical_ne : sampleCanonical "lab 1" ≠ sampleCanonical "lab_1" := fun h =>
  sampleId_ne (List.append_cancel_left (List.append_cancel_right (List.cons.inj h).2))

/-- Some numbering of the manifests, written in unary. -/
noncomputable def numbering (manifest : VerifiedManifest) : Text :=
  List.replicate (Classical.choose (exists_injective_nat VerifiedManifest) manifest) 'n'

lemma numbering_injective : Function.Injective numbering := by
  intro m m' h
  have hlength := congrArg List.length h
  simp only [numbering, List.length_replicate] at hlength
  exact Classical.choose_spec (exists_injective_nat VerifiedManifest) hlength

lemma prescribe_samples_injective {text : String → Text} (hne : text "lab 1" ≠ text "lab_1")
    (hbrace : ∀ deploymentId, (text deploymentId).head? = some '\x7b') :
    Function.Injective (prescribe (sampleManifest "lab 1") (sampleManifest "lab_1") (text "lab 1")
      (text "lab_1") numbering) :=
  prescribe_injective hne (by rw [hbrace]; decide) (by rw [hbrace]; decide) numbering_injective

/-- The JSON texts that the two samples have. -/
noncomputable def sampleDump : VerifiedManifest → Text :=
  prescribe (sampleManifest "lab 1") (sampleManifest "lab_1") (sampleJson "lab 1")
    (sampleJson "lab_1") numbering

lemma sampleDump_injective : Function.Injective fun manifest => sampleDump manifest ++ ['\n'] := by
  intro m m' h
  have htexts : sampleDump m = sampleDump m' := List.append_cancel_right h
  exact prescribe_samples_injective sampleJson_ne (fun _ => rfl) htexts

/-- The digests of the samples. -/
def sampleDigest (call : Bool) : Text :=
  (if call then "496b57fcc7600c68d8befeb7fad128c1d8422312deb3475950b9a0a159d5d33c"
    else "a54fd78b71a3ca23931c5e8b2a0dcca102f1339652219f4730a1fc2eea8e5918").toList

/-- The tokens of the two calls. -/
def sampleToken (call : Bool) : Text :=
  (if call then "7f2b0c6e9a514d3f8e21c4b6a7d90e13" else "1c9d3e5fa06b4872b3e8f1d2c4a59670").toList

lemma sampleToken_injective : Function.Injective sampleToken := by
  have hne : sampleToken true ≠ sampleToken false := by decide
  intro call call' h
  cases call with
  | true =>
    cases call' with
    | true => rfl
    | false => exact absurd h hne
  | false =>
    cases call' with
    | true => exact absurd h.symm hne
    | false => rfl

/-- A format that does to the two samples what the libraries do to them. -/
noncomputable def sampleFormat : RecordFormat Bool where
  baseDir := "/data/deployments".toList
  modelDumpJson := sampleDump
  modelValidateJson := Function.partialInv fun manifest => sampleDump manifest ++ ['\n']
  canonicalPayload := prescribe (sampleManifest "lab 1") (sampleManifest "lab_1")
    (sampleCanonical "lab 1") (sampleCanonical "lab_1") numbering
  sha256 := prescribe (sampleCanonical "lab 1") (sampleCanonical "lab_1") (sampleDigest false)
    (sampleDigest true) id
  uuid4 := sampleToken
  validate_dump manifest := Function.partialInv_left sampleDump_injective manifest
  canonicalPayload_injective := prescribe_samples_injective sampleCanonical_ne fun _ => rfl
  sha256_injective :=
    prescribe_injective (by decide) (by decide) (by decide)
      Function.injective_id
  uuid4_injective := sampleToken_injective
  length_uuid4 call := by cases call <;> decide

/-- Two calls whose deployment ids are sanitised to the same name. -/
def sampleManifests (call : Bool) : VerifiedManifest :=
  sampleManifest (if call then "lab_1" else "lab 1")

/-- One of two aliases is saved, and then the other one next to it. -/
theorem interleaved_saves_kept_aliases :
    recordDir (sampleManifests false) = recordDir (sampleManifests true) ∧
    ∃ s t, (writers sampleFormat sampleManifests).run (initial Bool) (granted false) = .ok s ∧
      (writers sampleFormat sampleManifests).run s (granted true) = .ok t ∧
      Keeps s.tree t.tree ∧ SavesAgain sampleFormat sampleManifests s (granted true) t ∧
      HoldsSaves sampleFormat sampleManifests t ∧
      FindsExactly sampleFormat t.tree ∧ LatestExactly sampleFormat t.tree := by
  refine ⟨by decide, ?_⟩
  obtain ⟨s, hs, hprogress, hfiles⟩ := @run_granted _ sampleFormat
    sampleManifests _ (initial Bool) false rfl (by decide)
    rfl rfl
  have hne : sampleManifests false ≠ sampleManifests true := by decide
  obtain ⟨t, ht, -, -⟩ := @run_granted _ sampleFormat sampleManifests _ s true
    (by rw [hprogress]; rfl) (by decide)
    (by
      rw [hfiles, if_neg fun h => hne (target_injective h),
        if_neg (target_ne_temporary _ _ _).symm]
      rfl)
    (by
      rw [hfiles, if_neg (target_ne_temporary _ _ _),
        if_neg fun h => Bool.false_ne_true (temporary_injective h)]
      rfl)
  exact ⟨s, t, hs, ht, interleaved_saves_kept hs ht⟩

end Aliases

end DeploymentManifestStore

end PacketTracer
