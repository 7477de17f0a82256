import PacketTracer.Infrastructure.DeploymentManifestStore

/-!
# The store of capability snapshots

`capability_snapshot_store.py` and the snapshots of `discovery.py`: a snapshot is stored in the
directory that the text of its Packet Tracer version is sanitised to, and the listing of a version
reads that directory.

Different texts are sanitised to one directory, and the listing compares no versions.  It answers
for the version it was asked about exactly when the directory holds what that version put there.
-/

namespace PacketTracer

open Dicts PyStrs PyText Fallible

/-! ## Snapshots -/

/-- `BackendVersionProvenance`. -/
inductive BackendVersionProvenance
  | directlyObserved
  | declaredEnvironment
  | unknown
  deriving DecidableEq

/-- `CleanupStatus`. -/
inductive CleanupStatus
  | clean
  | dirtySession
  | notRequired
  deriving DecidableEq

/-- `InventoryRestoration`. -/
inductive InventoryRestoration
  | restored
  | notRestored
  | notApplicable
  | unknown
  deriving DecidableEq

/-- `classify_inventory_restoration`. -/
def classifyInventoryRestoration (inventoryRestored : Option Bool) (mutated : Bool) :
    InventoryRestoration :=
  match inventoryRestored with
  | some true => .restored
  | some false => .notRestored
  | none => if mutated then .unknown else .notApplicable

/-- `_REUSABLE_RESTORATIONS`. -/
def reusableRestorations : List InventoryRestoration := [.restored, .notApplicable]

/-- `ProbeContext`, with the answer of the admission rule about its safety evidence: an absent
evidence is valid. -/
structure ProbeContext where
  inventoryRestored : Option Bool := none
  mutations : List String := []
  cleanupStatus : CleanupStatus := .notRequired
  liveSafetyValid : Bool := true
  deriving DecidableEq

/-- `ProbeContext.reusable`. -/
def ProbeContext.reusable (context : ProbeContext) : Bool :=
  context.cleanupStatus ≠ .dirtySession &&
    classifyInventoryRestoration context.inventoryRestored (context.mutations ≠ []) ∈
      reusableRestorations &&
    context.liveSafetyValid

/-- `DeviceIdentity`: the names by which a snapshot knows a model. -/
structure DeviceIdentity where
  canonicalId : Option String := none
  runtimeId : Option String := none
  deriving DecidableEq

/-- `canonical_id or runtime_id`. -/
def DeviceIdentity.name (identity : DeviceIdentity) : Option String :=
  match identity.canonicalId with
  | some name => if name = "" then identity.runtimeId else some name
  | none => identity.runtimeId

/-- `CapabilityProbeResult`. -/
structure CapabilityProbeResult where
  model : String
  capability : String
  context : Option ProbeContext := none
  deriving DecidableEq

/-- `CapabilitySnapshot`, with the fields of its session. -/
structure CapabilitySnapshot where
  probeSchemaVersion : ℤ := 2
  packetTracerVersion : Option String := none
  backendVersionProvenance : BackendVersionProvenance := .unknown
  environmentFingerprint : String := ""
  probeFingerprints : Dict String String := .empty
  initialInventoryHash : String := ""
  inventoryRestored : Option Bool := none
  startedAt : Timestamp
  mutations : List String := []
  cleanupStatus : CleanupStatus := .notRequired
  devices : List DeviceIdentity := []
  results : List CapabilityProbeResult := []
  deriving DecidableEq

/-- `CapabilitySnapshot.reusable`. -/
def CapabilitySnapshot.reusable (snapshot : CapabilitySnapshot) : Bool :=
  snapshot.cleanupStatus ≠ .dirtySession &&
    classifyInventoryRestoration snapshot.inventoryRestored (snapshot.mutations ≠ []) ∈
      reusableRestorations &&
    snapshot.results.all fun result => (result.context.map ProbeContext.reusable).getD true

namespace CapabilitySnapshotStore

/-! ## Files -/

/-- The directory of a version below `runtime` and the name of a file in it. -/
abbrev SnapshotPath := Text × Text

/-- What reading a file gives. -/
inductive SnapshotFile
  | snapshot (value : CapabilitySnapshot)
  /-- It is gone before it is read. -/
  | vanished
  /-- It cannot be read as evidence, with the reason. -/
  | corrupt (reason : String)
  deriving DecidableEq

/-- The files below `runtime`. -/
abbrev Store := Dict SnapshotPath SnapshotFile

/-- The exceptions that a listing lets out. -/
inductive ListError
  /-- `VanishedCapabilitySnapshotError`. -/
  | vanished (path : SnapshotPath) (reason : String)
  /-- `CorruptCapabilitySnapshotError`. -/
  | corrupt (path : SnapshotPath) (reason : String)
  /-- `TypeError`: a naive and an aware time cannot be compared. -/
  | uncomparable
  deriving DecidableEq

/-- The directory of a version: `safe_name_component(version or "unknown", "unknown")`. -/
def versionDirectory (version : Option String) : Text :=
  let version := version.getD ""
  safeNameComponent (if version = "" then "unknown" else version).toList "unknown".toList

/-- `_target`. -/
def target (stableHash : CapabilitySnapshot → String) (snapshot : CapabilitySnapshot) :
    SnapshotPath :=
  (versionDirectory snapshot.packetTracerVersion, (stableHash snapshot ++ ".json").toList)

/-- `save_runtime`, when the operating system lets it. -/
def saveRuntime (stableHash : CapabilitySnapshot → String) (store : Store)
    (snapshot : CapabilitySnapshot) : Store :=
  store.set (target stableHash snapshot) (.snapshot snapshot)

/-- `_load`. -/
def load (store : Store) (path : SnapshotPath) : Except ListError CapabilitySnapshot :=
  match store.get? path with
  | some (.snapshot snapshot) => .ok snapshot
  | some (.corrupt reason) => .error (.corrupt path reason)
  | some .vanished | none =>
    .error (.vanished path "enumerated by this read and gone before it could be read")

/-- The paths that a listing reads. -/
def enumerated (store : Store) (version : Option String) : List SnapshotPath :=
  let files := store.keys.filter fun path => ".json".toList.isSuffixOf path.2
  sortedBy (fun path => toLex path)
    (match version with
    | none => files
    | some version =>
      files.filter fun path =>
        path.1 = safeNameComponent version.toList "unknown".toList)

/-- Two times are compared when both are naive or both are aware. -/
def comparable (snapshots : List CapabilitySnapshot) : Bool :=
  snapshots.all fun a => snapshots.all fun b =>
    a.startedAt.utcOffset.isSome = b.startedAt.utcOffset.isSome

/-- `list_runtime`. -/
def listRuntime (store : Store) (version : Option String) :
    Except ListError (List CapabilitySnapshot) := do
  let snapshots ← (enumerated store version).mapM (load store)
  if comparable snapshots then
    return sortedBy (fun snapshot => snapshot.startedAt.instant) snapshots
  else throw .uncomparable

/-- What `find_cached` is asked for besides the version. -/
structure CacheQuery where
  models : List String
  capabilities : List String
  probeSchemaVersion : ℤ
  environmentFingerprint : String := ""
  probeFingerprints : Dict String String := .empty
  initialInventoryHash : String := ""

/-- Whether `find_cached` takes a snapshot. -/
def CacheQuery.takes (query : CacheQuery) (snapshot : CapabilitySnapshot) : Bool :=
  snapshot.probeSchemaVersion = query.probeSchemaVersion && snapshot.reusable &&
    snapshot.backendVersionProvenance ≠ .unknown &&
    (query.environmentFingerprint = "" ||
      snapshot.environmentFingerprint = query.environmentFingerprint) &&
    (query.initialInventoryHash = "" ||
      snapshot.initialInventoryHash = query.initialInventoryHash) &&
    (query.probeFingerprints.entries.all fun entry =>
      snapshot.probeFingerprints.get? entry.1 = some entry.2) &&
    (query.models.all fun model =>
      some model ∈ snapshot.devices.map DeviceIdentity.name) &&
    query.models.all fun model => query.capabilities.all fun capability =>
      snapshot.results.any fun result => result.model = model && result.capability = capability

/-- `find_cached`. -/
def findCached (store : Store) (version : Option String) (query : CacheQuery) :
    Except ListError (Option CapabilitySnapshot) := do
  let snapshots ← listRuntime store version
  return snapshots.reverse.find? query.takes

/-- The listing and the cache answer for a version with snapshots of that version only. -/
def AnswersExactly (store : Store) (version : String) : Prop :=
  (∀ snapshots, listRuntime store (some version) = .ok snapshots →
    ∀ snapshot ∈ snapshots, snapshot.packetTracerVersion = some version) ∧
  ∀ query snapshot, findCached store (some version) query = .ok (some snapshot) →
    snapshot.packetTracerVersion = some version

/-! ## What a listing reads -/

/-- A snapshot that lies in the directory of a version. -/
def StoredFor (store : Store) (version : String) (snapshot : CapabilitySnapshot) : Prop :=
  ∃ path, path.1 = versionDirectory (some version) ∧ ".json".toList.isSuffixOf path.2 ∧
    store.get? path = some (.snapshot snapshot)

/-- A file of the directory cannot be read as evidence. -/
def HasUnusableFile (store : Store) (version : String) : Prop :=
  ∃ path file, path.1 = versionDirectory (some version) ∧ ".json".toList.isSuffixOf path.2 ∧
    store.get? path = some file ∧ ∀ snapshot, file ≠ .snapshot snapshot

/-- A snapshot with a naive time and one with an aware time lie in the directory. -/
def HasMixedTimes (store : Store) (version : String) : Prop :=
  ∃ a b, StoredFor store version a ∧ StoredFor store version b ∧
    a.startedAt.utcOffset.isSome ≠ b.startedAt.utcOffset.isSome

lemma versionDirectory_some (version : String) :
    versionDirectory (some version) = safeNameComponent version.toList "unknown".toList := by
  unfold versionDirectory
  by_cases hversion : version = ""
  · subst hversion
    decide
  · simp [hversion]

variable {store : Store} {version : String} {snapshot : CapabilitySnapshot}
  {snapshots : List CapabilitySnapshot}
  {path : SnapshotPath} {stableHash : CapabilitySnapshot → String}

lemma mem_enumerated :
    path ∈ enumerated store (some version) ↔
      path.1 = versionDirectory (some version) ∧ ".json".toList.isSuffixOf path.2 ∧
        ∃ file, store.get? path = some file := by
  rw [versionDirectory_some, ← Option.isSome_iff_exists, Dict.isSome_get?_iff_mem_keys]
  simp only [enumerated, mem_sortedBy, List.mem_filter, decide_eq_true_eq]
  constructor
  · rintro ⟨⟨hkey, hjson⟩, hdirectory⟩
    exact ⟨hdirectory, hjson, hkey⟩
  · rintro ⟨hdirectory, hjson, hkey⟩
    exact ⟨⟨hkey, hjson⟩, hdirectory⟩

lemma load_eq_ok_iff :
    load store path = .ok snapshot ↔ store.get? path = some (.snapshot snapshot) := by
  unfold load
  cases store.get? path with
  | none => simp
  | some file => cases file <;> simp

lemma comparable_iff :
    comparable snapshots = true ↔ ∀ a ∈ snapshots, ∀ b ∈ snapshots,
      a.startedAt.utcOffset.isSome = b.startedAt.utcOffset.isSome := by
  simp [comparable]

lemma mem_of_mapM_load (h : (enumerated store (some version)).mapM (load store) = .ok snapshots) :
    snapshot ∈ snapshots ↔ StoredFor store version snapshot := by
  constructor
  · intro hmem
    obtain ⟨path, hpath, hload⟩ := exists_of_mem_mapM_eq_ok h hmem
    obtain ⟨hdirectory, hjson, -⟩ := mem_enumerated.mp hpath
    exact ⟨path, hdirectory, hjson, load_eq_ok_iff.mp hload⟩
  · rintro ⟨path, hdirectory, hjson, hfile⟩
    have hpath : path ∈ enumerated store (some version) :=
      mem_enumerated.mpr ⟨hdirectory, hjson, _, hfile⟩
    obtain ⟨loaded, hloaded, hload⟩ := exists_result_of_mapM_eq_ok h hpath
    have heq : load store path = .ok snapshot := load_eq_ok_iff.mpr hfile
    rw [heq] at hload
    rw [Except.ok.inj hload]
    exact hloaded

lemma mem_of_listRuntime (h : listRuntime store (some version) = .ok snapshots) :
    snapshot ∈ snapshots ↔ StoredFor store version snapshot := by
  obtain ⟨loaded, hloaded, hrest⟩ := bind_eq_ok.mp h
  by_cases hcomparable : comparable loaded = true
  · rw [if_pos hcomparable] at hrest
    have heq := Except.ok.inj hrest
    rw [← heq, mem_sortedBy]
    exact mem_of_mapM_load hloaded
  · rw [if_neg hcomparable] at hrest
    cases hrest

/-- A listing answers unless a file is unusable or the times do not compare. -/
lemma exists_listRuntime_iff :
    (∃ snapshots, listRuntime store (some version) = .ok snapshots) ↔
      ¬HasUnusableFile store version ∧ ¬HasMixedTimes store version := by
  constructor
  · rintro ⟨snapshots, h⟩
    obtain ⟨loaded, hloaded, hrest⟩ := bind_eq_ok.mp h
    constructor
    · rintro ⟨path, file, hdirectory, hjson, hfile, hunusable⟩
      have hpath : path ∈ enumerated store (some version) :=
        mem_enumerated.mpr ⟨hdirectory, hjson, file, hfile⟩
      obtain ⟨snapshot, -, hload⟩ := exists_result_of_mapM_eq_ok hloaded hpath
      rw [load_eq_ok_iff, hfile] at hload
      exact hunusable snapshot (Option.some.inj hload)
    · rintro ⟨a, b, ha, hb, hne⟩
      have hcomparable : comparable loaded ≠ true := fun hall =>
        hne (comparable_iff.mp hall a ((mem_of_mapM_load hloaded).mpr ha) b
          ((mem_of_mapM_load hloaded).mpr hb))
      rw [if_neg hcomparable] at hrest
      cases hrest
  · rintro ⟨husable, htimes⟩
    have hall : ∀ path ∈ enumerated store (some version),
        ∃ snapshot, load store path = .ok snapshot := by
      intro path hpath
      obtain ⟨hdirectory, hjson, file, hfile⟩ := mem_enumerated.mp hpath
      by_contra hnone
      apply husable
      refine ⟨path, file, hdirectory, hjson, hfile, ?_⟩
      rintro snapshot rfl
      exact hnone ⟨snapshot, load_eq_ok_iff.mpr hfile⟩
    obtain ⟨loaded, hloaded⟩ := exists_mapM_eq_ok hall
    have hcomparable : comparable loaded = true := by
      rw [comparable_iff]
      intro a ha b hb
      by_contra hne
      exact htimes ⟨a, b, (mem_of_mapM_load hloaded).mp ha, (mem_of_mapM_load hloaded).mp hb, hne⟩
    refine ⟨sortedBy (fun snapshot => snapshot.startedAt.instant) loaded,
      bind_eq_ok.mpr ⟨loaded, hloaded, ?_⟩⟩
    rw [if_pos hcomparable]
    rfl

lemma mem_listRuntime_of_findCached {version : Option String} {query : CacheQuery}
    (h : findCached store version query = .ok (some snapshot)) :
    ∃ snapshots, listRuntime store version = .ok snapshots ∧ snapshot ∈ snapshots := by
  obtain ⟨snapshots, hsnapshots, hrest⟩ := bind_eq_ok.mp h
  refine ⟨snapshots, hsnapshots, ?_⟩
  have hfind : snapshots.reverse.find? query.takes = some snapshot := Except.ok.inj hrest
  exact List.mem_reverse.mp (List.mem_of_find?_eq_some hfind)

/-! ## Versions that share a directory -/

/-- Another version whose text is sanitised to the same directory. -/
def Collides (other : Option String) (version : String) : Prop :=
  other ≠ some version ∧ versionDirectory other = versionDirectory (some version)

instance (other : Option String) (version : String) : Decidable (Collides other version) :=
  inferInstanceAs (Decidable (_ ∧ _))

/-- Every snapshot lies in the directory of its own version. -/
def WellPlaced (store : Store) : Prop :=
  ∀ path snapshot, store.get? path = some (.snapshot snapshot) →
    path.1 = versionDirectory snapshot.packetTracerVersion

/-- Every file is a snapshot. -/
def AllUsable (store : Store) : Prop :=
  ∀ path file, store.get? path = some file → ∃ snapshot, file = .snapshot snapshot

lemma WellPlaced.saveRuntime (h : WellPlaced store) (snapshot : CapabilitySnapshot) :
    WellPlaced (saveRuntime stableHash store snapshot) := by
  intro path other hother
  rw [CapabilitySnapshotStore.saveRuntime, Dict.get?_set] at hother
  split_ifs at hother with hpath
  · cases hother
    rw [← hpath]
    rfl
  · exact h path other hother

lemma AllUsable.saveRuntime (h : AllUsable store) (snapshot : CapabilitySnapshot) :
    AllUsable (saveRuntime stableHash store snapshot) := by
  intro path file hfile
  rw [CapabilitySnapshotStore.saveRuntime, Dict.get?_set] at hfile
  split_ifs at hfile with hpath
  · exact ⟨snapshot, (Option.some.inj hfile).symm⟩
  · exact h path file hfile

/-- A store that only `save_runtime` wrote. -/
def written (stableHash : CapabilitySnapshot → String) (saves : List CapabilitySnapshot) : Store :=
  saves.foldl (saveRuntime stableHash) .empty

lemma written_wellPlaced (stableHash : CapabilitySnapshot → String)
    (saves : List CapabilitySnapshot) :
    WellPlaced (written stableHash saves) ∧ AllUsable (written stableHash saves) := by
  have hrun : ∀ store : Store, WellPlaced store ∧ AllUsable store →
      WellPlaced (saves.foldl (saveRuntime stableHash) store) ∧
        AllUsable (saves.foldl (saveRuntime stableHash) store) := by
    induction saves with
    | nil => exact fun store h => h
    | cons snapshot saves ih =>
      intro store h
      exact ih _ ⟨h.1.saveRuntime snapshot, h.2.saveRuntime snapshot⟩
  apply hrun
  constructor
  · intro path snapshot h
    simp at h
  · intro path file h
    simp at h

/-- **The listing and the cache answer exactly** for a version iff the directory cannot be listed,
or all snapshots in it belong there and none is of another version that shares the directory. -/
lemma answersExactly_iff_storedFor :
    AnswersExactly store version ↔
      (HasUnusableFile store version ∨ HasMixedTimes store version) ∨
        ∀ snapshot, StoredFor store version snapshot →
          versionDirectory snapshot.packetTracerVersion = versionDirectory (some version) ∧
            ¬Collides snapshot.packetTracerVersion version := by
  constructor
  · intro h
    by_cases hlist : ∃ snapshots, listRuntime store (some version) = .ok snapshots
    · obtain ⟨snapshots, hsnapshots⟩ := hlist
      refine .inr fun snapshot hstored => ?_
      have hversion := h.1 snapshots hsnapshots snapshot
        ((mem_of_listRuntime hsnapshots).mpr hstored)
      rw [hversion]
      exact ⟨rfl, fun hcollides => hcollides.1 rfl⟩
    · rw [exists_listRuntime_iff, not_and_or, not_not, not_not] at hlist
      exact .inl hlist
  · intro h
    have hexact : ∀ snapshots, listRuntime store (some version) = .ok snapshots →
        ∀ snapshot ∈ snapshots, snapshot.packetTracerVersion = some version := by
      intro snapshots hsnapshots snapshot hmem
      rcases h with hraises | hall
      · have husable := exists_listRuntime_iff.mp ⟨snapshots, hsnapshots⟩
        rcases hraises with hfile | htimes
        · exact absurd hfile husable.1
        · exact absurd htimes husable.2
      · obtain ⟨hdirectory, hcollides⟩ := hall snapshot ((mem_of_listRuntime hsnapshots).mp hmem)
        by_contra hne
        exact hcollides ⟨hne, hdirectory⟩
    refine ⟨hexact, ?_⟩
    intro query snapshot hfound
    obtain ⟨snapshots, hsnapshots, hmem⟩ := mem_listRuntime_of_findCached hfound
    exact hexact snapshots hsnapshots snapshot hmem

/-- The listing and the cache answer exactly for a version iff its directory cannot be listed, or
every snapshot there lies in the directory of its own version and none is of another version that
shares it.  In a store that only `save_runtime` wrote, that is to say that no stored snapshot is of
such a version. -/
theorem answersExactly_iff (store : Store) (version : String) :
    (AnswersExactly store version ↔
      (HasUnusableFile store version ∨ HasMixedTimes store version) ∨
        ∀ snapshot, StoredFor store version snapshot →
          versionDirectory snapshot.packetTracerVersion = versionDirectory (some version) ∧
            ¬Collides snapshot.packetTracerVersion version) ∧
    ∀ (stableHash : CapabilitySnapshot → String) (saves : List CapabilitySnapshot),
      AnswersExactly (written stableHash saves) version ↔
        HasMixedTimes (written stableHash saves) version ∨
          ∀ snapshot, StoredFor (written stableHash saves) version snapshot →
            ¬Collides snapshot.packetTracerVersion version := by
  refine ⟨answersExactly_iff_storedFor, ?_⟩
  intro stableHash saves
  obtain ⟨hplaced, husable⟩ := written_wellPlaced stableHash saves
  rw [answersExactly_iff_storedFor]
  constructor
  · rintro ((hfile | htimes) | hall)
    · obtain ⟨path, file, -, -, hfile, hunusable⟩ := hfile
      obtain ⟨snapshot, hsnapshot⟩ := husable path file hfile
      exact absurd hsnapshot (hunusable snapshot)
    · exact .inl htimes
    · exact .inr fun snapshot hstored => (hall snapshot hstored).2
  · rintro (htimes | hall)
    · exact .inl (.inr htimes)
    · refine .inr fun snapshot hstored => ⟨?_, hall snapshot hstored⟩
      obtain ⟨path, hdirectory, -, hfile⟩ := hstored
      rw [← hplaced path snapshot hfile, hdirectory]

/-- A snapshot of the version `9.0/1`. -/
def slashed : CapabilitySnapshot :=
  { packetTracerVersion := some "9.0/1", startedAt := { wallClock := 0, utcOffset := some 0 } }

/-- A snapshot that was saved for `9.0/1` is listed for `9.0_1`. -/
theorem not_answersExactly_slashed :
    ¬AnswersExactly (saveRuntime (fun _ => "digest") .empty slashed) "9.0_1" := by
  intro h
  have hlist : listRuntime (saveRuntime (fun _ => "digest") .empty slashed) (some "9.0_1") =
      .ok [slashed] := by decide
  have hversion := h.1 _ hlist slashed (List.mem_singleton_self _)
  exact absurd hversion (by decide)

end CapabilitySnapshotStore

end PacketTracer
