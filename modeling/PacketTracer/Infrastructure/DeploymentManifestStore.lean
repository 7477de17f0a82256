import PacketTracer.Domain.Deployment
import PacketTracer.Library.PyStr

/-!
# The store of verified manifests

`deployment_manifest_store.py`: an append-only store of content-addressed records.  Any number of
calls of `save_verified` run side by side on one directory, and the operating system may refuse each
of their requests; an event of the machine `writers` is one request of one call together with the
answer it gets.  JSON, SHA-256 and `uuid4` are a `RecordFormat`; paths have no symbolic links.

However the requests interleave, a file that a lookup can see holds the payload of the manifest
whose path it has (`SoundTree.origin`).  So a record that is there stays as it is, and a call whose
record is there only reads.
-/

namespace PacketTracer

open Dicts Machines PyStrs PyText

/-! ## Names of directories -/

/-- The characters that `_UNSAFE_PATH_CHARS` leaves alone. -/
def isSafePathChar (c : Char) : Bool := c.isAlphanum || c = '.' || c = '_' || c = '-'

/-- `_WINDOWS_RESERVED`. -/
def windowsReserved : List Text :=
  ["CON", "PRN", "AUX", "NUL"].map String.toList ++
    (List.range 9).flatMap fun i =>
      [s!"COM{i + 1}".toList, s!"LPT{i + 1}".toList]

/-- `_MAX_COMPONENT_LEN`. -/
def maxComponentLen : ℕ := 100

/-- `safe_name_component`. -/
def safeNameComponent (name fallback : Text) : Text :=
  let cleaned := (strip name).map fun c => if isSafePathChar c then c else '_'
  if (cleaned.all fun c => c = '.' || c = '_' || c = '-') || cleaned.all (· = '.') then fallback
  else
    let stem := (cleaned.takeWhile (· ≠ '.')).map Char.toUpper
    let cleaned := if stem ∈ windowsReserved then '_' :: cleaned else cleaned
    cleaned.take maxComponentLen

/-! ## Manifests and their records -/

/-- A `datetime`: what the clock on the wall shows, in microseconds, and the offset from UTC of an
aware one. -/
structure Timestamp where
  wallClock : ℤ
  utcOffset : Option ℤ := none
  deriving DecidableEq

/-- The instant that decides the order of two timestamps; a naive one is read as UTC. -/
def Timestamp.instant (t : Timestamp) : ℤ := t.wallClock - t.utcOffset.getD 0

/-- A `DeploymentManifest` with the two fields that only the store reads. -/
structure VerifiedManifest extends DeploymentManifest where
  semanticHash : String := ""
  createdAt : Timestamp
  deriving DecidableEq

namespace DeploymentManifestStore

/-- The libraries under the store: pydantic's and the standard library's JSON, SHA-256, and the
token that `uuid4` gives to each call. -/
structure RecordFormat (C : Type*) where
  /-- The text of the base directory. -/
  baseDir : Text
  /-- `model_dump_json(indent=2)`. -/
  modelDumpJson : VerifiedManifest → Text
  /-- `model_validate_json`; `none` when it raises. -/
  modelValidateJson : Text → Option VerifiedManifest
  /-- `_canonical_payload`. -/
  canonicalPayload : VerifiedManifest → Text
  /-- `hashlib.sha256(…).hexdigest()`. -/
  sha256 : Text → Text
  /-- `uuid4().hex`. -/
  uuid4 : C → Text
  validate_dump : ∀ manifest,
    modelValidateJson (modelDumpJson manifest ++ ['\n']) = some manifest
  canonicalPayload_injective : Function.Injective canonicalPayload
  sha256_injective : Function.Injective sha256
  uuid4_injective : Function.Injective uuid4
  length_uuid4 : ∀ call, (uuid4 call).length = 32

/-- The path of a file below the base directory. -/
structure RecordPath where
  deployment : Text
  semantic : Text
  name : Text
  deriving DecidableEq

/-- The parts in the order in which paths are compared. -/
def RecordPath.parts (path : RecordPath) : Text ×ₗ Text ×ₗ Text :=
  toLex (path.deployment, toLex (path.semantic, path.name))

/-- The two directories above a file. -/
def RecordPath.directory (path : RecordPath) : Text × Text := (path.deployment, path.semantic)

/-- Whether `*.json` matches the name of a file. -/
def RecordPath.isRecord (path : RecordPath) : Bool := ".json".toList.isSuffixOf path.name

/-- The files below the base directory, with the directories that were made for them. -/
structure FileTree where
  directories : List (Text × Text)
  files : Dict RecordPath Text

/-- An exception that `save_verified` lets out. -/
inductive SaveError
  /-- A `ManifestPersistenceError` with its message. -/
  | persistence (message : Text)
  /-- An `OSError` with its text. -/
  | operatingSystem (text : Text)
  deriving DecidableEq

section Records

variable {C : Type*} (format : RecordFormat C)

/-- The text of a path. -/
def pathText (path : RecordPath) : Text :=
  format.baseDir ++ '/' :: path.deployment ++ '/' :: path.semantic ++ '/' :: path.name

/-- `_validate_identity`: the identity fields that are blank. -/
def missingIdentity (manifest : VerifiedManifest) : List String :=
  ([("deployment_id", manifest.deploymentId),
    ("physical_topology_hash", manifest.physicalTopologyHash),
    ("semantic_hash", manifest.semanticHash)].filter fun field =>
      strip field.2.toList = []).map Prod.fst

/-- `_record_dir`. -/
def recordDir (manifest : VerifiedManifest) : Text × Text :=
  (safeNameComponent manifest.deploymentId.toList "deployment".toList,
    safeNameComponent manifest.semanticHash.toList "semantic".toList)

/-- The digest of the full record. -/
def recordHash (manifest : VerifiedManifest) : Text :=
  format.sha256 (format.canonicalPayload manifest)

/-- `target`: the path of the record of a manifest. -/
def target (manifest : VerifiedManifest) : RecordPath :=
  ⟨(recordDir manifest).1, (recordDir manifest).2, recordHash format manifest ++ ".json".toList⟩

/-- `temporary`: the path to which a call writes before it replaces the target. -/
def temporary (manifest : VerifiedManifest) (call : C) : RecordPath :=
  ⟨(recordDir manifest).1, (recordDir manifest).2,
    '.' :: recordHash format manifest ++ '.' :: format.uuid4 call ++ ".tmp".toList⟩

/-- `payload`. -/
def payload (manifest : VerifiedManifest) : Text := format.modelDumpJson manifest ++ ['\n']

/-- The message of a record that cannot be read. -/
def unreadable (path : RecordPath) : Text :=
  "Stored DeploymentManifest is unreadable: ".toList ++ pathText format path

/-- `_load`. -/
def load (tree : FileTree) (path : RecordPath) : Except Text VerifiedManifest :=
  match (tree.files.get? path).bind format.modelValidateJson with
  | some manifest => .ok manifest
  | none => .error (unreadable format path)

/-- The message of a target that holds another record. -/
def refusing (path : RecordPath) : Text :=
  "Refusing to overwrite existing manifest record: ".toList ++ pathText format path

/-- `_assert_existing_record`, when the operating system lets it read the record. -/
def assertExistingRecord (tree : FileTree) (path : RecordPath) (expected : Text) :
    Except SaveError Unit :=
  match load format tree path with
  | .error _ => .error (.persistence (refusing format path))
  | .ok existing =>
    if format.canonicalPayload existing ≠ expected then
      .error (.persistence (refusing format path))
    else .ok ()

/-! ## Lookups -/

/-- The paths of the records that a pattern of directories matches, in the order of `sorted`. -/
def globRecords (tree : FileTree) (directory : Text × Text → Bool) : List RecordPath :=
  sortedBy RecordPath.parts
    (tree.files.keys.filter fun path => directory path.directory && path.isRecord)

/-- `_manifest_sort_key`. -/
def manifestSortKey (manifest : VerifiedManifest) : ℤ ×ₗ Text :=
  toLex (manifest.createdAt.instant, recordHash format manifest)

/-- The manifests that a pattern of directories finds and that pass a test, oldest first. -/
def recordsWhere (tree : FileTree) (directory : Text × Text → Bool)
    (test : VerifiedManifest → Bool) : Except Text (List VerifiedManifest) := do
  let manifests ← (globRecords tree directory).mapM (load format tree)
  return sortedBy (manifestSortKey format) (manifests.filter test)

/-- `find_by_semantic_hash`. -/
def findBySemanticHash (tree : FileTree) (semanticHash : String) :
    Except Text (List VerifiedManifest) :=
  if strip semanticHash.toList = [] then .ok []
  else
    let component := safeNameComponent semanticHash.toList "semantic".toList
    recordsWhere format tree (fun directory => directory.2 = component)
      fun manifest => manifest.semanticHash = semanticHash

/-- `_records_for_deployment`. -/
def recordsForDeployment (tree : FileTree) (deploymentId : String) :
    Except Text (List VerifiedManifest) :=
  if strip deploymentId.toList = [] then .ok []
  else
    let component := safeNameComponent deploymentId.toList "deployment".toList
    if ¬tree.directories.any (fun directory => directory.1 = component) then .ok []
    else
      recordsWhere format tree (fun directory => directory.1 = component)
        fun manifest => manifest.deploymentId = deploymentId

/-- `latest_by_deployment_id`. -/
def latestByDeploymentId (tree : FileTree) (deploymentId : String) :
    Except Text (Option VerifiedManifest) := do
  return (← recordsForDeployment format tree deploymentId).getLast?

end Records

/-! ## Writers -/

/-- How far a call of `save_verified` has come: the name says which request it makes next. -/
inductive Progress
  /-- It validates the identity and makes the directory. -/
  | entered
  /-- It tests whether the target exists. -/
  | testing
  /-- It compares the existing record, before or after it has a temporary file. -/
  | comparing (temporaryOpened : Bool)
  /-- It opens the temporary file with mode `x`. -/
  | opening
  /-- It writes, flushes and closes the temporary file. -/
  | writing
  /-- It tests again whether the target exists. -/
  | retesting
  /-- It replaces the target by the temporary file. -/
  | replacing
  /-- It unlinks the temporary file, whatever happened before. -/
  | unlinking (result : Except SaveError RecordPath)
  /-- It has returned or raised. -/
  | finished (result : Except SaveError RecordPath)

/-- What the operating system answers to a request. -/
inductive Answer
  | done
  /-- Only so many characters of the payload have reached the file. -/
  | partially (count : ℕ)
  /-- An `OSError` with its text. -/
  | raises (text : Text)
  deriving DecidableEq

/-- The files and the calls that work on them. -/
structure State (C : Type*) where
  tree : FileTree
  progress : C → Progress

/-- A store without records, before the first call. -/
def initial (C : Type*) : State C := ⟨⟨[], Dict.empty⟩, fun _ => .entered⟩

/-- `mkdir(parents=True, exist_ok=True)`. -/
def FileTree.mkdir (tree : FileTree) (directory : Text × Text) : FileTree :=
  if directory ∈ tree.directories then tree
  else { tree with directories := tree.directories ++ [directory] }

/-- Write to the file under a path; a file that was unlinked keeps no text. -/
def FileTree.write (tree : FileTree) (path : RecordPath) (text : Text) : FileTree :=
  if tree.files.contains path then { tree with files := tree.files.set path text } else tree

/-- `unlink(missing_ok=True)`. -/
def FileTree.unlink (tree : FileTree) (path : RecordPath) : FileTree :=
  { tree with files := tree.files.erase path }

section Writers

variable {C : Type*} (format : RecordFormat C)

/-- The message of a manifest without identity. -/
def missingMessage (manifest : VerifiedManifest) : Text :=
  "Verified DeploymentManifest is missing identity field(s): ".toList ++
    (", ".intercalate (missingIdentity manifest)).toList

/-- The error of a request that failed inside the `try`. -/
def couldNotPersist (text : Text) : SaveError :=
  .persistence ("Could not persist verified DeploymentManifest: ".toList ++ text)

/-- Where a call goes after it compared the existing record. -/
def afterComparing (temporaryOpened : Bool) (result : Except SaveError RecordPath) : Progress :=
  if temporaryOpened then .unlinking result else .finished result

/-- One request of a call of `save_verified` with its answer: the files and the progress after it.
`none` when the operating system cannot answer so. -/
def saveStep (manifest : VerifiedManifest) (call : C) (tree : FileTree) :
    Progress → Answer → Option (FileTree × Progress)
  | .entered, answer =>
    if missingIdentity manifest ≠ [] then
      some (tree, .finished (.error (.persistence (missingMessage manifest))))
    else
      match answer with
      | .done => some (tree.mkdir (recordDir manifest), .testing)
      | .raises text => some (tree, .finished (.error (.operatingSystem text)))
      | .partially _ => none
  | .testing, .done =>
    some (tree, if tree.files.contains (target format manifest) then .comparing false else .opening)
  | .testing, .raises text => some (tree, .finished (.error (.operatingSystem text)))
  | .comparing opened, .done =>
    let path := target format manifest
    let result := (assertExistingRecord format tree path (format.canonicalPayload manifest)).map
      fun _ => path
    some (tree, afterComparing opened result)
  | .comparing opened, .raises _ =>
    let result := .error (.persistence (refusing format (target format manifest)))
    some (tree, afterComparing opened result)
  | .opening, .done =>
    let path := temporary format manifest call
    -- Mode `x` creates the file or raises.
    if tree.files.contains path ∨ path.directory ∉ tree.directories then none
    else some ({ tree with files := tree.files.set path [] }, .writing)
  | .opening, .raises text => some (tree, .unlinking (.error (couldNotPersist text)))
  | .writing, .done =>
    some (tree.write (temporary format manifest call) (payload format manifest), .retesting)
  | .writing, .partially count =>
    some (tree.write (temporary format manifest call) ((payload format manifest).take count),
      .writing)
  | .writing, .raises text => some (tree, .unlinking (.error (couldNotPersist text)))
  | .retesting, .done =>
    some (tree,
      if tree.files.contains (target format manifest) then .comparing true else .replacing)
  | .retesting, .raises text => some (tree, .unlinking (.error (couldNotPersist text)))
  | .replacing, .done =>
    (tree.files.get? (temporary format manifest call)).map fun text =>
      let tree := tree.unlink (temporary format manifest call)
      ({ tree with files := tree.files.set (target format manifest) text },
        .unlinking (.ok (target format manifest)))
  | .replacing, .raises text => some (tree, .unlinking (.error (couldNotPersist text)))
  | .unlinking result, .done =>
    some (tree.unlink (temporary format manifest call), .finished result)
  | .unlinking result, .raises _ => some (tree, .finished result)
  | _, _ => none

variable [DecidableEq C] (manifests : C → VerifiedManifest)

/-- Calls of `save_verified` side by side: an event is the next request of one of them. -/
def writers : Machine (State C) (C × Answer) Unit where
  step s event :=
    match saveStep format (manifests event.1) event.1 s.tree (s.progress event.1) event.2 with
    | some (tree, progress) => .ok ⟨tree, Function.update s.progress event.1 progress⟩
    | none => .error ()

end Writers

variable {C : Type*} (format : RecordFormat C)

/-! ## Paths -/

variable {format} in
lemma target_injective : Function.Injective (target format) := by
  intro m m' h
  have hname : recordHash format m ++ ".json".toList = recordHash format m' ++ ".json".toList :=
    congrArg RecordPath.name h
  have hhash : recordHash format m = recordHash format m' := List.append_cancel_right hname
  exact format.canonicalPayload_injective (format.sha256_injective hhash)

lemma isRecord_target (m : VerifiedManifest) : (target format m).isRecord = true := by
  unfold RecordPath.isRecord target
  rw [List.isSuffixOf_iff_suffix]
  exact List.suffix_append _ _

lemma isRecord_temporary (m : VerifiedManifest) (call : C) :
    (temporary format m call).isRecord = false := by
  rw [Bool.eq_false_iff]
  intro hrecord
  unfold RecordPath.isRecord temporary at hrecord
  obtain ⟨front, hname⟩ := List.isSuffixOf_iff_suffix.mp hrecord
  have hlast := congrArg List.getLast? hname
  rw [List.getLast?_append, List.getLast?_append] at hlast
  simp at hlast

variable {format} in
lemma target_ne_temporary (m m' : VerifiedManifest) (call : C) :
    target format m ≠ temporary format m' call := by
  intro h
  have hrecord := isRecord_target format m
  rw [h, isRecord_temporary] at hrecord
  cases hrecord

variable {format} in
lemma temporary_injective {m m' : VerifiedManifest} {call call' : C}
    (h : temporary format m call = temporary format m' call') : call = call' := by
  have hname : ('.' :: recordHash format m) ++ ('.' :: format.uuid4 call ++ ".tmp".toList) =
      ('.' :: recordHash format m') ++ ('.' :: format.uuid4 call' ++ ".tmp".toList) := by
    have := congrArg RecordPath.name h
    simpa [temporary] using this
  have htail := (List.append_inj' hname (by simp [format.length_uuid4])).2
  have htoken : format.uuid4 call = format.uuid4 call' := by
    have := List.append_cancel_right htail
    exact (List.cons.inj this).2
  exact format.uuid4_injective htoken

/-! ## Directories as names -/

/-! ## Trees -/

/-- The record of a manifest is in the tree. -/
def Stored (tree : FileTree) (manifest : VerifiedManifest) : Prop :=
  tree.files.get? (target format manifest) = some (payload format manifest)

variable {tree : FileTree}

lemma load_of_stored {manifest : VerifiedManifest} (h : Stored format tree manifest) :
    load format tree (target format manifest) = .ok manifest := by
  have hvalid : format.modelValidateJson (payload format manifest) = some manifest :=
    format.validate_dump manifest
  unfold Stored at h
  unfold load
  rw [h, Option.bind_some, hvalid]

@[simp] lemma mkdir_files (tree : FileTree) (directory : Text × Text) :
    (tree.mkdir directory).files = tree.files := by
  unfold FileTree.mkdir
  split_ifs <;> rfl

@[simp] lemma mem_mkdir_directories {directory other : Text × Text} :
    other ∈ (tree.mkdir directory).directories ↔ other = directory ∨ other ∈ tree.directories := by
  unfold FileTree.mkdir
  split_ifs with hmem
  · constructor
    · exact Or.inr
    · rintro (rfl | hother)
      · exact hmem
      · exact hother
  · simp [or_comm]

/-- What one request can do to the files: make the directory of the call, write to its temporary
file, unlink that, or replace the target by it. -/
inductive Change (manifest : VerifiedManifest) (call : C) (tree : FileTree) :
    Progress → FileTree → Prop
  | same {progress : Progress} : Change manifest call tree progress tree
  | made (hidentity : missingIdentity manifest = []) :
      Change manifest call tree .entered (tree.mkdir (recordDir manifest))
  | wrote {progress : Progress} (text : Text)
      (hdirectory : (temporary format manifest call).directory ∈ tree.directories ∨
        tree.files.contains (temporary format manifest call)) :
      Change manifest call tree progress
        { tree with files := tree.files.set (temporary format manifest call) text }
  | unlinked {progress : Progress} :
      Change manifest call tree progress (tree.unlink (temporary format manifest call))
  | replaced (text : Text)
      (htext : tree.files.get? (temporary format manifest call) = some text) :
      Change manifest call tree .replacing
        { tree with
          files := (tree.files.erase (temporary format manifest call)).set
            (target format manifest) text }

section Step

variable {format} {manifest : VerifiedManifest} {call : C} {tree tree' : FileTree}
  {progress progress' : Progress} {answer : Answer}

lemma change_write (text : Text) :
    Change format manifest call tree progress
      (tree.write (temporary format manifest call) text) := by
  unfold FileTree.write
  split_ifs with hcontains
  · exact .wrote text (Or.inr hcontains)
  · exact .same

/-- Every request is one of the changes. -/
lemma change_of_saveStep
    (h : saveStep format manifest call tree progress answer = some (tree', progress')) :
    Change format manifest call tree progress tree' := by
  unfold saveStep at h
  split at h
  · split_ifs at h with hidentity
    · cases h
      exact .same
    · rw [not_not] at hidentity
      split at h <;> cases h
      · exact .made hidentity
      · exact .same
  · cases h
    exact .same
  · cases h
    exact .same
  · cases h
    exact .same
  · cases h
    exact .same
  · simp only at h
    split_ifs at h with hrefused
    cases h
    exact .wrote [] (Or.inl (by simpa using (not_or.mp hrefused).2))
  · cases h
    exact .same
  · cases h
    exact change_write _
  · cases h
    exact change_write _
  · cases h
    exact .same
  · cases h
    exact .same
  · cases h
    exact .same
  · obtain ⟨text, htext, hresult⟩ := Option.map_eq_some_iff.mp h
    cases hresult
    exact .replaced text htext
  · cases h
    exact .same
  · cases h
    exact .unlinked
  · cases h
    exact .same
  · cases h

end Step

/-! ## Soundness -/

section Soundness

variable (manifests : C → VerifiedManifest)

/-- Every file is the record of a call's manifest with an identity or the temporary file of a
call, and it lies in a directory that was made. -/
structure SoundTree (tree : FileTree) : Prop where
  origin : ∀ path text, tree.files.get? path = some text →
    (∃ call, missingIdentity (manifests call) = [] ∧ path = target format (manifests call) ∧
      text = payload format (manifests call)) ∨
    ∃ call, path = temporary format (manifests call) call
  directory : ∀ path text, tree.files.get? path = some text → path.directory ∈ tree.directories

/-- What a call may rely on at each point of its progress. -/
def Entitled (tree : FileTree) (call : C) : Progress → Prop
  | .entered => True
  | .testing | .comparing _ | .opening | .writing => missingIdentity (manifests call) = []
  | .retesting | .replacing =>
    missingIdentity (manifests call) = [] ∧
      ∀ text, tree.files.get? (temporary format (manifests call) call) = some text →
        text = payload format (manifests call)
  | .unlinking result | .finished result =>
    ∀ path, result = .ok path →
      path = target format (manifests call) ∧ Stored format tree (manifests call)

variable {format manifests} {tree tree' : FileTree} {call : C} {progress progress' : Progress}
  {answer : Answer} {path : RecordPath} {text : Text} {manifest : VerifiedManifest}

lemma SoundTree.record (h : SoundTree format manifests tree) (hrecord : path.isRecord = true)
    (htext : tree.files.get? path = some text) :
    ∃ call, missingIdentity (manifests call) = [] ∧ path = target format (manifests call) ∧
      text = payload format (manifests call) := by
  rcases h.origin path text htext with horigin | ⟨call, rfl⟩
  · exact horigin
  · rw [isRecord_temporary] at hrecord
    cases hrecord

lemma SoundTree.text_of_target (h : SoundTree format manifests tree)
    (htext : tree.files.get? (target format manifest) = some text) :
    text = payload format manifest := by
  obtain ⟨call, -, htarget, rfl⟩ := h.record (isRecord_target format manifest) htext
  rw [target_injective htarget]

lemma SoundTree.of_stored (h : SoundTree format manifests tree)
    (hstored : Stored format tree manifest) :
    missingIdentity manifest = [] ∧ ∃ call, manifest = manifests call := by
  obtain ⟨call, hidentity, htarget, -⟩ := h.record (isRecord_target format manifest) hstored
  obtain rfl := target_injective htarget
  exact ⟨hidentity, call, rfl⟩

lemma text_of_replacing (hentitled : Entitled format manifests tree call .replacing)
    (htext : tree.files.get? (temporary format (manifests call) call) = some text) :
    missingIdentity (manifests call) = [] ∧ text = payload format (manifests call) :=
  ⟨hentitled.1, hentitled.2 text htext⟩

lemma get?_of_change (hchange : Change format (manifests call) call tree progress tree')
    (htree : SoundTree format manifests tree)
    (hentitled : Entitled format manifests tree call progress)
    (hpath : path ≠ temporary format (manifests call) call)
    (htext : tree.files.get? path = some text) : tree'.files.get? path = some text := by
  cases hchange with
  | same => exact htext
  | made hidentity => rwa [mkdir_files]
  | wrote text' _ => rwa [Dict.get?_set, if_neg hpath.symm]
  | unlinked => rwa [FileTree.unlink, Dict.get?_erase, if_neg hpath.symm]
  | replaced text' htext' =>
    rw [Dict.get?_set]
    by_cases htarget : target format (manifests call) = path
    · subst htarget
      rw [if_pos rfl, (text_of_replacing hentitled htext').2, htree.text_of_target htext]
    · rwa [if_neg htarget, Dict.get?_erase, if_neg hpath.symm]

/-- A change adds only the temporary file of its call and its target with the payload. -/
lemma get?_of_get?_change (hchange : Change format (manifests call) call tree progress tree')
    (hentitled : Entitled format manifests tree call progress)
    (hpath : path ≠ temporary format (manifests call) call)
    (htext : tree'.files.get? path = some text) :
    tree.files.get? path = some text ∨
      (missingIdentity (manifests call) = [] ∧ path = target format (manifests call) ∧
        text = payload format (manifests call)) := by
  cases hchange with
  | same => exact Or.inl htext
  | made hidentity => exact Or.inl (by rwa [mkdir_files] at htext)
  | wrote text' _ => exact Or.inl (by rwa [Dict.get?_set, if_neg hpath.symm] at htext)
  | unlinked =>
    exact Or.inl (by rwa [FileTree.unlink, Dict.get?_erase, if_neg hpath.symm] at htext)
  | replaced text' htext' =>
    rw [Dict.get?_set] at htext
    obtain ⟨hidentity, rfl⟩ := text_of_replacing hentitled htext'
    by_cases htarget : target format (manifests call) = path
    · rw [if_pos htarget] at htext
      exact Or.inr ⟨hidentity, htarget.symm, (Option.some.inj htext).symm⟩
    · exact Or.inl (by rwa [if_neg htarget, Dict.get?_erase, if_neg hpath.symm] at htext)

lemma directory_temporary (manifest : VerifiedManifest) :
    (temporary format manifest call).directory = (target format manifest).directory := rfl

/-- After a change every file lies in a directory that was made. -/
lemma directory_of_change (hchange : Change format (manifests call) call tree progress tree')
    (htree : SoundTree format manifests tree) (htext : tree'.files.get? path = some text) :
    path.directory ∈ tree'.directories := by
  cases hchange with
  | same => exact htree.directory path text htext
  | made hidentity =>
    rw [mkdir_files] at htext
    exact mem_mkdir_directories.mpr (Or.inr (htree.directory path text htext))
  | wrote text' hdirectory =>
    rw [Dict.get?_set] at htext
    split_ifs at htext with hpath
    · subst hpath
      rcases hdirectory with hdirectory | hcontains
      · exact hdirectory
      · obtain ⟨old, hold⟩ := Option.isSome_iff_exists.mp hcontains
        exact htree.directory _ old hold
    · exact htree.directory path text htext
  | unlinked =>
    rw [FileTree.unlink, Dict.get?_erase] at htext
    split_ifs at htext
    exact htree.directory path text htext
  | replaced text' htext' =>
    rw [Dict.get?_set, Dict.get?_erase] at htext
    split_ifs at htext with htarget
    · subst htarget
      rw [← @directory_temporary _ _ call]
      exact htree.directory _ text' htext'
    · exact htree.directory path text htext

lemma SoundTree.change (htree : SoundTree format manifests tree)
    (hentitled : Entitled format manifests tree call progress)
    (hchange : Change format (manifests call) call tree progress tree') :
    SoundTree format manifests tree' where
  origin path text htext := by
    by_cases hpath : path = temporary format (manifests call) call
    · exact Or.inr ⟨call, hpath⟩
    · rcases get?_of_get?_change hchange hentitled hpath htext with hold | hnew
      · exact htree.origin path text hold
      · exact Or.inl ⟨call, hnew⟩
  directory _ _ htext := directory_of_change hchange htree htext

/-! ## Progress of one call -/

lemma result_of_comparing (htree : SoundTree format manifests tree)
    (h : (assertExistingRecord format tree (target format (manifests call))
      (format.canonicalPayload (manifests call))).map
        (fun _ => target format (manifests call)) = .ok path) :
    path = target format (manifests call) ∧ Stored format tree (manifests call) := by
  rcases hassert : assertExistingRecord format tree (target format (manifests call))
      (format.canonicalPayload (manifests call)) with e | _
  · rw [hassert] at h
    cases h
  rw [hassert] at h
  cases h
  refine ⟨rfl, ?_⟩
  cases hget : tree.files.get? (target format (manifests call)) with
  | none =>
    unfold assertExistingRecord load at hassert
    rw [hget] at hassert
    cases hassert
  | some text =>
    unfold Stored
    rw [hget, htree.text_of_target hget]

lemma assertExistingRecord_of_stored (h : Stored format tree manifest) :
    assertExistingRecord format tree (target format manifest) (format.canonicalPayload manifest) =
      .ok () := by
  unfold assertExistingRecord
  rw [load_of_stored format h]
  simp

lemma entitled_afterComparing {opened : Bool} {result : Except SaveError RecordPath}
    (h : ∀ path, result = .ok path →
      path = target format (manifests call) ∧ Stored format tree (manifests call)) :
    Entitled format manifests tree call (afterComparing opened result) := by
  cases opened <;> exact h

lemma eq_of_get?_write {text' : Text} (h : (tree.write path text).files.get? path = some text') :
    text' = text := by
  unfold FileTree.write at h
  split_ifs at h with hcontains
  · rw [Dict.get?_set, if_pos rfl] at h
    exact (Option.some.inj h).symm
  · exact absurd (Option.isSome_iff_exists.mpr ⟨text', h⟩) hcontains

/-- A request keeps its own call entitled. -/
lemma entitled_of_saveStep (htree : SoundTree format manifests tree)
    (hentitled : Entitled format manifests tree call progress)
    (h : saveStep format (manifests call) call tree progress answer = some (tree', progress')) :
    Entitled format manifests tree' call progress' := by
  have hchange := change_of_saveStep h
  unfold saveStep at h
  split at h
  · -- `entered`
    split_ifs at h with hidentity
    · cases h
      exact nofun
    · rw [not_not] at hidentity
      split at h <;> cases h
      · exact hidentity
      · exact nofun
  · -- `testing`
    cases h
    split_ifs <;> exact hentitled
  · cases h
    exact nofun
  · -- `comparing`
    cases h
    exact entitled_afterComparing fun path hpath => result_of_comparing htree hpath
  · cases h
    exact entitled_afterComparing nofun
  · -- `opening`
    simp only at h
    split_ifs at h
    cases h
    exact hentitled
  · cases h
    exact nofun
  · -- `writing`
    cases h
    exact ⟨hentitled, fun text htext => eq_of_get?_write htext⟩
  · cases h
    exact hentitled
  · cases h
    exact nofun
  · -- `retesting`
    cases h
    split_ifs
    · exact hentitled.1
    · exact hentitled
  · cases h
    exact nofun
  · -- `replacing`
    obtain ⟨text, htext, hresult⟩ := Option.map_eq_some_iff.mp h
    cases hresult
    intro path hpath
    refine ⟨(Except.ok.inj hpath).symm, ?_⟩
    unfold Stored
    rw [Dict.get?_set, if_pos rfl, hentitled.2 text htext]
  · cases h
    exact nofun
  · -- `unlinking`
    cases h
    intro path hpath
    obtain ⟨htarget, hstored⟩ := hentitled path hpath
    exact ⟨htarget, get?_of_change hchange htree hentitled (target_ne_temporary _ _ _) hstored⟩
  · cases h
    exact hentitled
  · cases h

/-- A request of one call keeps another call entitled. -/
lemma entitled_of_change_of_ne (htree : SoundTree format manifests tree)
    (hentitled : Entitled format manifests tree call progress)
    (hchange : Change format (manifests call) call tree progress tree') {other : C}
    (hne : other ≠ call) {progress'' : Progress}
    (hother : Entitled format manifests tree other progress'') :
    Entitled format manifests tree' other progress'' := by
  have hwritten : ∀ text,
      tree'.files.get? (temporary format (manifests other) other) = some text →
        tree.files.get? (temporary format (manifests other) other) = some text := by
    intro text htext
    have hpath : temporary format (manifests other) other ≠ temporary format (manifests call) call :=
      fun heq => hne (temporary_injective heq)
    rcases get?_of_get?_change hchange hentitled hpath htext with hold | ⟨-, htarget, -⟩
    · exact hold
    · exact absurd htarget.symm (target_ne_temporary _ _ _)
  have hresult : ∀ result : Except SaveError RecordPath,
      (∀ path, result = .ok path →
        path = target format (manifests other) ∧ Stored format tree (manifests other)) →
      ∀ path, result = .ok path →
        path = target format (manifests other) ∧ Stored format tree' (manifests other) := by
    intro result hold path hpath
    obtain ⟨htarget, hstored⟩ := hold path hpath
    exact ⟨htarget, get?_of_change hchange htree hentitled (target_ne_temporary _ _ _) hstored⟩
  cases progress'' with
  | entered => trivial
  | testing | comparing opened | opening | writing => exact hother
  | retesting | replacing => exact ⟨hother.1, fun text htext => hother.2 text (hwritten text htext)⟩
  | unlinking result | finished result => exact hresult result hother

end Soundness

/-! ## Runs -/

section Runs

variable [DecidableEq C] (manifests : C → VerifiedManifest)

/-- The files are sound and every call may rely on what it relies on. -/
structure Sound (s : State C) : Prop where
  tree : SoundTree format manifests s.tree
  entitled : ∀ call, Entitled format manifests s.tree call (s.progress call)

/-- Every file that a lookup can see in one tree is in the other with the same text. -/
def Keeps (tree tree' : FileTree) : Prop :=
  ∀ path text, path.isRecord = true → tree.files.get? path = some text →
    tree'.files.get? path = some text

variable {format manifests} {s t : State C} {events : List (C × Answer)} {event : C × Answer}

lemma step_writers (h : (writers format manifests).step s event = .ok t) :
    ∃ tree progress, saveStep format (manifests event.1) event.1 s.tree (s.progress event.1)
        event.2 = some (tree, progress) ∧
      t = ⟨tree, Function.update s.progress event.1 progress⟩ := by
  unfold writers at h
  simp only at h
  split at h
  · rename_i tree progress hstep
    exact ⟨tree, progress, hstep, (Except.ok.inj h).symm⟩
  · cases h

omit [DecidableEq C] in
lemma sound_initial : Sound format manifests (initial C) where
  tree := ⟨nofun, nofun⟩
  entitled _ := trivial

lemma Sound.step (hs : Sound format manifests s)
    (h : (writers format manifests).step s event = .ok t) : Sound format manifests t := by
  obtain ⟨tree, progress, hstep, rfl⟩ := step_writers h
  have hchange := change_of_saveStep hstep
  have hentitled := hs.entitled event.1
  refine ⟨hs.tree.change hentitled hchange, fun call => ?_⟩
  by_cases hcall : call = event.1
  · subst hcall
    simp only [Function.update_self]
    exact entitled_of_saveStep hs.tree hentitled hstep
  · simp only [Function.update_of_ne hcall]
    exact entitled_of_change_of_ne hs.tree hentitled hchange hcall (hs.entitled call)

lemma Sound.keeps_step (hs : Sound format manifests s)
    (h : (writers format manifests).step s event = .ok t) : Keeps s.tree t.tree := by
  obtain ⟨tree, progress, hstep, rfl⟩ := step_writers h
  intro path text hrecord htext
  refine get?_of_change (change_of_saveStep hstep) hs.tree (hs.entitled event.1) ?_ htext
  rintro rfl
  rw [isRecord_temporary] at hrecord
  cases hrecord

/-- A run keeps the store sound. -/
theorem Sound.run (hs : Sound format manifests s)
    (hrun : (writers format manifests).run s events = .ok t) : Sound format manifests t :=
  (writers format manifests).invariant_of_run hrun hs fun _ _ _ _ hu hstep => hu.step hstep

/-- A run of a sound store keeps the records. -/
theorem Sound.keeps_run (hs : Sound format manifests s)
    (hrun : (writers format manifests).run s events = .ok t) : Keeps s.tree t.tree := by
  have hboth : Sound format manifests t ∧ Keeps s.tree t.tree := by
    refine (writers format manifests).invariant_of_run
      (P := fun t => Sound format manifests t ∧ Keeps s.tree t.tree) hrun ?_ ?_
    · exact ⟨hs, fun _ _ _ htext => htext⟩
    intro event _ u v hu hstep
    refine ⟨hu.1.step hstep, fun path text hrecord htext => ?_⟩
    exact hu.1.keeps_step hstep path text hrecord (hu.2 path text hrecord htext)
  exact hboth.2

/-! ## Saving again -/

/-- The points of its progress at which a call has touched no file. -/
def Progress.ReadsOnly : Progress → Prop
  | .entered | .testing | .comparing false | .finished _ => True
  | _ => False

omit [DecidableEq C] in
variable {call : C}

/-- A call whose record is stored only reads, and without a fault it returns the target. -/
lemma saveStep_of_stored {tree tree' : FileTree} {progress progress' : Progress}
    {answer : Answer} (htree : SoundTree format manifests tree)
    (hstored : Stored format tree (manifests call)) (hreads : progress.ReadsOnly)
    (h : saveStep format (manifests call) call tree progress answer = some (tree', progress')) :
    tree' = tree ∧ progress'.ReadsOnly ∧
      ∀ result, progress' = .finished result → (∀ text, answer ≠ .raises text) →
        result = .ok (target format (manifests call)) := by
  have hidentity := (htree.of_stored hstored).1
  cases progress with
  | entered =>
    simp only [saveStep, hidentity, ne_eq, not_true_eq_false, if_false] at h
    split at h
    · have hmade : tree.mkdir (recordDir (manifests call)) = tree :=
        if_pos (htree.directory _ _ hstored)
      cases h
      exact ⟨hmade, trivial, nofun⟩
    · cases h
      exact ⟨rfl, trivial, fun result _ hfault => absurd rfl (hfault _)⟩
    · cases h
  | testing =>
    cases answer with
    | done =>
      have hcontains : tree.files.contains (target format (manifests call)) = true :=
        Option.isSome_iff_exists.mpr ⟨_, hstored⟩
      simp only [saveStep, hcontains, if_true] at h
      cases h
      exact ⟨rfl, trivial, nofun⟩
    | partially count => cases h
    | raises text =>
      cases h
      exact ⟨rfl, trivial, fun result _ hfault => absurd rfl (hfault _)⟩
  | comparing opened =>
    cases opened with
    | true => cases hreads
    | false =>
      cases answer with
      | done =>
        simp only [saveStep, assertExistingRecord_of_stored hstored] at h
        cases h
        refine ⟨rfl, trivial, fun result hresult _ => ?_⟩
        exact (Progress.finished.inj hresult).symm
      | partially count => cases h
      | raises text =>
        cases h
        exact ⟨rfl, trivial, fun result _ hfault => absurd rfl (hfault _)⟩
  | finished result => cases answer <;> cases h
  | opening | writing | retesting | replacing | unlinking result => cases hreads

/-- **Saving again.**  However a call that has not begun yet and whose record is stored interleaves
with the others, it only reads, and when no fault meets it it returns the target. -/
theorem reads_only_of_stored (hs : Sound format manifests s)
    (hentered : s.progress call = .entered) (hstored : Stored format s.tree (manifests call))
    (hrun : (writers format manifests).run s events = .ok t) :
    Sound format manifests t ∧ Stored format t.tree (manifests call) ∧
      (t.progress call).ReadsOnly ∧
      ∀ result, t.progress call = .finished result → (∀ text, (call, .raises text) ∉ events) →
        result = .ok (target format (manifests call)) := by
  refine (writers format manifests).induction_of_run (P := fun events t =>
    Sound format manifests t ∧ Stored format t.tree (manifests call) ∧
      (t.progress call).ReadsOnly ∧
      ∀ result, t.progress call = .finished result → (∀ text, (call, .raises text) ∉ events) →
        result = .ok (target format (manifests call))) hrun ?_ ?_
  · refine ⟨hs, hstored, ?_, fun result hresult _ => ?_⟩
    · rw [hentered]
      trivial
    · rw [hentered] at hresult
      cases hresult
  · rintro before ⟨other, answer⟩ - u v ⟨hu, hustored, hreads, hresult⟩ hstep
    have hvstored := hu.keeps_step hstep _ _ (isRecord_target format _) hustored
    refine ⟨hu.step hstep, hvstored, ?_⟩
    obtain ⟨tree, progress, hsave, rfl⟩ := step_writers hstep
    by_cases hother : call = other
    · subst hother
      obtain ⟨-, hreads', hresult'⟩ := saveStep_of_stored hu.tree hustored hreads hsave
      simp only [Function.update_self]
      refine ⟨hreads', fun result hfinished hfaults => hresult' result hfinished ?_⟩
      intro text htext
      exact hfaults text (List.mem_append_right _ (htext ▸ List.mem_singleton_self _))
    · simp only [Function.update_of_ne hother]
      refine ⟨hreads, fun result hfinished hfaults => hresult result hfinished ?_⟩
      exact fun text hmem => hfaults text (List.mem_append_left _ hmem)

end Runs

end DeploymentManifestStore

end PacketTracer
