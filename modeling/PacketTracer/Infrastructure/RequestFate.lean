import PacketTracer.Infrastructure.MailboxGuards

/-!
# What becomes of a request

What a client reports about a request it gave up on, and what it delivers for one that was
answered, compared with what the engine did.

A request that is reported as executed late was evaluated, or the engine removed it as stale;
a request that is reported as withdrawn was evaluated only if the engine had read it before.  A
response that is delivered is the complete result of the client's own request, as long as no client
reads a response that the engine is still writing.
-/

namespace PacketTracer

open Dicts Machines

namespace FileBridge

/-! ## Requests that were given up -/

section GivenUp

variable {ι : Type} {identity : ι → Identity} {observation : ℕ} {box : Mailbox ι}

lemma Guarded.read_notMem_after (h : Guarded identity box) {before after : List (Event ι)} {c : ι}
    {name code : List Char} (hsplit : box.history = before ++ .withdrawn c name :: after) :
    .read name code ∉ after := by
  intro hread
  have horder := h.order
  rw [hsplit, List.pairwise_append] at horder
  exact (List.pairwise_cons.mp horder.2.1).1 _ hread c name code rfl rfl

/-- **What the dispositions say.**  In every run, a request that its client reports as executed
late was evaluated unless the engine removed it as stale; a request that is withdrawn is not read
afterwards, and one that is reported as withdrawn was evaluated only if it had been read before;
and no disposition says that a request was not executed. -/
theorem dispositions_justified [DecidableEq ι] (hidentity : Function.Injective identity)
    {steps : List (Step ι)} (hrun : (mailboxMachine identity observation).run {} steps = .ok box) :
    (∀ c name, .classified c name .executedLate ∈ box.history → .purged name ∉ box.history →
      ∃ code result, .published c name code ∈ box.history ∧
        .evaluated name code result ∈ box.history) ∧
    (∀ c name before after, box.history = before ++ .withdrawn c name :: after →
      ∀ code, .read name code ∉ after) ∧
    (∀ c name, .classified c name .withdrawnNoExecutionObserved ∈ box.history →
      ∀ code result, .evaluated name code result ∈ box.history →
        ∃ before after, box.history = before ++ .withdrawn c name :: after ∧
          .read name code ∈ before) ∧
    ∀ disposition : RequestDisposition, disposition.provesNoExecution = false := by
  obtain ⟨hsound, hguarded⟩ := invariant_of_run hidentity hrun
  refine ⟨fun c name hlate hpurged => ?_, fun c name before after hsplit code =>
    hguarded.read_notMem_after hsplit, fun c name hwithdrawn code result hevaluated => ?_,
    fun _ => rfl⟩
  · obtain ⟨⟨code, hpublished⟩, hanswer⟩ := hsound.events _ hlate
    obtain ⟨code', result, hevaluated⟩ := hanswer.resolve_left hpurged
    obtain ⟨d, hpublished'⟩ := hsound.events _ (hsound.events _ hevaluated)
    obtain ⟨rfl, rfl⟩ := eq_of_published hguarded.nodup hpublished hpublished'
    exact ⟨code, result, hpublished, hevaluated⟩
  · obtain ⟨before, after, hsplit⟩ := List.append_of_mem (hsound.events _ hwithdrawn)
    refine ⟨before, after, hsplit, ?_⟩
    have hread : .read name code ∈ box.history := hsound.events _ hevaluated
    rw [hsplit, List.mem_append, List.mem_cons] at hread
    rcases hread with hbefore | heq | hafter
    · exact hbefore
    · cases heq
    · exact absurd hafter (hguarded.read_notMem_after hsplit)

end GivenUp

/-! ## Responses -/

section Responses

variable {ι : Type}

/-- The response that the engine is writing. -/
def Engine.writes : Engine → Option (List Char)
  | .writing name _ _ _ _ => some name
  | _ => none

/-- The response that a client has read. -/
def Phase.body : Phase → Option (List Char × List Char)
  | .consuming name _ body => some (name, body)
  | .retiring name body => some (name, body)
  | _ => none

/-- A text is what `read_text` makes of a complete result of the request. -/
def IsResult (history : List (Event ι)) (name body : List Char) : Prop :=
  ∃ code result, .evaluated name code result ∈ history ∧ body = readText result

/-- Responses that are not being written are complete, and so is what was read. -/
structure Intact (box : Mailbox ι) : Prop where
  responses : ∀ name file, box.files.get? (.response name) = some file →
    box.engine.writes = some name ∨ .writeFailed name ∈ box.history ∨
      ∃ code, .evaluated name code file.text ∈ box.history
  written : ∀ name result written now files, box.engine = .writing name result written now files →
    ∀ file, box.files.get? (.response name) = some file → file.text = result.take written
  bodies : ∀ c name body, (box.clients c).phase.body = some (name, body) →
    IsResult box.history name body
  delivered : ∀ c name body, .delivered c name body ∈ box.history → IsResult box.history name body

/-- Whether a step does not read a response that the engine is writing, or could not write to its
end. -/
def readsSettled [DecidableEq ι] (box : Mailbox ι) : Step ι → Bool
  | .client c (.readResponse .ok) =>
    match (box.clients c).phase with
    | .reading name _ => box.engine.writes ≠ some name ∧ .writeFailed name ∉ box.history
    | _ => true
  | _ => true

variable {name : List Char} {identity : ι → Identity} {observation : ℕ}

lemma IsResult.mono {history history' : List (Event ι)} {body : List Char}
    (h : IsResult history name body) (hsubset : history ⊆ history') :
    IsResult history' name body := by
  obtain ⟨code, result, hevaluated, hbody⟩ := h
  exact ⟨code, result, hsubset hevaluated, hbody⟩

/-- A step that leaves the engine alone and writes no response keeps what was read, if what it reads
and delivers is a result. -/
lemma Intact.of_client {box box' : Mailbox ι} (h : Intact box) (hengine : box'.engine = box.engine)
    (events : List (Event ι)) (hhistory : box'.history = box.history ++ events)
    (hevents : ∀ c name body, .delivered c name body ∈ events → IsResult box.history name body)
    (hfiles : ∀ name file, box'.files.get? (.response name) = some file →
      box.files.get? (.response name) = some file)
    (hbodies : ∀ c name body, (box'.clients c).phase.body = some (name, body) →
      IsResult box.history name body) : Intact box' := by
  have hsubset : box.history ⊆ box'.history := hhistory ▸ List.subset_append_left _ _
  refine ⟨fun name file hget => ?_, fun name result written now files hphase file hget => ?_,
    fun c name body hbody => (hbodies c name body hbody).mono hsubset,
    fun c name body hmem => ?_⟩
  · rw [hengine]
    rcases h.responses name file (hfiles name file hget) with hwrites | hfailed | ⟨code, hresult⟩
    · exact Or.inl hwrites
    · exact Or.inr (Or.inl (hsubset hfailed))
    · exact Or.inr (Or.inr ⟨code, hsubset hresult⟩)
  · exact h.written name result written now files (hengine ▸ hphase) file (hfiles name file hget)
  · rw [hhistory, List.mem_append] at hmem
    rcases hmem with hold | hnew
    · exact (h.delivered c name body hold).mono hsubset
    · exact (hevents c name body hnew).mono hsubset

variable {box : Mailbox ι} {c : ι} {box' : Mailbox ι}

lemma Intact.discard {file : FileName} {ok : Bool} (h : Intact box) :
    Intact (box.discard file ok) := by
  refine h.of_client ?_ [] (by simp) (by simp) (fun _ _ hget => get?_of_get?_discard hget)
    fun c name body hbody => ?_
  · unfold Mailbox.discard
    split_ifs <;> rfl
  · rw [clients_discard] at hbody
    exact h.bodies c name body hbody

lemma Intact.log {event : Event ι} (h : Intact box)
    (hevent : ∀ c name body, event = .delivered c name body → IsResult box.history name body) :
    Intact (box.log event) :=
  h.of_client rfl [event] rfl
    (fun c name body hmem => hevent c name body (List.mem_singleton.mp hmem).symm)
    (fun _ _ hget => hget) h.bodies

lemma Intact.publish {code : List Char} (h : Intact box) : Intact (box.publish c name code) := by
  refine h.of_client rfl [.published c name code] rfl (by simp) (fun name' file hget => ?_)
    h.bodies
  simp only [Mailbox.publish] at hget
  rwa [Dict.get?_set, if_neg (by simp)] at hget

variable [DecidableEq ι]

lemma Intact.setClient {client : Client} (h : Intact box)
    (hbody : ∀ name body, client.phase.body = some (name, body) →
      IsResult box.history name body) : Intact (box.setClient c client) := by
  refine h.of_client rfl [] (List.append_nil _).symm (by simp) (fun _ _ hget => hget)
    fun d name body hd => ?_
  by_cases heq : d = c
  · subst heq
    refine hbody name body ?_
    simpa [Mailbox.setClient] using hd
  · refine h.bodies d name body ?_
    simpa [Mailbox.setClient, Function.update_of_ne heq] using hd

lemma Intact.setPhase {phase : Phase} (h : Intact box)
    (hbody : ∀ name body, phase.body = some (name, body) → IsResult box.history name body) :
    Intact (box.setPhase c phase) := h.setClient hbody

/-- A client that reads only settled responses keeps what was read. -/
lemma Intact.clientStep {step : ClientStep} (h : Intact box)
    (hsettled : readsSettled box (.client c step) = true)
    (hstep : box.clientStep identity observation c step = some box') : Intact box' := by
  have hbodies := h.bodies c
  cases clientMove_of_clientStep hstep with
  | stays => exact h
  | moved phase hmove =>
    refine h.setPhase ?_
    generalize hphase : (box.clients c).phase = before at hmove
    cases hmove with
    | read name deadline contents hread hget =>
      subst hread
      simp only [readsSettled, hphase, decide_eq_true_eq] at hsettled
      obtain ⟨hwrites, hfailed⟩ := hsettled
      obtain ⟨code, hresult⟩ := ((h.responses name contents hget).resolve_left
        hwrites).resolve_left hfailed
      intro name' body hbody
      cases hbody
      exact ⟨code, contents.text, hresult, rfl⟩
    | _ => nofun
  | published code client hseq hpending hphase =>
    refine h.publish.setClient ?_
    rcases hphase with hphase | ⟨timeout, hphase⟩ <;>
    · rw [hphase]
      nofun
  | unwritten client hseq hpending hphase => exact h.setClient (by rw [hphase]; nofun)
  | droppedRequest ok name names code hphase => exact h.discard.setClient nofun
  | consumed name deadline body hphase =>
    rw [hphase] at hbodies
    refine h.discard.setPhase fun name' body' hbody => ?_
    rw [history_discard]
    exact hbodies name' body' hbody
  | retired ok name body hphase =>
    rw [hphase] at hbodies
    refine (h.discard.log fun d name' body' heq => ?_).setClient nofun
    obtain ⟨-, rfl, rfl⟩ := Event.delivered.inj heq
    rw [history_discard]
    exact hbodies name body rfl
  | withdrew name hphase => exact (h.discard.log fun _ _ _ heq => by cases heq).setPhase nofun
  | discarded ok name disposition hphase =>
    exact (h.discard.log fun _ _ _ heq => by cases heq).setClient nofun
  | droppedResponse | purged => exact h.discard.setPhase nofun
  | gaveUp name cutoff hphase => exact (h.log fun _ _ _ heq => by cases heq).setClient nofun

omit [DecidableEq ι] in
/-- A step of the engine keeps what was read, if the responses that it is not writing are complete
and it delivers nothing. -/
lemma Intact.of_engine (h : Intact box) (events : List (Event ι))
    (hhistory : box'.history = box.history ++ events) (hclients : box'.clients = box.clients)
    (hevents : ∀ c name body, .delivered c name body ∉ events)
    (hresponses : ∀ name file, box'.files.get? (.response name) = some file →
      box'.engine.writes = some name ∨ .writeFailed name ∈ box'.history ∨
        ∃ code, .evaluated name code file.text ∈ box'.history)
    (hwritten : ∀ name result written now files,
      box'.engine = .writing name result written now files →
      ∀ file, box'.files.get? (.response name) = some file → file.text = result.take written) :
    Intact box' := by
  have hsubset : box.history ⊆ box'.history := hhistory ▸ List.subset_append_left _ _
  refine ⟨hresponses, hwritten, fun c name body hbody => ?_, fun c name body hmem => ?_⟩
  · rw [hclients] at hbody
    exact (h.bodies c name body hbody).mono hsubset
  · rw [hhistory, List.mem_append] at hmem
    exact (h.delivered c name body (hmem.resolve_right (hevents c name body))).mono hsubset

omit [DecidableEq ι] in
/-- The engine keeps what was read. -/
lemma Intact.engineStep {step : EngineStep} (h : Intact box) (hsound : Sound box)
    (hstep : box.engineStep step = some box') : Intact box' := by
  -- A response stays complete when the engine writes none and the history grows.
  have hquiet : ∀ {box'' : Mailbox ι} (events : List (Event ι)), box.engine.writes = none →
      box''.engine.writes = none → box''.history = box.history ++ events →
      box''.clients = box.clients → (∀ c name body, .delivered c name body ∉ events) →
      (∀ name file, box''.files.get? (.response name) = some file →
        box.files.get? (.response name) = some file) → Intact box'' := by
    intro box'' events hwrites hwrites'' hhistory hclients hevents hfiles
    refine h.of_engine events hhistory hclients hevents (fun name file hget => ?_)
      fun name result written now files hphase => ?_
    · rcases h.responses name file (hfiles name file hget) with hname | hfailed | ⟨code, hresult⟩
      · rw [hwrites] at hname
        cases hname
      · exact Or.inr (Or.inl (hhistory ▸ List.mem_append_left _ hfailed))
      · exact Or.inr (Or.inr ⟨code, hhistory ▸ List.mem_append_left _ hresult⟩)
    · rw [hphase] at hwrites''
      cases hwrites''
  have herase : ∀ (file : FileName) (name : List Char) (contents : File),
      (box.files.erase file).get? (.response name) = some contents →
        box.files.get? (.response name) = some contents := by
    intro file name contents hget
    rw [Dict.get?_erase] at hget
    split_ifs at hget
    exact hget
  cases engineMove_of_engineStep hstep with
  | began _ _ hphase | skipped _ _ _ hphase | rested _ hphase | unopened _ _ _ _ hphase =>
    exact hquiet [] (by rw [hphase]; rfl) rfl (List.append_nil _).symm rfl (by simp)
      fun _ _ hget => hget
  | purged now file files hphase =>
    refine hquiet _ (by rw [hphase]; rfl) rfl rfl rfl (fun c name body hmem => ?_) (herase file)
    cases file with
    | request name' => cases List.mem_singleton.mp hmem
    | response name' => cases hmem
  | read _ _ _ _ hphase | evaluated _ _ _ _ _ hphase | unremoved _ _ _ hphase =>
    exact hquiet _ (by rw [hphase]; rfl) rfl rfl rfl (by simp) fun _ _ hget => hget
  | opened name result now files hphase =>
    refine h.of_engine [] (List.append_nil _).symm rfl (by simp) (fun name' file hget => ?_)
      fun name' result' written now' files' hphase' file hget => ?_
    · by_cases heq : name = name'
      · exact Or.inl (congrArg some heq)
      · have hne : FileName.response name ≠ .response name' :=
          fun h => heq (FileName.response.inj h)
        rw [Dict.get?_set, if_neg hne] at hget
        rcases h.responses name' file hget with hname | hrest
        · rw [hphase] at hname
          cases hname
        · exact Or.inr hrest
    · obtain ⟨rfl, rfl, rfl, -, -⟩ := Engine.writing.inj hphase'
      rw [Dict.get?_set, if_pos rfl] at hget
      cases hget
      rfl
  | wrote name result written count now files hphase =>
    have hold : ∀ name', name ≠ name' → ∀ file, (if box.files.contains (.response name) then
        box.files.set (.response name)
          { text := result.take (written + count), mtime := box.clock }
        else box.files).get? (.response name') = some file →
        box.files.get? (.response name') = some file := by
      intro name' hname file hget
      have hne : FileName.response name ≠ .response name' :=
        fun h => hname (FileName.response.inj h)
      split_ifs at hget
      · rwa [Dict.get?_set, if_neg hne] at hget
      · exact hget
    refine h.of_engine [] (List.append_nil _).symm rfl (by simp) (fun name' file hget => ?_)
      fun name' result' written' now' files' hphase' file hget => ?_
    · by_cases heq : name = name'
      · exact Or.inl (congrArg some heq)
      · rcases h.responses name' file (hold name' heq file hget) with hname | hrest
        · rw [hphase] at hname
          exact absurd (Option.some.inj hname) heq
        · exact Or.inr hrest
    · obtain ⟨rfl, rfl, rfl, -, -⟩ := Engine.writing.inj hphase'
      simp only at hget
      split_ifs at hget with hpresent
      · rw [Dict.get?_set, if_pos rfl] at hget
        cases hget
        rfl
      · rw [Dict.contains, hget] at hpresent
        exact absurd rfl hpresent
  | closed name result written now files hphase hlength =>
    have hok := hsound.engine
    rw [hphase] at hok
    obtain ⟨code, hresult⟩ := hok
    refine h.of_engine [] (List.append_nil _).symm rfl (by simp) (fun name' file hget => ?_)
      (by simp)
    rcases h.responses name' file hget with hname | hrest
    · rw [hphase] at hname
      obtain rfl : name = name' := Option.some.inj hname
      have htext := h.written name result written now files hphase file hget
      rw [List.take_of_length_le hlength] at htext
      exact Or.inr (Or.inr ⟨code, htext ▸ hresult⟩)
    · exact Or.inr hrest
  | aborted name result written now files hphase =>
    refine h.of_engine [.writeFailed name] rfl rfl (by simp) (fun name' file hget => ?_) (by simp)
    rcases h.responses name' file hget with hname | hfailed | ⟨code, hresult⟩
    · rw [hphase] at hname
      obtain rfl : name = name' := Option.some.inj hname
      exact Or.inr (Or.inl (List.mem_concat_self))
    · exact Or.inr (Or.inl (List.mem_append_left _ hfailed))
    · exact Or.inr (Or.inr ⟨code, List.mem_append_left _ hresult⟩)
  | removed name now files hphase =>
    exact hquiet [] (by rw [hphase]; rfl) rfl (List.append_nil _).symm rfl (by simp) (herase _)

lemma Intact.step {step : Step ι} (h : Intact box) (hsound : Sound box)
    (hsettled : readsSettled box step = true)
    (hstep : (mailboxMachine identity observation).step box step = .ok box') : Intact box' := by
  have hnext := next_of_step hstep
  cases step with
  | wait duration =>
    cases hnext
    exact ⟨h.responses, h.written, h.bodies, h.delivered⟩
  | engine step => exact h.engineStep hsound hnext
  | client c step => exact h.clientStep hsettled hnext

end Responses

/-! ## What is delivered -/

section Delivered

variable {ι : Type} [DecidableEq ι] {identity : ι → Identity} {observation : ℕ}
  {box box' : Mailbox ι} {steps : List (Step ι)}

/-- Whether every read of a run is of a settled response. -/
def runSettled (identity : ι → Identity) (observation : ℕ) : Mailbox ι → List (Step ι) → Bool
  | _, [] => true
  | box, step :: steps =>
    readsSettled box step &&
      match box.next identity observation step with
      | some next => runSettled identity observation next steps
      | none => true

lemma readText_eq_self {text : List Char} (h : '\r' ∉ text) : readText text = text := by
  induction text with
  | nil => rfl
  | cons c cs ih =>
    have hne : c ≠ '\r' := fun heq => h (heq ▸ List.mem_cons_self)
    have hrest := ih fun hmem => h (List.mem_cons_of_mem c hmem)
    rw [readText.eq_3 c cs (fun _ heq => absurd heq hne) hne, hrest]

lemma Intact.run (h : Intact box) (hinv : Invariant identity box)
    (hidentity : Function.Injective identity)
    (hrun : (mailboxMachine identity observation).run box steps = .ok box')
    (hsettled : runSettled identity observation box steps = true) : Intact box' := by
  induction steps generalizing box with
  | nil =>
    obtain rfl : box = box' := by simpa using hrun
    exact h
  | cons step steps ih =>
    obtain ⟨next, hstep, hrest⟩ := (mailboxMachine identity observation).run_cons_eq_ok.mp hrun
    simp only [runSettled, next_of_step hstep, Bool.and_eq_true] at hsettled
    exact ih (h.step hinv.sound hsettled.1 hstep) (hinv.step hidentity hstep) hrest hsettled.2

/-- **What is delivered.**  In every run no name is used twice and a request is evaluated at most
once unless its removal fails; and if the clients read only responses that the engine has written
to their end, what a client delivers is the complete result of its own request. -/
theorem responses_delivered_complete (hidentity : Function.Injective identity)
    (hrun : (mailboxMachine identity observation).run {} steps = .ok box) :
    (publishedNames box.history).Nodup ∧
    (∀ name, .removeFailed name ∉ box.history → (evaluations name box.history).length ≤ 1) ∧
    (runSettled identity observation {} steps = true → ∀ c name body,
      .delivered c name body ∈ box.history →
        ∃ code result, .published c name code ∈ box.history ∧
          .evaluated name code result ∈ box.history ∧ body = readText result ∧
          ('\r' ∉ result → body = result)) := by
  obtain ⟨hsound, hguarded⟩ := invariant_of_run hidentity hrun
  refine ⟨hguarded.nodup, fun name hremoved => (hguarded.once name).resolve_right hremoved,
    fun hsettled c name body hdelivered => ?_⟩
  have hempty : Intact ({} : Mailbox ι) := ⟨by simp, nofun, nofun, by simp⟩
  have hintact := hempty.run (invariant_empty identity) hidentity hrun hsettled
  obtain ⟨code', hpublished⟩ := hsound.events _ hdelivered
  obtain ⟨code, result, hevaluated, rfl⟩ := hintact.delivered c name body hdelivered
  obtain ⟨d, hpublished'⟩ := hsound.events _ (hsound.events _ hevaluated)
  obtain ⟨rfl, rfl⟩ := eq_of_published hguarded.nodup hpublished hpublished'
  exact ⟨code', result, hpublished, hevaluated, rfl, fun hplain => readText_eq_self hplain⟩

end Delivered

/-! ## Runs -/

/-- The only client of the runs. -/
def soleIdentity (_ : Unit) : Identity := ⟨7, ['a', 'b'], by decide⟩

lemma soleIdentity_injective : Function.Injective soleIdentity := fun _ _ _ => rfl

/-- The name of the first request. -/
def firstName : List Char := requestName (soleIdentity ()) 1

/-- The mailbox with one client that observes for 1.5 seconds. -/
def soleMachine : Machine (Mailbox Unit) (Step Unit) Unit := mailboxMachine soleIdentity 1500

/-- After 61 seconds, of which the client and the engine have slept through most, the engine finds
the request stale. -/
def purgedRun : List (Step Unit) :=
  [.client () (.request ['x'] 12000 .written), .client () .startPolling, .wait 61000,
   .engine (.tick [.request firstName]), .engine (.visit true true true),
   .client () (.poll true), .client () (.withdraw true), .client () (.discardResponse true)]

/-- The engine evaluates the request after the client has given it up. -/
def overtakenRun : List (Step Unit) :=
  [.client () (.request ['x'] 1000 .written), .client () .startPolling,
   .engine (.tick [.request firstName]), .engine (.visit true true true), .wait 1000,
   .client () (.poll true), .client () (.withdraw true), .client () .startObserving, .wait 1500,
   .client () (.observe true), .client () (.listOwn true), .client () .giveUp,
   .engine (.evaluate ['4', '2'])]

/-- The dispositions do not say more: a request that was purged is reported as executed late, and
one that is reported as withdrawn is evaluated afterwards. -/
theorem not_forall_dispositions :
    (¬∀ steps box c name, soleMachine.run {} steps = .ok box →
        .classified c name .executedLate ∈ box.history → Evaluated box.history name) ∧
      ¬∀ steps box c name, soleMachine.run {} steps = .ok box →
        .classified c name .withdrawnNoExecutionObserved ∈ box.history →
          ¬Evaluated box.history name := by
  refine ⟨fun hall => ?_, fun hall => ?_⟩
  · obtain ⟨box, hrun, htest⟩ := soleMachine.exists_run_of_endsWith
      (fun b => b.history = [.published () firstName ['x'], .purged firstName,
        .classified () firstName .executedLate]) {} purgedRun (by decide)
    have hhistory := of_decide_eq_true htest
    obtain ⟨code, result, hmem⟩ := hall purgedRun box () firstName hrun (by simp [hhistory])
    simp [hhistory] at hmem
  · obtain ⟨box, hrun, htest⟩ := soleMachine.exists_run_of_endsWith
      (fun b => .classified () firstName .withdrawnNoExecutionObserved ∈ b.history ∧
        .evaluated firstName ['x'] ['4', '2'] ∈ b.history) {} overtakenRun (by decide)
    obtain ⟨hwithdrawn, hevaluated⟩ := of_decide_eq_true htest
    exact hall overtakenRun box () firstName hrun hwithdrawn ⟨['x'], ['4', '2'], hevaluated⟩

/-- A request that is evaluated after it was given up had been read before it was withdrawn. -/
theorem dispositions_justified_overtaken :
    ∃ box, soleMachine.run {} overtakenRun = .ok box ∧
      ∃ before after, box.history = before ++ .withdrawn () firstName :: after ∧
        .read firstName ['x'] ∈ before := by
  obtain ⟨box, hrun, htest⟩ := soleMachine.exists_run_of_endsWith
    (fun b => .classified () firstName .withdrawnNoExecutionObserved ∈ b.history ∧
      .evaluated firstName ['x'] ['4', '2'] ∈ b.history) {} overtakenRun (by decide)
  obtain ⟨hwithdrawn, hevaluated⟩ := of_decide_eq_true htest
  obtain ⟨-, -, hread, -⟩ := dispositions_justified soleIdentity_injective hrun
  exact ⟨box, hrun, hread () firstName hwithdrawn ['x'] ['4', '2'] hevaluated⟩

/-- The client reads the response as soon as the engine has created it. -/
def hastyRun : List (Step Unit) :=
  [.client () (.request ['x'] 1000 .written), .client () .startPolling,
   .engine (.tick [.request firstName]), .engine (.visit true true true),
   .engine (.evaluate ['4', '2']), .engine (.openResponse true), .client () (.poll true),
   .client () (.readResponse .ok), .client () (.consumeResponse true),
   .client () (.retireRequest true)]

/-- A client can deliver a proper prefix of the result: here, the empty one. -/
theorem not_forall_delivered_complete :
    ¬∀ steps box c name body, soleMachine.run {} steps = .ok box →
      .delivered c name body ∈ box.history → IsResult box.history name body := by
  intro hall
  obtain ⟨box, hrun, htest⟩ := soleMachine.exists_run_of_endsWith
    (fun b => b.history = [.published () firstName ['x'], .read firstName ['x'],
      .evaluated firstName ['x'] ['4', '2'], .delivered () firstName []]) {} hastyRun
    (by decide)
  have hhistory := of_decide_eq_true htest
  obtain ⟨code, result, hmem, hbody⟩ :=
    hall hastyRun box () firstName [] hrun (by simp [hhistory])
  obtain ⟨-, rfl⟩ : code = ['x'] ∧ result = ['4', '2'] := by simpa [hhistory] using hmem
  revert hbody
  decide

/-- The client reads the response when it is complete. -/
def patientRun : List (Step Unit) :=
  [.client () (.request ['x'] 1000 .written), .client () .startPolling,
   .engine (.tick [.request firstName]), .engine (.visit true true true),
   .engine (.evaluate ['4', '2']), .engine (.openResponse true), .engine (.write 1),
   .engine (.write 1), .engine .closeResponse, .client () (.poll true),
   .client () (.readResponse .ok), .client () (.consumeResponse true),
   .client () (.retireRequest true)]

/-- A client that reads the complete response delivers it. -/
theorem responses_delivered_complete_patient :
    ∃ box, soleMachine.run {} patientRun = .ok box ∧
      ∃ code result, .published () firstName code ∈ box.history ∧
        .evaluated firstName code result ∈ box.history ∧ ['4', '2'] = readText result ∧
        ('\r' ∉ result → ['4', '2'] = result) := by
  obtain ⟨box, hrun, htest⟩ := soleMachine.exists_run_of_endsWith
    (fun b => .delivered () firstName ['4', '2'] ∈ b.history) {} patientRun (by decide)
  obtain ⟨-, -, hdelivered⟩ := responses_delivered_complete soleIdentity_injective hrun
  exact ⟨box, hrun, hdelivered (by decide) () firstName ['4', '2']
    (of_decide_eq_true htest)⟩

end FileBridge

end PacketTracer
