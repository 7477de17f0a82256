import PacketTracer.Infrastructure.MailboxInvariant

/-!
# What has not happened in the mailbox

`Guarded` says what is gone or has not happened: names are not used twice, a request that was
evaluated or withdrawn is not read again, and the request that a client waits for is there until
the engine has dealt with it.  Together with `Sound` it holds of every mailbox that the clients and
the engine can reach: `Invariant`.
-/

namespace PacketTracer

open Dicts

namespace FileBridge

/-! ## What has not happened -/

section Guarded

variable {ι : Type}

/-- The request that a client waits for. -/
def Phase.awaits : Phase → Option (List Char)
  | .published name _ => some name
  | .polling name _ => some name
  | .reading name _ => some name
  | .consuming name _ _ => some name
  | .cancelling name => some name
  | _ => none

/-- The request that the engine has evaluated and not yet removed. -/
def Engine.handling : Engine → Option (List Char)
  | .responding name _ _ _ => some name
  | .writing name _ _ _ _ => some name
  | .removing name _ _ => some name
  | _ => none

/-- The request that the engine has read and not yet evaluated. -/
def Engine.holds : Engine → Option (List Char)
  | .evaluating name _ _ _ => some name
  | _ => none

/-- Whether an event neither publishes, reads, evaluates nor withdraws a request. -/
def Event.isQuiet : Event ι → Bool
  | .published _ _ _ => false
  | .read _ _ => false
  | .evaluated _ _ _ => false
  | .withdrawn _ _ => false
  | _ => true

/-- The request that a client waits for is there, or the engine has dealt with it. -/
def Answered (box : Mailbox ι) (name : List Char) : Prop :=
  box.files.contains (.request name) = true ∨ .purged name ∈ box.history ∨
    Evaluated box.history name

/-- What a client waits for stays answered when the history grows and requests disappear only after
the engine has dealt with them. -/
lemma Answered.mono {box box' : Mailbox ι} {name : List Char} (h : Answered box name)
    (hhistory : box.history ⊆ box'.history)
    (hfiles : box.files.contains (.request name) = true →
      box'.files.contains (.request name) = true ∨ .purged name ∈ box'.history ∨
        Evaluated box'.history name) : Answered box' name := by
  rcases h with hfile | hpurged | he
  · exact hfiles hfile
  · exact Or.inr (Or.inl (hhistory hpurged))
  · exact Or.inr (Or.inr (he.mono hhistory))

/-- Names are used once, and what is evaluated or withdrawn does not come back. -/
structure Guarded (identity : ι → Identity) (box : Mailbox ι) : Prop where
  seq : ∀ c name code, .published c name code ∈ box.history →
    ∃ k ≤ (box.clients c).seq, name = requestName (identity c) k
  nodup : (publishedNames box.history).Nodup
  gone : ∀ c name, .withdrawn c name ∈ box.history → box.files.get? (.request name) = none
  order : box.history.Pairwise fun a b => ∀ c name code, a = .withdrawn c name → b ≠ .read name code
  spent : ∀ name, Evaluated box.history name → box.files.get? (.request name) = none ∨
    box.engine.handling = some name ∨ .removeFailed name ∈ box.history
  fresh : ∀ name, box.engine.holds = some name →
    ¬Evaluated box.history name ∨ .removeFailed name ∈ box.history
  once : ∀ name, (evaluations name box.history).length ≤ 1 ∨ .removeFailed name ∈ box.history
  waiting : ∀ c name, (box.clients c).phase.awaits = some name → Answered box name

/-! ### Quiet events -/

section Quiet

variable {history events : List (Event ι)}

section Quiet

variable (h : ∀ event ∈ events, event.isQuiet = true)
include h

lemma publishedNames_append_quiet :
    publishedNames (history ++ events) = publishedNames history := by
  have hnone : publishedNames events = [] := by
    refine List.filterMap_eq_nil_iff.mpr fun event hevent => ?_
    have hquiet := h event hevent
    cases event with
    | published c name code => cases hquiet
    | _ => rfl
  unfold publishedNames at hnone ⊢
  rw [List.filterMap_append, hnone, List.append_nil]

lemma evaluations_append_quiet (name : List Char) :
    evaluations name (history ++ events) = evaluations name history := by
  have hnone : evaluations name events = [] := by
    refine List.filterMap_eq_nil_iff.mpr fun event hevent => ?_
    have hquiet := h event hevent
    cases event with
    | evaluated name code result => cases hquiet
    | _ => rfl
  unfold evaluations at hnone ⊢
  rw [List.filterMap_append, hnone, List.append_nil]

lemma mem_of_mem_append_quiet {event : Event ι}
    (hloud : event.isQuiet = false) (hmem : event ∈ history ++ events) : event ∈ history := by
  rcases List.mem_append.mp hmem with hmem | hmem
  · exact hmem
  · have hquiet := h event hmem
    rw [hloud] at hquiet
    cases hquiet

lemma evaluated_append_quiet {name : List Char} :
    Evaluated (history ++ events) name ↔ Evaluated history name := by
  constructor
  · rintro ⟨code, result, hmem⟩
    exact ⟨code, result, mem_of_mem_append_quiet h rfl hmem⟩
  · exact Evaluated.mono (List.subset_append_left _ _)

lemma order_append_quiet
    (horder : history.Pairwise fun a b => ∀ (c : ι) name code, a = .withdrawn c name →
      b ≠ .read name code) :
    (history ++ events).Pairwise fun a b => ∀ (c : ι) name code, a = .withdrawn c name →
      b ≠ .read name code := by
  have hquiet : ∀ b ∈ events, ∀ name code, b ≠ .read name code := by
    rintro b hb name code rfl
    cases h _ hb
  rw [List.pairwise_append]
  refine ⟨horder, List.pairwise_of_forall_mem_list fun a _ b hb c name code _ => hquiet b hb _ _,
    fun a _ b hb c name code _ => hquiet b hb _ _⟩

end Quiet

lemma publishedNames_concat (history : List (Event ι)) (event : Event ι)
    (h : ∀ c name code, event ≠ .published c name code) :
    publishedNames (history ++ [event]) = publishedNames history := by
  cases event with
  | published c name code => exact absurd rfl (h c name code)
  | _ => simp [publishedNames]

lemma evaluations_concat (history : List (Event ι)) (event : Event ι) (name : List Char)
    (h : ∀ code result, event ≠ .evaluated name code result) :
    evaluations name (history ++ [event]) = evaluations name history := by
  cases event with
  | evaluated name' code result =>
    have hne : name' ≠ name := by
      rintro rfl
      exact h code result rfl
    simp [evaluations, hne]
  | _ => simp [evaluations]

lemma order_concat (event : Event ι) (h : ∀ name code, event ≠ .read name code)
    (horder : history.Pairwise fun a b => ∀ (c : ι) name code, a = .withdrawn c name →
      b ≠ .read name code) :
    (history ++ [event]).Pairwise fun a b => ∀ (c : ι) name code, a = .withdrawn c name →
      b ≠ .read name code := by
  refine List.pairwise_append.mpr ⟨horder, List.pairwise_singleton _ _, ?_⟩
  rintro a - b hb c name code -
  exact List.mem_singleton.mp hb ▸ h name code

/-- A step with quiet events that publishes no request keeps the guards. -/
lemma Guarded.of_quiet {identity : ι → Identity} {box box' : Mailbox ι} (h : Guarded identity box)
    (events : List (Event ι)) (hhistory : box'.history = box.history ++ events)
    (hquiet : ∀ event ∈ events, event.isQuiet = true)
    (hseq : ∀ c, (box.clients c).seq ≤ (box'.clients c).seq)
    (hfiles : ∀ name, box.files.get? (.request name) = none →
      box'.files.get? (.request name) = none)
    (hhandling : ∀ name, box.engine.handling = some name → box'.engine.handling = some name ∨
      box'.files.get? (.request name) = none ∨ .removeFailed name ∈ box'.history)
    (hholds : ∀ name, box'.engine.holds = some name → box.engine.holds = some name)
    (hwaiting : ∀ c name, (box'.clients c).phase.awaits = some name → Answered box' name) :
    Guarded identity box' := by
  have hmem : ∀ {event}, event.isQuiet = false → event ∈ box'.history → event ∈ box.history := by
    intro event hloud hevent
    rw [hhistory] at hevent
    exact mem_of_mem_append_quiet hquiet hloud hevent
  have hevaluated : ∀ name, Evaluated box'.history name ↔ Evaluated box.history name := by
    intro name
    rw [hhistory]
    exact evaluated_append_quiet hquiet
  have hsubset : box.history ⊆ box'.history := hhistory ▸ List.subset_append_left _ _
  refine ⟨fun c name code hevent => ?_, ?_, fun c name hevent => ?_, ?_, fun name he => ?_,
    fun name hholds' => ?_, fun name => ?_, hwaiting⟩
  · obtain ⟨k, hk, hname⟩ := h.seq c name code (hmem rfl hevent)
    exact ⟨k, hk.trans (hseq c), hname⟩
  · rw [hhistory, publishedNames_append_quiet hquiet]
    exact h.nodup
  · exact hfiles name (h.gone c name (hmem rfl hevent))
  · rw [hhistory]
    exact order_append_quiet hquiet h.order
  · rcases h.spent name ((hevaluated name).mp he) with hnone | hhandles | hfailed
    · exact Or.inl (hfiles name hnone)
    · rcases hhandling name hhandles with hhandles | hnone | hfailed
      · exact Or.inr (Or.inl hhandles)
      · exact Or.inl hnone
      · exact Or.inr (Or.inr hfailed)
    · exact Or.inr (Or.inr (hsubset hfailed))
  · rw [hevaluated]
    exact (h.fresh name (hholds name hholds')).imp_right fun hfailed => hsubset hfailed
  · rw [hhistory, evaluations_append_quiet hquiet]
    exact (h.once name).imp_right fun hfailed => List.mem_append_left _ hfailed

end Quiet

/-! ### Steps of a client -/

section ClientStep

variable {identity : ι → Identity} {box box' : Mailbox ι} {c : ι} {name : List Char}

lemma Sound.published_of_awaits (h : Sound box)
    (hawaits : (box.clients c).phase.awaits = some name) : Published box.history c name := by
  have hok := (h.clients c).2
  cases hphase : (box.clients c).phase <;> rw [hphase] at hawaits hok <;>
    simp only [Phase.awaits, reduceCtorEq, Option.some.injEq] at hawaits <;> subst hawaits <;>
    exact hok

/-- A step of a client with quiet events keeps the guards, if the requests that it removes are its
own and it does not wait for them. -/
lemma Guarded.of_client (h : Guarded identity box) (hsound : Sound box) (c : ι)
    (events : List (Event ι)) (hhistory : box'.history = box.history ++ events)
    (hquiet : ∀ event ∈ events, event.isQuiet = true) (hengine : box'.engine = box.engine)
    (hothers : ∀ d, d ≠ c → box'.clients d = box.clients d)
    (hseq : (box.clients c).seq ≤ (box'.clients c).seq)
    (hfiles : ∀ file contents, box'.files.get? file = some contents →
      box.files.get? file = some contents)
    (hkept : ∀ name, box.files.contains (.request name) = true →
      box'.files.contains (.request name) = true ∨
        (Published box.history c name ∧ (box'.clients c).phase.awaits ≠ some name))
    (hawaits : ∀ name, (box'.clients c).phase.awaits = some name →
      (box.clients c).phase.awaits = some name) : Guarded identity box' := by
  have hsubset : box.history ⊆ box'.history := hhistory ▸ List.subset_append_left _ _
  refine h.of_quiet events hhistory hquiet (fun d => ?_) (fun name hnone => ?_)
    (fun name hhandles => Or.inl (hengine ▸ hhandles)) (fun name hholds => hengine ▸ hholds)
    fun d name hawaits' => ?_
  · by_cases hd : d = c
    · subst hd
      exact hseq
    · rw [hothers d hd]
  · rcases hget : box'.files.get? (.request name) with _ | contents
    · rfl
    have hold := hfiles _ _ hget
    rw [hnone] at hold
    cases hold
  · have hold : (box.clients d).phase.awaits = some name := by
      by_cases hd : d = c
      · subst hd
        exact hawaits name hawaits'
      · rwa [hothers d hd] at hawaits'
    refine (h.waiting d name hold).mono hsubset fun hfile => ?_
    rcases hkept name hfile with hfile | ⟨⟨code, howner⟩, hnotawaits⟩
    · exact Or.inl hfile
    · obtain ⟨code', hpublished⟩ := hsound.published_of_awaits hold
      obtain ⟨rfl, -⟩ := eq_of_published h.nodup howner hpublished
      exact absurd hawaits' hnotawaits

@[simp] lemma clients_discard (box : Mailbox ι) (file : FileName) (ok : Bool) :
    (box.discard file ok).clients = box.clients := by
  unfold Mailbox.discard
  split_ifs <;> rfl

@[simp] lemma engine_discard (box : Mailbox ι) (file : FileName) (ok : Bool) :
    (box.discard file ok).engine = box.engine := by
  unfold Mailbox.discard
  split_ifs <;> rfl

/-- Removing a file keeps the guards, if a request that is removed belongs to a client that waits
for nothing. -/
lemma Guarded.discard {file : FileName} {ok : Bool} (h : Guarded identity box)
    (hsound : Sound box) (hidle : (box.clients c).phase.awaits = none)
    (howner : ∀ name, file = .request name → ok = true → Published box.history c name) :
    Guarded identity (box.discard file ok) := by
  refine h.of_client hsound c [] (by simp) (by simp) (by simp) (by simp) (by simp)
    (fun _ _ hget => get?_of_get?_discard hget) (fun name hfile => ?_) (by simp)
  · rw [clients_discard, hidle]
    by_cases hremoved : file = .request name ∧ ok = true
    · exact Or.inr ⟨howner name hremoved.1 hremoved.2, nofun⟩
    refine Or.inl ?_
    unfold Mailbox.discard
    split_ifs with hok
    · have hne : file ≠ .request name := fun heq => hremoved ⟨heq, hok⟩
      rw [Dict.contains, Dict.get?_erase, if_neg hne]
      exact hfile
    · exact hfile

/-- A response is not a request, so that removing it keeps the guards. -/
lemma Guarded.discardResponse {ok : Bool} (h : Guarded identity box) :
    Guarded identity (box.discard (.response name) ok) := by
  have hget : ∀ name', (box.discard (.response name) ok).files.get? (.request name') =
      box.files.get? (.request name') := by
    intro name'
    unfold Mailbox.discard
    split_ifs
    · rw [Dict.get?_erase, if_neg (by simp)]
    · rfl
  refine h.of_quiet [] (by simp) (by simp) (by simp) (fun name' hnone => ?_)
    (fun name' hhandles => Or.inl ?_) (by simp) fun d name' hawaits => ?_
  · rw [hget, hnone]
  · rw [engine_discard, hhandles]
  · rw [clients_discard] at hawaits
    refine (h.waiting d name' hawaits).mono (by simp) fun hfile => Or.inl ?_
    rw [Dict.contains, hget]
    exact hfile

lemma Guarded.log {event : Event ι} (h : Guarded identity box) (hquiet : event.isQuiet = true) :
    Guarded identity (box.log event) := by
  have hsubset : box.history ⊆ (box.log event).history := List.subset_append_left _ _
  refine h.of_quiet [event] rfl (List.forall_mem_singleton.mpr hquiet) (fun _ => le_rfl)
    (fun _ hnone => hnone) (fun _ hhandles => Or.inl hhandles) (fun _ hholds => hholds)
    fun d name hawaits => (h.waiting d name hawaits).mono hsubset Or.inl

variable [DecidableEq ι]

lemma Guarded.setClient {client : Client} (h : Guarded identity box) (hsound : Sound box)
    (hseq : (box.clients c).seq ≤ client.seq)
    (hawaits : ∀ name, client.phase.awaits = some name →
      (box.clients c).phase.awaits = some name) : Guarded identity (box.setClient c client) := by
  refine h.of_client hsound c [] (List.append_nil _).symm (by simp) rfl
    (fun d hd => Function.update_of_ne hd _ _) ?_ (fun _ _ hget => hget)
    (fun _ hfile => Or.inl hfile) fun name hname => hawaits name ?_
  · simpa [Mailbox.setClient] using hseq
  · simpa [Mailbox.setClient] using hname

lemma Guarded.setPhase {phase : Phase} (h : Guarded identity box) (hsound : Sound box)
    (hawaits : ∀ name, phase.awaits = some name → (box.clients c).phase.awaits = some name) :
    Guarded identity (box.setPhase c phase) := h.setClient hsound le_rfl hawaits

lemma Guarded.classify {disposition : RequestDisposition} (h : Guarded identity box)
    (hsound : Sound box) (hevent : EventOk box.history (.classified c name disposition)) :
    Guarded identity (box.classify c name disposition) := by
  have hlog : Guarded identity (box.log (.classified c name disposition)) := h.log rfl
  exact hlog.setClient (hsound.log (hevent.mono (List.subset_append_left _ _))) le_rfl nofun

/-- The guards after a request is published under the next name of the client. -/
lemma Guarded.publish_setClient {code : List Char} {client : Client}
    (hidentity : Function.Injective identity) (h : Guarded identity box) (hsound : Sound box)
    (hname : requestName (identity c) client.seq = name)
    (hseq : client.seq = (box.clients c).seq + 1)
    (hawaits : ∀ name', client.phase.awaits = some name' → name' = name) :
    Guarded identity ((box.publish c name code).setClient c client) := by
  have hnew : name ∉ publishedNames box.history := by
    rw [mem_publishedNames]
    rintro ⟨d, text, hmem⟩
    obtain ⟨k, hk, hdname⟩ := h.seq d name text hmem
    obtain ⟨hcd, hseq'⟩ := requestName_inj (hname.trans hdname)
    obtain rfl := hidentity hcd
    omega
  have hunevaluated : ¬Evaluated box.history name := by
    rintro ⟨text, result, hmem⟩
    obtain ⟨d, hpublished⟩ := hsound.events _ (hsound.events _ hmem)
    exact hnew (mem_publishedNames.mpr ⟨d, text, hpublished⟩)
  have hevaluated : ∀ name', Evaluated (box.history ++ [.published c name code]) name' ↔
      Evaluated box.history name' := by
    intro name'
    refine ⟨fun ⟨text, result, hmem⟩ => ⟨text, result, ?_⟩, Evaluated.mono ?_⟩
    · simpa using hmem
    · exact List.subset_append_left _ _
  have hclients : ∀ d, d ≠ c → ((box.publish c name code).setClient c client).clients d =
      box.clients d := fun d hd => Function.update_of_ne hd _ _
  have hself : ((box.publish c name code).setClient c client).clients c = client :=
    Function.update_self _ _ _
  have hfiles : ∀ name', name' ≠ name →
      ((box.publish c name code).setClient c client).files.get? (.request name') =
        box.files.get? (.request name') := by
    intro name' hne
    have hne' : FileName.request name ≠ .request name' :=
      fun heq => hne (FileName.request.inj heq).symm
    simp only [Mailbox.setClient, Mailbox.publish, Dict.get?_set, if_neg hne']
  refine ⟨fun d name' text hmem => ?_, ?_, fun d name' hmem => ?_, ?_, fun name' he => ?_,
    fun name' hholds => ?_, fun name' => ?_, fun d name' hawaits' => ?_⟩
  · rcases List.mem_concat_iff.mp hmem with hold | hlast
    · obtain ⟨k, hk, hname'⟩ := h.seq d name' text hold
      refine ⟨k, ?_, hname'⟩
      by_cases hd : d = c
      · subst hd
        rw [hself]
        omega
      · rwa [hclients d hd]
    · obtain ⟨rfl, rfl, -⟩ := Event.published.inj hlast
      exact ⟨client.seq, by rw [hself], hname.symm⟩
  · have hnames : publishedNames (box.history ++ [.published c name code]) =
        publishedNames box.history ++ [name] := by
      unfold publishedNames
      rw [List.filterMap_append]
      rfl
    have hgoal : (publishedNames (box.history ++ [.published c name code])).Nodup := by
      rw [hnames, List.nodup_append]
      refine ⟨h.nodup, List.nodup_singleton _, fun a ha b hb heq => hnew ?_⟩
      rwa [← List.mem_singleton.mp hb, ← heq]
    exact hgoal
  · have hold : .withdrawn d name' ∈ box.history := by
      rcases List.mem_concat_iff.mp hmem with hold | hlast
      · exact hold
      · cases hlast
    have hne : name' ≠ name := by
      rintro rfl
      obtain ⟨text, hpublished⟩ := hsound.events _ hold
      exact hnew (mem_publishedNames.mpr ⟨d, text, hpublished⟩)
    rw [hfiles name' hne]
    exact h.gone d name' hold
  · exact order_concat (.published c name code) (by simp) h.order
  · have hold := (hevaluated name').mp he
    have hne : name' ≠ name := fun heq => hunevaluated (heq ▸ hold)
    rw [hfiles name' hne]
    exact (h.spent name' hold).imp_right fun hrest => hrest.imp_right (List.mem_append_left _)
  · refine (h.fresh name' hholds).imp (fun hnot he => hnot ((hevaluated name').mp he)) ?_
    exact List.mem_append_left _
  · have hsame := evaluations_concat box.history (.published c name code) name' (by simp)
    refine (h.once name').imp (fun hle => ?_) (List.mem_append_left _)
    exact hsame ▸ hle
  · by_cases hd : d = c
    · subst hd
      rw [hself] at hawaits'
      obtain rfl := hawaits name' hawaits'
      refine Or.inl ?_
      simp [Mailbox.setClient, Mailbox.publish, Dict.contains]
    · rw [hclients d hd] at hawaits'
      refine (h.waiting d name' hawaits').mono (List.subset_append_left _ _) fun hfile => Or.inl ?_
      by_cases hne : name' = name
      · subst hne
        simp [Mailbox.setClient, Mailbox.publish, Dict.contains]
      · rwa [Dict.contains, hfiles name' hne]

/-- The guards after a client withdraws the request that it waited for. -/
lemma Guarded.withdraw (h : Guarded identity box) (hsound : Sound box)
    (hphase : (box.clients c).phase = .cancelling name) :
    Guarded identity (((box.discard (.request name) true).log (.withdrawn c name)).setPhase c
      (.withdrew name)) := by
  have hown : Published box.history c name := by
    have hok := (hsound.clients c).2
    rwa [hphase] at hok
  have hmem : ∀ {event : Event ι}, (∀ d name', event ≠ .withdrawn d name') →
      event ∈ box.history ++ [.withdrawn c name] → event ∈ box.history := by
    intro event hne hevent
    rcases List.mem_concat_iff.mp hevent with hold | hlast
    · exact hold
    · exact absurd hlast (hne c name)
  have hevaluated : ∀ name', Evaluated (box.history ++ [.withdrawn c name]) name' →
      Evaluated box.history name' := fun name' ⟨code, result, hevent⟩ =>
    ⟨code, result, hmem nofun hevent⟩
  have herase : ∀ name', box.files.get? (.request name') = none →
      (box.files.erase (.request name)).get? (.request name') = none := by
    intro name' hnone
    rw [Dict.get?_erase, hnone, ite_self]
  refine ⟨fun d name' code hevent => ?_, ?_, fun d name' hevent => ?_, ?_, fun name' he => ?_,
    fun name' hholds => ?_, fun name' => ?_, fun d name' hawaits => ?_⟩
  · obtain ⟨k, hk, hname⟩ := h.seq d name' code (hmem nofun hevent)
    refine ⟨k, ?_, hname⟩
    by_cases hd : d = c
    · subst hd
      simpa [Mailbox.setPhase, Mailbox.setClient, Mailbox.log, Mailbox.discard] using hk
    · simpa [Mailbox.setPhase, Mailbox.setClient, Mailbox.log, Mailbox.discard,
        Function.update_of_ne hd] using hk
  · exact publishedNames_concat box.history (.withdrawn c name) (by simp) ▸ h.nodup
  · rcases List.mem_concat_iff.mp hevent with hold | hlast
    · exact herase name' (h.gone d name' hold)
    · obtain ⟨-, rfl⟩ := Event.withdrawn.inj hlast
      exact (Dict.get?_erase _ _ _).trans (if_pos rfl)
  · exact order_concat (.withdrawn c name) (by simp) h.order
  · exact (h.spent name' (hevaluated name' he)).imp (herase name') fun hrest =>
      hrest.imp_right (List.mem_append_left _)
  · exact (h.fresh name' hholds).imp (fun hnot he => hnot (hevaluated name' he))
      (List.mem_append_left _)
  · have hsame := evaluations_concat box.history (.withdrawn c name) name' (by simp)
    exact (h.once name').imp (fun hle => hsame ▸ hle) (List.mem_append_left _)
  · by_cases hd : d = c
    · subst hd
      simp [Mailbox.setPhase, Mailbox.setClient, Phase.awaits] at hawaits
    have hold : (box.clients d).phase.awaits = some name' := by
      simpa [Mailbox.setPhase, Mailbox.setClient, Mailbox.log, Mailbox.discard,
        Function.update_of_ne hd] using hawaits
    have hne : name ≠ name' := by
      rintro rfl
      obtain ⟨code, hpublished⟩ := hown
      obtain ⟨code', hpublished'⟩ := hsound.published_of_awaits hold
      exact hd (eq_of_published h.nodup hpublished' hpublished).1
    refine (h.waiting d name' hold).mono (List.subset_append_left _ _) fun hfile => Or.inl ?_
    have hne' : FileName.request name ≠ .request name' := fun heq => hne (FileName.request.inj heq)
    have hget : (box.files.erase (.request name)).get? (.request name') =
        box.files.get? (.request name') := by rw [Dict.get?_erase, if_neg hne']
    exact (congrArg Option.isSome hget).trans hfile

omit [DecidableEq ι] in
lemma PhaseMove.awaits_eq {observation : ℕ} {pending : List (List Char)} {step : ClientStep}
    {phase phase' : Phase} (hmove : PhaseMove observation box step pending phase phase') :
    ∀ name, phase'.awaits = some name → phase.awaits = some name := by
  cases hmove with
  | startPolling | found | expired | unread | unconsumed | read => exact fun _ hname => hname
  | _ => nofun

/-- A client keeps the guards. -/
theorem Guarded.clientStep {observation : ℕ} {step : ClientStep}
    (hidentity : Function.Injective identity) (h : Guarded identity box) (hsound : Sound box)
    (hstep : box.clientStep identity observation c step = some box') : Guarded identity box' := by
  have hok := (hsound.clients c).2
  cases clientMove_of_clientStep hstep with
  | stays => exact h
  | moved phase hmove => exact h.setPhase hsound hmove.awaits_eq
  | published code client hseq hpending hphase =>
    refine h.publish_setClient hidentity hsound rfl hseq fun name hname => ?_
    rcases hphase with hphase | ⟨timeout, hphase⟩
    · rw [hphase] at hname
      cases hname
    · rw [hphase] at hname
      exact (Option.some.inj hname).symm
  | unwritten client hseq hpending hphase =>
    exact h.setClient hsound (hseq ▸ Nat.le_succ _) (by rw [hphase]; rintro _ ⟨⟩)
  | droppedResponse ok name names code hphase =>
    exact h.discardResponse.setPhase hsound.discard (by rintro _ ⟨⟩)
  | droppedRequest ok name names code hphase =>
    rw [hphase] at hok
    have hdiscard : Guarded identity (box.discard (.request name) ok) := by
      refine h.discard (c := c) hsound (by rw [hphase]; rfl) fun name' heq _ => ?_
      obtain rfl := FileName.request.inj heq
      exact hok name List.mem_cons_self
    refine hdiscard.setClient hsound.discard ?_ (by rintro _ ⟨⟩)
    rw [clients_discard]
  | consumed name deadline body hphase =>
    exact h.discardResponse.setPhase hsound.discard (by rintro _ ⟨⟩)
  | retired ok name body hphase =>
    rw [hphase] at hok
    have hdiscard : Guarded identity (box.discard (.request name) ok) := by
      refine h.discard (c := c) hsound (by rw [hphase]; rfl) fun name' heq _ => ?_
      obtain rfl := FileName.request.inj heq
      exact hok
    have hpublished : EventOk ((box.discard (.request name) ok).history ++
        [.delivered c name body]) (.delivered c name body) := by
      rw [history_discard]
      exact Published.mono (List.subset_append_left _ _) hok
    refine (hdiscard.log rfl).setClient (hsound.discard.log hpublished) ?_ (by rintro _ ⟨⟩)
    rw [Mailbox.log, clients_discard]
  | withdrew name hphase => exact h.withdraw hsound hphase
  | discarded ok name disposition hphase =>
    refine h.discardResponse.classify hsound.discard ?_
    rw [history_discard]
    exact hsound.eventOk_of_discarding hphase
  | purged ok name cutoff entry entries hphase =>
    refine Guarded.setPhase ?_ hsound.discard (by rintro _ ⟨⟩)
    refine h.discard (c := c) hsound (by rw [hphase]; rfl) fun name' heq hstale => ?_
    simp only [Bool.and_eq_true, Mailbox.isOwnStale] at hstale
    obtain ⟨-, hpre, hpresent⟩ := hstale
    subst heq
    rcases hget : box.files.get? (.request name') with _ | contents
    · rw [hget] at hpresent
      cases hpresent
    obtain ⟨d, hpublished⟩ := hsound.files _ _ hget
    obtain ⟨k, -, rfl⟩ := h.seq d name' _ hpublished
    obtain rfl := hidentity (eq_of_ownStem_isPrefixOf hpre (Or.inl rfl))
    exact ⟨_, hpublished⟩
  | gaveUp name cutoff hphase =>
    rw [hphase] at hok
    exact h.classify hsound hok

end ClientStep

/-! ### Steps of the engine -/

section EngineStep

variable {identity : ι → Identity} {box box' : Mailbox ι}

lemma evaluations_eq_nil {history : List (Event ι)} {name : List Char}
    (h : ¬Evaluated history name) : evaluations name history = [] := by
  refine List.filterMap_eq_nil_iff.mpr fun event hevent => ?_
  cases event with
  | evaluated name' code result =>
    refine if_neg ?_
    rintro rfl
    exact h ⟨code, result, hevent⟩
  | _ => rfl

/-- A step of the engine with quiet events keeps the guards, if it reads nothing and does not leave
a request that it handles. -/
lemma Guarded.of_engine (h : Guarded identity box) (events : List (Event ι))
    (hhistory : box'.history = box.history ++ events)
    (hquiet : ∀ event ∈ events, event.isQuiet = true) (hclients : box'.clients = box.clients)
    (hgone : ∀ name, box.files.get? (.request name) = none →
      box'.files.get? (.request name) = none)
    (hkept : ∀ name, box.files.contains (.request name) = true →
      box'.files.contains (.request name) = true ∨ .purged name ∈ box'.history ∨
        Evaluated box'.history name)
    (hhandling : ∀ name, box.engine.handling = some name → box'.engine.handling = some name ∨
      box'.files.get? (.request name) = none ∨ .removeFailed name ∈ box'.history)
    (hholds : box'.engine.holds = none) : Guarded identity box' := by
  have hsubset : box.history ⊆ box'.history := hhistory ▸ List.subset_append_left _ _
  refine h.of_quiet events hhistory hquiet (fun c => by rw [hclients]) hgone hhandling
    (fun name hname => ?_) fun c name hawaits => ?_
  · rw [hholds] at hname
    cases hname
  · rw [hclients] at hawaits
    exact (h.waiting c name hawaits).mono hsubset (hkept name)

/-- The guards after the engine reads a request. -/
lemma Guarded.read {name : List Char} {contents : File} {now : ℕ} {files : List FileName}
    (h : Guarded identity box) (hget : box.files.get? (.request name) = some contents)
    (hidle : box.engine.handling = none) :
    Guarded identity { box with
      engine := .evaluating name contents.text now files
      history := box.history ++ [.read name contents.text] } := by
  have hevaluated : ∀ name', Evaluated (box.history ++ [.read name contents.text]) name' →
      Evaluated box.history name' := by
    rintro name' ⟨code, result, hmem⟩
    exact ⟨code, result, by simpa using hmem⟩
  have hsubset : box.history ⊆ box.history ++ [.read name contents.text] :=
    List.subset_append_left _ _
  have hspent : ∀ name', Evaluated box.history name' →
      box.files.get? (.request name') = none ∨ .removeFailed name' ∈ box.history := by
    intro name' he
    have hrest := h.spent name' he
    rw [hidle] at hrest
    simpa using hrest
  refine ⟨fun c name' code hmem => h.seq c name' code (by simpa using hmem), ?_,
    fun c name' hmem => h.gone c name' (by simpa using hmem), ?_, fun name' he => ?_,
    fun name' hholds => ?_, fun name' => ?_, fun c name' hawaits => ?_⟩
  · exact publishedNames_concat box.history (.read name contents.text) (by simp) ▸ h.nodup
  · refine List.pairwise_append.mpr ⟨h.order, List.pairwise_singleton _ _, ?_⟩
    rintro a ha b hb c name' code rfl rfl
    obtain ⟨rfl, -⟩ := Event.read.inj (List.mem_singleton.mp hb)
    have hnone := h.gone c name' ha
    rw [hget] at hnone
    cases hnone
  · exact (hspent name' (hevaluated name' he)).imp_right fun hfailed => Or.inr (hsubset hfailed)
  · cases hholds
    by_cases he : Evaluated box.history name
    · rcases hspent name he with hnone | hfailed
      · rw [hget] at hnone
        cases hnone
      · exact Or.inr (hsubset hfailed)
    · exact Or.inl fun he' => he (hevaluated name he')
  · have hsame := evaluations_concat box.history (.read name contents.text) name' (by simp)
    exact (h.once name').imp (fun hle => hsame ▸ hle) fun hfailed => hsubset hfailed
  · exact (h.waiting c name' hawaits).mono hsubset Or.inl

/-- The guards after the engine evaluates the request that it has read. -/
lemma Guarded.evaluate {name code : List Char} {now : ℕ} {files : List FileName}
    (result : List Char) (h : Guarded identity box)
    (hphase : box.engine = .evaluating name code now files) :
    Guarded identity { box with
      engine := .responding name result now files
      history := box.history ++ [.evaluated name code result] } := by
  have hsubset : box.history ⊆ box.history ++ [.evaluated name code result] :=
    List.subset_append_left _ _
  have hevaluated : ∀ name', Evaluated (box.history ++ [.evaluated name code result]) name' →
      name' = name ∨ Evaluated box.history name' := by
    rintro name' ⟨code', result', hmem⟩
    rcases List.mem_concat_iff.mp hmem with hold | hlast
    · exact Or.inr ⟨code', result', hold⟩
    · exact Or.inl (Event.evaluated.inj hlast).1
  refine ⟨fun c name' text hmem => h.seq c name' text (by simpa using hmem), ?_,
    fun c name' hmem => h.gone c name' (by simpa using hmem), ?_, fun name' he => ?_, nofun,
    fun name' => ?_, fun c name' hawaits => ?_⟩
  · exact publishedNames_concat box.history (.evaluated name code result) (by simp) ▸ h.nodup
  · exact order_concat (.evaluated name code result) (by simp) h.order
  · rcases hevaluated name' he with rfl | hold
    · exact Or.inr (Or.inl rfl)
    have hrest := h.spent name' hold
    rw [hphase] at hrest
    rcases hrest with hnone | hhandles | hfailed
    · exact Or.inl hnone
    · cases hhandles
    · exact Or.inr (Or.inr (hsubset hfailed))
  · by_cases hname : name' = name
    · subst hname
      rcases h.fresh name' (by rw [hphase]; rfl) with hnot | hfailed
      · refine Or.inl (le_of_eq ?_)
        have hnone := evaluations_eq_nil hnot
        unfold evaluations at hnone ⊢
        rw [List.filterMap_append, hnone]
        simp
      · exact Or.inr (hsubset hfailed)
    · have hsame : evaluations name' (box.history ++ [.evaluated name code result]) =
          evaluations name' box.history := by
        unfold evaluations
        rw [List.filterMap_append]
        simp [Ne.symm hname]
      exact (h.once name').imp (fun hle => hsame ▸ hle) fun hfailed => hsubset hfailed
  · exact (h.waiting c name' hawaits).mono hsubset Or.inl

/-- The engine keeps the guards. -/
theorem Guarded.engineStep {step : EngineStep} (h : Guarded identity box) (hsound : Sound box)
    (hstep : box.engineStep step = some box') : Guarded identity box' := by
  have hengine : ∀ engine, (∀ name, box.engine.handling = some name →
      engine.handling = some name) → engine.holds = none → Guarded identity { box with engine } :=
    fun engine hhandling hholds => h.of_engine [] (List.append_nil _).symm (by simp) rfl
      (fun _ hnone => hnone) (fun _ hfile => Or.inl hfile)
      (fun name hname => Or.inl (hhandling name hname)) hholds
  have hresponse : ∀ (name : List Char) (contents : File) (name' : List Char),
      (box.files.set (.response name) contents).get? (.request name') =
        box.files.get? (.request name') := fun name contents name' => by
    rw [Dict.get?_set, if_neg (by simp)]
  cases engineMove_of_engineStep hstep with
  | began _ _ hphase | skipped _ _ _ hphase | rested _ hphase =>
    exact hengine _ (by rw [hphase]; rintro _ ⟨⟩) rfl
  | purged now file files hphase =>
    have hget : ∀ name', file ≠ .request name' →
        (box.purgeOrphan now file files).files.get? (.request name') =
          box.files.get? (.request name') := fun name' hne =>
      (Dict.get?_erase _ _ _).trans (if_neg hne)
    refine h.of_engine _ rfl (fun event hevent => ?_) rfl (fun name hnone => ?_)
      (fun name hfile => ?_) (by rw [hphase]; rintro _ ⟨⟩) rfl
    · cases file with
      | request name =>
        rw [List.mem_singleton.mp hevent]
        rfl
      | response name => cases hevent
    · refine (Dict.get?_erase _ _ _).trans ?_
      rw [hnone, ite_self]
    · by_cases heq : file = .request name
      · subst heq
        exact Or.inr (Or.inl (List.mem_concat_self))
      · refine Or.inl ?_
        rw [Dict.contains, hget name heq]
        exact hfile
  | read name contents now files hphase hget => exact h.read hget (by rw [hphase]; rfl)
  | evaluated name code result now files hphase => exact h.evaluate result hphase
  | opened name result now files hphase =>
    refine h.of_engine [] (List.append_nil _).symm (by simp) rfl (fun name' hnone => ?_)
      (fun name' hfile => Or.inl ?_) (fun name' hname => Or.inl ?_) rfl
    · rw [hresponse, hnone]
    · rw [Dict.contains, hresponse]
      exact hfile
    · rwa [hphase] at hname
  | unopened _ _ _ _ hphase | closed _ _ _ _ _ hphase =>
    exact hengine _ (fun name' hname => by rwa [hphase] at hname) rfl
  | wrote name result written count now files hphase =>
    have hget : ∀ name', (if box.files.contains (.response name) then
        box.files.set (.response name)
          { text := result.take (written + count), mtime := box.clock }
        else box.files).get? (.request name') = box.files.get? (.request name') := by
      intro name'
      split_ifs
      · exact hresponse _ _ _
      · rfl
    refine h.of_engine [] (List.append_nil _).symm (by simp) rfl (fun name' hnone => ?_)
      (fun name' hfile => Or.inl ?_) (fun name' hname => Or.inl ?_) rfl
    · rw [hget, hnone]
    · rw [Dict.contains, hget]
      exact hfile
    · rwa [hphase] at hname
  | aborted name result written now files hphase =>
    exact h.of_engine [.writeFailed name] rfl (by simp [Event.isQuiet]) rfl
      (fun _ hnone => hnone) (fun _ hfile => Or.inl hfile)
      (fun name' hname => Or.inl (by rwa [hphase] at hname)) rfl
  | removed name now files hphase =>
    have he : Evaluated box.history name := by
      have hok := hsound.engine
      rwa [hphase] at hok
    refine h.of_engine [] (List.append_nil _).symm (by simp) rfl (fun name' hnone => ?_)
      (fun name' hfile => ?_) (fun name' hname => Or.inr (Or.inl ?_)) rfl
    · rw [Dict.get?_erase, hnone, ite_self]
    · by_cases heq : name = name'
      · subst heq
        exact Or.inr (Or.inr he)
      · have hne : FileName.request name ≠ .request name' := fun h => heq (FileName.request.inj h)
        refine Or.inl ?_
        rw [Dict.contains, Dict.get?_erase, if_neg hne]
        exact hfile
    · rw [hphase] at hname
      cases hname
      exact (Dict.get?_erase _ _ _).trans (if_pos rfl)
  | unremoved name now files hphase =>
    refine h.of_engine [.removeFailed name] rfl (by simp [Event.isQuiet]) rfl
      (fun _ hnone => hnone) (fun _ hfile => Or.inl hfile) (fun name' hname => ?_) rfl
    rw [hphase] at hname
    cases hname
    exact Or.inr (Or.inr (List.mem_concat_self))

end EngineStep

end Guarded

/-! ## Every reachable mailbox -/

/-- What holds of every mailbox that the clients and the engine can reach. -/
structure Invariant {ι : Type} (identity : ι → Identity) (box : Mailbox ι) : Prop where
  sound : Sound box
  guarded : Guarded identity box

variable {ι : Type} {identity : ι → Identity} {observation : ℕ} {box : Mailbox ι}

lemma invariant_empty (identity : ι → Identity) : Invariant identity {} where
  sound := by
    refine ⟨by simp, by simp, trivial, fun c => ⟨by simp, trivial⟩⟩
  guarded := by
    refine ⟨by simp, List.nodup_nil, by simp, List.Pairwise.nil, ?_, by rintro _ ⟨⟩, ?_,
      by rintro _ _ ⟨⟩⟩
    · rintro name ⟨code, result, hmem⟩
      cases hmem
    · exact fun name => Or.inl (Nat.zero_le _)

lemma next_of_step [DecidableEq ι] {box' : Mailbox ι} {step : Step ι}
    (hstep : (mailboxMachine identity observation).step box step = .ok box') :
    box.next identity observation step = some box' := by
  simp only [mailboxMachine] at hstep
  split at hstep
  · next hnext =>
    cases hstep
    exact hnext
  · cases hstep

/-- Every step keeps the invariant. -/
theorem Invariant.step [DecidableEq ι] (hidentity : Function.Injective identity)
    {box' : Mailbox ι} {step : Step ι} (h : Invariant identity box)
    (hstep : (mailboxMachine identity observation).step box step = .ok box') :
    Invariant identity box' := by
  have hnext := next_of_step hstep
  cases step with
  | wait duration =>
    cases hnext
    exact ⟨⟨h.sound.events, h.sound.files, h.sound.engine, h.sound.clients⟩,
      ⟨h.guarded.seq, h.guarded.nodup, h.guarded.gone, h.guarded.order, h.guarded.spent,
        h.guarded.fresh, h.guarded.once, h.guarded.waiting⟩⟩
  | engine step => exact ⟨h.sound.engineStep hnext, h.guarded.engineStep h.sound hnext⟩
  | client c step =>
    refine ⟨h.sound.clientStep (fun name hphase => ?_) hnext,
      h.guarded.clientStep hidentity h.sound hnext⟩
    exact h.guarded.waiting c name (by rw [hphase]; rfl)

/-- Every run keeps the invariant. -/
theorem invariant_of_run [DecidableEq ι] (hidentity : Function.Injective identity)
    {steps : List (Step ι)} (hrun : (mailboxMachine identity observation).run {} steps = .ok box) :
    Invariant identity box :=
  (mailboxMachine identity observation).invariant_of_run hrun (invariant_empty identity)
    fun _ _ _ _ h hstep => h.step hidentity hstep

end FileBridge

end PacketTracer
