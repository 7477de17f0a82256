import PacketTracer.Infrastructure.FileBridge
import PacketTracer.Library.Ipaddress

/-!
# Where the things in the mailbox come from

`Sound` says of every file, phase and event of a mailbox which earlier events it presupposes.  The
history only grows, so a step has to be looked at only for what it adds.
-/

namespace PacketTracer

open Dicts

namespace FileBridge

/-! ## Names -/

lemma append_cons_inj {α : Type*} {a b x y : List α} {sep : α} (ha : sep ∉ a) (hb : sep ∉ b)
    (h : a ++ sep :: x = b ++ sep :: y) : a = b ∧ x = y := by
  induction a generalizing b with
  | nil =>
    cases b with
    | nil => exact ⟨rfl, (List.cons.inj h).2⟩
    | cons c b => exact absurd (List.cons.inj h).1 fun heq => hb (heq ▸ List.mem_cons_self)
  | cons c a ih =>
    rcases b with _ | ⟨d, b⟩
    · exact absurd (List.cons.inj h).1.symm fun heq => ha (heq ▸ List.mem_cons_self)
    obtain ⟨rfl, hrest⟩ := List.cons.inj h
    obtain ⟨rfl, hxy⟩ := ih (fun hmem => ha (List.mem_cons_of_mem c hmem))
      (fun hmem => hb (List.mem_cons_of_mem c hmem)) hrest
    exact ⟨rfl, hxy⟩

lemma underscore_notMem_toDigits (n : ℕ) : '_' ∉ Nat.toDigits 10 n := by
  intro hmem
  have hdigit := Nat.isDigit_of_mem_toDigits (b := 10) (n := n) (by norm_num) (by norm_num) hmem
  simp at hdigit

lemma toDigits_injective : Function.Injective (Nat.toDigits 10) := by
  intro m n h
  have hm : Nat.ofDigitChars 10 (Nat.toDigits 10 m) 0 = m :=
    Nat.ofDigitChars_toDigits (by norm_num) le_rfl
  have hn : Nat.ofDigitChars 10 (Nat.toDigits 10 n) 0 = n :=
    Nat.ofDigitChars_toDigits (by norm_num) le_rfl
  rw [← hm, h, hn]

lemma ofDigitChars_replicate_append (k : ℕ) (digits : List Char) :
    Nat.ofDigitChars 10 (List.replicate k '0' ++ digits) 0 = Nat.ofDigitChars 10 digits 0 := by
  induction k with
  | zero => rfl
  | succ k ih => exact ih

lemma sequenceDigits_injective : Function.Injective sequenceDigits := by
  intro m n h
  have hvalue : ∀ k, Nat.ofDigitChars 10 (sequenceDigits k) 0 = k := fun k => by
    rw [sequenceDigits, ofDigitChars_replicate_append]
    exact Nat.ofDigitChars_toDigits (by norm_num) le_rfl
  rw [← hvalue m, h, hvalue n]

variable {i j : Identity}

lemma eq_of_ownStem_append {x y : List Char} (h : ownStem i ++ x = ownStem j ++ y) :
    i = j ∧ x = y := by
  simp only [ownStem, List.append_assoc, List.cons_append, List.nil_append] at h
  obtain ⟨hpid, hrest⟩ :=
    append_cons_inj (underscore_notMem_toDigits _) (underscore_notMem_toDigits _) h
  obtain ⟨hboot, hxy⟩ := append_cons_inj i.boot_hex j.boot_hex hrest
  obtain ⟨pid, boot, hi⟩ := i
  obtain ⟨pid', boot', hj⟩ := j
  obtain rfl : pid = pid' := toDigits_injective hpid
  obtain rfl : boot = boot' := hboot
  exact ⟨rfl, hxy⟩

variable {n : ℕ}

lemma requestName_inj {m : ℕ} (h : requestName i m = requestName j n) : i = j ∧ m = n := by
  obtain ⟨hidentity, hdigits⟩ := eq_of_ownStem_append h
  exact ⟨hidentity, sequenceDigits_injective hdigits⟩

lemma eq_of_ownStem_isPrefixOf {file : FileName} (h : (ownStem i).isPrefixOf file.stem = true)
    (hname : file = .request (requestName j n) ∨ file = .response (requestName j n)) : i = j := by
  obtain ⟨rest, hrest⟩ := List.isPrefixOf_iff_prefix.mp h
  rcases hname with rfl | rfl
  · rw [FileName.stem, requestName, List.append_assoc] at hrest
    exact (eq_of_ownStem_append hrest).1
  · rw [FileName.stem, requestName, List.append_assoc] at hrest
    exact (eq_of_ownStem_append hrest).1

/-! ## What the engine can do -/

section EngineMoves

variable {ι : Type} (box : Mailbox ι)

/-- Everything that a step of the engine can do to the mailbox. -/
inductive EngineMove : Mailbox ι → Prop
  | began (now : ℕ) (files : List FileName) (hphase : box.engine = .resting) :
    EngineMove { box with engine := .scanning now files }
  | skipped (now : ℕ) (file : FileName) (files : List FileName)
    (hphase : box.engine = .scanning now (file :: files)) :
    EngineMove { box with engine := .scanning now files }
  | rested (now : ℕ) (hphase : box.engine = .scanning now []) :
    EngineMove { box with engine := .resting }
  | purged (now : ℕ) (file : FileName) (files : List FileName)
    (hphase : box.engine = .scanning now (file :: files)) :
    EngineMove (box.purgeOrphan now file files)
  | read (name : List Char) (contents : File) (now : ℕ) (files : List FileName)
    (hphase : box.engine = .scanning now (.request name :: files))
    (hget : box.files.get? (.request name) = some contents) :
    EngineMove { box with
      engine := .evaluating name contents.text now files
      history := box.history ++ [.read name contents.text] }
  | evaluated (name code result : List Char) (now : ℕ) (files : List FileName)
    (hphase : box.engine = .evaluating name code now files) :
    EngineMove { box with
      engine := .responding name result now files
      history := box.history ++ [.evaluated name code result] }
  | opened (name result : List Char) (now : ℕ) (files : List FileName)
    (hphase : box.engine = .responding name result now files) :
    EngineMove { box with
      files := box.files.set (.response name) { text := [], mtime := box.clock }
      engine := .writing name result 0 now files }
  | unopened (name result : List Char) (now : ℕ) (files : List FileName)
    (hphase : box.engine = .responding name result now files) :
    EngineMove { box with engine := .removing name now files }
  | wrote (name result : List Char) (written count now : ℕ) (files : List FileName)
    (hphase : box.engine = .writing name result written now files) :
    EngineMove { box with
      files :=
        if box.files.contains (.response name) then
          box.files.set (.response name)
            { text := result.take (written + count), mtime := box.clock }
        else box.files
      engine := .writing name result (written + count) now files }
  | closed (name result : List Char) (written now : ℕ) (files : List FileName)
    (hphase : box.engine = .writing name result written now files)
    (hlength : result.length ≤ written) :
    EngineMove { box with engine := .removing name now files }
  | aborted (name result : List Char) (written now : ℕ) (files : List FileName)
    (hphase : box.engine = .writing name result written now files) :
    EngineMove { box with
      engine := .removing name now files
      history := box.history ++ [.writeFailed name] }
  | removed (name : List Char) (now : ℕ) (files : List FileName)
    (hphase : box.engine = .removing name now files) :
    EngineMove { box with
      files := box.files.erase (.request name)
      engine := .scanning now files }
  | unremoved (name : List Char) (now : ℕ) (files : List FileName)
    (hphase : box.engine = .removing name now files) :
    EngineMove { box with
      engine := .scanning now files
      history := box.history ++ [.removeFailed name] }

/-- A step of the engine does one of these things. -/
lemma engineMove_of_engineStep {box box' : Mailbox ι} {step : EngineStep}
    (h : box.engineStep step = some box') : EngineMove box box' := by
  cases step <;> simp only [Mailbox.engineStep] at h <;> split at h <;> try contradiction
  next hphase =>
    split_ifs at h
    cases h
    exact .began _ _ hphase
  next hphase =>
    split_ifs at h <;> cases h
    · exact .purged _ _ _ hphase
    · unfold Mailbox.readRequest
      split
      · rename_i hget
        split_ifs
        · exact .read _ _ _ _ hphase hget
        · exact .skipped _ _ _ hphase
      · exact .skipped _ _ _ hphase
  next hphase =>
    cases h
    exact .evaluated _ _ _ _ _ hphase
  next hphase =>
    split_ifs at h <;> cases h
    · exact .opened _ _ _ _ hphase
    · exact .unopened _ _ _ _ hphase
  next hphase =>
    cases h
    exact .wrote _ _ _ _ _ _ hphase
  next hphase =>
    split_ifs at h with hlength
    cases h
    exact .closed _ _ _ _ _ hphase hlength
  next hphase =>
    cases h
    exact .aborted _ _ _ _ _ hphase
  next hphase =>
    split_ifs at h <;> cases h
    · exact .removed _ _ _ hphase
    · exact .unremoved _ _ _ hphase
  next hphase =>
    cases h
    exact .rested _ hphase

end EngineMoves

/-! ## What a client can do -/

section Moves

variable {ι : Type} [DecidableEq ι] (identity : ι → Identity) (observation : ℕ) (box : Mailbox ι)
  (c : ι) (step : ClientStep)

/-- The changes of the phase of a client that leave everything else. -/
inductive PhaseMove (pending : List (List Char)) : Phase → Phase → Prop
  | send (code : Option (List Char)) : PhaseMove pending .idle (.collecting pending code)
  | answered (name : List Char) (names : List (List Char)) (code : Option (List Char)) :
    PhaseMove pending (.collecting (name :: names) code) (.droppingResponse name names code)
  | unanswered (name : List Char) (names : List (List Char)) (code : Option (List Char)) :
    PhaseMove pending (.collecting (name :: names) code) (.collecting names code)
  | collected (code : Option (List Char)) : PhaseMove pending (.collecting [] code) .idle
  | startPolling (name : List Char) (timeout : ℕ) :
    PhaseMove pending (.published name timeout) (.polling name (box.clock + timeout))
  | found (name : List Char) (deadline : ℕ) :
    PhaseMove pending (.polling name deadline) (.reading name deadline)
  | expired (name : List Char) (deadline : ℕ) :
    PhaseMove pending (.polling name deadline) (.cancelling name)
  | read (name : List Char) (deadline : ℕ) (contents : File)
    (hstep : step = .readResponse .ok)
    (hget : box.files.get? (.response name) = some contents) :
    PhaseMove pending (.reading name deadline) (.consuming name deadline (readText contents.text))
  | undecodable (name : List Char) (deadline : ℕ) : PhaseMove pending (.reading name deadline) .idle
  | unread (name : List Char) (deadline : ℕ) :
    PhaseMove pending (.reading name deadline) (.polling name deadline)
  | unconsumed (name : List Char) (deadline : ℕ) (body : List Char) :
    PhaseMove pending (.consuming name deadline body) (.polling name deadline)
  | gone (name : List Char) (habsent : ¬box.files.contains (.request name) = true) :
    PhaseMove pending (.cancelling name) (.discarding name .executedLate)
  | unremovable (name : List Char) :
    PhaseMove pending (.cancelling name) (.discarding name .inFlightUnknown)
  | startObserving (name : List Char) :
    PhaseMove pending (.withdrew name) (.observing name (box.clock + observation))
  | responded (name : List Char) (observedUntil : ℕ)
    (hfile : box.files.contains (.response name) = true) :
    PhaseMove pending (.observing name observedUntil) (.discarding name .executedLate)
  | unobservable (name : List Char) (observedUntil : ℕ) :
    PhaseMove pending (.observing name observedUntil) .idle
  | silent (name : List Char) (observedUntil : ℕ) :
    PhaseMove pending (.observing name observedUntil) (.listing name)
  | listed (name : List Char) (cutoff : ℕ) (entries : List FileName) :
    PhaseMove pending (.listing name) (.purging name cutoff entries)

/-- Everything that a step of a client can do to the mailbox. -/
inductive ClientMove : Mailbox ι → Prop
  | stays : ClientMove box
  | moved (phase : Phase) (hmove : PhaseMove observation box step
      (box.clients c).pending (box.clients c).phase phase) : ClientMove (box.setPhase c phase)
  /-- A request is written, by `send_and_wait` or by `send`. -/
  | published (code : List Char) (client : Client) (hseq : client.seq = (box.clients c).seq + 1)
    (hpending : ∀ name ∈ client.pending,
      name ∈ (box.clients c).pending ∨ name = requestName (identity c) client.seq)
    (hphase : client.phase = .idle ∨
      ∃ timeout, client.phase = .published (requestName (identity c) client.seq) timeout) :
    ClientMove ((box.publish c (requestName (identity c) client.seq) code).setClient c client)
  /-- A name is used up. -/
  | unwritten (client : Client) (hseq : client.seq = (box.clients c).seq + 1)
    (hpending : client.pending = (box.clients c).pending) (hphase : client.phase = .idle) :
    ClientMove (box.setClient c client)
  | droppedResponse (ok : Bool) (name : List Char) (names : List (List Char))
    (code : Option (List Char))
    (hphase : (box.clients c).phase = .droppingResponse name names code) :
    ClientMove ((box.discard (.response name) ok).setPhase c (.droppingRequest name names code))
  | droppedRequest (ok : Bool) (name : List Char) (names : List (List Char))
    (code : Option (List Char))
    (hphase : (box.clients c).phase = .droppingRequest name names code) :
    ClientMove ((box.discard (.request name) ok).setClient c
      { box.clients c with
        pending := (box.clients c).pending.erase name
        phase := .collecting names code })
  | consumed (name : List Char) (deadline : ℕ) (body : List Char)
    (hphase : (box.clients c).phase = .consuming name deadline body) :
    ClientMove ((box.discard (.response name) true).setPhase c (.retiring name body))
  | retired (ok : Bool) (name body : List Char)
    (hphase : (box.clients c).phase = .retiring name body) :
    ClientMove (((box.discard (.request name) ok).log (.delivered c name body)).setClient c
      { box.clients c with phase := .idle, lastDisposition := .completed })
  | withdrew (name : List Char) (hphase : (box.clients c).phase = .cancelling name) :
    ClientMove (((box.discard (.request name) true).log (.withdrawn c name)).setPhase c
      (.withdrew name))
  | discarded (ok : Bool) (name : List Char) (disposition : RequestDisposition)
    (hphase : (box.clients c).phase = .discarding name disposition) :
    ClientMove ((box.discard (.response name) ok).classify c name disposition)
  | purged (ok : Bool) (name : List Char) (cutoff : ℕ) (entry : FileName) (entries : List FileName)
    (hphase : (box.clients c).phase = .purging name cutoff (entry :: entries)) :
    ClientMove ((box.discard entry (ok && box.isOwnStale identity c cutoff entry)).setPhase c
      (.purging name cutoff entries))
  | gaveUp (name : List Char) (cutoff : ℕ)
    (hphase : (box.clients c).phase = .purging name cutoff []) :
    ClientMove (box.classify c name .withdrawnNoExecutionObserved)

/-- A step of a client does one of these things. -/
lemma clientMove_of_clientStep {identity : ι → Identity} {observation : ℕ} {box box' : Mailbox ι}
    {c : ι} {step : ClientStep}
    (h : box.clientStep identity observation c step = some box') :
    ClientMove identity observation box c step box' := by
  have moved : ∀ {phase phase' : Phase}, (box.clients c).phase = phase →
      PhaseMove observation box step (box.clients c).pending phase phase' →
      ClientMove identity observation box c step (box.setPhase c phase') := by
    rintro phase phase' rfl hmove
    exact .moved phase' hmove
  cases step with
  | request code timeout outcome =>
    simp only [Mailbox.clientStep] at h
    split at h
    · next hphase =>
      cases outcome <;> cases h
      · exact .published code { box.clients c with
          seq := (box.clients c).seq + 1
          phase := .published (requestName (identity c) ((box.clients c).seq + 1)) timeout } rfl
          (fun _ hname => Or.inl hname) (Or.inr ⟨timeout, rfl⟩)
      · exact .stays
      · exact .unwritten { box.clients c with seq := (box.clients c).seq + 1 } rfl rfl hphase
    · cases h
  | send code =>
    simp only [Mailbox.clientStep] at h
    split at h
    · next hphase =>
      cases h
      exact moved hphase (.send (some code))
    · cases h
  | collect =>
    simp only [Mailbox.clientStep] at h
    split at h
    · next hphase =>
      cases h
      exact moved hphase (.send none)
    · cases h
  | checkPending ok =>
    simp only [Mailbox.clientStep] at h
    split at h
    · next name names code hphase =>
      split_ifs at h <;> cases h
      · exact moved hphase (.answered name names code)
      · exact moved hphase (.unanswered name names code)
    · cases h
  | dropResponse ok =>
    simp only [Mailbox.clientStep] at h
    split at h
    · next name names code hphase =>
      cases h
      exact .droppedResponse ok name names code hphase
    · cases h
  | dropRequest ok =>
    simp only [Mailbox.clientStep] at h
    split at h
    · next name names code hphase =>
      cases h
      exact .droppedRequest ok name names code hphase
    · cases h
  | enqueue outcome =>
    simp only [Mailbox.clientStep] at h
    split at h
    · next hphase =>
      cases h
      exact moved hphase (.collected none)
    · next code hphase =>
      cases outcome <;> cases h
      · refine .published code { box.clients c with
          seq := (box.clients c).seq + 1
          pending := (box.clients c).pending ++ [requestName (identity c) ((box.clients c).seq + 1)]
          phase := .idle } rfl (fun name hname => ?_) (Or.inl rfl)
        exact (List.mem_append.mp hname).imp_right List.mem_singleton.mp
      · exact moved hphase (.collected (some code))
      · exact .unwritten { box.clients c with
          seq := (box.clients c).seq + 1, phase := .idle } rfl rfl rfl
    · cases h
  | startPolling =>
    simp only [Mailbox.clientStep] at h
    split at h
    · next name timeout hphase =>
      cases h
      exact moved hphase (.startPolling name timeout)
    · cases h
  | poll ok =>
    simp only [Mailbox.clientStep] at h
    split at h
    · next name deadline hphase =>
      split_ifs at h <;> cases h
      · exact moved hphase (.found name deadline)
      · exact .stays
      · exact moved hphase (.expired name deadline)
    · cases h
  | readResponse outcome =>
    simp only [Mailbox.clientStep] at h
    split at h
    · next name deadline hphase =>
      split at h <;> cases h
      · next contents hget => exact moved hphase (.read name deadline contents rfl hget)
      · exact moved hphase (.undecodable name deadline)
      · exact moved hphase (.unread name deadline)
    · cases h
  | consumeResponse ok =>
    simp only [Mailbox.clientStep] at h
    split at h
    · next name deadline body hphase =>
      split_ifs at h <;> cases h
      · exact .consumed name deadline body hphase
      · exact moved hphase (.unconsumed name deadline body)
    · cases h
  | retireRequest ok =>
    simp only [Mailbox.clientStep] at h
    split at h
    · next name body hphase =>
      cases h
      exact .retired ok name body hphase
    · cases h
  | withdraw ok =>
    simp only [Mailbox.clientStep] at h
    split at h
    · next name hphase =>
      split_ifs at h with hok hfile <;> cases h
      · exact .withdrew name hphase
      · exact moved hphase (.gone name hfile)
      · exact moved hphase (.unremovable name)
    · cases h
  | startObserving =>
    simp only [Mailbox.clientStep] at h
    split at h
    · next name hphase =>
      cases h
      exact moved hphase (.startObserving name)
    · cases h
  | observe ok =>
    simp only [Mailbox.clientStep] at h
    split at h
    · next name observedUntil hphase =>
      split_ifs at h with htime hok hfile <;> cases h
      · exact moved hphase (.responded name observedUntil hfile)
      · exact .stays
      · exact moved hphase (.unobservable name observedUntil)
      · exact moved hphase (.silent name observedUntil)
    · cases h
  | discardResponse ok =>
    simp only [Mailbox.clientStep] at h
    split at h
    · next name disposition hphase =>
      cases h
      exact .discarded ok name disposition hphase
    · cases h
  | listOwn ok =>
    simp only [Mailbox.clientStep] at h
    split at h
    · next name hphase =>
      cases h
      exact moved hphase (.listed name _ _)
    · cases h
  | purgeOwn ok =>
    simp only [Mailbox.clientStep] at h
    split at h
    · next name cutoff entry entries hphase =>
      cases h
      exact .purged ok name cutoff entry entries hphase
    · cases h
  | giveUp =>
    simp only [Mailbox.clientStep] at h
    split at h
    · next name cutoff hphase =>
      cases h
      exact .gaveUp name cutoff hphase
    · cases h

end Moves

/-! ## The history -/

/-- The names that were published, in order. -/
def publishedNames {ι : Type} (history : List (Event ι)) : List (List Char) :=
  history.filterMap fun event =>
    match event with
    | .published _ name _ => some name
    | _ => none

/-- The evaluations of a request. -/
def evaluations {ι : Type} (name : List Char) (history : List (Event ι)) : List (List Char) :=
  history.filterMap fun event =>
    match event with
    | .evaluated name' _ result => if name' = name then some result else none
    | _ => none

/-- A request was evaluated. -/
def Evaluated {ι : Type} (history : List (Event ι)) (name : List Char) : Prop :=
  ∃ code result, Event.evaluated name code result ∈ history

/-- A client published a request. -/
def Published {ι : Type} (history : List (Event ι)) (c : ι) (name : List Char) : Prop :=
  ∃ code, Event.published c name code ∈ history

section History

variable {ι : Type} {history : List (Event ι)} {c c' : ι} {name code code' : List Char}

lemma mem_publishedNames :
    name ∈ publishedNames history ↔ ∃ c code, Event.published c name code ∈ history := by
  unfold publishedNames
  rw [List.mem_filterMap]
  constructor
  · rintro ⟨event, hevent, heq⟩
    cases event with
    | published c name' code =>
      cases heq
      exact ⟨c, code, hevent⟩
    | _ => cases heq
  · rintro ⟨c, code, hevent⟩
    exact ⟨_, hevent, rfl⟩

/-- A name that is published once has one publisher and one text. -/
lemma eq_of_published (hnodup : (publishedNames history).Nodup)
    (h : Event.published c name code ∈ history) (h' : Event.published c' name code' ∈ history) :
    c = c' ∧ code = code' := by
  induction history with
  | nil => cases h
  | cons event history ih =>
    have hrest : (publishedNames history).Nodup := by
      unfold publishedNames at hnodup ⊢
      rw [List.filterMap_cons] at hnodup
      split at hnodup
      · exact hnodup
      · exact hnodup.of_cons
    have hhead : ∀ {d : ι} {text : List Char}, event = .published d name text →
        ∀ d' text', Event.published d' name text' ∉ history := by
      rintro d text rfl d' text' hmem
      have hcons : (name :: publishedNames history).Nodup := hnodup
      exact (List.nodup_cons.mp hcons).1 (mem_publishedNames.mpr ⟨d', text', hmem⟩)
    rcases List.mem_cons.mp h with heq | hmem
    · rcases List.mem_cons.mp h' with heq' | hmem'
      · obtain ⟨rfl, -, rfl⟩ := Event.published.inj (heq.trans heq'.symm)
        exact ⟨rfl, rfl⟩
      · exact absurd hmem' (hhead heq.symm c' code')
    · rcases List.mem_cons.mp h' with heq' | hmem'
      · exact absurd hmem (hhead heq'.symm c code)
      · exact ih hrest hmem hmem'

end History

/-! ## Where things come from -/

section Sound

variable {ι : Type}

/-- What an event presupposes. -/
def EventOk (history : List (Event ι)) : Event ι → Prop
  | .read name code => ∃ c, .published c name code ∈ history
  | .evaluated name code _ => .read name code ∈ history
  | .withdrawn c name => Published history c name
  | .delivered c name _ => Published history c name
  | .classified c name .executedLate =>
    Published history c name ∧ (.purged name ∈ history ∨ Evaluated history name)
  | .classified c name .withdrawnNoExecutionObserved => .withdrawn c name ∈ history
  | _ => True

/-- What the contents of a file presuppose. -/
def FileOk (history : List (Event ι)) : FileName → File → Prop
  | .request name, file => ∃ c, .published c name file.text ∈ history
  | .response name, file =>
    ∃ code result, .evaluated name code result ∈ history ∧ file.text <+: result

/-- What the phase of the engine presupposes. -/
def EngineOk (history : List (Event ι)) : Engine → Prop
  | .evaluating name code _ _ => .read name code ∈ history
  | .responding name result _ _ => ∃ code, .evaluated name code result ∈ history
  | .writing name result _ _ _ => ∃ code, .evaluated name code result ∈ history
  | .removing name _ _ => Evaluated history name
  | _ => True

/-- What the phase of a client presupposes. -/
def PhaseOk (history : List (Event ι)) (c : ι) : Phase → Prop
  | .idle => True
  | .collecting names _ => ∀ name ∈ names, Published history c name
  | .droppingResponse name names _ => ∀ name' ∈ name :: names, Published history c name'
  | .droppingRequest name names _ => ∀ name' ∈ name :: names, Published history c name'
  | .published name _ => Published history c name
  | .polling name _ => Published history c name
  | .reading name _ => Published history c name
  | .consuming name _ _ => Published history c name
  | .retiring name _ => Published history c name
  | .cancelling name => Published history c name
  | .discarding name .executedLate =>
    Published history c name ∧ (.purged name ∈ history ∨ Evaluated history name)
  | .discarding name .inFlightUnknown => Published history c name
  | .discarding _ _ => False
  | .withdrew name => .withdrawn c name ∈ history
  | .observing name _ => .withdrawn c name ∈ history
  | .listing name => .withdrawn c name ∈ history
  | .purging name _ _ => .withdrawn c name ∈ history

/-- What a client presupposes. -/
def ClientOk (history : List (Event ι)) (c : ι) (client : Client) : Prop :=
  (∀ name ∈ client.pending, Published history c name) ∧ PhaseOk history c client.phase

/-- Everything comes from somewhere. -/
structure Sound (box : Mailbox ι) : Prop where
  events : ∀ event ∈ box.history, EventOk box.history event
  files : ∀ name file, box.files.get? name = some file → FileOk box.history name file
  engine : EngineOk box.history box.engine
  clients : ∀ c, ClientOk box.history c (box.clients c)

/-! ### A longer history -/

section Mono

variable {history history' : List (Event ι)} (h : history ⊆ history')

include h

variable {c : ι} {name : List Char}

lemma Published.mono (hp : Published history c name) : Published history' c name := hp.imp fun _ hmem => h hmem

lemma Evaluated.mono (he : Evaluated history name) : Evaluated history' name :=
  he.imp fun _ => Exists.imp fun _ hmem => h hmem

lemma EventOk.mono {event : Event ι} (he : EventOk history event) : EventOk history' event := by
  cases event with
  | read name code => exact he.imp fun _ hmem => h hmem
  | evaluated name code result => exact h he
  | withdrawn c name | delivered c name body => exact Published.mono h he
  | classified c name disposition =>
    cases disposition with
    | executedLate => exact ⟨he.1.mono h, he.2.imp (fun hmem => h hmem) fun he => he.mono h⟩
    | withdrawnNoExecutionObserved => exact h he
    | completed | inFlightUnknown => trivial
  | _ => trivial

lemma FileOk.mono {name : FileName} {file : File} (hf : FileOk history name file) :
    FileOk history' name file := by
  cases name with
  | request name => exact hf.imp fun _ hmem => h hmem
  | response name =>
    obtain ⟨code, result, hmem, htext⟩ := hf
    exact ⟨code, result, h hmem, htext⟩

lemma EngineOk.mono {engine : Engine} (he : EngineOk history engine) :
    EngineOk history' engine := by
  cases engine with
  | evaluating name code now files => exact h he
  | responding name result now files | writing name result written now files =>
    exact he.imp fun _ hmem => h hmem
  | removing name now files => exact Evaluated.mono h he
  | _ => trivial

lemma PhaseOk.mono {phase : Phase} (hp : PhaseOk history c phase) : PhaseOk history' c phase := by
  cases phase with
  | idle => trivial
  | collecting names code | droppingResponse name names code | droppingRequest name names code =>
    exact fun name hname => (hp name hname).mono h
  | published name timeout => exact Published.mono h hp
  | polling name deadline => exact Published.mono h hp
  | reading name deadline | consuming name deadline body | retiring name body | cancelling name =>
    exact Published.mono h hp
  | discarding name disposition =>
    cases disposition with
    | executedLate => exact ⟨hp.1.mono h, hp.2.imp (fun hmem => h hmem) fun he => he.mono h⟩
    | inFlightUnknown => exact Published.mono h hp
    | completed | withdrawnNoExecutionObserved => exact hp
  | withdrew name | observing name observedUntil | listing name | purging name cutoff entries =>
    exact h hp

lemma ClientOk.mono {client : Client} (hc : ClientOk history c client) :
    ClientOk history' c client :=
  ⟨fun name hname => (hc.1 name hname).mono h, hc.2.mono h⟩

end Mono

/-! ### Changes -/

section Changes

variable {box : Mailbox ι}

/-- Soundness after a step that adds events, and whose new files, phases and clients are right. -/
lemma Sound.of_step {box' : Mailbox ι} (h : Sound box) (events : List (Event ι))
    (hhistory : box'.history = box.history ++ events)
    (hevents : ∀ event ∈ events, EventOk box'.history event)
    (hfiles : ∀ name file, box'.files.get? name = some file →
      box.files.get? name = some file ∨ FileOk box'.history name file)
    (hengine : box'.engine = box.engine ∨ EngineOk box'.history box'.engine)
    (hclients : ∀ c, box'.clients c = box.clients c ∨ ClientOk box'.history c (box'.clients c)) :
    Sound box' := by
  have hsubset : box.history ⊆ box'.history := hhistory ▸ List.subset_append_left _ _
  refine ⟨fun event hevent => ?_, fun name file hget => ?_, ?_, fun c => ?_⟩
  · rw [hhistory, List.mem_append] at hevent
    rcases hevent with hevent | hevent
    · exact (h.events event hevent).mono hsubset
    · exact hevents event hevent
  · rcases hfiles name file hget with hold | hnew
    · exact (h.files name file hold).mono hsubset
    · exact hnew
  · rcases hengine with hold | hnew
    · rw [hold]
      exact h.engine.mono hsubset
    · exact hnew
  · rcases hclients c with hold | hnew
    · rw [hold]
      exact (h.clients c).mono hsubset
    · exact hnew

variable {file : FileName} {ok : Bool} {name : List Char}

lemma get?_of_get?_discard {name : FileName} {contents : File}
    (hget : (box.discard file ok).files.get? name = some contents) :
    box.files.get? name = some contents := by
  unfold Mailbox.discard at hget
  split_ifs at hget with hok
  · rw [Dict.get?_erase] at hget
    split_ifs at hget
    exact hget
  · exact hget

@[simp] lemma history_discard (box : Mailbox ι) (file : FileName) (ok : Bool) :
    (box.discard file ok).history = box.history := by
  unfold Mailbox.discard
  split_ifs <;> rfl

lemma Sound.discard (h : Sound box) : Sound (box.discard file ok) := by
  refine h.of_step [] ?_ (by simp) (fun _ _ hget => Or.inl (get?_of_get?_discard hget)) ?_
    fun d => ?_
  · unfold Mailbox.discard
    split_ifs <;> exact (List.append_nil _).symm
  · unfold Mailbox.discard
    split_ifs <;> exact Or.inl rfl
  · unfold Mailbox.discard
    split_ifs <;> exact Or.inl rfl

lemma Sound.log {event : Event ι} (h : Sound box)
    (hevent : EventOk (box.history ++ [event]) event) : Sound (box.log event) :=
  h.of_step [event] rfl (List.forall_mem_singleton.mpr hevent) (fun _ _ hget => Or.inl hget)
    (Or.inl rfl) fun _ => Or.inl rfl

lemma Sound.publish {c : ι} {code : List Char} (h : Sound box) :
    Sound (box.publish c name code) := by
  refine h.of_step [.published c name code] rfl (by simp [EventOk]) (fun name' file hget => ?_)
    (Or.inl rfl) fun _ => Or.inl rfl
  simp only [Mailbox.publish, Dict.get?_set] at hget
  split_ifs at hget with heq
  · subst heq
    cases hget
    exact Or.inr ⟨c, List.mem_concat_self⟩
  · exact Or.inl hget

variable [DecidableEq ι] {c : ι}

lemma Sound.setClient {client : Client} (h : Sound box) (hc : ClientOk box.history c client) :
    Sound (box.setClient c client) := by
  refine h.of_step [] (List.append_nil _).symm (by simp) (fun _ _ hget => Or.inl hget)
    (Or.inl rfl) fun d => ?_
  by_cases hd : d = c
  · subst hd
    refine Or.inr ?_
    simpa [Mailbox.setClient] using hc
  · exact Or.inl (Function.update_of_ne hd _ _)

lemma Sound.setPhase {phase : Phase} (h : Sound box) (hphase : PhaseOk box.history c phase) :
    Sound (box.setPhase c phase) := h.setClient ⟨(h.clients c).1, hphase⟩

lemma Sound.classify {disposition : RequestDisposition} (h : Sound box)
    (hevent : EventOk box.history (.classified c name disposition)) :
    Sound (box.classify c name disposition) := by
  refine (h.log (hevent.mono (List.subset_append_left _ _))).setClient ⟨fun name' hname' => ?_,
    trivial⟩
  exact ((h.clients c).1 name' hname').mono (List.subset_append_left _ _)

end Changes

/-! ### Steps -/

variable {box : Mailbox ι}

/-- The engine keeps the mailbox sound. -/
theorem Sound.engineStep {box' : Mailbox ι} {step : EngineStep} (h : Sound box)
    (hstep : box.engineStep step = some box') : Sound box' := by
  have hengine : ∀ engine, EngineOk box.history engine → Sound { box with engine } :=
    fun engine hok => h.of_step [] (List.append_nil _).symm (by simp)
      (fun _ _ hget => Or.inl hget) (Or.inr hok) fun _ => Or.inl rfl
  have hlog : ∀ engine event, EventOk (box.history ++ [event]) event →
      EngineOk (box.history ++ [event]) engine →
      Sound { box with engine, history := box.history ++ [event] } :=
    fun engine event hevent hok => h.of_step [event] rfl (List.forall_mem_singleton.mpr hevent)
      (fun _ _ hget => Or.inl hget) (Or.inr hok) fun _ => Or.inl rfl
  have herase : ∀ file engine, EngineOk box.history engine →
      Sound { box with files := box.files.erase file, engine } :=
    fun file engine hok => h.of_step [] (List.append_nil _).symm (by simp)
      (fun name contents hget => by
        rw [Dict.get?_erase] at hget
        split_ifs at hget
        exact Or.inl hget) (Or.inr hok) fun _ => Or.inl rfl
  have hok := h.engine
  cases engineMove_of_engineStep hstep with
  | began | skipped | rested => exact hengine _ trivial
  | purged now file files hphase =>
    refine h.of_step _ rfl ?_ (fun name' contents hget => ?_) (Or.inr trivial) fun _ => Or.inl rfl
    · cases file <;> simp [EventOk]
    · simp only [Mailbox.purgeOrphan, Dict.get?_erase] at hget
      split_ifs at hget
      exact Or.inl hget
  | read name contents now files hphase hget =>
    refine hlog _ _ ?_ List.mem_concat_self
    exact FileOk.mono (List.subset_append_left _ _) (h.files _ _ hget)
  | evaluated name code result now files hphase =>
    rw [hphase] at hok
    exact hlog _ _ (List.mem_append_left _ hok) ⟨code, List.mem_concat_self⟩
  | opened name result now files hphase =>
    rw [hphase] at hok
    obtain ⟨code, hmem⟩ := hok
    refine h.of_step [] (List.append_nil _).symm (by simp) (fun name' contents hget => ?_)
      (Or.inr ⟨code, hmem⟩) fun _ => Or.inl rfl
    rw [Dict.get?_set] at hget
    split_ifs at hget with heq
    · subst heq
      cases hget
      exact Or.inr ⟨code, result, hmem, List.nil_prefix⟩
    · exact Or.inl hget
  | unopened name result now files hphase =>
    rw [hphase] at hok
    exact hengine _ (hok.imp fun code hmem => ⟨result, hmem⟩)
  | wrote name result written count now files hphase =>
    rw [hphase] at hok
    obtain ⟨code, hmem⟩ := hok
    refine h.of_step [] (List.append_nil _).symm (by simp) (fun name' contents hget => ?_)
      (Or.inr ⟨code, hmem⟩) fun _ => Or.inl rfl
    simp only at hget
    split_ifs at hget
    · rw [Dict.get?_set] at hget
      split_ifs at hget with heq
      · subst heq
        cases hget
        exact Or.inr ⟨code, result, hmem, List.take_prefix _ _⟩
      · exact Or.inl hget
    · exact Or.inl hget
  | closed name result written now files hphase =>
    rw [hphase] at hok
    exact hengine _ (hok.imp fun code hmem => ⟨result, hmem⟩)
  | aborted name result written now files hphase =>
    rw [hphase] at hok
    exact hlog _ _ trivial (hok.imp fun code hmem => ⟨result, List.mem_append_left _ hmem⟩)
  | removed => exact herase _ _ trivial
  | unremoved => exact hlog _ _ trivial trivial

variable {c : ι} {name : List Char}

lemma Sound.publish_setClient [DecidableEq ι] {code : List Char} {client : Client}
    (h : Sound box)
    (hpending : ∀ name' ∈ client.pending, name' ∈ (box.clients c).pending ∨ name' = name)
    (hphase : PhaseOk (box.history ++ [.published c name code]) c client.phase) :
    Sound ((box.publish c name code).setClient c client) := by
  refine h.publish.setClient ⟨fun name' hname' => ?_, hphase⟩
  rcases hpending name' hname' with hold | rfl
  · exact ((h.clients c).1 name' hold).mono (List.subset_append_left _ _)
  · exact ⟨code, List.mem_concat_self⟩

lemma Sound.eventOk_of_discarding {disposition : RequestDisposition} (h : Sound box)
    (hphase : (box.clients c).phase = .discarding name disposition) :
    EventOk box.history (.classified c name disposition) := by
  have hok := (h.clients c).2
  rw [hphase] at hok
  cases disposition with
  | executedLate => exact hok
  | inFlightUnknown => trivial
  | completed | withdrawnNoExecutionObserved => exact hok.elim

/-- What the next phase of a client presupposes, if the request that it withdraws is there unless
the engine has dealt with it. -/
lemma PhaseMove.phaseOk [DecidableEq ι] {observation : ℕ} {pending : List (List Char)}
    {step : ClientStep} {phase phase' : Phase}
    (hmove : PhaseMove observation box step pending phase phase') (h : Sound box)
    (hpending : ∀ name ∈ pending, Published box.history c name)
    (hwaiting : ∀ name, phase = .cancelling name →
      box.files.contains (.request name) = true ∨ .purged name ∈ box.history ∨
        Evaluated box.history name)
    (hok : PhaseOk box.history c phase) : PhaseOk box.history c phase' := by
  cases hmove with
  | send code => exact hpending
  | unanswered name names code =>
    exact fun name' hname' => hok name' (List.mem_cons_of_mem _ hname')
  | gone name habsent => exact ⟨hok, (hwaiting name rfl).resolve_left habsent⟩
  | responded name observedUntil hfile =>
    obtain ⟨file, hget⟩ := Option.isSome_iff_exists.mp hfile
    obtain ⟨code, result, hevaluated, -⟩ := h.files _ _ hget
    exact ⟨h.events _ hok, Or.inr ⟨code, result, hevaluated⟩⟩
  | collected | undecodable | unobservable => trivial
  | _ => exact hok

/-- A client keeps the mailbox sound, if the request that it withdraws is there unless the engine
has dealt with it. -/
theorem Sound.clientStep [DecidableEq ι] {identity : ι → Identity} {observation : ℕ}
    {box box' : Mailbox ι} {step : ClientStep} (h : Sound box)
    (hwaiting : ∀ name, (box.clients c).phase = .cancelling name →
      box.files.contains (.request name) = true ∨ .purged name ∈ box.history ∨
        Evaluated box.history name)
    (hstep : box.clientStep identity observation c step = some box') : Sound box' := by
  obtain ⟨hclient, hok⟩ := h.clients c
  cases clientMove_of_clientStep hstep with
  | stays => exact h
  | moved phase hmove => exact h.setPhase (hmove.phaseOk h hclient hwaiting hok)
  | published code client hseq hpending hphase =>
    refine h.publish_setClient hpending ?_
    rcases hphase with hphase | ⟨timeout, hphase⟩
    · rw [hphase]
      trivial
    · rw [hphase]
      exact ⟨code, List.mem_concat_self⟩
  | unwritten client hseq hpending hphase =>
    refine h.setClient ⟨hpending ▸ hclient, ?_⟩
    rw [hphase]
    trivial
  | droppedResponse ok name names code hphase =>
    rw [hphase] at hok
    refine h.discard.setPhase ?_
    rwa [history_discard]
  | droppedRequest ok name names code hphase =>
    rw [hphase] at hok
    refine h.discard.setClient ⟨fun name' hname' => ?_, fun name' hname' => ?_⟩
    · rw [history_discard]
      exact hclient name' (List.mem_of_mem_erase hname')
    · rw [history_discard]
      exact hok name' (List.mem_cons_of_mem _ hname')
  | consumed name deadline body hphase =>
    rw [hphase] at hok
    exact h.discard.setPhase hok
  | retired ok name body hphase =>
    rw [hphase] at hok
    have hpublished : EventOk ((box.discard (.request name) ok).history ++
        [.delivered c name body]) (.delivered c name body) := by
      rw [history_discard]
      exact Published.mono (List.subset_append_left _ _) hok
    refine (h.discard.log hpublished).setClient ⟨fun name' hname' => ?_, trivial⟩
    refine Published.mono ?_ (hclient name' hname')
    rw [Mailbox.log, history_discard]
    exact List.subset_append_left _ _
  | withdrew name hphase =>
    rw [hphase] at hok
    have hpublished : EventOk ((box.discard (.request name) true).history ++
        [.withdrawn c name]) (.withdrawn c name) := by
      rw [history_discard]
      exact Published.mono (List.subset_append_left _ _) hok
    exact (h.discard.log hpublished).setPhase
      (List.mem_concat_self)
  | discarded ok name disposition hphase =>
    refine h.discard.classify ?_
    rw [history_discard]
    exact h.eventOk_of_discarding hphase
  | purged ok name cutoff entry entries hphase =>
    rw [hphase] at hok
    refine h.discard.setPhase ?_
    rwa [history_discard]
  | gaveUp name cutoff hphase =>
    rw [hphase] at hok
    exact h.classify hok

end Sound

end FileBridge

end PacketTracer
