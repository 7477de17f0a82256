import PacketTracer.Library.Dict

/-!
# The file bridge

`FileBridge` of `file_bridge.py` and `fileBridgeTick` of the script engine's `main.js` meet only in
a folder of files.  A client writes a request, polls for the response and, when its time is over,
withdraws the request and classifies what it has observed.  The engine lists the folder, removes
stale files, and for every request it reads it evaluates it, writes the response and removes the
request.

Every access to the folder is one step of its own, so that the steps of the engine and of any
number of clients interleave in every order.  A client writes a request atomically (to a temporary
file that then replaces it); the engine's `writePlainTextToFile` creates the response and fills it
piece by piece.  `ok` says that an access does not raise.  Times are in milliseconds.

`history` is a ghost variable that records what happened to the requests.
-/

namespace PacketTracer

open Dicts Machines

namespace FileBridge

/-! ## Names -/

/-- What tells the clients apart: the process and the token of its start, in hexadecimal digits. -/
structure Identity where
  pid : ℕ
  boot : List Char
  boot_hex : '_' ∉ boot

/-- `{seq:06d}`. -/
def sequenceDigits (seq : ℕ) : List Char :=
  List.replicate (6 - (Nat.toDigits 10 seq).length) '0' ++ Nat.toDigits 10 seq

/-- The part of a name that all requests of a client share. -/
def ownStem (identity : Identity) : List Char :=
  Nat.toDigits 10 identity.pid ++ '_' :: (identity.boot ++ ['_'])

/-- `_next_name`: the name of the request with a sequence number. -/
def requestName (identity : Identity) (seq : ℕ) : List Char :=
  ownStem identity ++ sequenceDigits seq

/-- The files of the folder that belong to a request: `req_<name>.js` and `res_<name>.txt`. -/
inductive FileName
  | request (name : List Char)
  | response (name : List Char)
  deriving DecidableEq

/-- The part of a file name after `req_` or `res_`. -/
def FileName.stem : FileName → List Char
  | request name => name ++ ['.', 'j', 's']
  | response name => name ++ ['.', 't', 'x', 't']

/-- The contents of a file and the time of its last change. -/
structure File where
  text : List Char
  mtime : ℕ
  deriving DecidableEq

/-- `read_text`: line ends are translated. -/
def readText : List Char → List Char
  | '\r' :: '\n' :: cs => '\n' :: readText cs
  | '\r' :: cs => '\n' :: readText cs
  | c :: cs => c :: readText cs
  | [] => []

/-! ## The parties -/

/-- `RequestDisposition`. -/
inductive RequestDisposition
  | completed
  | withdrawnNoExecutionObserved
  | executedLate
  | inFlightUnknown
  deriving DecidableEq

/-- `proves_no_execution`. -/
def RequestDisposition.provesNoExecution (_ : RequestDisposition) : Bool := false

/-- Where a client is in `send`, `collect_completed`, `send_and_wait` or `_cancel`. -/
inductive Phase
  | idle
  /-- The loop of `collect_completed`, before `send` writes a request or on its own. -/
  | collecting (names : List (List Char)) (code : Option (List Char))
  | droppingResponse (name : List Char) (names : List (List Char)) (code : Option (List Char))
  | droppingRequest (name : List Char) (names : List (List Char)) (code : Option (List Char))
  /-- The request is written, the deadline not yet computed. -/
  | published (name : List Char) (timeout : ℕ)
  | polling (name : List Char) (deadline : ℕ)
  /-- The response exists. -/
  | reading (name : List Char) (deadline : ℕ)
  | consuming (name : List Char) (deadline : ℕ) (body : List Char)
  | retiring (name body : List Char)
  | cancelling (name : List Char)
  /-- The request is withdrawn, the end of the window not yet computed. -/
  | withdrew (name : List Char)
  | observing (name : List Char) (observedUntil : ℕ)
  | discarding (name : List Char) (disposition : RequestDisposition)
  /-- `_purge_own_stale`. -/
  | listing (name : List Char)
  | purging (name : List Char) (cutoff : ℕ) (entries : List FileName)
  deriving DecidableEq

/-- `FileBridge`. -/
structure Client where
  seq : ℕ := 0
  pending : List (List Char) := []
  lastDisposition : RequestDisposition := .completed
  phase : Phase := .idle
  deriving DecidableEq

/-- Where the engine is in `fileBridgeTick`; `now` is in seconds. -/
inductive Engine
  | resting
  | scanning (now : ℕ) (files : List FileName)
  /-- The request has been read. -/
  | evaluating (name code : List Char) (now : ℕ) (files : List FileName)
  | responding (name result : List Char) (now : ℕ) (files : List FileName)
  /-- The response has been created, and this many characters of it are written. -/
  | writing (name result : List Char) (written now : ℕ) (files : List FileName)
  | removing (name : List Char) (now : ℕ) (files : List FileName)
  deriving DecidableEq

/-- What happened to a request. -/
inductive Event (ι : Type)
  | published (client : ι) (name code : List Char)
  | read (name code : List Char)
  | evaluated (name code result : List Char)
  | writeFailed (name : List Char)
  | removeFailed (name : List Char)
  /-- The engine removed the request without evaluating it. -/
  | purged (name : List Char)
  /-- The client removed the request when its time was over. -/
  | withdrawn (client : ι) (name : List Char)
  | delivered (client : ι) (name body : List Char)
  | classified (client : ι) (name : List Char) (disposition : RequestDisposition)
  deriving DecidableEq

/-- The folder, the engine and the clients. -/
structure Mailbox (ι : Type) where
  clock : ℕ := 0
  files : Dict FileName File := Dict.empty
  engine : Engine := .resting
  clients : ι → Client := fun _ => {}
  history : List (Event ι) := []

/-! ## The engine -/

/-- `FILE_BRIDGE_ORPHAN_S`. -/
def orphanSeconds : ℕ := 60

/-- The steps of the engine. -/
inductive EngineStep
  /-- The folder is listed. -/
  | tick (files : List FileName)
  /-- The next file of the list is purged, read or skipped. -/
  | visit (mtimeOk removeOk readOk : Bool)
  | evaluate (result : List Char)
  /-- The response is created; it may fail before. -/
  | openResponse (ok : Bool)
  | write (count : ℕ)
  | closeResponse
  /-- Writing raises before the response is complete. -/
  | abortResponse
  | removeRequest (ok : Bool)
  | rest
  deriving DecidableEq

section Engine

variable {ι : Type} (box : Mailbox ι)

/-- Whether a file is older than the engine keeps them. -/
def Mailbox.isOrphan (now : ℕ) (file : FileName) : Bool :=
  match box.files.get? file with
  | some contents => orphanSeconds < now - contents.mtime / 1000
  | none => false

/-- A stale file is removed. -/
def Mailbox.purgeOrphan (now : ℕ) (file : FileName) (files : List FileName) : Mailbox ι :=
  { box with
    files := box.files.erase file
    engine := .scanning now files
    history := box.history ++
      match file with
      | .request name => [.purged name]
      | .response _ => [] }

/-- A request is read; anything else is skipped. -/
def Mailbox.readRequest (readOk : Bool) (now : ℕ) (file : FileName) (files : List FileName) :
    Mailbox ι :=
  match file, box.files.get? file with
  | .request name, some contents =>
    if readOk then
      { box with
        engine := .evaluating name contents.text now files
        history := box.history ++ [.read name contents.text] }
    else { box with engine := .scanning now files }
  | _, _ => { box with engine := .scanning now files }

/-- One step of `fileBridgeTick`. -/
def Mailbox.engineStep : EngineStep → Option (Mailbox ι)
  | .tick files =>
    match box.engine with
    | .resting =>
      if files.Perm box.files.keys then
        some { box with engine := .scanning (box.clock / 1000) files }
      else none
    | _ => none
  | .visit mtimeOk removeOk readOk =>
    match box.engine with
    | .scanning now (file :: files) =>
      if mtimeOk ∧ removeOk ∧ box.isOrphan now file then some (box.purgeOrphan now file files)
      else some (box.readRequest readOk now file files)
    | _ => none
  | .evaluate result =>
    match box.engine with
    | .evaluating name code now files =>
      some { box with
        engine := .responding name result now files
        history := box.history ++ [.evaluated name code result] }
    | _ => none
  | .openResponse ok =>
    match box.engine with
    | .responding name result now files =>
      if ok then
        some { box with
          files := box.files.set (.response name) { text := [], mtime := box.clock }
          engine := .writing name result 0 now files }
      else some { box with engine := .removing name now files }
    | _ => none
  | .write count =>
    match box.engine with
    | .writing name result written now files =>
      -- A file that was removed meanwhile does not come back.
      some { box with
        files :=
          if box.files.contains (.response name) then
            box.files.set (.response name)
              { text := result.take (written + count), mtime := box.clock }
          else box.files
        engine := .writing name result (written + count) now files }
    | _ => none
  | .closeResponse =>
    match box.engine with
    | .writing name result written now files =>
      if result.length ≤ written then some { box with engine := .removing name now files } else none
    | _ => none
  | .abortResponse =>
    match box.engine with
    | .writing name _ _ now files =>
      some { box with
        engine := .removing name now files
        history := box.history ++ [.writeFailed name] }
    | _ => none
  | .removeRequest ok =>
    match box.engine with
    | .removing name now files =>
      if ok then
        some { box with
          files := box.files.erase (.request name)
          engine := .scanning now files }
      else
        some { box with
          engine := .scanning now files
          history := box.history ++ [.removeFailed name] }
    | _ => none
  | .rest =>
    match box.engine with
    | .scanning _ [] => some { box with engine := .resting }
    | _ => none

end Engine

/-! ## The clients -/

/-- `_OWN_STALE_TTL_S`. -/
def ownStaleTtl : ℕ := 120000

/-- How reading the response ends. -/
inductive ReadOutcome
  | ok
  | osError
  /-- `UnicodeDecodeError`, which no handler catches. -/
  | undecodable
  deriving DecidableEq

/-- How writing a request ends. -/
inductive WriteOutcome
  | written
  /-- The folder cannot be created; no name is used up. -/
  | folderError
  | writeError
  deriving DecidableEq

/-- The steps of a client. -/
inductive ClientStep
  /-- `send_and_wait` up to the written request. -/
  | request (code : List Char) (timeout : ℕ) (outcome : WriteOutcome)
  /-- `send` up to its `collect_completed`. -/
  | send (code : List Char)
  /-- `collect_completed` on its own. -/
  | collect
  /-- The next name of the loop of `collect_completed`. -/
  | checkPending (ok : Bool)
  | dropResponse (ok : Bool)
  | dropRequest (ok : Bool)
  /-- The loop is over; `send` writes its request. -/
  | enqueue (outcome : WriteOutcome)
  | startPolling
  | poll (ok : Bool)
  | readResponse (outcome : ReadOutcome)
  | consumeResponse (ok : Bool)
  | retireRequest (ok : Bool)
  /-- `_cancel`. -/
  | withdraw (ok : Bool)
  | startObserving
  | observe (ok : Bool)
  | discardResponse (ok : Bool)
  | listOwn (ok : Bool)
  | purgeOwn (ok : Bool)
  | giveUp
  deriving DecidableEq

section Client

variable {ι : Type} [DecidableEq ι] (identity : ι → Identity) (observation : ℕ) (box : Mailbox ι)

/-- Change a client. -/
def Mailbox.setClient (c : ι) (client : Client) : Mailbox ι :=
  { box with clients := Function.update box.clients c client }

/-- Change the phase of a client. -/
def Mailbox.setPhase (c : ι) (phase : Phase) : Mailbox ι :=
  box.setClient c { box.clients c with phase }

/-- Remove a file, unless that raises. -/
def Mailbox.discard (file : FileName) (ok : Bool) : Mailbox ι :=
  if ok then { box with files := box.files.erase file } else box

/-- Record an event. -/
def Mailbox.log (event : Event ι) : Mailbox ι := { box with history := box.history ++ [event] }

/-- `_write_atomic` of a request. -/
def Mailbox.publish (c : ι) (name code : List Char) : Mailbox ι :=
  { box with
    files := box.files.set (.request name) { text := code, mtime := box.clock }
    history := box.history ++ [.published c name code] }

/-- The call ends with a disposition. -/
def Mailbox.classify (c : ι) (name : List Char) (disposition : RequestDisposition) : Mailbox ι :=
  (box.log (.classified c name disposition)).setClient c
    { box.clients c with phase := .idle, lastDisposition := disposition }

/-- Whether a file of the client is older than it keeps them. -/
def Mailbox.isOwnStale (c : ι) (cutoff : ℕ) (file : FileName) : Bool :=
  (ownStem (identity c)).isPrefixOf file.stem &&
    match box.files.get? file with
    | some contents => contents.mtime < cutoff
    | none => false

/-- One step of a client. -/
def Mailbox.clientStep (c : ι) : ClientStep → Option (Mailbox ι)
  | .request code timeout outcome =>
    match (box.clients c).phase with
    | .idle =>
      let client := { box.clients c with seq := (box.clients c).seq + 1 }
      let name := requestName (identity c) client.seq
      match outcome with
      | .written =>
        some ((box.publish c name code).setClient c
          { client with phase := .published name timeout })
      | .folderError => some box
      | .writeError => some (box.setClient c client)
    | _ => none
  | .send code =>
    match (box.clients c).phase with
    | .idle => some (box.setPhase c (.collecting (box.clients c).pending (some code)))
    | _ => none
  | .collect =>
    match (box.clients c).phase with
    | .idle => some (box.setPhase c (.collecting (box.clients c).pending none))
    | _ => none
  | .checkPending ok =>
    match (box.clients c).phase with
    | .collecting (name :: names) code =>
      if ok ∧ box.files.contains (.response name) then
        some (box.setPhase c (.droppingResponse name names code))
      else some (box.setPhase c (.collecting names code))
    | _ => none
  | .dropResponse ok =>
    match (box.clients c).phase with
    | .droppingResponse name names code =>
      some ((box.discard (.response name) ok).setPhase c (.droppingRequest name names code))
    | _ => none
  | .dropRequest ok =>
    match (box.clients c).phase with
    | .droppingRequest name names code =>
      some ((box.discard (.request name) ok).setClient c
        { box.clients c with
          pending := (box.clients c).pending.erase name
          phase := .collecting names code })
    | _ => none
  | .enqueue outcome =>
    match (box.clients c).phase with
    | .collecting [] none => some (box.setPhase c .idle)
    | .collecting [] (some code) =>
      let client := { box.clients c with seq := (box.clients c).seq + 1, phase := .idle }
      let name := requestName (identity c) client.seq
      match outcome with
      | .written =>
        some ((box.publish c name code).setClient c
          { client with pending := client.pending ++ [name] })
      | .folderError => some (box.setPhase c .idle)
      | .writeError => some (box.setClient c client)
    | _ => none
  | .startPolling =>
    match (box.clients c).phase with
    | .published name timeout => some (box.setPhase c (.polling name (box.clock + timeout)))
    | _ => none
  | .poll ok =>
    match (box.clients c).phase with
    | .polling name deadline =>
      if box.clock < deadline then
        if ok ∧ box.files.contains (.response name) then
          some (box.setPhase c (.reading name deadline))
        else some box
      else some (box.setPhase c (.cancelling name))
    | _ => none
  | .readResponse outcome =>
    match (box.clients c).phase with
    | .reading name deadline =>
      match outcome, box.files.get? (.response name) with
      | .ok, some contents =>
        some (box.setPhase c (.consuming name deadline (readText contents.text)))
      | .undecodable, some _ => some (box.setPhase c .idle)
      | _, _ => some (box.setPhase c (.polling name deadline))
    | _ => none
  | .consumeResponse ok =>
    match (box.clients c).phase with
    | .consuming name deadline body =>
      if ok then
        some ((box.discard (.response name) true).setPhase c (.retiring name body))
      else some (box.setPhase c (.polling name deadline))
    | _ => none
  | .retireRequest ok =>
    match (box.clients c).phase with
    | .retiring name body =>
      some (((box.discard (.request name) ok).log (.delivered c name body)).setClient c
        { box.clients c with phase := .idle, lastDisposition := .completed })
    | _ => none
  | .withdraw ok =>
    match (box.clients c).phase with
    | .cancelling name =>
      if ok then
        if box.files.contains (.request name) then
          some (((box.discard (.request name) true).log (.withdrawn c name)).setPhase c
            (.withdrew name))
        else some (box.setPhase c (.discarding name .executedLate))
      else some (box.setPhase c (.discarding name .inFlightUnknown))
    | _ => none
  | .startObserving =>
    match (box.clients c).phase with
    | .withdrew name => some (box.setPhase c (.observing name (box.clock + observation)))
    | _ => none
  | .observe ok =>
    match (box.clients c).phase with
    | .observing name observedUntil =>
      if box.clock < observedUntil then
        if ok then
          if box.files.contains (.response name) then
            some (box.setPhase c (.discarding name .executedLate))
          else some box
        else some (box.setPhase c .idle)
      else some (box.setPhase c (.listing name))
    | _ => none
  | .discardResponse ok =>
    match (box.clients c).phase with
    | .discarding name disposition =>
      some ((box.discard (.response name) ok).classify c name disposition)
    | _ => none
  | .listOwn ok =>
    match (box.clients c).phase with
    | .listing name =>
      some (box.setPhase c
        (.purging name (box.clock - ownStaleTtl) (if ok then box.files.keys else [])))
    | _ => none
  | .purgeOwn ok =>
    match (box.clients c).phase with
    | .purging name cutoff (entry :: entries) =>
      some ((box.discard entry (ok && box.isOwnStale identity c cutoff entry)).setPhase c
        (.purging name cutoff entries))
    | _ => none
  | .giveUp =>
    match (box.clients c).phase with
    | .purging name _ [] => some (box.classify c name .withdrawnNoExecutionObserved)
    | _ => none

end Client

/-! ## Interleavings -/

/-- A step of the whole: time passes, the engine steps, or a client steps. -/
inductive Step (ι : Type)
  | wait (duration : ℕ)
  | engine (step : EngineStep)
  | client (c : ι) (step : ClientStep)
  deriving DecidableEq

/-- The mailbox after a step; a step that is not the party's next one has no outcome. -/
def Mailbox.next {ι : Type} [DecidableEq ι] (identity : ι → Identity) (observation : ℕ)
    (box : Mailbox ι) : Step ι → Option (Mailbox ι)
  | .wait duration => some { box with clock := box.clock + duration }
  | .engine step => box.engineStep step
  | .client c step => box.clientStep identity observation c step

/-- The mailbox under any interleaving. -/
def mailboxMachine {ι : Type} [DecidableEq ι] (identity : ι → Identity) (observation : ℕ) :
    Machine (Mailbox ι) (Step ι) Unit where
  step box step :=
    match box.next identity observation step with
    | some box => .ok box
    | none => .error ()

end FileBridge

end PacketTracer
