import PacketTracer.Library.Dict
import PacketTracer.Library.PyText
import PacketTracer.Library.Mailbox

/-!
# The result store of the live bridge

`PTCommandBridge` of `live_bridge.py` holds one slot for each registered request id.  Every method
runs under one lock, which `take_result` releases only while it waits, so the store is a machine
whose operations are the critical sections; a reading of the clock is an argument of the operation
that makes it.  `history` is a ghost variable.

The events of an id are a history of the mailbox protocol (`Follows`), so the law of a mailbox holds
of every id.  An id can be registered again once its slot is forgotten, and is then answered again.
-/

namespace PacketTracer

open Dicts Machines PyText Mailboxes

namespace LiveBridge

/-- The states of a `_ResultSlot`. -/
inductive ResultState
  | pending
  | ready
  | consumed
  | timedOut
  deriving DecidableEq

/-- `_ResultSlot`. -/
structure ResultSlot where
  state : ResultState
  updatedAt : ℚ
  body : Option String := none
  deriving DecidableEq

/-- What happened to a request id.  A call of `take_result` has a number of its own. -/
inductive Event
  | registered (rid : String)
  | discarded (rid : String)
  | accepted (rid : String) (body : String)
  | asked (call : ℕ) (rid : String)
  | delivered (call : ℕ) (rid : String) (body : Option String)
  | timedOut (rid : String)
  | forgotten (rid : String)
  deriving DecidableEq

/-- The local variables of a call of `take_result` that waits. -/
structure Waiter where
  rid : String
  deadline : ℚ
  deriving DecidableEq

/-- `PTCommandBridge`, as far as its results go. -/
structure PTCommandBridge where
  results : Dict String ResultSlot := Dict.empty
  resultTtl : ℚ := 120
  maxResultItems : ℕ := 256
  waiters : Dict ℕ Waiter := Dict.empty
  calls : ℕ := 0
  history : List Event := []

/-- `bounded_result_wait` of a finite wait. -/
def boundedResultWait (wait : ℚ) : ℚ := min (max wait 0) 60

/-- What `register_result` returns. -/
inductive RegisterOutcome
  | registered
  | duplicate
  | full
  deriving DecidableEq

/-- What `put_result` returns. -/
inductive PutOutcome
  | stored
  | unknown
  | late
  | duplicate
  deriving DecidableEq

/-- What `take_result` returns. -/
inductive TakeOutcome
  | result (body : Option String)
  | unknown
  | gone
  | timeout
  deriving DecidableEq

namespace PTCommandBridge

/-- `del self._results[rid]` of a slot that is not needed any more. -/
def forget (bridge : PTCommandBridge) (rid : String) : PTCommandBridge :=
  { bridge with
    results := bridge.results.erase rid
    history := bridge.history ++ [.forgotten rid] }

/-- `_purge_results_locked`. -/
def purgeResultsLocked (bridge : PTCommandBridge) (now : ℚ) : PTCommandBridge :=
  let expired := (bridge.results.entries.filter fun item =>
    bridge.resultTtl ≤ now - item.2.updatedAt).map Prod.fst
  expired.foldl forget bridge

/-- The loop of `_make_result_capacity_locked`. -/
def evict : List String → PTCommandBridge → Bool × PTCommandBridge
  | [], bridge => (false, bridge)
  | rid :: rids, bridge =>
    let bridge := bridge.forget rid
    if bridge.results.size < bridge.maxResultItems then (true, bridge) else evict rids bridge

/-- `_make_result_capacity_locked`: evict terminal tombstones, oldest first. -/
def makeResultCapacityLocked (bridge : PTCommandBridge) : Bool × PTCommandBridge :=
  if bridge.results.size < bridge.maxResultItems then (true, bridge)
  else
    let terminal := sortedBy (fun item : String × ℚ => item.2)
      ((bridge.results.entries.filter fun item =>
        item.2.state = .consumed ∨ item.2.state = .timedOut).map fun item =>
          (item.1, item.2.updatedAt))
    evict (terminal.map Prod.fst) bridge

/-- `register_result`. -/
def registerResult (bridge : PTCommandBridge) (rid : String) (purgeAt stampAt : ℚ) :
    RegisterOutcome × PTCommandBridge :=
  let bridge := bridge.purgeResultsLocked purgeAt
  if bridge.results.contains rid then (.duplicate, bridge)
  else
    match bridge.makeResultCapacityLocked with
    | (false, bridge) => (.full, bridge)
    | (true, bridge) =>
      (.registered,
        { bridge with
          results := bridge.results.set rid { state := .pending, updatedAt := stampAt }
          history := bridge.history ++ [.registered rid] })

/-- `discard_registered_result`. -/
def discardRegisteredResult (bridge : PTCommandBridge) (rid : String) : PTCommandBridge :=
  match bridge.results.get? rid with
  | some slot =>
    if slot.state = .pending then
      { bridge with
        results := bridge.results.erase rid
        history := bridge.history ++ [.discarded rid] }
    else bridge
  | none => bridge

/-- `put_result`. -/
def putResult (bridge : PTCommandBridge) (rid body : String) (purgeAt stampAt : ℚ) :
    PutOutcome × PTCommandBridge :=
  let bridge := bridge.purgeResultsLocked purgeAt
  match bridge.results.get? rid with
  | none => (.unknown, bridge)
  | some slot =>
    match slot.state with
    | .timedOut => (.late, bridge)
    | .pending =>
      (.stored,
        { bridge with
          results := bridge.results.set rid
            { state := .ready, body := some body, updatedAt := stampAt }
          history := bridge.history ++ [.accepted rid body] })
    | _ => (.duplicate, bridge)

/-- One pass through the loop of `take_result`; no outcome means that the call waits. -/
def checkSlot (bridge : PTCommandBridge) (call : ℕ) (rid : String) (deadline checkAt stampAt : ℚ) :
    Option TakeOutcome × PTCommandBridge :=
  match bridge.results.get? rid with
  | none => (some .unknown, bridge)
  | some slot =>
    match slot.state with
    | .ready =>
      (some (.result slot.body),
        { bridge with
          results := bridge.results.set rid
            { state := .consumed, body := none, updatedAt := stampAt }
          history := bridge.history ++ [.delivered call rid slot.body] })
    | .pending =>
      if deadline - checkAt ≤ 0 then
        (some .timeout,
          { bridge with
            results := bridge.results.set rid { slot with state := .timedOut, updatedAt := stampAt }
            history := bridge.history ++ [.timedOut rid] })
      else (none, bridge)
    | _ => (some .gone, bridge)

/-- `take_result` up to its first wait. -/
def takeResult (bridge : PTCommandBridge) (rid : String) (wait startAt purgeAt checkAt stampAt : ℚ) :
    PTCommandBridge :=
  let call := bridge.calls
  let deadline := startAt + boundedResultWait wait
  let asked : PTCommandBridge :=
    { bridge with
      calls := call + 1
      history := bridge.history ++ [.asked call rid] }
  match (asked.purgeResultsLocked purgeAt).checkSlot call rid deadline checkAt stampAt with
  | (some _, bridge) => bridge
  | (none, bridge) => { bridge with waiters := bridge.waiters.set call ⟨rid, deadline⟩ }

/-- A waiting call of `take_result` wakes up: it is notified, or its wait is over. -/
def resumeTake (bridge : PTCommandBridge) (call : ℕ) (waiter : Waiter) (checkAt stampAt : ℚ) :
    PTCommandBridge :=
  match bridge.checkSlot call waiter.rid waiter.deadline checkAt stampAt with
  | (some _, bridge) => { bridge with waiters := bridge.waiters.erase call }
  | (none, bridge) => bridge

end PTCommandBridge

/-- The critical sections, with the clock readings that they make. -/
inductive Operation
  | register (rid : String) (purgeAt stampAt : ℚ)
  | discard (rid : String)
  | put (rid body : String) (purgeAt stampAt : ℚ)
  | take (rid : String) (wait startAt purgeAt checkAt stampAt : ℚ)
  | resume (call : ℕ) (checkAt stampAt : ℚ)
  deriving DecidableEq

/-- The store under any interleaving of its operations.  Only a waiting call can wake up. -/
def storeMachine : Machine PTCommandBridge Operation Unit where
  step bridge
    | .register rid purgeAt stampAt => .ok (bridge.registerResult rid purgeAt stampAt).2
    | .discard rid => .ok (bridge.discardRegisteredResult rid)
    | .put rid body purgeAt stampAt => .ok (bridge.putResult rid body purgeAt stampAt).2
    | .take rid wait startAt purgeAt checkAt stampAt =>
      .ok (bridge.takeResult rid wait startAt purgeAt checkAt stampAt)
    | .resume call checkAt stampAt =>
      match bridge.waiters.get? call with
      | some waiter => .ok (bridge.resumeTake call waiter checkAt stampAt)
      | none => .error ()

/-! ## The mailbox of an id -/

/-- What an event means for the mailbox of an id. -/
def Event.concerning (rid : String) : Event → Option (Mailboxes.Event (Option String))
  | registered rid' => if rid' = rid then some .opened else none
  | discarded rid' => if rid' = rid then some .withdrawn else none
  | accepted rid' body => if rid' = rid then some (.accepted (some body)) else none
  | asked _ _ => none
  | delivered _ rid' body => if rid' = rid then some (.delivered body) else none
  | timedOut rid' => if rid' = rid then some .expired else none
  | forgotten rid' => if rid' = rid then some .forgotten else none

/-- The state of the mailbox that a slot stands for. -/
def mailboxOf : Option ResultSlot → Slot (Option String)
  | none => .absent
  | some slot =>
    match slot.state with
    | .pending => .pending
    | .ready => .ready slot.body
    | .consumed => .closed
    | .timedOut => .closed

/-- The events of every id are a history of its mailbox, and its slot is where they lead. -/
def Follows (bridge : PTCommandBridge) : Prop :=
  ∀ rid, (mailbox (Option String)).run .absent
    (bridge.history.filterMap (Event.concerning rid)) =
      .ok (mailboxOf (bridge.results.get? rid))

/-- One event about one id, and the change of its slot that the protocol prescribes. -/
lemma Follows.concat {bridge : PTCommandBridge} (h : Follows bridge)
    {results : Dict String ResultSlot} {event : Event} (rid : String) (slot : Option ResultSlot)
    (step : Mailboxes.Event (Option String))
    (hconcerning : ∀ rid', event.concerning rid' = if rid = rid' then some step else none)
    (hstep : (mailbox (Option String)).step (mailboxOf (bridge.results.get? rid)) step =
      .ok (mailboxOf slot))
    (hget : ∀ rid', results.get? rid' = if rid = rid' then slot else bridge.results.get? rid') :
    Follows { bridge with results := results, history := bridge.history ++ [event] } := by
  intro rid'
  rw [List.filterMap_append]
  by_cases heq : rid = rid'
  · subst heq
    have hevent : [event].filterMap (Event.concerning rid) = [step] := by
      simp [hconcerning]
    rw [hevent, (mailbox (Option String)).run_concat_eq_ok]
    exact ⟨_, h rid, by rw [hget rid, if_pos rfl]; exact hstep⟩
  · have hevent : [event].filterMap (Event.concerning rid') = [] := by
      simp [hconcerning, heq]
    rw [hevent, List.append_nil, hget rid', if_neg heq]
    exact h rid'

/-! ## The bookkeeping of the calls -/

/-- The operation leaves the calls alone: it records no request for a result and no delivery. -/
structure Quiet (before after : PTCommandBridge) : Prop where
  waiters_eq : after.waiters = before.waiters
  calls_eq : after.calls = before.calls
  history_eq : ∃ new, after.history = before.history ++ new ∧
    ∀ event ∈ new, (∀ call rid, event ≠ .asked call rid) ∧
      ∀ call rid body, event ≠ .delivered call rid body

/-- Every call has asked for one id, and what it was given is of that id. -/
structure Calls (bridge : PTCommandBridge) : Prop where
  call_lt : ∀ call rid, .asked call rid ∈ bridge.history → call < bridge.calls
  asked_unique : ∀ call rid rid', .asked call rid ∈ bridge.history →
    .asked call rid' ∈ bridge.history → rid = rid'
  waiter_asked : ∀ call waiter, bridge.waiters.get? call = some waiter →
    .asked call waiter.rid ∈ bridge.history
  delivered_asked : ∀ before event after, bridge.history = before ++ event :: after →
    ∀ call rid body, event = .delivered call rid body → .asked call rid ∈ before

variable {before after : PTCommandBridge} {room : Bool} {operation : Operation}

/-- Quiet operations keep the bookkeeping. -/
lemma Calls.of_quiet (h : Calls before) (hquiet : Quiet before after) : Calls after := by
  obtain ⟨new, hnew, hevents⟩ := hquiet.history_eq
  have hasked : ∀ {call rid}, .asked call rid ∈ after.history ↔
      .asked call rid ∈ before.history := by
    intro call rid
    rw [hnew, List.mem_append]
    exact ⟨fun hmem => hmem.resolve_right fun hmem => (hevents _ hmem).1 call rid rfl, Or.inl⟩
  refine ⟨fun call rid hmem => ?_, fun call rid rid' hmem hmem' => ?_,
    fun call waiter hwaiter => ?_, ?_⟩
  · rw [hquiet.calls_eq]
    exact h.call_lt call rid (hasked.mp hmem)
  · exact h.asked_unique call rid rid' (hasked.mp hmem) (hasked.mp hmem')
  · rw [hquiet.waiters_eq] at hwaiter
    exact hasked.mpr (h.waiter_asked call waiter hwaiter)
  · rw [hnew]
    clear hnew hasked
    induction new using List.reverseRecOn with
    | nil =>
      rw [List.append_nil]
      exact h.delivered_asked
    | append_singleton new event ih =>
      rw [← List.append_assoc]
      refine forall_split_concat (ih fun e he => hevents e (List.mem_append_left _ he)) ?_
      intro call rid body heq
      exact absurd heq ((hevents event (by simp)).2 call rid body)

/-! ## What each operation keeps -/

/-- The store within its bound, its ids on their protocols, its calls in order. -/
structure Invariant (bridge : PTCommandBridge) : Prop where
  follows : Follows bridge
  calls : Calls bridge
  bounded : bridge.results.size ≤ bridge.maxResultItems

lemma Invariant.of_quiet (h : Invariant before) (hquiet : Quiet before after)
    (hfollows : Follows after) (hbounded : after.results.size ≤ after.maxResultItems) :
    Invariant after :=
  ⟨hfollows, h.calls.of_quiet hquiet, hbounded⟩

variable {event : Event} {bridge bridge' : PTCommandBridge} {rid : String} {call : ℕ}

lemma quiet_concat (bridge : PTCommandBridge) (results : Dict String ResultSlot)
    (hasked : ∀ call rid, event ≠ .asked call rid)
    (hdelivered : ∀ call rid body, event ≠ .delivered call rid body) :
    Quiet bridge { bridge with results := results, history := bridge.history ++ [event] } := by
  refine ⟨rfl, rfl, [event], rfl, fun other hother => ?_⟩
  obtain rfl := List.mem_singleton.mp hother
  exact ⟨hasked, hdelivered⟩

lemma Invariant.forget (h : Invariant bridge) (rid : String) : Invariant (bridge.forget rid) := by
  refine h.of_quiet (quiet_concat bridge _ (by simp) (by simp)) ?_
    (le_trans (Dict.size_erase_le _ _) h.bounded)
  refine h.follows.concat rid none .forgotten (fun rid' => rfl) ?_
    fun rid' => Dict.get?_erase _ _ _
  cases mailboxOf (bridge.results.get? rid) <;> rfl

lemma Invariant.foldl_forget (h : Invariant bridge) (rids : List String) :
    Invariant (rids.foldl PTCommandBridge.forget bridge) := by
  induction rids generalizing bridge with
  | nil => exact h
  | cons rid rids ih => exact ih (h.forget rid)

lemma Invariant.purge (h : Invariant bridge) (now : ℚ) :
    Invariant (bridge.purgeResultsLocked now) := h.foldl_forget _

/-- The eviction of tombstones brings no id back, and when it reports room there is room. -/
lemma Invariant.evict (h : Invariant bridge) (rids : List String)
    (heq : PTCommandBridge.evict rids bridge = (room, bridge')) :
    Invariant bridge' ∧ (room = true → bridge'.results.size < bridge'.maxResultItems) ∧
      ∀ rid, bridge.results.get? rid = none → bridge'.results.get? rid = none := by
  induction rids generalizing bridge with
  | nil =>
    obtain ⟨rfl, rfl⟩ : false = room ∧ bridge = bridge' := by
      simpa [PTCommandBridge.evict] using heq
    exact ⟨h, fun hroom => absurd hroom (by simp), fun _ hnone => hnone⟩
  | cons evicted rids ih =>
    have hkeep : ∀ rid, bridge.results.get? rid = none →
        (bridge.forget evicted).results.get? rid = none := by
      intro rid hnone
      simp [PTCommandBridge.forget, hnone]
    simp only [PTCommandBridge.evict] at heq
    split_ifs at heq with hroom
    · cases heq
      exact ⟨h.forget evicted, fun _ => hroom, hkeep⟩
    · obtain ⟨hinv, hroom', hkeep'⟩ := ih (h.forget evicted) heq
      exact ⟨hinv, hroom', fun rid hnone => hkeep' rid (hkeep rid hnone)⟩

lemma Invariant.makeResultCapacity (h : Invariant bridge)
    (heq : bridge.makeResultCapacityLocked = (room, bridge')) :
    Invariant bridge' ∧ (room = true → bridge'.results.size < bridge'.maxResultItems) ∧
      ∀ rid, bridge.results.get? rid = none → bridge'.results.get? rid = none := by
  unfold PTCommandBridge.makeResultCapacityLocked at heq
  split_ifs at heq with hroom
  · cases heq
    exact ⟨h, fun _ => hroom, fun _ hnone => hnone⟩
  · exact h.evict _ heq

/-- Registration opens the mailbox of an id that has none. -/
lemma Invariant.register (h : Invariant bridge) (rid : String) (purgeAt stampAt : ℚ) :
    Invariant (bridge.registerResult rid purgeAt stampAt).2 := by
  unfold PTCommandBridge.registerResult
  dsimp only
  split_ifs with hcontains
  · exact h.purge purgeAt
  cases hcapacity : (bridge.purgeResultsLocked purgeAt).makeResultCapacityLocked with
  | mk room bridge' =>
    obtain ⟨hinv, hroom, hkeep⟩ := (h.purge purgeAt).makeResultCapacity hcapacity
    rcases room with _ | _
    · exact hinv
    have hnone : bridge'.results.get? rid = none := by
      refine hkeep rid ?_
      simpa [Dict.contains] using hcontains
    refine hinv.of_quiet (quiet_concat bridge' _ (by simp) (by simp)) ?_ ?_
    · refine hinv.follows.concat rid (some { state := .pending, updatedAt := stampAt }) .opened
        (fun rid' => rfl) ?_ fun rid' => Dict.get?_set _ _ _ _
      rw [hnone]
      rfl
    · have hsize := Dict.size_set bridge'.results rid
        { state := .pending, updatedAt := stampAt }
      rw [hnone] at hsize
      exact hsize.le.trans (hroom rfl)

lemma Invariant.discard (h : Invariant bridge) (rid : String) :
    Invariant (bridge.discardRegisteredResult rid) := by
  unfold PTCommandBridge.discardRegisteredResult
  rcases hslot : bridge.results.get? rid with _ | slot
  · exact h
  dsimp only
  split_ifs with hpending
  · refine h.of_quiet (quiet_concat bridge _ (by simp) (by simp)) ?_
      (le_trans (Dict.size_erase_le _ _) h.bounded)
    refine h.follows.concat rid none .withdrawn (fun rid' => rfl) ?_
      fun rid' => Dict.get?_erase _ _ _
    simp only [hslot, mailboxOf, hpending]
    rfl
  · exact h

lemma size_set_of_get? {results : Dict String ResultSlot} {slot : ResultSlot}
    (h : results.get? rid = some slot) (slot' : ResultSlot) :
    (results.set rid slot').size = results.size := by
  rw [Dict.size_set, h]
  rfl

/-- A result is accepted by a pending mailbox only. -/
lemma Invariant.put (h : Invariant bridge) (rid body : String) (purgeAt stampAt : ℚ) :
    Invariant (bridge.putResult rid body purgeAt stampAt).2 := by
  have hpurged := h.purge purgeAt
  unfold PTCommandBridge.putResult
  dsimp only
  rcases hslot : (bridge.purgeResultsLocked purgeAt).results.get? rid with _ | slot
  · exact hpurged
  dsimp only
  cases hstate : slot.state with
  | ready | consumed | timedOut => exact hpurged
  | pending =>
    refine hpurged.of_quiet (quiet_concat _ _ (by simp) (by simp)) ?_ ?_
    · refine hpurged.follows.concat rid
        (some { state := .ready, body := some body, updatedAt := stampAt })
        (.accepted (some body)) (fun rid' => rfl) ?_ fun rid' => Dict.get?_set _ _ _ _
      rw [hslot, mailboxOf, hstate]
      rfl
    · exact (size_set_of_get? hslot _).le.trans hpurged.bounded

lemma Calls.concat_delivered (h : Calls bridge) (hasked : .asked call rid ∈ bridge.history)
    (results : Dict String ResultSlot) (body : Option String) :
    Calls { bridge with
      results := results
      history := bridge.history ++ [.delivered call rid body] } := by
  have hmem : ∀ {call' rid'}, .asked call' rid' ∈ bridge.history ++ [.delivered call rid body] ↔
      .asked call' rid' ∈ bridge.history := by simp
  refine ⟨fun call' rid' hmem' => h.call_lt call' rid' (hmem.mp hmem'),
    fun call' a b ha hb => h.asked_unique call' a b (hmem.mp ha) (hmem.mp hb),
    fun call' waiter hwaiter => hmem.mpr (h.waiter_asked call' waiter hwaiter), ?_⟩
  refine forall_split_concat h.delivered_asked ?_
  rintro call' rid' body' heq
  obtain ⟨rfl, rfl, -⟩ := Event.delivered.inj heq
  exact hasked

/-- A new call asks for an id. -/
lemma Calls.concat_asked (h : Calls bridge) (rid : String) :
    Calls { bridge with
      calls := bridge.calls + 1
      history := bridge.history ++ [.asked bridge.calls rid] } := by
  have hmem : ∀ {call' rid'}, .asked call' rid' ∈ bridge.history ++ [.asked bridge.calls rid] ↔
      .asked call' rid' ∈ bridge.history ∨ (call' = bridge.calls ∧ rid' = rid) := by simp
  refine ⟨fun call' rid' hmem' => ?_, fun call' a b ha hb => ?_,
    fun call' waiter hwaiter => hmem.mpr (Or.inl (h.waiter_asked call' waiter hwaiter)), ?_⟩
  · rcases hmem.mp hmem' with hold | ⟨rfl, -⟩
    · exact Nat.lt_succ_of_lt (h.call_lt call' rid' hold)
    · exact Nat.lt_succ_self _
  · rcases hmem.mp ha with hold | ⟨hcall, rfl⟩ <;> rcases hmem.mp hb with hold' | ⟨hcall', rfl⟩
    · exact h.asked_unique call' a b hold hold'
    · exact absurd (h.call_lt call' a hold) (hcall' ▸ lt_irrefl _)
    · exact absurd (h.call_lt call' b hold') (hcall ▸ lt_irrefl _)
    · rfl
  · refine forall_split_concat h.delivered_asked ?_
    rintro call' rid' body' heq
    cases heq

/-- One pass through the loop of a call that asked for the id. -/
lemma Invariant.checkSlot (h : Invariant bridge) (hasked : .asked call rid ∈ bridge.history)
    (deadline checkAt stampAt : ℚ) :
    Invariant (bridge.checkSlot call rid deadline checkAt stampAt).2 ∧
      .asked call rid ∈ (bridge.checkSlot call rid deadline checkAt stampAt).2.history := by
  unfold PTCommandBridge.checkSlot
  rcases hslot : bridge.results.get? rid with _ | slot
  · exact ⟨h, hasked⟩
  dsimp only
  cases hstate : slot.state with
  | consumed | timedOut => exact ⟨h, hasked⟩
  | ready =>
    refine ⟨⟨?_, h.calls.concat_delivered hasked _ _, ?_⟩, List.mem_append_left _ hasked⟩
    · refine h.follows.concat rid
        (some { state := .consumed, body := none, updatedAt := stampAt })
        (.delivered slot.body) (fun rid' => rfl) ?_ fun rid' => Dict.get?_set _ _ _ _
      rw [hslot, mailboxOf, hstate]
      simp [mailbox, mailboxOf]
    · exact (size_set_of_get? hslot _).le.trans h.bounded
  | pending =>
    dsimp only
    split_ifs with hlate
    · refine ⟨h.of_quiet (quiet_concat _ _ (by simp) (by simp)) ?_ ?_,
        List.mem_append_left _ hasked⟩
      · refine h.follows.concat rid
          (some { slot with state := .timedOut, updatedAt := stampAt })
          .expired (fun rid' => rfl) ?_ fun rid' => Dict.get?_set _ _ _ _
        rw [hslot, mailboxOf, hstate]
        rfl
      · exact (size_set_of_get? hslot _).le.trans h.bounded
    · exact ⟨h, hasked⟩

lemma Invariant.of_waiters (h : Invariant bridge)
    {waiters : Dict ℕ Waiter} (hwaiters : ∀ call waiter, waiters.get? call = some waiter →
      .asked call waiter.rid ∈ bridge.history) : Invariant { bridge with waiters := waiters } :=
  ⟨h.follows, ⟨h.calls.call_lt, h.calls.asked_unique, hwaiters, h.calls.delivered_asked⟩, h.bounded⟩

lemma mem_history_purge (now : ℚ) (h : event ∈ bridge.history) :
    event ∈ (bridge.purgeResultsLocked now).history := by
  unfold PTCommandBridge.purgeResultsLocked
  dsimp only
  generalize (bridge.results.entries.filter _).map Prod.fst = rids
  induction rids generalizing bridge with
  | nil => exact h
  | cons rid rids ih => exact ih (List.mem_append_left _ h)

/-- A call of `take_result` up to its first wait. -/
lemma Invariant.take (h : Invariant bridge) (rid : String)
    (wait startAt purgeAt checkAt stampAt : ℚ) :
    Invariant (bridge.takeResult rid wait startAt purgeAt checkAt stampAt) := by
  unfold PTCommandBridge.takeResult
  dsimp only
  have hasking : Invariant
      { bridge with
        calls := bridge.calls + 1
        history := bridge.history ++ [.asked bridge.calls rid] } := by
    refine ⟨fun rid' => ?_, h.calls.concat_asked rid, h.bounded⟩
    have hnone : [Event.asked bridge.calls rid].filterMap (Event.concerning rid') = [] := rfl
    rw [List.filterMap_append, hnone, List.append_nil]
    exact h.follows rid'
  have hpurged := hasking.purge purgeAt
  have hasked : Event.asked bridge.calls rid ∈ (PTCommandBridge.purgeResultsLocked
      { bridge with
        calls := bridge.calls + 1
        history := bridge.history ++ [.asked bridge.calls rid] } purgeAt).history :=
    mem_history_purge purgeAt (List.mem_concat_self)
  obtain ⟨hinv, hmem⟩ := hpurged.checkSlot hasked (startAt + boundedResultWait wait) checkAt stampAt
  split
  · next heq =>
    rw [heq] at hinv
    exact hinv
  rename_i heq
  rw [heq] at hinv hmem
  refine hinv.of_waiters fun call waiter hwaiter => ?_
  rw [Dict.get?_set] at hwaiter
  split_ifs at hwaiter with hcall
  · cases hwaiter
    exact hcall ▸ hmem
  · exact hinv.calls.waiter_asked call waiter hwaiter

lemma Invariant.resume (h : Invariant bridge) {waiter : Waiter}
    (hwaiter : bridge.waiters.get? call = some waiter) (checkAt stampAt : ℚ) :
    Invariant (bridge.resumeTake call waiter checkAt stampAt) := by
  unfold PTCommandBridge.resumeTake
  obtain ⟨hinv, -⟩ := h.checkSlot (h.calls.waiter_asked call waiter hwaiter) waiter.deadline checkAt
    stampAt
  split
  · next heq =>
    rw [heq] at hinv
    refine hinv.of_waiters fun call' waiter' hwaiter' => ?_
    rw [Dict.get?_erase] at hwaiter'
    split_ifs at hwaiter'
    exact hinv.calls.waiter_asked call' waiter' hwaiter'
  · next heq =>
    rw [heq] at hinv
    exact hinv

/-- **Step lemma.**  Every critical section keeps the invariant. -/
lemma Invariant.step (h : Invariant bridge)
    (hstep : storeMachine.step bridge operation = .ok bridge') : Invariant bridge' := by
  cases operation with
  | register rid purgeAt stampAt =>
    cases hstep
    exact h.register rid purgeAt stampAt
  | discard rid =>
    cases hstep
    exact h.discard rid
  | put rid body purgeAt stampAt =>
    cases hstep
    exact h.put rid body purgeAt stampAt
  | take rid wait startAt purgeAt checkAt stampAt =>
    cases hstep
    exact h.take rid wait startAt purgeAt checkAt stampAt
  | resume call checkAt stampAt =>
    simp only [storeMachine] at hstep
    rcases hwaiter : bridge.waiters.get? call with _ | waiter
    · rw [hwaiter] at hstep
      cases hstep
    rw [hwaiter] at hstep
    cases hstep
    exact h.resume hwaiter checkAt stampAt

/-! ## The bound is a constant -/

@[simp] lemma maxResultItems_purge (bridge : PTCommandBridge) (now : ℚ) :
    (bridge.purgeResultsLocked now).maxResultItems = bridge.maxResultItems := by
  unfold PTCommandBridge.purgeResultsLocked
  dsimp only
  generalize (bridge.results.entries.filter _).map Prod.fst = rids
  induction rids generalizing bridge with
  | nil => rfl
  | cons rid rids ih => exact ih (bridge.forget rid)

lemma maxResultItems_evict (rids : List String) (bridge : PTCommandBridge) :
    (PTCommandBridge.evict rids bridge).2.maxResultItems = bridge.maxResultItems := by
  induction rids generalizing bridge with
  | nil => rfl
  | cons rid rids ih =>
    simp only [PTCommandBridge.evict]
    split_ifs
    · rfl
    · exact ih (bridge.forget rid)

lemma maxResultItems_register (bridge : PTCommandBridge) (rid : String) (purgeAt stampAt : ℚ) :
    (bridge.registerResult rid purgeAt stampAt).2.maxResultItems = bridge.maxResultItems := by
  have hcapacity : (bridge.purgeResultsLocked purgeAt).makeResultCapacityLocked.2.maxResultItems =
      bridge.maxResultItems := by
    unfold PTCommandBridge.makeResultCapacityLocked
    split_ifs
    · exact maxResultItems_purge bridge purgeAt
    · exact (maxResultItems_evict _ _).trans (maxResultItems_purge bridge purgeAt)
  unfold PTCommandBridge.registerResult
  dsimp only
  split_ifs
  · exact maxResultItems_purge bridge purgeAt
  split
  all_goals
    next heq =>
      rw [heq] at hcapacity
      exact hcapacity

lemma maxResultItems_checkSlot (bridge : PTCommandBridge) (call : ℕ) (rid : String)
    (deadline checkAt stampAt : ℚ) :
    (bridge.checkSlot call rid deadline checkAt stampAt).2.maxResultItems =
      bridge.maxResultItems := by
  unfold PTCommandBridge.checkSlot
  split
  · rfl
  · split
    · rfl
    · split_ifs <;> rfl
    · rfl

/-- The bound of the store never changes. -/
lemma maxResultItems_step (hstep : storeMachine.step bridge operation = .ok bridge') :
    bridge'.maxResultItems = bridge.maxResultItems := by
  cases operation with
  | register rid purgeAt stampAt =>
    cases hstep
    exact maxResultItems_register bridge rid purgeAt stampAt
  | discard rid =>
    cases hstep
    unfold PTCommandBridge.discardRegisteredResult
    split
    · split_ifs <;> rfl
    · rfl
  | put rid body purgeAt stampAt =>
    cases hstep
    unfold PTCommandBridge.putResult
    dsimp only
    split
    · exact maxResultItems_purge bridge purgeAt
    · split <;> exact maxResultItems_purge bridge purgeAt
  | take rid wait startAt purgeAt checkAt stampAt =>
    cases hstep
    unfold PTCommandBridge.takeResult
    dsimp only
    split
    all_goals
      next heq =>
        have hcheck := congrArg (fun pair => pair.2.maxResultItems) heq
        dsimp only at hcheck
        rw [maxResultItems_checkSlot, maxResultItems_purge] at hcheck
        exact hcheck.symm
  | resume call checkAt stampAt =>
    simp only [storeMachine] at hstep
    split at hstep
    · cases hstep
      unfold PTCommandBridge.resumeTake
      split
      all_goals
        next heq =>
          have hcheck := congrArg (fun pair => pair.2.maxResultItems) heq
          dsimp only at hcheck
          rw [maxResultItems_checkSlot] at hcheck
          exact hcheck.symm
    · cases hstep

/-! ## The law of the store -/

/-- A new bridge. -/
def newBridge (resultTtl : ℚ) (maxResultItems : ℕ) : PTCommandBridge :=
  { resultTtl := resultTtl, maxResultItems := maxResultItems }

lemma invariant_newBridge (resultTtl : ℚ) (maxResultItems : ℕ) :
    Invariant (newBridge resultTtl maxResultItems) := by
  refine ⟨fun rid => rfl, ⟨?_, ?_, ?_, ?_⟩, Nat.zero_le _⟩
  · simp [newBridge]
  · simp [newBridge]
  · intro call waiter hwaiter
    cases hwaiter
  · simp [newBridge]

/-- The events that concern an id. -/
def eventsOf (rid : String) (history : List Event) : List Event :=
  history.filter fun event => (event.concerning rid).isSome

lemma eq_registered_of_concerning (h : event.concerning rid = some .opened) :
    event = .registered rid := by
  cases event with
  | registered rid' =>
    simp only [Event.concerning] at h
    split_ifs at h with heq
    rw [heq]
  | asked call rid' => cases h
  | _ =>
    simp only [Event.concerning] at h
    split_ifs at h
    cases Option.some.inj h

lemma eq_accepted_of_concerning {body : Option String}
    (h : event.concerning rid = some (.accepted body)) :
    ∃ text, body = some text ∧ event = .accepted rid text := by
  cases event with
  | accepted rid' text =>
    simp only [Event.concerning] at h
    split_ifs at h with heq
    have hbody := Mailboxes.Event.accepted.inj (Option.some.inj h)
    exact ⟨text, hbody.symm, by rw [heq]⟩
  | asked call rid' => cases h
  | _ =>
    simp only [Event.concerning] at h
    split_ifs at h
    cases Option.some.inj h

lemma map_eventsOf (rid : String) (history : List Event) :
    (eventsOf rid history).map (Event.concerning rid) =
      (history.filterMap (Event.concerning rid)).map some := by
  induction history with
  | nil => rfl
  | cons event history ih =>
    cases hevent : event.concerning rid with
    | none | some step => simpa [eventsOf, hevent] using ih

/-- **What the store delivers.**  Whatever the threads do, the store stays within its bound, a
result is delivered only to a call that asked for its id, and the events of the id before the
delivery end with the registration of the id and the acceptance of the delivered text. -/
theorem deliveries_follow_registrations {resultTtl : ℚ} {maxResultItems : ℕ}
    {operations : List Operation} {bridge : PTCommandBridge}
    (hrun : storeMachine.run (newBridge resultTtl maxResultItems) operations = .ok bridge) :
    bridge.results.size ≤ maxResultItems ∧
      ∀ before call rid body after,
        bridge.history = before ++ .delivered call rid body :: after →
          (∀ rid', .asked call rid' ∈ before ↔ rid' = rid) ∧
            ∃ earlier text, body = some text ∧
              eventsOf rid before = earlier ++ [.registered rid, .accepted rid text] := by
  have hinv : Invariant bridge := storeMachine.invariant_of_run hrun
    (invariant_newBridge resultTtl maxResultItems) fun _ _ _ _ h hstep => h.step hstep
  have hmax : bridge.maxResultItems = maxResultItems := storeMachine.invariant_of_run
    (P := fun b => b.maxResultItems = maxResultItems) hrun rfl
    fun _ _ _ _ h hstep => (maxResultItems_step hstep).trans h
  refine ⟨hmax ▸ hinv.bounded, fun before call rid body after hsplit => ⟨fun rid' => ?_, ?_⟩⟩
  · have hasked := hinv.calls.delivered_asked before _ after hsplit call rid body rfl
    refine ⟨fun hmem => ?_, fun heq => heq ▸ hasked⟩
    refine hinv.calls.asked_unique call rid' rid ?_ ?_
    · rw [hsplit]
      exact List.mem_append_left _ hmem
    · rw [hsplit]
      exact List.mem_append_left _ hasked
  · have hmailbox := hinv.follows rid
    have hdelivered : (Event.delivered call rid body).concerning rid = some (.delivered body) := by
      simp [Event.concerning]
    rw [hsplit, List.filterMap_append, List.filterMap_cons_some hdelivered] at hmailbox
    obtain ⟨earlier, hearlier⟩ := eq_of_run_delivered hmailbox
    have hmap := map_eventsOf rid before
    rw [hearlier, List.map_append, List.map_eq_append_iff] at hmap
    obtain ⟨past, recent, hpast, -, hrecent⟩ := hmap
    obtain ⟨first, rest, rfl, hfirst, hrest⟩ := List.map_eq_cons_iff.mp hrecent
    obtain ⟨second, rest', rfl, hsecond, hrest'⟩ := List.map_eq_cons_iff.mp hrest
    obtain rfl := List.map_eq_nil_iff.mp hrest'
    obtain ⟨text, hbody, rfl⟩ := eq_accepted_of_concerning hsecond
    exact ⟨past, text, hbody, by rw [hpast, eq_registered_of_concerning hfirst]⟩

/-- The bodies that were delivered for an id. -/
def deliveriesOf (rid : String) (history : List Event) : List (Option String) :=
  history.filterMap fun event =>
    match event with
    | .delivered _ rid' body => if rid' = rid then some body else none
    | _ => none

/-- A request id of the form that the HTTP handlers accept. -/
def sampleRid : String := "0123456789abcdef0123456789abcdef"

/-- An answered id, registered and answered again once its tombstone is 120 seconds old. -/
def answeredTwice : List Operation :=
  [.register sampleRid 0 0, .put sampleRid "one" 1 1, .take sampleRid 9 2 2 2 2,
   .register sampleRid 200 200, .put sampleRid "two" 201 201, .take sampleRid 9 202 202 202 202]

/-- The law at a run in which one id is answered twice. -/
theorem deliveries_follow_registrations_answeredTwice :
    ∃ bridge, storeMachine.run (newBridge 120 256) answeredTwice = .ok bridge ∧
      deliveriesOf sampleRid bridge.history = [some "one", some "two"] ∧
      bridge.results.size ≤ 256 := by
  obtain ⟨bridge, hrun, htest⟩ := storeMachine.exists_run_of_endsWith
    (fun b => deliveriesOf sampleRid b.history = [some "one", some "two"])
    (newBridge 120 256) answeredTwice (by decide +kernel)
  exact ⟨bridge, hrun, of_decide_eq_true htest, (deliveries_follow_registrations hrun).1⟩

/-- An id that is discarded after its result came in. -/
def discardedLate : List Operation :=
  [.register sampleRid 0 0, .put sampleRid "one" 1 1, .discard sampleRid]

/-- **Not once for each id.**  An id may be answered once for each of its registrations, and a
discard does not stop the delivery of a result that has already come in. -/
theorem not_forall_delivered_once :
    (¬∀ operations bridge rid, storeMachine.run (newBridge 120 256) operations = .ok bridge →
        (deliveriesOf rid bridge.history).length ≤ 1) ∧
      ¬∀ operations later bridge bridge' rid,
        storeMachine.run (newBridge 120 256) (operations ++ [.discard rid]) = .ok bridge →
        storeMachine.run bridge later = .ok bridge' →
        (∀ purgeAt stampAt, .register rid purgeAt stampAt ∉ later) →
          deliveriesOf rid bridge'.history = deliveriesOf rid bridge.history := by
  refine ⟨fun hall => ?_, fun hall => ?_⟩
  · obtain ⟨bridge, hrun, htest⟩ := storeMachine.exists_run_of_endsWith
      (fun b => (deliveriesOf sampleRid b.history).length = 2)
      (newBridge 120 256) answeredTwice (by decide +kernel)
    have hlength := hall answeredTwice bridge sampleRid hrun
    rw [of_decide_eq_true htest] at hlength
    omega
  · obtain ⟨bridge, hrun, htest⟩ := storeMachine.exists_run_of_endsWith
      (fun b => deliveriesOf sampleRid b.history = [] &&
        storeMachine.endsWith (fun b' => deliveriesOf sampleRid b'.history = [some "one"]) b
          [.take sampleRid 9 2 2 2 2])
      (newBridge 120 256) discardedLate (by decide +kernel)
    obtain ⟨hnone, hsome⟩ := Bool.and_eq_true_iff.mp htest
    obtain ⟨bridge', hrun', hdelivered⟩ := storeMachine.exists_run_of_endsWith _ _ _ hsome
    have heq := hall [.register sampleRid 0 0, .put sampleRid "one" 1 1] _ bridge bridge' sampleRid
      hrun hrun' (by simp)
    rw [of_decide_eq_true hnone, of_decide_eq_true hdelivered] at heq
    cases heq

end LiveBridge
end PacketTracer
