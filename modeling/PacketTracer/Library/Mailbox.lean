import PacketTracer.Library.Machine

/-!
# Single-delivery mailboxes

A mailbox is opened for one body.  It may be withdrawn before the body arrives, it accepts one
body, and it gives that body out once; afterwards it is closed until it is forgotten, and a
forgotten mailbox may be opened again.

`eq_of_run_delivered` is the law of a mailbox: what happened before a delivery ends with the
opening and the acceptance of that very body.  So no body is delivered twice, none is delivered
after a withdrawal, and none but the first accepted one is delivered.
-/

namespace Mailboxes

open Machines

variable {β : Type*}

/-- The states of a mailbox. -/
inductive Slot (β : Type*)
  | absent
  | pending
  | ready (body : β)
  | closed
  deriving DecidableEq

/-- What can happen to a mailbox. -/
inductive Event (β : Type*)
  | opened
  | withdrawn
  | accepted (body : β)
  | delivered (body : β)
  | expired
  | forgotten
  deriving DecidableEq

/-- The mailbox protocol. -/
def mailbox (β : Type*) [DecidableEq β] : Machine (Slot β) (Event β) Unit where
  step
    | .absent, .opened => .ok .pending
    | .pending, .withdrawn => .ok .absent
    | .pending, .accepted body => .ok (.ready body)
    | .ready body, .delivered body' => if body = body' then .ok .closed else .error ()
    | .pending, .expired => .ok .closed
    | _, .forgotten => .ok .absent
    | _, _ => .error ()

variable [DecidableEq β] {slot : Slot β} {body : β} {events : List (Event β)} {event : Event β}

lemma step_eq_pending (h : (mailbox β).step slot event = .ok .pending) : event = .opened := by
  cases slot <;> cases event <;> simp [mailbox] at h ⊢
  split_ifs at h
  cases h

lemma step_eq_ready (h : (mailbox β).step slot event = .ok (.ready body)) :
    slot = .pending ∧ event = .accepted body := by
  cases slot <;> cases event <;> simp [mailbox] at h ⊢
  · exact h
  · split_ifs at h
    cases h

lemma step_delivered {slot' : Slot β} (h : (mailbox β).step slot (.delivered body) = .ok slot') :
    slot = .ready body := by
  cases slot <;> simp [mailbox] at h ⊢
  by_contra hne
  rw [if_neg hne] at h
  cases h

lemma eq_concat_of_run_pending (h : (mailbox β).run .absent events = .ok .pending) :
    ∃ earlier, events = earlier ++ [.opened] := by
  rcases List.eq_nil_or_concat events with rfl | ⟨earlier, last, rfl⟩
  · cases h
  · rw [List.concat_eq_append] at h ⊢
    obtain ⟨slot, -, hstep⟩ := (mailbox β).run_concat_eq_ok.mp h
    exact ⟨earlier, by rw [step_eq_pending hstep]⟩

/-- The history of a mailbox that holds a body ends with its opening and the acceptance of the
body. -/
lemma eq_concat_of_run_ready (h : (mailbox β).run .absent events = .ok (.ready body)) :
    ∃ earlier, events = earlier ++ [.opened, .accepted body] := by
  rcases List.eq_nil_or_concat events with rfl | ⟨before, last, rfl⟩
  · cases h
  rw [List.concat_eq_append] at h ⊢
  obtain ⟨slot, hrun, hstep⟩ := (mailbox β).run_concat_eq_ok.mp h
  obtain ⟨rfl, rfl⟩ := step_eq_ready hstep
  obtain ⟨earlier, rfl⟩ := eq_concat_of_run_pending hrun
  exact ⟨earlier, by simp⟩

/-- **The law of a mailbox.**  What happened before a delivery ends with the opening and the
acceptance of the delivered body. -/
theorem eq_of_run_delivered {after : List (Event β)}
    (h : (mailbox β).run .absent (events ++ .delivered body :: after) = .ok slot) :
    ∃ earlier, events = earlier ++ [.opened, .accepted body] := by
  obtain ⟨slot', hpre⟩ := (mailbox β).exists_run_of_isPrefix
    (⟨after, by simp⟩ : events ++ [.delivered body] <+: events ++ .delivered body :: after) h
  obtain ⟨middle, hrun, hstep⟩ := (mailbox β).run_concat_eq_ok.mp hpre
  rw [step_delivered hstep] at hrun
  exact eq_concat_of_run_ready hrun

end Mailboxes
