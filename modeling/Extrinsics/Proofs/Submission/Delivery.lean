import Mathlib.Data.List.Induction
import Extrinsics.Submission.Subscription

/-!
# Delivery

What happens to a subscription, in any order: updates are sent, the sending side goes, and the
subscriber asks for updates, cancels, and drops the subscription. The subscriber gets what was
accepted, in its order, and what it has not got is in the queue until the subscription is
dropped. Either side can end the stream; an end stays, and the updates in the queue outlive it.
-/

namespace Extrinsics.Subscription

/-- One thing that happens to a subscription. -/
inductive Action where
  | send (u : Update)
  /-- The sending side goes. -/
  | close
  /-- The subscriber asks for the next update. -/
  | next
  | unsubscribe
  /-- The subscriber drops the subscription. -/
  | drop

namespace Action

/-- Whether an action ends the stream, from either side. -/
def ends : Action → Bool
  | close => true
  | unsubscribe => true
  | drop => true
  | _ => false

/-- The update that is sent. -/
def sent? : Action → Option Update
  | send u => some u
  | _ => none

end Action

/-- The subscription after an action. -/
def perform (s : Subscription) : Action → Subscription
  | .send u => s.send u
  | .close => s.close
  | .next => s.next.2
  | .unsubscribe => s.unsubscribe
  | .drop => s.drop

/-- A new subscription after actions that happen one after the other. -/
def run (as : List Action) : Subscription := as.foldl perform start

/-- The update that is sent, if it is accepted. -/
def accepted? (s : Subscription) : Action → Option Update
  | .send u => if s.accepts then some u else none
  | _ => none

/-- The update that the subscriber asks for, if it gets one. -/
def taken? (s : Subscription) : Action → Option Update
  | .next =>
    match s.next.1 with
    | .update u => some u
    | _ => none
  | _ => none

/-- The updates that actions yield, each at the subscription it happens to. -/
def yields (f : Subscription → Action → Option Update) (s : Subscription) :
    List Action → List Update
  | [] => []
  | a :: as => (f s a).toList ++ yields f (s.perform a) as

/-- The updates that were accepted. -/
def accepted (as : List Action) : List Update := yields accepted? start as

/-- The updates that the subscriber got. -/
def taken (as : List Action) : List Update := yields taken? start as

variable {s : Subscription} {as : List Action}

theorem run_concat (as : List Action) (a : Action) :
  run (as ++ [a]) = (run as).perform a
  := List.foldl_append

theorem yields_concat (f : Subscription → Action → Option Update) (s : Subscription)
    (as : List Action) (a : Action) :
  yields f s (as ++ [a]) = yields f s as ++ (f (as.foldl perform s) a).toList
  := by
  induction as generalizing s with
  | nil => apply List.append_nil
  | cons b as ih =>
    rw [List.cons_append, yields, ih, yields, List.append_assoc]
    rfl

theorem accepted_concat (as : List Action) (a : Action) :
  accepted (as ++ [a]) = accepted as ++ ((run as).accepted? a).toList
  := yields_concat accepted? start as a

theorem taken_concat (as : List Action) (a : Action) :
  taken (as ++ [a]) = taken as ++ ((run as).taken? a).toList
  := yields_concat taken? start as a

/-! ### One action -/

/-- What is sent goes to the end of the queue, if it is accepted. -/
theorem send_eq (u : Update) :
  s.send u = { s with queue := s.queue ++ (s.accepted? (.send u)).toList }
  := by
  rw [send, accepted?]
  split
  · rfl
  · rw [Option.toList_none, List.append_nil]

/-- What the subscriber asks for is taken from the queue. -/
theorem snd_next :
  s.next.2 = { s with queue := s.queue.tail }
  := by
  obtain ⟨queue, hasSender, isActive, unsubscribed⟩ := s
  cases queue <;> rfl

/-- Cancelling runs the unsubscribe handle, unless it has run. -/
theorem unsubscribe_eq :
  s.unsubscribe
    = { s with
        isActive := false
        unsubscribed := s.unsubscribed + if s.isActive then 1 else 0 }
  := by
  obtain ⟨queue, hasSender, isActive, unsubscribed⟩ := s
  cases isActive <;> rfl

theorem taken?_next :
  s.taken? .next = s.queue.head?
  := by
  rw [taken?, next]
  cases s.queue with
  | nil => cases s.accepts <;> rfl
  | cons u queue => rfl

theorem next_eq_update_iff {u : Update} :
  s.next.1 = .update u ↔ s.queue.head? = some u
  := by
  rw [next]
  cases s.queue with
  | nil => cases s.accepts <;> simp
  | cons v queue => simp

theorem next_eq_closed_iff :
  s.next.1 = .closed ↔ s.queue = [] ∧ ¬ s.accepts
  := by
  rw [next]
  cases s.queue with
  | nil => cases s.accepts <;> simp
  | cons v queue => simp

theorem next_eq_pending_iff :
  s.next.1 = .pending ↔ s.queue = [] ∧ s.accepts
  := by
  rw [next]
  cases s.queue with
  | nil => cases s.accepts <;> simp
  | cons v queue => simp

/-! ### Ends -/

/-- The sending side is there until it goes. -/
theorem hasSender_run (as : List Action) :
  (run as).hasSender ↔ .close ∉ as
  := by
  induction as using List.reverseRecOn with
  | nil => exact iff_of_true rfl List.not_mem_nil
  | append_singleton as a ih =>
    rw [run_concat, List.mem_append, List.mem_singleton]
    cases a <;> simp [perform, send_eq, snd_next, unsubscribe_eq, close, drop, ih]

/-- A subscription is active until it is cancelled or dropped. -/
theorem isActive_run (as : List Action) :
  (run as).isActive ↔ .unsubscribe ∉ as ∧ .drop ∉ as
  := by
  induction as using List.reverseRecOn with
  | nil => exact iff_of_true rfl ⟨List.not_mem_nil, List.not_mem_nil⟩
  | append_singleton as a ih =>
    rw [run_concat, List.mem_append, List.mem_singleton, List.mem_append, List.mem_singleton]
    cases a <;> simp [perform, send_eq, snd_next, unsubscribe_eq, close, drop, ih]

/-- Updates are accepted until either side ends the stream. -/
theorem accepts_run (as : List Action) :
  (run as).accepts ↔ .close ∉ as ∧ .unsubscribe ∉ as ∧ .drop ∉ as
  := by
  rw [accepts, Bool.and_eq_true, hasSender_run, isActive_run]

/-- The unsubscribe handle runs once, when the subscription is no longer active. -/
theorem unsubscribed_run (as : List Action) :
  (run as).unsubscribed = if (run as).isActive then 0 else 1
  := by
  induction as using List.reverseRecOn with
  | nil => rfl
  | append_singleton as a ih =>
    rw [run_concat]
    cases a with
    | send u => rwa [perform, send_eq]
    | close => exact ih
    | next => rwa [perform, snd_next]
    | unsubscribe =>
      rw [perform, unsubscribe_eq, ih]
      cases (run as).isActive <;> rfl
    | drop =>
      rw [perform, drop, unsubscribe_eq, ih]
      cases (run as).isActive <;> rfl

/-! ### Updates -/

/-- An update is accepted from a stream that has not ended. -/
theorem accepted?_of_accepts (h : s.accepts) (a : Action) :
  s.accepted? a = a.sent?
  := by
  cases a with
  | send u => rw [accepted?, if_pos h, Action.sent?]
  | _ => rfl

theorem accepted?_of_ends {a : Action} (ha : a.ends) :
  s.accepted? a = none
  := by
  cases a with
  | send u => cases ha
  | _ => rfl

theorem accepts_perform {a : Action} (ha : ¬ a.ends) :
  (s.perform a).accepts = s.accepts
  := by
  cases a with
  | send u => rw [perform, send_eq, accepts, accepts]
  | next => rw [perform, snd_next, accepts, accepts]
  | _ => exact (ha rfl).elim

theorem not_accepts_perform {a : Action} (ha : a.ends) :
  ¬ (s.perform a).accepts
  := by
  cases a with
  | send u => cases ha
  | next => cases ha
  | close => simp [perform, close, accepts]
  | unsubscribe => simp [perform, unsubscribe_eq, accepts]
  | drop => simp [perform, drop, unsubscribe_eq, accepts]

/-- After an end nothing is accepted. -/
theorem yields_accepted?_of_not_accepts (h : ¬ s.accepts) (as : List Action) :
  yields accepted? s as = []
  := by
  induction as generalizing s with
  | nil => rfl
  | cons a as ih =>
    have hperform : ¬ (s.perform a).accepts := by
      by_cases ha : a.ends
      · apply not_accepts_perform ha
      · rwa [accepts_perform ha]
    rw [yields, ih hperform, List.append_nil]
    cases a with
    | send u => rw [accepted?, if_neg h, Option.toList_none]
    | _ => rfl

/-- Up to the first end everything that is sent is accepted. -/
theorem yields_accepted?_of_accepts (h : s.accepts) (as : List Action) :
  yields accepted? s as = (as.takeWhile fun a => !a.ends).filterMap Action.sent?
  := by
  induction as generalizing s with
  | nil => rfl
  | cons a as ih =>
    rw [yields, List.takeWhile_cons]
    by_cases ha : a.ends
    · rw [accepted?_of_ends ha, yields_accepted?_of_not_accepts (not_accepts_perform ha), ha]
      rfl
    · rw [accepted?_of_accepts h, ih ((accepts_perform ha).trans h), if_pos (by simpa using ha),
        List.filterMap_cons]
      cases a.sent? <;> rfl

/-- What was accepted and has not been taken is in the queue, unless the subscription was
dropped. -/
theorem accepted_eq (as : List Action) :
  ∃ rest, accepted as = taken as ++ rest
    ∧ (.drop ∉ as → (run as).queue = rest) ∧ (.drop ∈ as → (run as).queue = [])
  := by
  induction as using List.reverseRecOn with
  | nil =>
    use [], rfl, fun _ => rfl
    rintro ⟨⟩
  | append_singleton as a ih =>
    obtain ⟨rest, haccepted, hkept, hlost⟩ := ih
    rw [accepted_concat, taken_concat, run_concat, haccepted]
    by_cases hdrop : Action.drop ∈ as
    · -- Nothing is accepted any more, and the queue stays empty.
      have hrefused : ¬ (run as).accepts := fun h => ((accepts_run as).1 h).2.2 hdrop
      use rest
      cases a with
      | send u => simp [accepted?, taken?, hrefused, hdrop, hlost hdrop, perform, send_eq]
      | next => simp [accepted?, taken?_next, hdrop, hlost hdrop, perform, snd_next]
      | _ => simp [accepted?, taken?, hdrop, hlost hdrop, perform, unsubscribe_eq, close, drop]
    · cases a with
      | send u =>
        use rest ++ ((run as).accepted? (.send u)).toList
        simp [taken?, hdrop, perform, send_eq, hkept hdrop]
      | next =>
        use rest.tail
        cases rest <;> simp [accepted?, taken?_next, hdrop, perform, snd_next, hkept hdrop]
      | drop =>
        use rest
        simp [accepted?, taken?, perform, drop]
      | _ =>
        use rest
        simp [accepted?, taken?, hdrop, perform, close, unsubscribe_eq, hkept hdrop]

/-- Whatever happens to a subscription: an update is accepted exactly when no side has ended the
stream. The updates that the subscriber got are the first of those that were accepted, and the
others are in the queue unless the subscription was dropped. The subscriber gets the first update
of the queue; when it is empty, the stream is closed if a side has ended it, and the subscriber
waits if not. The unsubscribe handle has run once if the subscription was cancelled or dropped,
and has not run if it is active. -/
theorem delivery_run (as : List Action) :
  ((run as).accepts ↔ .close ∉ as ∧ .unsubscribe ∉ as ∧ .drop ∉ as)
    ∧ accepted as = (as.takeWhile fun a => !a.ends).filterMap Action.sent?
    ∧ (∃ rest, accepted as = taken as ++ rest
      ∧ (.drop ∉ as → (run as).queue = rest) ∧ (.drop ∈ as → (run as).queue = []))
    ∧ (∀ u, (run as).next.1 = .update u ↔ (run as).queue.head? = some u)
    ∧ ((run as).next.1 = .closed ↔
      (run as).queue = [] ∧ (.close ∈ as ∨ .unsubscribe ∈ as ∨ .drop ∈ as))
    ∧ ((run as).next.1 = .pending ↔
      (run as).queue = [] ∧ .close ∉ as ∧ .unsubscribe ∉ as ∧ .drop ∉ as)
    ∧ ((run as).isActive ↔ .unsubscribe ∉ as ∧ .drop ∉ as)
    ∧ (run as).unsubscribed = if (run as).isActive then 0 else 1
  := by
  refine ⟨accepts_run as, yields_accepted?_of_accepts rfl as, accepted_eq as,
    fun u => next_eq_update_iff, ?_, ?_, isActive_run as, unsubscribed_run as⟩
  · rw [next_eq_closed_iff, accepts_run]
    tauto
  · rw [next_eq_pending_iff, accepts_run]

end Extrinsics.Subscription
