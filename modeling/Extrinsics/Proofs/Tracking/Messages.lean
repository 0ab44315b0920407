import Extrinsics.Proofs.Dispatch.Text
import Extrinsics.Proofs.Tracking.Tasks

/-!
# Messages of dispatch errors

A task reports a dispatch error in one message, which it writes into the record and tells the
callback for errors. It does so for the last update it takes, and for no other. When the registry of
the chain cannot resolve the error, the message is the generic text, and that is the text of no
other error.
-/

namespace Extrinsics

/-- The message of a dispatch error that a deed writes or tells. -/
def Deed.message? : Deed → Option String
  | .write (.error _ message) => some message
  | .tellError message => some message
  | _ => none

/-- The messages of dispatch errors among deeds, in their order. -/
def messages (ds : List Deed) : List String := ds.filterMap Deed.message?

@[simp] theorem messages_nil : messages [] = [] := rfl

@[simp] theorem messages_append (ds ds' : List Deed) :
  messages (ds ++ ds') = messages ds ++ messages ds'
  := List.filterMap_append

namespace Tracker

variable (t : Tracker)

/-- What a tracker reports of an update that carries a dispatch error: the message for the record,
and once more for the callback if it is set. -/
def reports (u : Update) : List String :=
  u.dispatchError.toList.flatMap fun e =>
    (t.registry.describe e).1 :: t.callbacks.error.toList.map fun _ => (t.registry.describe e).1

/-! ### The parts of one update -/

theorem messages_count (ms : List (Metric Unit)) :
  messages (ms.map Deed.count) = []
  := by
  apply List.filterMap_eq_nil_iff.2
  intro d hd
  obtain ⟨m, -, rfl⟩ := List.mem_map.1 hd
  rfl

theorem messages_lifecycle :
  messages t.lifecycle = []
  := by
  rw [lifecycle]
  cases t.tracked <;> rfl

theorem messages_enter (now : BitVec 64) (hash : String) (u : Update) :
  messages (t.enter now hash u).1 = []
  := by
  rw [enter]
  split
  · rcases t.callbacks.ready with _ | _ | _ <;> rfl
  · rfl

theorem messages_noteBlock (hash : String) (u : Update) :
  messages (noteBlock hash u) = []
  := by
  rw [noteBlock]
  cases u.block? <;> rfl

theorem messages_finish (first : List Deed) (callback : Option Callback) (told : Deed)
    (status : Status) (outcome : Outcome) :
  messages (t.finish first callback told status outcome).1
    = messages first ++ callback.toList.flatMap fun _ => told.message?.toList
  := by
  have htold (ds : List Deed) : messages (told :: ds) = told.message?.toList ++ messages ds := by
    rw [messages, List.filterMap_cons]
    cases told.message? <;> rfl
  have hcounted : messages (Deed.count (.terminal status.name) :: t.lifecycle) = [] :=
    t.messages_lifecycle
  rcases callback with _ | _ | _ <;> simp [finish, htold, hcounted, messages_lifecycle]

/-- A tracker that goes on to the end of a call reports the dispatch error, if there is one. -/
theorem messages_conclude (hash : String) (u : Update) :
  ((t.conclude hash u).elim [] fun r => messages r.1) = t.reports u
  := by
  rw [conclude, reports]
  cases u.dispatchError with
  | some e =>
    rw [Option.elim_some, messages_finish, messages_append, messages_count]
    cases t.callbacks.error <;> rfl
  | none =>
    cases u.finalBlock? with
    | none => rfl
    | some b =>
      rw [Option.map_some, Option.elim_some, messages_finish]
      cases t.callbacks.finalized <;> rfl

theorem reports_after (u v : Update) :
  (t.after u).reports v = t.reports v
  := by
  rw [after]
  split <;> rfl

/-- What is reported of an update, unless the callback for ready calls breaks off at it. -/
theorem messages_receive (now : BitVec 64) (u : Update) :
  messages (t.receive now u).1 = [] ∧ t.breaksAt u
    ∨ messages (t.receive now u).1 = t.reports u ∧ ¬ t.breaksAt u
  := by
  rw [receive, show Hash.normalize u.hash = u.key from rfl]
  have hentering := t.messages_enter now u.key u
  have hsnd := t.enter_snd now u
  rcases henter : t.enter now u.key u with ⟨entering, rest⟩
  rw [henter] at hsnd hentering
  rcases hsnd with ⟨hbreak, rfl⟩ | ⟨hbreak, rfl⟩
  · left
    use hentering
  · right
    refine ⟨?_, hbreak⟩
    have hconclude := (t.after u).messages_conclude u.key u
    rw [reports_after] at hconclude
    dsimp only
    cases hend : (t.after u).conclude u.key u with
    | none =>
      rw [hend] at hconclude
      rw [messages_append, hentering, messages_noteBlock, ← hconclude]
      rfl
    | some r =>
      rw [hend] at hconclude
      rw [messages_append, messages_append, hentering, messages_noteBlock, ← hconclude]
      rfl

theorem reports_of_not_isLast {u : Update} (h : u.isLast = false) :
  t.reports u = []
  := by
  rw [reports, ((Update.not_isLast_iff u).1 h).1]
  rfl

/-! ### A list of updates -/

/-- A tracker reports nothing of an update that is not the last one of its call. -/
theorem messages_receive_of_not_isLast (now : BitVec 64) {u : Update} (h : u.isLast = false) :
  messages (t.receive now u).1 = []
  := by
  rcases t.messages_receive now u with ⟨hnone, -⟩ | ⟨hreports, -⟩
  · exact hnone
  · rw [hreports, t.reports_of_not_isLast h]

/-- A tracker that has not stopped has reported nothing. -/
theorem messages_follow {es : List Taken} (h : (t.follow es).2.2 = none) :
  messages (t.follow es).1 = []
  := by
  have hlast := not_isLast_of_follow h
  induction es generalizing t with
  | nil => rfl
  | cons e es ih =>
    obtain ⟨he, hes⟩ := List.forall_mem_cons.1 hlast
    cases hr : (t.receive e.1 e.2).2.2 with
    | some o =>
      rw [follow_cons_some hr, hr] at h
      cases h
    | none =>
      rw [follow_cons_none hr] at h ⊢
      rw [messages_append, t.messages_receive_of_not_isLast e.1 he, ih _ h hes, List.append_nil]

end Tracker

namespace Task.Followed

variable {t : Task} {h : History}

/-- An update with a dispatch error is the last one that a task takes. -/
theorem taken_eq_concat (ht : t.Followed h) {x : Taken} (hx : x ∈ h.taken)
    (hlast : x.2.isLast) :
  h.taken = h.taken.dropLast ++ [x]
  := by
  have hne : h.taken ≠ [] := List.ne_nil_of_mem hx
  have hsplit := List.dropLast_append_getLast hne
  have hcases : x ∈ h.taken.dropLast ∨ x = h.taken.getLast hne := by
    rw [← hsplit] at hx
    simpa using hx
  rcases hcases with hinit | rfl
  · have hnot := Tracker.not_isLast_of_follow ht.early x hinit
    rw [hlast] at hnot
    cases hnot
  · exact hsplit.symm

/-- A task reports a dispatch error in its one message. -/
theorem messages_eq (ht : t.Followed h) {x : Taken} (hx : x ∈ h.taken)
    (hlast : x.2.isLast) :
  (messages h.done = [] ∧ t.tracker.callbacks.ready = some .breaksOff)
    ∨ messages h.done = t.tracker.reports x.2
  := by
  have hfollow := Tracker.follow_concat ht.early x
  rw [← ht.taken_eq_concat hx hlast] at hfollow
  generalize hlate : (t.tracker.fresh.follow h.taken.dropLast).2.1 = late at hfollow
  have hdone : messages h.done = messages (late.receive x.1 x.2).1 := by
    rw [ht.done, hfollow, messages_append, Tracker.messages_follow _ ht.early, List.nil_append]
  have hfresh : late.fresh = t.tracker.fresh := by
    rw [ht.tracker, hfollow, Tracker.fresh_receive]
  have hreports : late.reports x.2 = t.tracker.reports x.2 := by
    apply congrArg (fun s : Tracker => s.reports x.2) hfresh
  have hcallbacks : late.callbacks = t.tracker.callbacks := by
    apply congrArg Tracker.callbacks hfresh
  rw [hdone, ← hreports, ← hcallbacks]
  rcases late.messages_receive x.1 x.2 with ⟨hnone, hbreak⟩ | ⟨hsome, -⟩
  · left
    use hnone
    apply hbreak.2
  · right
    exact hsome

end Task.Followed

namespace Executor

/-- A generic text is that of one error only. So when the registry of the client that a call was
submitted through cannot resolve a dispatch error, its message, which is written into the record and
told to the callback, is the text of that error and of no other. -/
theorem text_identifies :
  Function.Injective DispatchError.text
    ∧ ∀ (client : Client) (as : List Action) (i : Nat) (t : Task),
      (run client as).tasks[i]? = some t →
      ∃ s, Submits client as i s ∧ t.IsFor s
        ∧ ∀ x ∈ (history client as i).taken, ∀ e, x.2.dispatchError = some e →
          ¬ s.client.registry.Resolves e →
            (∀ m ∈ messages (history client as i).done, ∀ e', e'.text = m ↔ e' = e)
              ∧ (s.callbacks.AllReturn → messages (history client as i).done
                = e.text :: s.callbacks.error.toList.map fun _ => e.text)
  := by
  refine ⟨DispatchError.text_injective, ?_⟩
  intro client as i t ht
  obtain ⟨s, hs, hfor⟩ := origin_run client as ht
  use s, hs, hfor
  intro x hx e he hunresolved
  have hlast : x.2.isLast := by
    rw [Update.isLast, he]
    rfl
  have hmessages := (followed_run client as ht).messages_eq hx hlast
  have hreports : t.tracker.reports x.2
      = e.text :: t.tracker.callbacks.error.toList.map fun _ => e.text := by
    rw [Tracker.reports, he, hfor.registry, Option.toList_some, List.flatMap_singleton,
      Registry.describe_of_not_resolves hunresolved]
  rw [hreports, hfor.callbacks] at hmessages
  constructor
  · intro m hm e'
    have htext : m = e.text := by
      rcases hmessages with ⟨hnone, -⟩ | hsome
      · rw [hnone] at hm
        cases hm
      · rw [hsome] at hm
        rcases List.mem_cons.1 hm with rfl | hm
        · rfl
        · obtain ⟨-, -, rfl⟩ := List.mem_map.1 hm
          rfl
    rw [htext, DispatchError.text_injective.eq_iff]
  · intro hc
    rcases hmessages with ⟨-, hbreaks⟩ | hsome
    · exact (hc.1 hbreaks).elim
    · exact hsome

end Executor

namespace Samples

/-- A transfer fails in its block, with an error that the registry does not know. -/
def unresolvedRun : List Executor.Action :=
  [.prepare preparedTransfer, .submit 0 .unsigned ⟨none, none, some .returns⟩,
    .send 0 (.ofStatus "0xABC" .ready), .advance 1 0,
    .send 0 ⟨"0xABC", .inBlock "0xB1", some insufficientBalance, []⟩, .advance 2 0]

end Samples

namespace Executor

open Samples

theorem text_identifies_unresolvedRun :
  ∃ t, (run Samples.client unresolvedRun).tasks[0]? = some t
    ∧ ¬ Samples.client.registry.Resolves insufficientBalance
    ∧ messages (history Samples.client unresolvedRun 0).done
      = ["\x7b\"module\":\x7b\"index\":10,\"error\":\"0x02000000\"\x7d\x7d",
        "\x7b\"module\":\x7b\"index\":10,\"error\":\"0x02000000\"\x7d\x7d"]
  := by
  have hunresolved : ¬ Samples.client.registry.Resolves insufficientBalance := by
    rintro ⟨m, known, ⟨⟩, ⟨⟩⟩
  have htaken : ((2, ⟨"0xABC", .inBlock "0xB1", some insufficientBalance, []⟩) : Taken)
      ∈ (history Samples.client unresolvedRun 0).taken :=
    List.mem_cons_of_mem _ List.mem_cons_self
  refine ⟨_, rfl, hunresolved, ?_⟩
  obtain ⟨s, -, hfor, hmessages⟩ := text_identifies.2 Samples.client unresolvedRun 0 _ rfl
  obtain ⟨-, htold⟩ := hmessages _ htaken _ rfl (hfor.registry ▸ hunresolved)
  rw [← hfor.callbacks] at htold
  apply htold
  decide

end Executor

end Extrinsics
