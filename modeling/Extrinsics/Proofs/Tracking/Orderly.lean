import Extrinsics.Proofs.Hash
import Extrinsics.Proofs.Tracking.Keys

/-!
# Orderly writes

The writes of one call are orderly: the record is made at most once, and nothing is written
after the write that ends the call. The store operations do not ask for this, but it is what
keeps a record in order, and its status from going back.
-/

namespace Extrinsics

namespace Status

/-- How far a call has come. -/
def rank : Status → Nat
  | ready => 0
  | inBlock => 1
  | finalized => 2
  | error => 2

/-- A status is followed by the statuses of a higher rank. -/
def Reaches (s s' : Status) : Prop := s = s' ∨ s.rank < s'.rank

theorem Reaches.trans {s s' s'' : Status} (h : s.Reaches s') (h' : s'.Reaches s'') :
  s.Reaches s''
  := by
  rcases h with rfl | h
  · apply h'
  · rcases h' with rfl | h'
    · right
      apply h
    · right
      apply Nat.lt_trans h h'

/-- While a call is under way, its status can become anything but ready. -/
theorem reaches_of_pending {s s' : Status} (h : s.isTerminal = false) (h' : s' ≠ .ready) :
  s.Reaches s'
  := by
  cases s with
  | ready =>
    right
    cases s' with
    | ready => exact (h' rfl).elim
    | inBlock => decide
    | finalized => decide
    | error => decide
  | inBlock =>
    cases s' with
    | ready => exact (h' rfl).elim
    | inBlock =>
      left
      rfl
    | finalized =>
      right
      decide
    | error =>
      right
      decide
  | finalized => cases h
  | error => cases h

end Status

/-- A later state of a record. -/
structure Record.Later (r r' : Record) : Prop where
  hash : r'.hash = r.hash
  method : r'.method = r.method
  pallet : r'.pallet = r.pallet
  sender : r'.sender = r.sender
  args : r'.args = r.args
  isSigned : r'.isSigned = r.isSigned
  timestamp : r'.timestamp = r.timestamp
  status : r.status.Reaches r'.status

namespace Record.Later

theorem refl (r : Record) :
  r.Later r
  := ⟨rfl, rfl, rfl, rfl, rfl, rfl, rfl, .inl rfl⟩

theorem trans {r r' r'' : Record} (h : r.Later r') (h' : r'.Later r'') :
  r.Later r''
  where
  hash := h'.hash.trans h.hash
  method := h'.method.trans h.method
  pallet := h'.pallet.trans h.pallet
  sender := h'.sender.trans h.sender
  args := h'.args.trans h.args
  isSigned := h'.isSigned.trans h.isSigned
  timestamp := h'.timestamp.trans h.timestamp
  status := h.status.trans h'.status

end Record.Later

/-- Whether a write makes a record. -/
def Write.adds : Write → Bool
  | .add _ _ => true
  | _ => false

namespace Tracker

/-- The record at a hash is one of the call that is tracked, and it is in order. -/
structure Keeps (t : Tracker) (k : String) (r : Record) : Prop where
  hash : r.hash = k
  method : r.method = t.call.method
  pallet : r.pallet = t.call.pallet
  sender : r.sender = t.sender
  args : r.args = t.call.args
  isSigned : r.isSigned = t.isSigned
  error : r.dispatchError.isSome ↔ r.status = .error
  block : r.status = .inBlock → ∃ b, r.blockHash = some b ∧ Hash.normalize b = b

/-- The writes that a tracker does at a hash. -/
inductive Allows (t : Tracker) (k : String) : Write → Prop where
  | add (now : BitVec 64) : Allows t k (.add k (t.record now k))
  | block (b : String) : Allows t k (.block k (Hash.normalize b))
  | finalized : Allows t k (.status k .finalized)
  | error (message : String) : Allows t k (.error k message)

/-- The writes of a tracker at one hash, in an order that keeps the record in order. -/
structure Orderly (t : Tracker) (k : String) (ws : List Write) : Prop where
  allowed : ∀ w ∈ ws, t.Allows k w
  ordered : ws.Pairwise fun w w' => w.ends = false ∧ (w.adds → w'.adds = false)

variable {t : Tracker} {k : String}

theorem Allows.key_eq {w : Write} (h : t.Allows k w) :
  w.key = k
  := by
  cases h <;> rfl

/-- What is allowed does not depend on what was tracked before. -/
theorem Allows.of_fresh_eq {t' : Tracker} {w : Write} (h : t'.Allows k w)
    (hfresh : t'.fresh = t.fresh) :
  t.Allows k w
  := by
  cases h with
  | add now =>
    have hrecord : t'.record now k = t.record now k := congrArg (fun s => s.record now k) hfresh
    rw [hrecord]
    apply Allows.add
  | block b => apply Allows.block
  | finalized => apply Allows.finalized
  | error message => apply Allows.error

theorem Keeps.of_fresh {r : Record} (h : t.fresh.Keeps k r) :
  t.Keeps k r
  := ⟨h.hash, h.method, h.pallet, h.sender, h.args, h.isSigned, h.error, h.block⟩

/-- The record is in order when it is made. -/
theorem keeps_of_revise_none {w : Write} {r : Record} (h : t.Allows k w)
    (hr : w.revise none = some r) :
  w.adds ∧ t.Keeps k r
  := by
  cases h with
  | add now =>
    cases hr
    use rfl
    refine ⟨rfl, rfl, rfl, rfl, rfl, rfl, ?_, ?_⟩
    · constructor <;> rintro ⟨⟩
    · rintro ⟨⟩
  | block b => cases hr
  | finalized => cases hr
  | error message => cases hr

/-- A record that is not terminal stays in order, and it goes on. -/
theorem keeps_of_revise_some {w : Write} {r r' : Record} (h : t.Allows k w)
    (hadds : w.adds = false) (hkeeps : t.Keeps k r) (hpending : r.status.isTerminal = false)
    (hr : w.revise (some r) = some r') :
  t.Keeps k r' ∧ r.Later r'
  := by
  obtain ⟨hhash, hmethod, hpallet, hsender, hargs, hsigned, herror, hblock⟩ := hkeeps
  have hnone : ¬ r.dispatchError.isSome := by
    rw [herror]
    rintro hstatus
    rw [hstatus] at hpending
    cases hpending
  cases h with
  | add now => cases hadds
  | block b =>
    cases hr
    refine ⟨⟨hhash, hmethod, hpallet, hsender, hargs, hsigned, ?_, ?_⟩,
      ⟨rfl, rfl, rfl, rfl, rfl, rfl, rfl, Status.reaches_of_pending hpending (by rintro ⟨⟩)⟩⟩
    · constructor
      · intro hsome
        exact (hnone hsome).elim
      · rintro ⟨⟩
    · intro _
      use Hash.normalize b, rfl
      apply Hash.normalize_normalize
  | finalized =>
    cases hr
    refine ⟨⟨hhash, hmethod, hpallet, hsender, hargs, hsigned, ?_, ?_⟩,
      ⟨rfl, rfl, rfl, rfl, rfl, rfl, rfl, Status.reaches_of_pending hpending (by rintro ⟨⟩)⟩⟩
    · constructor
      · intro hsome
        exact (hnone hsome).elim
      · rintro ⟨⟩
    · rintro ⟨⟩
  | error message =>
    cases hr
    refine ⟨⟨hhash, hmethod, hpallet, hsender, hargs, hsigned, ?_, ?_⟩,
      ⟨rfl, rfl, rfl, rfl, rfl, rfl, rfl, Status.reaches_of_pending hpending (by rintro ⟨⟩)⟩⟩
    · exact ⟨fun _ => rfl, fun _ => rfl⟩
    · rintro ⟨⟩

namespace Orderly

theorem initial {ws ws' : List Write} (h : t.Orderly k ws') (hws : ws <+: ws') :
  t.Orderly k ws
  where
  allowed := fun w hw => h.allowed w (hws.subset hw)
  ordered := h.ordered.sublist hws.sublist

/-- What the last of orderly writes does: it makes the record, or the record goes on, or there
is none. -/
theorem revise_concat {ws : List Write} {w : Write} (h : t.Orderly k (ws ++ [w])) {r : Record}
    (hr : Write.reviseAll k ws none = some r) (hadds : ∃ w' ∈ ws, w'.adds)
    (hkeeps : t.Keeps k r) :
  ∃ r', Write.reviseAll k (ws ++ [w]) none = some r' ∧ t.Keeps k r' ∧ r.Later r'
  := by
  have hallowed := h.allowed w (List.mem_append_right ws List.mem_cons_self)
  have hlater (w' : Write) (hw' : w' ∈ ws) : w'.ends = false ∧ (w'.adds → w.adds = false) :=
    (List.pairwise_append.1 h.ordered).2.2 w' hw' w List.mem_cons_self
  have hpending : r.status.isTerminal = false := by
    apply Bool.eq_false_iff.2
    intro hterm
    obtain ⟨w', hw', -, hends⟩ := Write.exists_ends hr hterm
    rw [(hlater w' hw').1] at hends
    cases hends
  obtain ⟨w', hw', hadd⟩ := hadds
  have hnot := (hlater w' hw').2 hadd
  obtain ⟨r', hr'⟩ : ∃ r', w.revise (some r) = some r' := by
    cases w <;> exact ⟨_, rfl⟩
  use r'
  rw [Write.reviseAll_append, Write.reviseAll_singleton hallowed.key_eq, hr]
  use hr'
  apply keeps_of_revise_some hallowed hnot hkeeps hpending hr'

/-- The record of orderly writes is in order, and it was made. -/
theorem keeps {ws : List Write} (h : t.Orderly k ws) {r : Record}
    (hr : Write.reviseAll k ws none = some r) :
  t.Keeps k r ∧ ∃ w ∈ ws, w.adds
  := by
  induction ws using List.reverseRecOn generalizing r with
  | nil => cases hr
  | append_singleton ws w ih =>
    have hinit := h.initial (List.prefix_append ws [w])
    cases hold : Write.reviseAll k ws none with
    | none =>
      have hallowed := h.allowed w (List.mem_append_right ws List.mem_cons_self)
      rw [Write.reviseAll_append, Write.reviseAll_singleton hallowed.key_eq, hold] at hr
      obtain ⟨hadds, hkeeps⟩ := keeps_of_revise_none hallowed hr
      use hkeeps, w, List.mem_append_right ws List.mem_cons_self
    | some r₀ =>
      obtain ⟨hkeeps, hadds⟩ := ih hinit hold
      obtain ⟨r', hr', hkeeps', -⟩ := h.revise_concat hold hadds hkeeps
      rw [hr] at hr'
      cases hr'
      use hkeeps'
      obtain ⟨w', hw', hadd⟩ := hadds
      use w', List.mem_append_left [w] hw'

/-- More orderly writes leave the record, or a later state of it. -/
theorem later {ws ws' : List Write} (h : t.Orderly k (ws ++ ws')) {r : Record}
    (hr : Write.reviseAll k ws none = some r) :
  ∃ r', Write.reviseAll k (ws ++ ws') none = some r' ∧ r.Later r'
  := by
  induction ws' using List.reverseRecOn with
  | nil =>
    use r
    rw [List.append_nil]
    use hr
    apply Record.Later.refl
  | append_singleton ws' w ih =>
    rw [← List.append_assoc] at h ⊢
    have hinit := h.initial (List.prefix_append (ws ++ ws') [w])
    obtain ⟨r', hr', hlater⟩ := ih hinit
    obtain ⟨hkeeps, hadds⟩ := hinit.keeps hr'
    obtain ⟨r'', hr'', -, hlater'⟩ := h.revise_concat hr' hadds hkeeps
    use r'', hr''
    apply hlater.trans hlater'

end Orderly

/-! ### The writes of a tracker -/

theorem allowed_of_mem {now : BitVec 64} {u : Update} {w : Write} (hkey : u.key = k)
    (h : w ∈ writes (t.receive now u).1) :
  t.Allows k w
  := by
  subst hkey
  rcases mem_writes_receive h with ⟨-, rfl⟩ | h | h
  · apply Allows.add
  · obtain ⟨b, rfl⟩ := eq_of_mem_inclusion h
    apply Allows.block
  · obtain ⟨-, rfl | ⟨message, rfl⟩⟩ := eq_of_mem_ending h
    · apply Allows.finalized
    · apply Allows.error

theorem adds_of_mem_plain {u : Update} {w : Write} (h : w ∈ t.plain u) :
  w.adds = false
  := by
  rcases List.mem_append.1 h with h | h
  · obtain ⟨b, rfl⟩ := eq_of_mem_inclusion h
    rfl
  · obtain ⟨-, rfl | ⟨message, rfl⟩⟩ := eq_of_mem_ending h <;> rfl

/-- A record is made only by the first ready update. -/
theorem enters_of_adds {now : BitVec 64} {u : Update} {w : Write}
    (h : w ∈ writes (t.receive now u).1) (hadds : w.adds) :
  t.enters u
  := by
  rcases mem_writes_receive h with ⟨henters, -⟩ | h | h
  · apply henters
  · rw [adds_of_mem_plain (t := t) (List.mem_append_left _ h)] at hadds
    cases hadds
  · rw [adds_of_mem_plain (List.mem_append_right _ h)] at hadds
    cases hadds

theorem pairwise_plain (t : Tracker) (u : Update) :
  (t.plain u).Pairwise fun w w' => w.ends = false ∧ (w.adds → w'.adds = false)
  := by
  apply List.pairwise_append.2
  refine ⟨?_, ?_, ?_⟩
  · rw [Update.inclusion]
    cases u.block? with
    | none => apply List.Pairwise.nil
    | some b => apply List.pairwise_singleton
  · rw [ending]
    cases u.dispatchError with
    | some e => apply List.pairwise_singleton
    | none =>
      dsimp only
      split
      · apply List.pairwise_singleton
      · apply List.Pairwise.nil
  · intro w hw w' _
    obtain ⟨b, rfl⟩ := eq_of_mem_inclusion hw
    use rfl
    rintro ⟨⟩

/-- The writes of one update are orderly. -/
theorem orderly_receive (t : Tracker) (now : BitVec 64) (u : Update) :
  t.Orderly u.key (writes (t.receive now u).1)
  where
  allowed := fun w hw => allowed_of_mem rfl hw
  ordered := by
    by_cases hbreak : t.breaksAt u
    · rw [(t.writes_receive now u).1 hbreak]
      apply List.pairwise_singleton
    · rw [(t.writes_receive now u).2 hbreak]
      apply List.pairwise_append.2
      refine ⟨?_, t.pairwise_plain u, ?_⟩
      · split
        · apply List.pairwise_singleton
        · apply List.Pairwise.nil
      · intro w hw w' hw'
        split at hw
        · rw [List.mem_singleton.1 hw]
          use rfl
          intro _
          apply adds_of_mem_plain hw'
        · cases hw

/-- The writes of a tracker are orderly. When the record is made already, it is not made
again. -/
theorem orderly_follow {es : List Taken} (hkey : ∀ e ∈ es, e.2.key = k) :
  t.Orderly k (writes (t.follow es).1)
    ∧ (t.tracked.isSome → ∀ w ∈ writes (t.follow es).1, w.adds = false)
  := by
  induction es generalizing t with
  | nil =>
    constructor
    · constructor
      · rintro w ⟨⟩
      · apply List.Pairwise.nil
    · rintro - w ⟨⟩
  | cons e es ih =>
    have hfirst := t.orderly_receive e.1 e.2
    rw [hkey e List.mem_cons_self] at hfirst
    have hadds (ht : t.tracked.isSome) (w : Write) (hw : w ∈ writes (t.receive e.1 e.2).1) :
        w.adds = false := by
      apply Bool.eq_false_iff.2
      intro hadds
      have henters := enters_of_adds hw hadds
      rw [enters, ← Option.not_isSome, ht, Bool.not_true, Bool.and_false] at henters
      cases henters
    cases hout : (t.receive e.1 e.2).2.2 with
    | some o =>
      rw [follow_cons_some hout]
      use hfirst, hadds
    | none =>
      obtain ⟨hrest, hnot⟩ := ih (t := (t.receive e.1 e.2).2.1)
        fun d hd => hkey d (List.mem_cons_of_mem e hd)
      have hstop := t.isSome_receive e.1 e.2
      rw [hout] at hstop
      rw [follow_cons_none hout, writes_append]
      constructor
      · constructor
        · intro w hw
          rcases List.mem_append.1 hw with hw | hw
          · apply hfirst.allowed w hw
          · apply (hrest.allowed w hw).of_fresh_eq (t.fresh_receive e.1 e.2)
        · apply List.pairwise_append.2
          use hfirst.ordered, hrest.ordered
          intro w hw w' hw'
          constructor
          · apply Bool.eq_false_iff.2
            intro hends
            have hlast := (key_of_mem_writes_receive hw).2 hends
            cases hstop.2 (.inr hlast)
          · intro hadd
            have henters := enters_of_adds hw hadd
            have hready := (Bool.and_eq_true_iff.1 henters).1
            apply hnot (isSome_tracked_of_isReady hout hready) w' hw'
      · intro ht w hw
        rcases List.mem_append.1 hw with hw | hw
        · apply hadds ht w hw
        · apply hnot (isSome_tracked_receive ht e.1 e.2) w hw

end Tracker

end Extrinsics
