import Extrinsics.Proofs.Tracking.Independence

/-!
# The block of a finalized record

A record is to name the block that included its call. But the finalization of a call writes the
status of its record and nothing else, so the record keeps the block of the last inclusion that
was noted. The block that the outcome of the call names is that of the finalization. The two
differ when the call was included again in a block that the node did not report as an inclusion,
and the record has no block when no inclusion was reported since the call became ready.
-/

namespace Extrinsics

namespace Update

/-- The block of the last inclusion that updates report. -/
def lastBlock? (us : List Update) : Option String := (us.filterMap block?).getLast?

/-- The updates of a call from the first ready one on, before the last one of the call. -/
def sinceReady (us : List Update) : List Update :=
  (us.takeWhile fun u => !u.isLast).dropWhile fun u => !u.isReady

theorem lastBlock?_cons (u : Update) (us : List Update) :
  lastBlock? (u :: us) = (lastBlock? us).or u.block?
  := by
  rw [lastBlock?, lastBlock?, List.filterMap_cons]
  cases u.block? with
  | none => simp
  | some b =>
    dsimp only
    rw [List.getLast?_cons]
    cases (us.filterMap block?).getLast? <;> rfl

/-- A ready update is not about a block. -/
theorem block?_of_isReady {u : Update} (h : u.isReady) :
  u.block? = none
  := by
  rw [isReady, decide_eq_true_iff] at h
  rw [block?, h]

end Update

namespace Write

theorem reviseAll_inclusion_none (k : String) (u : Update) :
  reviseAll k u.inclusion none = none
  := by
  rw [Update.inclusion]
  cases u.block? with
  | none => rfl
  | some b =>
    simp only [Option.toList_some, List.map_cons, List.map_nil, reviseAll_cons, reviseAll_nil]
    split <;> rfl

/-- Noting the block of an update leaves a record with that block, if there is one. -/
theorem reviseAll_inclusion_some (u : Update) (r : Record) :
  ∃ r', reviseAll u.key u.inclusion (some r) = some r'
    ∧ r'.blockHash = (u.block?.map Hash.normalize).or r.blockHash
  := by
  rw [Update.inclusion]
  cases u.block? with
  | none =>
    use r
    constructor <;> rfl
  | some b =>
    use r.included (Hash.normalize b)
    constructor
    · apply reviseAll_singleton rfl
    · rfl

end Write

namespace Tracker

variable {t : Tracker}

/-! ### While the tracker goes on -/

/-- Once a record was made, it gets the block of the last inclusion. -/
theorem reviseAll_follow_of_isSome {k : String} (ht : t.tracked.isSome) {es : List Taken}
    (hkey : ∀ e ∈ es, e.2.key = k) (h : (t.follow es).2.2 = none) (r : Record) :
  ∃ r', Write.reviseAll k (writes (t.follow es).1) (some r) = some r'
    ∧ r'.blockHash = ((Update.lastBlock? (es.map Prod.snd)).map Hash.normalize).or r.blockHash
  := by
  induction es generalizing r with
  | nil =>
    use r
    constructor <;> rfl
  | cons e es ih =>
    cases hr : (t.receive e.1 e.2).2.2 with
    | some o =>
      rw [follow_cons_some hr, hr] at h
      cases h
    | none =>
      obtain ⟨hwrites, hafter⟩ := receive_eq_none hr
      have henters : t.enters e.2 = false := by
        rw [enters, ← Option.not_isSome, ht, Bool.not_true, Bool.and_false]
      rw [after, henters, if_neg Bool.false_ne_true] at hafter
      rw [henters, if_neg Bool.false_ne_true, List.nil_append] at hwrites
      rw [follow_cons_none hr, hafter] at h ⊢
      obtain ⟨r₁, hr₁, hblock₁⟩ := Write.reviseAll_inclusion_some e.2 r
      rw [hkey e List.mem_cons_self] at hr₁
      obtain ⟨r₂, hr₂, hblock₂⟩ := ih (fun d hd => hkey d (List.mem_cons_of_mem e hd)) h r₁
      use r₂
      constructor
      · rw [writes_append, Write.reviseAll_append, hwrites, hr₁, hr₂]
      · rw [hblock₂, hblock₁, List.map_cons, Update.lastBlock?_cons, Option.map_or,
          Option.or_assoc]

/-- Where an update is ready, the record gets the block of the last inclusion from then on. -/
theorem reviseAll_follow {k : String} (ht : t.tracked = none) {es : List Taken}
    (hkey : ∀ e ∈ es, e.2.key = k) (h : (t.follow es).2.2 = none)
    (hready : ∃ e ∈ es, e.2.isReady) :
  ∃ r, Write.reviseAll k (writes (t.follow es).1) none = some r
    ∧ r.blockHash = (Update.lastBlock?
      ((es.map Prod.snd).dropWhile fun u => !u.isReady)).map Hash.normalize
  := by
  induction es with
  | nil =>
    obtain ⟨e, he, -⟩ := hready
    cases he
  | cons e es ih =>
    have hkeys (d : Taken) (hd : d ∈ es) : d.2.key = k := hkey d (List.mem_cons_of_mem e hd)
    cases hr : (t.receive e.1 e.2).2.2 with
    | some o =>
      rw [follow_cons_some hr, hr] at h
      cases h
    | none =>
      obtain ⟨hwrites, hafter⟩ := receive_eq_none hr
      have henters : t.enters e.2 = e.2.isReady := by
        rw [enters, ht, Option.isNone_none, Bool.and_true]
      rw [follow_cons_none hr, hafter] at h ⊢
      rw [henters] at hwrites
      rw [List.map_cons, List.dropWhile_cons, writes_append, Write.reviseAll_append, hwrites]
      cases he : e.2.isReady with
      | true =>
        have htracked : (t.after e.2).tracked.isSome := by
          rw [tracked_after, henters, he]
          rfl
        have hnote : e.2.inclusion = [] := by
          rw [Update.inclusion, Update.block?_of_isReady he]
          rfl
        obtain ⟨r, hrest, hblock⟩ :=
          reviseAll_follow_of_isSome htracked hkeys h (t.record e.1 e.2.key)
        use r
        constructor
        · rw [hnote, List.append_nil, if_pos rfl, Write.reviseAll_singleton
            (show (t.addition e).key = k from hkey e List.mem_cons_self)]
          apply hrest
        · rw [hblock, Bool.not_true, if_neg Bool.false_ne_true, Update.lastBlock?_cons,
            Update.block?_of_isReady he, Option.or_none]
          apply Option.or_none
      | false =>
        have hsame : t.after e.2 = t := by
          rw [after, henters, he]
          rfl
        rw [hsame] at h ⊢
        rw [if_neg Bool.false_ne_true, List.nil_append, Write.reviseAll_inclusion_none]
        apply ih hkeys h
        obtain ⟨d, hd, hready⟩ := hready
        rcases List.mem_cons.1 hd with rfl | hd
        · rw [he] at hready
          cases hready
        · use d

/-! ### When the call is finalized -/

theorem verdict_eq_finalized {u : Update} {hash block : String}
    (h : t.verdict u = some (.finalized hash block)) :
  u.dispatchError = none ∧ hash = u.key ∧ ∃ b, u.finalBlock? = some b ∧ block = Hash.normalize b
  := by
  rw [verdict] at h
  cases he : u.dispatchError with
  | some e =>
    rw [he] at h
    cases h
  | none =>
    rw [he] at h
    obtain ⟨b, hb, hverdict⟩ := Option.map_eq_some_iff.1 h
    cases hverdict
    use rfl, rfl, b

/-- A tracker that ends with the finalization of a block has taken an update that tells it, and
writes that the call is finalized. -/
theorem receive_eq_finalized {now : BitVec 64} {u : Update} {hash block : String}
    (h : (t.receive now u).2.2 = some (.finalized hash block)) :
  u.isLast ∧ t.verdict u = some (.finalized hash block)
    ∧ writes (t.receive now u).1 = [.status u.key .finalized]
  := by
  rcases t.receive_cases now u with
    ⟨-, hr⟩ | ⟨-, -, hr⟩ | ⟨hbreak, hlast, ds, o, hr, -, -, hverdict⟩
  · rw [hr] at h
    cases h
  · rw [hr] at h
    cases h
  · rw [hr] at h
    obtain rfl : o = .finalized hash block := Option.some.inj h
    rcases hverdict with hverdict | ⟨-, ho⟩
    · use hlast, hverdict
      obtain ⟨he, -, b, hb, -⟩ := verdict_eq_finalized hverdict
      have hstatus : u.status = .finalized b := by
        rw [Update.finalBlock?] at hb
        split at hb <;> cases hb
        assumption
      rw [(t.writes_receive now u).2 hbreak]
      simp [plain, ending, enters, Update.inclusion, Update.block?, Update.isReady,
        Update.isFinalized, he, hb, hstatus]
    · cases ho

end Tracker

namespace Task.Followed

variable {t : Task} {h : History} {hash block : String}

/-- A task whose outcome is the finalization of its call took the updates before the last one
of the call, with which its tracker went on, and then the last one. -/
theorem of_finalized (ht : t.Followed h) (hout : t.outcome = some (.finalized hash block)) :
  ∃ es, ∃ e : Taken, (t.tracker.fresh.follow es).2.2 = none
    ∧ ((t.tracker.fresh.follow es).2.1.receive e.1 e.2).2.2 = some (.finalized hash block)
    ∧ h.done = (t.tracker.fresh.follow es).1
      ++ ((t.tracker.fresh.follow es).2.1.receive e.1 e.2).1
    ∧ (h.received.takeWhile fun u => !u.isLast) = es.map Prod.snd
    ∧ h.received.find? Update.isLast = some e.2
  := by
  obtain ⟨⟨hfollow, hreceived⟩ | ⟨-, -, hout⟩, -⟩ := ht.stopped _ hout
  · have hne : h.taken ≠ [] := by
      intro hnil
      rw [hnil] at hfollow
      cases hfollow
    have hdone := ht.done
    rw [← List.dropLast_concat_getLast hne] at hfollow hreceived hdone
    rw [Tracker.follow_concat ht.early] at hfollow hdone
    rw [List.map_append] at hreceived
    use h.taken.dropLast, h.taken.getLast hne, ht.early, hfollow, hdone
    apply takeWhile_of_isPrefix hreceived
    · intro u hu
      obtain ⟨d, hd, rfl⟩ := List.mem_map.1 hu
      apply Tracker.not_isLast_of_follow ht.early d hd
    · apply (Tracker.receive_eq_finalized hfollow).1
  · cases hout

/-- The finalization that the outcome tells is that of the last update. -/
theorem find?_isLast (ht : t.Followed h) (hout : t.outcome = some (.finalized hash block)) :
  ∃ u b, h.received.find? Update.isLast = some u ∧ hash = u.key ∧ u.finalBlock? = some b
    ∧ block = Hash.normalize b
  := by
  obtain ⟨es, e, -, hends, -, -, hfind⟩ := ht.of_finalized hout
  obtain ⟨-, hverdict, -⟩ := Tracker.receive_eq_finalized hends
  obtain ⟨-, hhash, b, hb, hblock⟩ := Tracker.verdict_eq_finalized hverdict
  use e.2, b, hfind, hhash, hb

/-- What the task has written makes a finalized record, with the block of the last inclusion
since the call became ready. -/
theorem reviseAll_of_finalized (ht : t.Followed h)
    (hout : t.outcome = some (.finalized hash block)) {k : String}
    (hown : ∀ u ∈ h.received, u.key = k)
    (hready : ∃ u ∈ h.received.takeWhile fun u => !u.isLast, u.isReady) :
  ∃ r, Write.reviseAll k (writes h.done) none = some r ∧ r.status = .finalized
    ∧ r.blockHash = (Update.lastBlock? (Update.sinceReady h.received)).map Hash.normalize
  := by
  obtain ⟨es, e, hgoes, hends, hdone, htake, hfind⟩ := ht.of_finalized hout
  obtain ⟨-, -, hwrites⟩ := Tracker.receive_eq_finalized hends
  have hkey : ∀ d ∈ es, d.2.key = k := by
    intro d hd
    apply hown
    apply (List.takeWhile_prefix fun u => !u.isLast).subset
    rw [htake]
    apply List.mem_map_of_mem hd
  rw [htake] at hready
  have hready' : ∃ d ∈ es, d.2.isReady := by
    obtain ⟨u, hu, hready⟩ := hready
    obtain ⟨d, hd, rfl⟩ := List.mem_map.1 hu
    use d
  obtain ⟨r, hr, hblock⟩ := Tracker.reviseAll_follow rfl hkey hgoes hready'
  have hstatus : (Write.status e.2.key .finalized).key = k :=
    hown e.2 (List.mem_of_find?_eq_some hfind)
  use r.withStatus .finalized
  rw [hdone, writes_append, Write.reviseAll_append, hr, hwrites,
    Write.reviseAll_singleton hstatus, Update.sinceReady, htake]
  use rfl, rfl
  apply hblock

end Task.Followed

namespace Executor

variable {client : Client} {as : List Action} {i : Nat} {k : String}

/-- When no other call has the hash of a call, and the outcome of the call is its finalization,
its record is finalized. Its block is that of
the last inclusion that was reported from the first ready update on, so it is the block of the
outcome exactly when that inclusion names the block of the finalization. -/
theorem finalized_record (h : Sole client as i k) {t : Task}
    (ht : (run client as).tasks[i]? = some t) {hash block : String}
    (hout : t.outcome = some (.finalized hash block))
    (hready : ∃ u ∈ (history client as i).received.takeWhile fun u => !u.isLast, u.isReady) :
  (∃ r, (run client as).store.snapshot.record? hash = some r ∧ r.status = .finalized
      ∧ r.blockHash
        = (Update.lastBlock? (Update.sinceReady (history client as i).received)).map Hash.normalize
      ∧ (r.blockHash = some block
        ↔ ∃ b, Update.lastBlock? (Update.sinceReady (history client as i).received) = some b
          ∧ Hash.normalize b = block))
    ∧ ∃ u b, (history client as i).received.find? Update.isLast = some u
      ∧ u.finalBlock? = some b ∧ block = Hash.normalize b
  := by
  have hfollowed := followed_run client as ht
  obtain ⟨u, b, hfind, rfl, hb, hblock⟩ := hfollowed.find?_isLast hout
  obtain ⟨r, hr, hstatus, hincluded⟩ := hfollowed.reviseAll_of_finalized hout h.own hready
  constructor
  · use r
    rw [h.own u (List.mem_of_find?_eq_some hfind), h.record?_run, hincluded]
    use hr, hstatus, rfl
    apply Option.map_eq_some_iff
  · use u, b, hfind, hb

end Executor

namespace Samples

/-- The block of a claim is retracted, and the claim is finalized in another one. -/
def retractedRun : List Executor.Action :=
  [.prepare preparedClaim, .submit 0 .unsigned ⟨none, some .returns, none⟩,
    .send 0 (.ofStatus "0xDEF" .ready), .advance 1 0,
    .send 0 (.ofStatus "0xDEF" (.inBlock "0xB1")), .advance 2 0,
    .send 0 (.ofStatus "0xDEF" (.retracted "0xB1")), .advance 3 0,
    .send 0 (.ofStatus "0xDEF" (.finalized "0xB2")), .advance 4 0]

/-- A claim is finalized without a report that a block includes it. -/
def skippedRun : List Executor.Action :=
  [.prepare preparedClaim, .submit 0 .unsigned ⟨none, some .returns, none⟩,
    .send 0 (.ofStatus "0xDEF" .ready), .advance 1 0,
    .send 0 (.ofStatus "0xDEF" (.finalized "0xB2")), .advance 2 0]

end Samples

namespace Executor

/-- The record of a finalized call may name a block that was retracted. -/
theorem not_finalBlock_retractedRun :
  ¬ ∀ client as i k t hash block, Sole client as i k →
    (run client as).tasks[i]? = some t → t.outcome = some (.finalized hash block) →
    (∃ u ∈ (history client as i).received.takeWhile fun u => !u.isLast, u.isReady) →
    ∃ r, (run client as).store.snapshot.record? hash = some r ∧ r.status = .finalized
      ∧ r.blockHash = some block
  := by
  intro hnames
  have hsole : Sole Samples.client Samples.retractedRun 0 "0xdef" :=
    Sole.of_single rfl (by decide)
  obtain ⟨r, hr, -, hblock⟩ := hnames Samples.client Samples.retractedRun 0 _ _ "0xdef" "0xb2"
    hsole rfl rfl (by decide)
  have hfirst : ((run Samples.client Samples.retractedRun).store.snapshot.record? "0xdef").bind
      Record.blockHash = some "0xb1" := rfl
  rw [hr, Option.bind_some, hblock] at hfirst
  revert hfirst
  decide

theorem finalized_record_skippedRun :
  ∃ r, (run Samples.client Samples.skippedRun).store.snapshot.record? "0xdef" = some r
    ∧ r.status = .finalized ∧ r.blockHash = none
  := by
  have hsole : Sole Samples.client Samples.skippedRun 0 "0xdef" :=
    Sole.of_single rfl (by decide)
  obtain ⟨t, ht, hout⟩ : ∃ t, (run Samples.client Samples.skippedRun).tasks[0]? = some t
      ∧ t.outcome = some (.finalized "0xdef" "0xb2") :=
    ⟨_, rfl, rfl⟩
  obtain ⟨⟨r, hr, hstatus, hblock, -⟩, -⟩ := finalized_record hsole ht hout (by decide)
  use r, hr, hstatus, hblock

end Executor

end Extrinsics
