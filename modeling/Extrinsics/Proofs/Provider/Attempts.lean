import Extrinsics.Proofs.Provider.Connections
import Extrinsics.Provider.Scenario

/-!
# The attempts of a scenario

What has become of an attempt is seen from its job, and what the connections know of attempts are
their clients and statuses. Four things matter for them: an attempt ends, it breaks off, the
attempts of a mount are aborted, or something else happens that leaves all this alone. A history
of a scenario is a list of such events.
-/

namespace Extrinsics

open Provider (Attempt)

/-! ### What the connections know of attempts -/

namespace ProviderState

/-- The client and the status of the connection to a chain of a kind. -/
def progress (s : ProviderState) (kind : ChainKind) (chain : String) :
    Option (Option Client × ApiStatus) :=
  ((s.connections kind).get? chain).map fun d => (d.client, d.status)

/-- Another status of the extension or another choice is no progress. -/
theorem progress_mk (s : ProviderState) (extension : ExtensionStatus) (selected : Option Nat) :
  progress { s with extension, selected } = s.progress
  := by
  funext kind
  cases kind <;> rfl

theorem progress_settleAttempt (s : ProviderState) (kind kind' : ChainKind) (chain chain' : String)
    (client : Option Client) (status : ApiStatus) :
  (s.settleAttempt kind chain client status).progress kind' chain'
    = (s.progress kind' chain').map
      fun x => if kind' = kind ∧ chain' = chain then (client, status) else x
  := by
  rw [progress, settleAttempt, get?_modify, progress, Option.map_map, Option.map_map]
  congr 1
  funext d
  rw [Function.comp_apply, Function.comp_apply]
  split_ifs <;> rfl

theorem progress_setAccounts (s : ProviderState) (chain : String) (l : List Account) :
  (s.setAccounts chain l).progress = s.progress
  := by
  funext kind chain'
  apply map_get?_modify
  intro d
  rfl

theorem progress_deactivate (s : ProviderState) :
  s.deactivate.progress = s.progress
  := by
  funext kind chain
  rw [progress, get?_deactivate, progress, Option.map_map]
  congr 1
  funext d
  rw [Function.comp_apply]
  split_ifs <;> rfl

/-- In the beginning no connection has a client. -/
theorem progress_initial (t : NetworkTable) (kind : ChainKind) (chain : String) :
  (initial t).progress kind chain
    = ((t.ofKind kind).get? chain).map fun _ => (none, .initializing)
  := by
  rw [progress, connections_initial, Table.get?_mapWithKey, Option.map_map]
  rfl

end ProviderState

namespace Activation

variable (p : Provider)

theorem progress_enabled (answer : Except ExtensionError (List GrantedExtension)) :
  (enabled p answer).1.state.progress = p.state.progress
  := by
  by_cases h : answer.toOption.getD [] = []
  · rw [(enabled_of_nil p h).1]
    apply p.state.progress_mk
  · obtain ⟨⟨selected, hstate⟩, -⟩ := enabled_of_ne_nil p h
    rw [hstate]
    apply p.state.progress_mk

theorem progress_listed (granted : List GrantedExtension) (chain : String)
    (rest : List SupportedChain) (found : Bool)
    (answer : Except ExtensionError (List ListedAccount)) :
  (listed p granted chain rest found answer).1.state.progress = p.state.progress
  := by
  cases answer with
  | error e =>
    obtain ⟨⟨selected, hstate⟩, -⟩ := listed_error p granted found chain rest e
    rw [hstate]
    apply p.state.progress_mk
  | ok l =>
    obtain ⟨⟨selected, hstate⟩, -⟩ := listed_ok p granted found chain rest l
    rw [hstate, ← p.state.progress_setAccounts chain (nameAccounts l)]
    apply ProviderState.progress_mk

end Activation

/-! ### What has become of an attempt -/

/-- What has become of an attempt. -/
inductive Fate where
  | running (a : Attempt)
  /-- It has ended with a status. -/
  | ended (chain : String) (status : ApiStatus)
  /-- It was cancelled or broke off. -/
  | cancelled

/-- The chain and the status of an attempt that has ended with one. -/
def Fate.status? : Fate → Option (String × ApiStatus)
  | ended chain status => some (chain, status)
  | _ => none

namespace Job

/-- What has become of an attempt that is a job. -/
def fate? : Job → Option Fate
  | attempting a _ => some (.running a)
  | attempted chain status => some (.ended chain status)
  | cancelled => some .cancelled
  | activating _ _ => none
  | activated _ => none

/-- The job after it was cancelled. One that has ended stays as it is. -/
def abort (j : Job) : Job := if j.isFinished then j else cancelled

theorem status?_eq (j : Job) :
  j.status? = j.fate?.bind Fate.status?
  := by
  cases j <;> rfl

end Job

namespace Scenario

/-- What has become of an attempt, given the number of its job. -/
def fate? (s : Scenario) (i : Nat) : Option Fate := s.jobs[i]?.bind Job.fate?

/-- What the connections know of attempts. -/
def progress (s : Scenario) : ChainKind → String → Option (Option Client × ApiStatus) :=
  s.provider.state.progress

/-- From one scenario to another nothing becomes of the attempts, and the connections come to know
nothing more of them. -/
structure SameAttempts (s t : Scenario) : Prop where
  config : t.provider.config = s.provider.config
  fate? : t.fate? = s.fate?
  progress : t.progress = s.progress

variable {s t u : Scenario}

theorem SameAttempts.refl (s : Scenario) :
  SameAttempts s s
  := ⟨rfl, rfl, rfl⟩

theorem SameAttempts.trans (h : SameAttempts s t) (h' : SameAttempts t u) :
  SameAttempts s u
  := ⟨h'.config.trans h.config, h'.fate?.trans h.fate?, h'.progress.trans h.progress⟩

/-! ### One job -/

theorem fate?_setJob {i : Nat} {j : Job} (h : s.jobs[i]? = some j) (j' : Job) (k : Nat) :
  (s.setJob i j').fate? k = if k = i then j'.fate? else s.fate? k
  := by
  rw [fate?, setJob, List.getElem?_set, fate?]
  obtain ⟨hi, -⟩ := List.getElem?_eq_some_iff.1 h
  by_cases hk : k = i
  · rw [if_pos hk.symm, if_pos hi, if_pos hk]
    rfl
  · rw [if_neg (Ne.symm hk), if_neg hk]

/-- A job in place of another one of the same fate. -/
theorem sameAttempts_setJob {i : Nat} {j j' : Job} (h : s.jobs[i]? = some j)
    (hfate : j'.fate? = j.fate?) :
  SameAttempts s (s.setJob i j')
  := by
  refine ⟨rfl, ?_, rfl⟩
  funext k
  rw [fate?_setJob h]
  split_ifs with hk
  · rw [hk, fate?, h, hfate]
    rfl
  · rfl

variable {i : Nat} {a : Attempt} {asked : Bool}

theorem fate?_endAttempt (h : s.jobs[i]? = some (.attempting a asked))
    (r : Except ConnectionError Client) (k : Nat) :
  (s.endAttempt i a r).fate? k
    = if k = i then some (.ended a.chain (.ofClient r.toOption)) else s.fate? k
  := by
  have hset := fate?_setJob (s := { s with provider := (s.provider.complete a r).1 }) h
    (.attempted a.chain (s.provider.complete a r).2) k
  refine Eq.trans hset ?_
  cases r <;> rfl

theorem progress_endAttempt (s : Scenario) (i : Nat) (a : Attempt)
    (r : Except ConnectionError Client) (kind : ChainKind) (chain : String) :
  (s.endAttempt i a r).progress kind chain = (s.progress kind chain).map
    fun x => if kind = a.kind ∧ chain = a.chain then (r.toOption, .ofClient r.toOption) else x
  := by
  have hsettle := s.provider.state.progress_settleAttempt a.kind kind a.chain chain r.toOption
    (.ofClient r.toOption)
  rw [← Provider.state_complete] at hsettle
  exact hsettle

/-! ### Aborting -/

theorem getElem?_foldl_set (l : List Job) (is : List Nat) (i : Nat) :
  (is.foldl (fun l i => l.set i .cancelled) l)[i]?
    = l[i]?.map fun j => if i ∈ is then .cancelled else j
  := by
  induction is generalizing l with
  | nil => simp
  | cons k is ih =>
    rw [List.foldl_cons, ih, List.getElem?_set]
    by_cases hk : k = i
    · subst hk
      rw [if_pos rfl]
      by_cases hi : k < l.length
      · rw [if_pos hi, List.getElem?_eq_getElem hi]
        simp
      · rw [if_neg hi, List.getElem?_eq_none (Nat.le_of_not_lt hi)]
        rfl
    · rw [if_neg hk]
      simp [Ne.symm hk]

/-- Those of some jobs that have not ended are cancelled. -/
theorem getElem?_abort (s : Scenario) (jobs : List Nat) (i : Nat) :
  (s.abort jobs).jobs[i]? = s.jobs[i]?.map fun j => if i ∈ jobs then j.abort else j
  := by
  rw [abort, getElem?_foldl_set]
  cases hj : s.jobs[i]? with
  | none => rfl
  | some j =>
    have hfinished : s.areFinished [i] = j.isFinished := by
      simp [areFinished, hj]
    simp only [Option.map_some, Job.abort, List.mem_filter, hfinished]
    cases j.isFinished <;> simp

/-! ### Events -/

/-- What can happen to attempts that are under way. -/
inductive Event where
  /-- The attempt that is a job ends with a client or an error. -/
  | ends (i : Nat) (r : Except ConnectionError Client)
  /-- The attempt that is a job breaks off. -/
  | breaksOff (i : Nat)
  /-- The attempts of the mount are aborted. -/
  | abort
  /-- Anything else. It leaves attempts alone. -/
  | other

/-- A step of a scenario in which some jobs are the attempts of a mount. An attempt may end at any
time and in any way. -/
inductive Step (jobs : List Nat) (s : Scenario) : Event → Scenario → Prop where
  | ends {i : Nat} {a : Attempt} {asked : Bool} (h : s.jobs[i]? = some (.attempting a asked))
      (r : Except ConnectionError Client) :
    Step jobs s (.ends i r) (s.endAttempt i a r)
  | breaksOff {i : Nat} {a : Attempt} {asked : Bool}
      (h : s.jobs[i]? = some (.attempting a asked)) :
    Step jobs s (.breaksOff i) (s.setJob i .cancelled)
  | abort : Step jobs s .abort (s.abort jobs)
  | other {t : Scenario} (h : SameAttempts s t) : Step jobs s .other t

/-- A history that leads from one scenario to another. -/
inductive Leads (jobs : List Nat) : Scenario → List Event → Scenario → Prop where
  | nil (s : Scenario) : Leads jobs s [] s
  | cons {s t u : Scenario} {e : Event} {es : List Event} (h : Step jobs s e t)
      (hrest : Leads jobs t es u) :
    Leads jobs s (e :: es) u

theorem Leads.append {jobs : List Nat} {es es' : List Event} (h : Leads jobs s es t)
    (h' : Leads jobs t es' u) :
  Leads jobs s (es ++ es') u
  := by
  induction h with
  | nil => exact h'
  | cons hstep _ ih => exact .cons hstep (ih h')

namespace Event

/-- Whether an event decides what becomes of an attempt that is a job. -/
def concerns (i : Nat) : Event → Bool
  | ends j _ => j = i
  | breaksOff j => j = i
  | abort => true
  | other => false

/-- What an event makes of an attempt that it concerns. -/
def fate (a : Attempt) : Event → Fate
  | ends _ r => .ended a.chain (.ofClient r.toOption)
  | breaksOff _ => .cancelled
  | abort => .cancelled
  | other => .running a

/-- The result with which an attempt ends. -/
def result? : Event → Option (Except ConnectionError Client)
  | ends _ r => some r
  | _ => none

end Event

/-- What has become of an attempt after a history: the first event that concerns it decides. -/
def fateAfter (es : List Event) (i : Nat) (a : Attempt) : Fate :=
  (es.find? (Event.concerns i)).elim (.running a) (Event.fate a)

/-- The result of an attempt that has ended in a history, before it broke off or was aborted. -/
def resultAfter? (es : List Event) (i : Nat) : Option (Except ConnectionError Client) :=
  (es.find? (Event.concerns i)).bind Event.result?

namespace Event

variable {e : Event} {i : Nat} {a : Attempt}

theorem fate_ne_running (h : e.concerns i) (b : Attempt) :
  e.fate a ≠ .running b
  := by
  cases e with
  | other => cases h
  | _ => exact Fate.noConfusion

end Event

section

variable {es : List Event} {i : Nat} {a b : Attempt}

theorem fateAfter_eq_running_iff :
  fateAfter es i a = .running b ↔ es.find? (Event.concerns i) = none ∧ a = b
  := by
  rw [fateAfter]
  cases h : es.find? (Event.concerns i) with
  | none => simp
  | some e =>
    have hconcerns := List.find?_some h
    simp only [Option.elim_some, reduceCtorEq, false_and, iff_false]
    exact e.fate_ne_running hconcerns b

/-- An attempt that is under way is decided on by the first event that concerns it. -/
theorem fateAfter_concat_of_eq_running (h : fateAfter es i a = .running b) {e : Event}
    (he : e.concerns i) :
  fateAfter (es ++ [e]) i a = e.fate b
  := by
  obtain ⟨hnone, rfl⟩ := fateAfter_eq_running_iff.1 h
  rw [fateAfter, List.find?_append, hnone, List.find?_singleton, if_pos he]
  rfl

theorem fateAfter_concat_of_not_concerns {e : Event} (he : e.concerns i = false) :
  fateAfter (es ++ [e]) i a = fateAfter es i a
  := by
  rw [fateAfter, List.find?_append, List.find?_singleton, he, if_neg Bool.false_ne_true,
    Option.or_none]
  rfl

/-- An attempt that is not under way any more stays as it is. -/
theorem fateAfter_append_of_ne_running (h : ∀ b, fateAfter es i a ≠ .running b)
    (es' : List Event) :
  fateAfter (es ++ es') i a = fateAfter es i a
  := by
  cases he : es.find? (Event.concerns i) with
  | none => exact (h a (fateAfter_eq_running_iff.2 ⟨he, rfl⟩)).elim
  | some e =>
    rw [fateAfter, fateAfter, List.find?_append, he]
    rfl

/-- The result of an attempt that has ended stays. -/
theorem resultAfter?_append {r : Except ConnectionError Client} (h : resultAfter? es i = some r)
    (es' : List Event) :
  resultAfter? (es ++ es') i = some r
  := by
  obtain ⟨e, he, hr⟩ := Option.bind_eq_some_iff.1 h
  rw [resultAfter?, List.find?_append, he]
  exact hr

/-- An attempt that is under way ends with a result, and it stays so. -/
theorem resultAfter?_of_eq_running (h : fateAfter es i a = .running b)
    (r : Except ConnectionError Client) (es' : List Event) :
  resultAfter? (es ++ .ends i r :: es') i = some r
  := by
  obtain ⟨hnone, -⟩ := fateAfter_eq_running_iff.1 h
  rw [resultAfter?, List.find?_append, hnone, List.find?_cons_of_pos (by simp [Event.concerns])]
  rfl

end

/-! ### Going on -/

/-- The scenario leads to another one without an abort. -/
def Continues (jobs : List Nat) (s t : Scenario) : Prop :=
  ∃ es, Event.abort ∉ es ∧ Leads jobs s es t

namespace Continues

variable {jobs : List Nat}

theorem refl (jobs : List Nat) (s : Scenario) :
  Continues jobs s s
  := ⟨[], List.not_mem_nil, .nil s⟩

theorem trans (h : Continues jobs s t) (h' : Continues jobs t u) :
  Continues jobs s u
  := by
  obtain ⟨es, hes, hleads⟩ := h
  obtain ⟨es', hes', hleads'⟩ := h'
  refine ⟨es ++ es', ?_, hleads.append hleads'⟩
  rw [List.mem_append, not_or]
  exact ⟨hes, hes'⟩

theorem of_step {e : Event} (h : Step jobs s e t) (he : e ≠ .abort) :
  Continues jobs s t
  := ⟨[e], by simpa using he.symm, .cons h (.nil t)⟩

theorem of_same (h : SameAttempts s t) :
  Continues jobs s t
  := of_step (.other h) Event.noConfusion

/-- Where there are no attempts, nothing becomes of them. -/
theorem sameAttempts (h : Continues jobs s t) (hnone : ∀ i, s.fate? i = none) :
  SameAttempts s t
  := by
  obtain ⟨es, habort, hleads⟩ := h
  induction hleads with
  | nil s => exact .refl s
  | @cons s t u e es hstep _ ih =>
    have hnot {i : Nat} {a : Attempt} {asked : Bool} :
        s.jobs[i]? ≠ some (.attempting a asked) := by
      intro hi
      have hfate := hnone i
      rw [Scenario.fate?, hi] at hfate
      cases hfate
    cases hstep with
    | ends hi r => exact (hnot hi).elim
    | breaksOff hi => exact (hnot hi).elim
    | abort => exact (habort List.mem_cons_self).elim
    | other hsame =>
      apply hsame.trans (ih _ (fun hmem => habort (List.mem_cons_of_mem _ hmem)))
      intro i
      rw [hsame.fate?, hnone]

end Continues

/-! ### Activations in between -/

/-- What leaves the jobs alone is seen from the provider. -/
theorem SameAttempts.of_jobs (hjobs : t.jobs = s.jobs)
    (hconfig : t.provider.config = s.provider.config) (hprogress : t.progress = s.progress) :
  SameAttempts s t
  := by
  refine ⟨hconfig, ?_, hprogress⟩
  funext i
  rw [Scenario.fate?, hjobs]
  rfl

theorem enable_fst (s : Scenario) (i : Nat) :
  (s.enable i).1.provider = s.provider ∧ (s.enable i).1.jobs = s.jobs
  := by
  rw [enable]
  cases s.extensions[i]? <;> exact ⟨rfl, rfl⟩

theorem sameAttempts_enable (s : Scenario) (i : Nat) :
  SameAttempts s (s.enable i).1
  := by
  obtain ⟨hprovider, hjobs⟩ := s.enable_fst i
  apply SameAttempts.of_jobs hjobs
  · rw [hprovider]
  · rw [progress, hprovider]
    rfl

theorem jobs_answer (s : Scenario) (stage : Activation) (i : Nat) :
  (s.answer stage i).1.jobs = s.jobs
  := by
  cases stage with
  | enabling => exact (s.enable_fst i).2
  | _ => rfl

/-- An answer of an extension does not matter for attempts. -/
theorem sameAttempts_answer (s : Scenario) (stage : Activation) (i : Nat) :
  SameAttempts s (s.answer stage i).1
  := by
  cases stage with
  | enabling =>
    apply (s.sameAttempts_enable i).trans
    exact .of_jobs rfl (Activation.config_enabled _ _) (Activation.progress_enabled _ _)
  | listing granted chain format rest found =>
    exact .of_jobs rfl (Activation.config_listed _ _ _ _ _ _) (Activation.progress_listed ..)
  | done granted => exact .refl s

/-- A conversation stops, or it goes on with the next answer. -/
theorem converse_succ (bound : Nat) (s : Scenario) (stage : Activation) :
  (∃ e, converse (bound + 1) s stage = (s, stage, e))
    ∨ converse (bound + 1) s stage
      = converse bound (s.answer stage s.current).1 (s.answer stage s.current).2
  := by
  cases stage with
  | done => exact .inl ⟨none, rfl⟩
  | _ =>
    rw [converse]
    · split_ifs
      · exact .inr rfl
      · exact .inl ⟨_, rfl⟩
    · intro granted h
      cases h

/-- The answers that an extension gives at once do not matter for attempts. -/
theorem sameAttempts_converse (bound : Nat) (s : Scenario) (stage : Activation) :
  SameAttempts s (converse bound s stage).1 ∧ (converse bound s stage).1.jobs = s.jobs
  := by
  induction bound generalizing s stage with
  | zero => exact ⟨.refl s, rfl⟩
  | succ bound ih =>
    rcases converse_succ bound s stage with ⟨e, h⟩ | h
    · rw [h]
      exact ⟨.refl s, rfl⟩
    · rw [h]
      obtain ⟨hsame, hjobs⟩ := ih (s.answer stage s.current).1 (s.answer stage s.current).2
      exact ⟨(s.sameAttempts_answer stage _).trans hsame, hjobs.trans (s.jobs_answer stage _)⟩

theorem sameAttempts_goOn {i : Nat} {j : Job} (hi : s.jobs[i]? = some j) (hj : j.fate? = none)
    (stage : Activation) :
  SameAttempts s (s.goOn i stage)
  := by
  obtain ⟨hsame, hjobs⟩ := sameAttempts_converse s.questions s stage
  rw [← hjobs] at hi
  rw [goOn]
  generalize converse s.questions s stage = next at hsame hi
  obtain ⟨t, stage, e⟩ := next
  cases stage with
  | done granted => exact hsame.trans (sameAttempts_setJob hi hj.symm)
  | _ =>
    cases e with
    | none => exact hsame.trans (sameAttempts_setJob hi hj.symm)
    | some e =>
      have hsleep : SameAttempts t (t.sleep (t.delay e) i) := ⟨rfl, rfl, rfl⟩
      exact hsame.trans (hsleep.trans (sameAttempts_setJob hi hj.symm))

/-! ### What happens of itself -/

variable {jobs : List Nat}

theorem continues_endAttempt {i : Nat} {a : Attempt} {asked : Bool}
    (h : s.jobs[i]? = some (.attempting a asked)) (r : Except ConnectionError Client) :
  Continues jobs s (s.endAttempt i a r)
  := .of_step (.ends h r) Event.noConfusion

/-- An attempt that asks its endpoint goes on, ends or breaks off. -/
theorem continues_askEndpoint {i : Nat} {a : Attempt}
    (h : s.jobs[i]? = some (.attempting a false)) :
  Continues jobs s (s.askEndpoint i a)
  := by
  rw [askEndpoint]
  split
  · exact continues_endAttempt h _
  · exact .of_step (.breaksOff h) Event.noConfusion
  · let t : Scenario := { s with asked := s.asked ++ [a.url] }
    have hasked : Continues jobs s t := .of_same ⟨rfl, rfl, rfl⟩
    have ht : t.jobs[i]? = some (.attempting a false) := h
    apply hasked.trans
    dsimp only
    split
    · exact continues_endAttempt ht _
    · exact continues_endAttempt ht _
    · exact .of_same (sameAttempts_setJob ht rfl)
    · rename_i ms _
      have hsleep : SameAttempts t (t.sleep ms i) := ⟨rfl, rfl, rfl⟩
      split_ifs
      · exact continues_endAttempt ht _
      · exact .of_same (hsleep.trans (sameAttempts_setJob ht rfl))

theorem sameAttempts_begin (s : Scenario) :
  SameAttempts s { s with provider := Activation.begin s.provider }
  := by
  refine .of_jobs rfl (s.provider.config_setExtension .connecting) ?_
  refine (congrArg ProviderState.progress (s.provider.state_setExtension .connecting)).trans ?_
  apply s.provider.state.progress_mk

theorem continues_resume (s : Scenario) (i : Nat) :
  Continues jobs s (s.resume i)
  := by
  rw [resume]
  split
  case h_1 a h => exact continues_askEndpoint h
  case h_2 a h => exact continues_endAttempt h _
  case h_3 stage h =>
    let t : Scenario := { s with provider := Activation.begin s.provider }
    have ht : t.jobs[i]? = some (.activating stage none) := h
    exact .of_same (s.sameAttempts_begin.trans (sameAttempts_goOn ht rfl stage))
  case h_4 stage e h =>
    rw [← s.jobs_answer stage e] at h
    exact .of_same ((s.sameAttempts_answer stage e).trans (sameAttempts_goOn h rfl _))
  case h_5 => exact .refl jobs s

theorem continues_settle (s : Scenario) :
  Continues jobs s s.settle
  := by
  have hfold (q : List Nat) : ∀ s : Scenario, Continues jobs s (q.foldl resume s) := by
    induction q with
    | nil => exact .refl jobs
    | cons i q ih =>
      intro s
      exact (s.continues_resume i).trans (ih _)
  let t : Scenario := { s with queue := [] }
  have hqueue : SameAttempts s t := ⟨rfl, rfl, rfl⟩
  exact (Continues.of_same hqueue).trans (hfold s.queue t)

theorem continues_jump (s : Scenario) (time : Nat) :
  Continues jobs s (s.jump time)
  := .of_same ⟨rfl, rfl, rfl⟩

theorem continues_passUntil (time bound : Nat) (s : Scenario) :
  Continues jobs s (passUntil time bound s)
  := by
  induction bound generalizing s with
  | zero => exact s.continues_jump time
  | succ bound ih =>
    rw [passUntil]
    apply s.continues_settle.trans
    split
    · exact continues_jump _ time
    · split_ifs
      · exact (continues_jump _ _).trans (ih _)
      · exact continues_jump _ time

theorem continues_wait (s : Scenario) (ms : Nat) :
  Continues jobs s (s.wait ms)
  := by
  rw [wait]
  split_ifs
  · exact .refl jobs s
  · exact continues_passUntil _ _ s

/-- While somebody waits for the attempts they go on, and if the wait is over they have ended. -/
theorem continues_joinUntil (time : Nat) (jobs : List Nat) (bound : Nat) (s : Scenario) :
  Continues jobs s (joinUntil time jobs bound s).1
    ∧ ((joinUntil time jobs bound s).2 → (joinUntil time jobs bound s).1.areFinished jobs)
  := by
  induction bound generalizing s with
  | zero => exact ⟨s.continues_jump time, Bool.noConfusion⟩
  | succ bound ih =>
    rw [joinUntil]
    split_ifs with hfinished
    · exact ⟨s.continues_settle, fun _ => hfinished⟩
    · split
      · exact ⟨s.continues_settle.trans (continues_jump _ time), Bool.noConfusion⟩
      · rename_i timer _ _
        split_ifs
        · obtain ⟨hcontinues, hover⟩ := ih (s.settle.jump timer.deadline)
          exact ⟨s.continues_settle.trans ((continues_jump _ _).trans hcontinues), hover⟩
        · exact ⟨s.continues_settle.trans (continues_jump _ time), False.elim⟩

/-! ### What is done from outside -/

theorem sameAttempts_startActivation (s : Scenario) :
  SameAttempts s s.startActivation.1
  := by
  refine ⟨rfl, ?_, rfl⟩
  funext i
  rw [Scenario.fate?, Scenario.fate?, startActivation, spawn, List.getElem?_append]
  split_ifs with hi
  · rfl
  · rw [List.getElem?_eq_none (Nat.le_of_not_lt hi)]
    cases hk : i - s.jobs.length <;> rfl

theorem sameAttempts_select (s : Scenario) (index : Option Nat) :
  SameAttempts s { s with provider := s.provider.select index }
  := by
  refine .of_jobs rfl (s.provider.config_select index) ?_
  refine (congrArg ProviderState.progress (s.provider.state_select index)).trans ?_
  apply s.provider.state.progress_mk

theorem continues_finishActivation (bound : Nat) (s : Scenario) (stage : Activation) :
  Continues jobs s (finishActivation bound s stage).1
  := by
  fun_induction finishActivation bound s stage with
  | case1 => exact .refl jobs _
  | case2 => exact .refl jobs _
  | case3 bound s stage _ e answered answer hanswer ih =>
    have hwait : Continues jobs s (s.wait (s.delay e)) := continues_wait s _
    have hsame := (s.wait (s.delay e)).sameAttempts_answer stage e
    rw [hanswer] at hsame
    exact hwait.trans ((Continues.of_same hsame).trans ih)

theorem continues_getSigner (s : Scenario) (address : String) :
  Continues jobs s (s.getSigner address).1
  := by
  have hwait : Continues jobs s (s.wait (s.delay s.current)) := continues_wait s _
  have henable := hwait.trans
    (.of_same ((s.wait (s.delay s.current)).sameAttempts_enable s.current))
  rw [getSigner]
  generalize hnext : (s.wait (s.delay s.current)).enable s.current = next at henable
  obtain ⟨t, access⟩ := next
  dsimp only
  split
  · exact henable
  · split
    · exact henable.trans (continues_wait t _)
    · exact henable.trans (continues_wait t _)

/-- What can be done from outside, beside mounting, waiting for attempts and aborting them. -/
inductive Call where
  | startActivation
  | activate
  | deactivate
  | select (index : Option Nat)
  | setExtension (e : ScriptedExtension)
  | getSigner (address : String)
  | listAccounts (format : BitVec 16)
  | advance (ms : Nat)

/-- The scenario after something was done from outside. -/
def perform (s : Scenario) : Call → Scenario
  | .startActivation => s.startActivation.1
  | .activate => s.activate.1
  | .deactivate => { s with provider := s.provider.deactivate }
  | .select index => { s with provider := s.provider.select index }
  | .setExtension e => s.setExtension e
  | .getSigner address => (s.getSigner address).1
  | .listAccounts format => (s.listAccounts format).1
  | .advance ms => s.advance ms

/-- Whatever is done from outside, attempts only end or break off by themselves meanwhile. -/
theorem continues_perform (s : Scenario) (call : Call) :
  Continues jobs s (s.perform call)
  := by
  cases call with
  | startActivation => exact .of_same s.sameAttempts_startActivation
  | activate =>
    exact (Continues.of_same s.sameAttempts_begin).trans (continues_finishActivation _ _ _)
  | deactivate => exact .of_same ⟨rfl, rfl, s.provider.state.progress_deactivate⟩
  | select index => exact .of_same (s.sameAttempts_select index)
  | setExtension e => exact .of_same ⟨rfl, rfl, rfl⟩
  | getSigner address => exact s.continues_getSigner address
  | listAccounts format => exact s.continues_wait _
  | advance ms => exact s.continues_jump _

end Scenario

end Extrinsics
