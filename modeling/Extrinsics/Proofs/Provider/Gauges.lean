import Extrinsics.Proofs.Provider.Connections
import Extrinsics.Proofs.Telemetry.Series

/-!
# The gauges of a provider

A provider tells the status of a chain when an attempt for it ends, and at no other time. So the
gauges of statuses are written once for each attempt that has ended, in the order in which they
have ended. Connections are kept by the kind and the identifier of a chain, gauges by the
identifier only: with the labels of all chains told apart by their digests, the gauges of a chain
show how the last attempt for a chain of that identifier has ended, whatever its kind.
-/

namespace Extrinsics

open Provider (Attempt)
open Prometheus

namespace Ending

/-- The status that an attempt leaves. -/
def status (e : Ending) : ApiStatus := .ofClient e.client?

/-- What the provider tells when an attempt has ended. -/
def told (e : Ending) : String × String := (e.attempt.chain, e.status.name)

/-- The writes to the gauges when an attempt has ended. -/
def writes (e : Ending) : List Series := statusWrites e.told

end Ending

/-! ### What a provider tells -/

namespace Provider

variable (p : Provider)

/-- The statuses of chains that a provider has told. -/
def told : List (String × String) := p.counted.filterMap Metric.told?

@[simp] theorem told_publish (s : ProviderState) :
  (p.publish s).told = p.told
  := rfl

@[simp] theorem told_count (m : Metric Unit) :
  (p.count m).told = p.told ++ m.told?.toList
  := by
  rw [told, count, List.filterMap_append, List.filterMap_cons]
  cases m.told? <;> rfl

@[simp] theorem told_publishChange (s : ProviderState) :
  (p.publishChange s).told = p.told
  := by
  rw [publishChange]
  split <;> rfl

@[simp] theorem told_setExtension (status : ExtensionStatus) :
  (p.setExtension status).told = p.told
  := p.told_publishChange _

@[simp] theorem told_select (index : Option Nat) :
  (p.select index).told = p.told
  := p.told_publishChange _

theorem told_complete (a : Attempt) (r : Except ConnectionError Client) :
  (p.complete a r).1.told = p.told ++ [Ending.told ⟨a, r⟩]
  := by
  cases r with
  | ok client => apply told_count
  | error e =>
    rw [complete]
    dsimp only
    rw [told_publish, told_count, told_count]
    apply congrArg₂ _ (List.append_nil _) rfl

end Provider

namespace Activation

variable (p : Provider) (granted : List GrantedExtension) (found : Bool)

theorem told_proceed (rest : List SupportedChain) :
  (proceed p granted found rest).1.told = p.told
  := by
  induction rest with
  | nil => simp [proceed, Metric.told?]
  | cons c rest ih =>
    rw [proceed]
    cases p.state.parachains.get? c.chain with
    | none => apply ih
    | some connection => rfl

theorem told_enabled (answer : Except ExtensionError (List GrantedExtension)) :
  (enabled p answer).1.told = p.told
  := by
  cases answer with
  | error e => simp [enabled, Except.toOption, Metric.told?]
  | ok l =>
    cases l with
    | nil => simp [enabled, Except.toOption, Metric.told?]
    | cons g l => apply (told_proceed _ _ _ _).trans (p.told_setExtension .connected)

theorem told_listed (chain : String) (rest : List SupportedChain)
    (answer : Except ExtensionError (List ListedAccount)) :
  (listed p granted chain rest found answer).1.told = p.told
  := by
  cases answer with
  | error e => simp [listed, told_proceed, Metric.told?]
  | ok l => simp [listed, told_proceed]

end Activation

namespace Session

variable {c : Config} {p : Provider}

/-- An action tells the status of a chain when it ends an attempt, and nothing else. -/
theorem told_perform (s : Session) (a : Action) :
  (s.perform a).provider.told = s.provider.told ++ (s.ending? a).toList.map Ending.told
  := by
  cases a with
  | mount => exact (List.append_nil _).symm
  | complete i r =>
    rw [perform, ending?]
    cases s.attempts[i]? with
    | none => exact (List.append_nil _).symm
    | some b => apply s.provider.told_complete b r
  | abort i => exact (List.append_nil _).symm
  | activate => apply (s.provider.told_setExtension _).trans (List.append_nil _).symm
  | grant i answer =>
    refine Eq.trans ?_ (List.append_nil _).symm
    rw [perform]
    split
    · apply Activation.told_enabled
    · rfl
  | list i answer =>
    refine Eq.trans ?_ (List.append_nil _).symm
    rw [perform]
    split
    · apply Activation.told_listed
    · rfl
  | deactivate => exact (List.append_nil _).symm
  | select index => apply (s.provider.told_select index).trans (List.append_nil _).symm

/-- A run tells how its attempts have ended, in their order. -/
theorem told_run (h : Provider.ofConfig c = .ok p) (as : List Action) :
  (run p as).provider.told = (endings p as).map Ending.told
  := by
  induction as using List.reverseRecOn with
  | nil =>
    rw [run, List.foldl_nil, start, Provider.eq_of_ofConfig h]
    rfl
  | append_singleton as a ih => rw [run_concat, told_perform, ih, endings_concat, List.map_append]

end Session

/-! ### What the gauges show -/

/-- What a process exports whose collectors were installed before a provider told anything. -/
def Provider.exporter (p : Provider) : Exporter :=
  (Exporter.start.install true).1.recordAll (p.counted.map (Metric.map fun _ => .zero))

theorem Provider.gauges_exporter (p : Provider) :
  p.exporter.gauges = Family.empty.setAll (p.told.flatMap statusWrites)
  := by
  rw [exporter, told]
  apply (Exporter.gauges_recordAll .empty _).trans
  rw [List.filterMap_map]
  simp only [Function.comp_def, Metric.told?_map]
  rfl

/-- The gauges of a chain show a status: that of the status is one, the others are zero. -/
def Family.ShowsStatus (f : Family) (chain : String) (status : ApiStatus) : Prop :=
  ∀ s : ApiStatus, f.shown [chain, s.name] = [if s = status then 1 else 0]

/-- The digest tells the labels of the gauges of some chains apart. -/
def LabelsApart (chains : List String) : Prop :=
  ∀ a ∈ chains, ∀ b ∈ chains, ∀ s t : ApiStatus,
    Series.digest [a, s.name] = Series.digest [b, t.name] → a = b ∧ s = t

theorem LabelsApart.mono {chains chains' : List String} (h : LabelsApart chains)
    (hsub : chains' ⊆ chains) :
  LabelsApart chains'
  := fun a ha b hb => h a (hsub ha) b (hsub hb)

theorem ApiStatus.mem_all (s : ApiStatus) :
  s ∈ all
  := by cases s <;> decide

theorem ApiStatus.filter_all (s : ApiStatus) :
  all.filter (fun t => t = s) = [s]
  := by cases s <;> rfl

theorem labelsApart_of_nodup {chains : List String}
    (h : ((chains ×ˢ ApiStatus.all).map fun x => Series.digest [x.1, x.2.name]).Nodup) :
  LabelsApart chains
  := by
  intro a ha b hb s t hdigest
  have hinj := List.inj_on_of_nodup_map h
  have hpair : (a, s) = (b, t) := by
    apply hinj
    · apply List.pair_mem_product.2 ⟨ha, s.mem_all⟩
    · apply List.pair_mem_product.2 ⟨hb, t.mem_all⟩
    · exact hdigest
  exact ⟨congrArg Prod.fst hpair, congrArg Prod.snd hpair⟩

/-- There are chains whose labels have the same digests. -/
example :
  ¬ LabelsApart ["8yn0iYCKYHlIj4-BwPqk", "GReLUrM4wMqfg9yzV3KQ"]
  := by
  intro h
  have hsame := h _ List.mem_cons_self _ (List.mem_cons_of_mem _ List.mem_cons_self) .failed .failed
    (by decide +kernel)
  apply absurd hsame.1
  decide

namespace Ending

/-- The last of some endings that concern a chain of any kind. -/
def lastNamed? (chain : String) (es : List Ending) : Option Ending :=
  (es.filter fun e => e.attempt.chain = chain).getLast?

theorem exists_lastFor? {es : List Ending} {e : Ending} (h : e ∈ es) :
  ∃ e', lastFor? e.attempt.kind e.attempt.chain es = some e'
  := exists_getLast?_filter
    (fun e' : Ending => e'.attempt.kind = e.attempt.kind ∧ e'.attempt.chain = e.attempt.chain) h
    ⟨rfl, rfl⟩

theorem writes_eq (e : Ending) :
  e.writes = ApiStatus.all.map fun s =>
    ⟨[e.attempt.chain, s.name], if s = e.status then 1 else 0⟩
  := by
  rw [writes, told]
  cases e.status <;> rfl

/-- With the labels told apart, an ending writes to a gauge of a chain if it concerns the
chain. -/
theorem reaching_writes {chains : List String} (hapart : LabelsApart chains) {e : Ending}
    (he : e.attempt.chain ∈ chains) {chain : String} (hchain : chain ∈ chains) (t : ApiStatus) :
  Family.reaching [chain, t.name] e.writes
    = if e.attempt.chain = chain then [⟨[chain, t.name], if t = e.status then 1 else 0⟩] else []
  := by
  have hreach (s : ApiStatus) :
      Series.digest [e.attempt.chain, s.name] = Series.digest [chain, t.name]
        ↔ e.attempt.chain = chain ∧ s = t := by
    constructor
    · apply hapart _ he _ hchain
    · rintro ⟨h, rfl⟩
      rw [h]
  rw [writes_eq, Family.reaching, List.filter_map]
  simp only [Function.comp_def, Series.answersTo, hreach]
  by_cases h : e.attempt.chain = chain
  · simp only [h, true_and, if_true]
    rw [t.filter_all]
    rfl
  · simp [h]

theorem reaching_flatMap_writes {chains : List String} (hapart : LabelsApart chains)
    {es : List Ending} (hes : ∀ e ∈ es, e.attempt.chain ∈ chains) {chain : String}
    (hchain : chain ∈ chains) (t : ApiStatus) :
  Family.reaching [chain, t.name] (es.flatMap writes)
    = (es.filter fun e => e.attempt.chain = chain).map fun e =>
      ⟨[chain, t.name], if t = e.status then 1 else 0⟩
  := by
  induction es with
  | nil => rfl
  | cons e es ih =>
    obtain ⟨he, hes⟩ := List.forall_mem_cons.1 hes
    have happend : Family.reaching [chain, t.name] ((e :: es).flatMap writes)
        = Family.reaching [chain, t.name] e.writes
          ++ Family.reaching [chain, t.name] (es.flatMap writes) := by
      rw [List.flatMap_cons]
      apply List.filter_append
    rw [happend, ih hes, reaching_writes hapart he hchain]
    by_cases h : e.attempt.chain = chain <;> simp [h]

/-- With the labels told apart, the gauges of a chain show the status that the last ending
leaves which concerns the chain. -/
theorem showsStatus_iff {chains : List String} (hapart : LabelsApart chains)
    {es : List Ending} (hes : ∀ e ∈ es, e.attempt.chain ∈ chains) {chain : String}
    (hchain : chain ∈ chains) (status : ApiStatus) :
  (Family.empty.setAll (es.flatMap writes)).ShowsStatus chain status
    ↔ (lastNamed? chain es).map Ending.status = some status
  := by
  have hshown (t : ApiStatus) (n : Nat) :
      (Family.empty.setAll (es.flatMap writes)).shown [chain, t.name] = [n]
        ↔ (lastNamed? chain es).map (fun e => if t = e.status then 1 else 0) = some n := by
    rw [Family.shown_setAll_empty_iff, reaching_flatMap_writes hapart hes hchain, lastNamed?]
    cases es.filter fun e => e.attempt.chain = chain with
    | nil => simp
    | cons e es => simp [List.getLast?_cons]
  simp only [Family.ShowsStatus, hshown]
  cases lastNamed? chain es with
  | none =>
    apply iff_of_false
    · intro h
      cases h status
    · intro h
      cases h
  | some e =>
    simp only [Option.map_some, Option.some_inj]
    constructor
    · intro h
      have hstatus := h status
      rw [if_pos rfl] at hstatus
      by_contra hne
      rw [if_neg (Ne.symm hne)] at hstatus
      cases hstatus
    · rintro rfl t
      rfl

end Ending

/-! ### The chains of the table -/

/-- The chains of a table of networks, parachains first. -/
def NetworkTable.chains (t : NetworkTable) : List String := t.parachains.keys ++ t.relaychains.keys

/-- The chains that are attempted to connect to. -/
def Config.attempted (c : Config) : List String := (Provider.attempts c).map Attempt.chain

namespace Provider

variable {c : Config}

theorem mem_keys_of_mem_attempts {b : Attempt} (hb : b ∈ attempts c) :
  b.chain ∈ (c.networks.ofKind b.kind).keys
  := by
  obtain ⟨s, -, hs⟩ := mem_attempts_iff.1 hb
  obtain ⟨-, hchain, n, hn⟩ := chain_of_attempt? hs
  rw [hchain]
  apply List.mem_map_of_mem ((Table.mem_entries_iff _ _ _).2 hn)

theorem attempted_subset_chains (c : Config) :
  c.attempted ⊆ c.networks.chains
  := by
  intro chain hchain
  obtain ⟨b, hb, rfl⟩ := List.mem_map.1 hchain
  have hkey := mem_keys_of_mem_attempts hb
  apply List.mem_append.2
  generalize b.kind = kind at hkey
  cases kind with
  | parachain => exact .inl hkey
  | relaychain => exact .inr hkey

/-- Attempts for one chain are of one kind when the table has each chain once. -/
theorem kind_eq_of_nodup (h : c.networks.chains.Nodup) {a b : Attempt} (ha : a ∈ attempts c)
    (hb : b ∈ attempts c) (hchain : b.chain = a.chain) :
  b.kind = a.kind
  := by
  have hdisjoint := List.disjoint_of_nodup_append h
  have hkey := mem_keys_of_mem_attempts ha
  have hkey' := mem_keys_of_mem_attempts hb
  rw [hchain] at hkey'
  generalize a.kind = kind at hkey ⊢
  generalize b.kind = kind' at hkey' ⊢
  cases kind with
  | parachain =>
    cases kind' with
    | parachain => rfl
    | relaychain => exact (hdisjoint hkey hkey').elim
  | relaychain =>
    cases kind' with
    | parachain => exact (hdisjoint hkey' hkey).elim
    | relaychain => rfl

end Provider

theorem NetworkTable.nodup_chains_builtIn :
  builtIn.chains.Nodup
  := by decide +kernel

theorem NetworkTable.labelsApart_builtIn :
  LabelsApart builtIn.chains
  := by
  apply labelsApart_of_nodup
  decide +kernel

/-! ### The gauges and the connections -/

namespace Session

variable {c : Config} {p : Provider}

/-- The gauges of statuses that are exported when the collectors were installed in the
beginning. -/
def gauges (s : Session) : Family := s.provider.exporter.gauges

theorem gauges_eq (h : Provider.ofConfig c = .ok p) (as : List Action) :
  (run p as).gauges = Family.empty.setAll ((endings p as).flatMap Ending.writes)
  := by
  rw [gauges, Provider.gauges_exporter, told_run h, List.flatMap_map]
  rfl

theorem chain_mem_attempted (h : Provider.ofConfig c = .ok p) {as : List Action} {e : Ending}
    (he : e ∈ endings p as) :
  e.attempt.chain ∈ c.attempted
  := List.mem_map_of_mem (mem_attempts_of_mem_endings h he)

/-- The status of a connection is what the last attempt for its chain leaves. -/
theorem status_run (h : Provider.ofConfig c = .ok p) (as : List Action) {kind : ChainKind}
    {chain : String} {d : Connection}
    (hd : ((run p as).state.connections kind).get? chain = some d) {e : Ending}
    (hlast : Ending.lastFor? kind chain (endings p as) = some e) :
  d.status = e.status
  := by
  obtain ⟨n, hn, hbare⟩ := bare_run h as hd
  rw [hlast] at hbare
  apply congrArg Connection.status hbare

/-- With the labels told apart, the gauges of a chain that attempts of one kind only name show
the status of its connection. -/
theorem showsStatus_run (h : Provider.ofConfig c = .ok p) (as : List Action) {kind : ChainKind}
    {chain : String} {d : Connection}
    (hd : ((run p as).state.connections kind).get? chain = some d)
    (hended : ∃ e ∈ endings p as, e.attempt.kind = kind ∧ e.attempt.chain = chain)
    (hapart : LabelsApart c.attempted)
    (hkind : ∀ b ∈ Provider.attempts c, b.chain = chain → b.kind = kind) :
  (run p as).gauges.ShowsStatus chain d.status
  := by
  obtain ⟨e, he, rfl, rfl⟩ := hended
  obtain ⟨e', hlast⟩ := Ending.exists_lastFor? he
  have hnamed : Ending.lastNamed? e.attempt.chain (endings p as)
      = Ending.lastFor? e.attempt.kind e.attempt.chain (endings p as) := by
    rw [Ending.lastNamed?, Ending.lastFor?]
    congr 1
    apply List.filter_congr
    intro x hx
    apply decide_eq_decide.2
    constructor
    · intro hchain
      exact ⟨hkind _ (mem_attempts_of_mem_endings h hx) hchain, hchain⟩
    · intro hx
      exact hx.2
  rw [gauges_eq h, Ending.showsStatus_iff hapart (fun x hx => chain_mem_attempted h hx)
    (chain_mem_attempted h he), hnamed, hlast, Option.map_some, status_run h as hd hlast]

/-- The gauges of a chain whose attempt has ended show the status of its connection exactly if
each of their series was begun for its labels and was last written with the right number. With
the labels told apart, this is so exactly if the last attempt that ended for a chain of this
identifier, of either kind, leaves that status. So it is always so if the chain is attempted as
one kind only, in particular with the built-in networks. -/
theorem gauges_run (h : Provider.ofConfig c = .ok p) (as : List Action) {kind : ChainKind}
    {chain : String} {d : Connection}
    (hd : ((run p as).state.connections kind).get? chain = some d)
    (hended : ∃ e ∈ endings p as, e.attempt.kind = kind ∧ e.attempt.chain = chain) :
  ((run p as).gauges.ShowsStatus chain d.status ↔ ∀ s : ApiStatus,
      let ws := Family.reaching [chain, s.name] ((endings p as).flatMap Ending.writes)
      ws.head?.map Series.labels = some [chain, s.name]
        ∧ ws.getLast?.map Series.value = some (if s = d.status then 1 else 0))
    ∧ (LabelsApart c.attempted →
      ((run p as).gauges.ShowsStatus chain d.status
          ↔ (Ending.lastNamed? chain (endings p as)).map Ending.status = some d.status)
        ∧ ((∀ b ∈ Provider.attempts c, b.chain = chain → b.kind = kind) →
          (run p as).gauges.ShowsStatus chain d.status))
    ∧ (c.networks = .builtIn → (run p as).gauges.ShowsStatus chain d.status)
  := by
  have hchain : chain ∈ c.attempted := by
    obtain ⟨e, he, -, rfl⟩ := hended
    apply chain_mem_attempted h he
  refine ⟨?_, ?_, ?_⟩
  · rw [gauges_eq h]
    apply forall_congr'
    intro s
    apply Family.shown_setAll_empty_iff
  · intro hapart
    constructor
    · rw [gauges_eq h]
      apply Ending.showsStatus_iff hapart (fun x hx => chain_mem_attempted h hx) hchain
    · apply showsStatus_run h as hd hended hapart
  · intro hnetworks
    have hsub := Provider.attempted_subset_chains c
    rw [hnetworks] at hsub
    apply showsStatus_run h as hd hended (NetworkTable.labelsApart_builtIn.mono hsub)
    intro b hb hname
    obtain ⟨e, he, rfl, rfl⟩ := hended
    apply Provider.kind_eq_of_nodup _ (mem_attempts_of_mem_endings h he) hb hname
    rw [hnetworks]
    apply NetworkTable.nodup_chains_builtIn

end Session

namespace Samples

/-- The attempt for the relay chain fails, and the one for the parachain of its identifier
succeeds after it. -/
def namesakeRun : List Session.Action :=
  [.mount, .complete 1 (.error (.unreachable NetworkTable.kusama.wsUrl "refused")),
    .complete 0 (.ok ⟨"kusama", .empty⟩)]

end Samples

namespace Session

open Samples

/-- The gauges show the status of the parachain, whose attempt has ended last. -/
theorem gauges_namesakeRun :
  ∃ d, ((run sharedProvider namesakeRun).state.connections .parachain).get? "kusama" = some d
    ∧ (run sharedProvider namesakeRun).gauges.ShowsStatus "kusama" d.status
  := by
  have haccepted : Provider.ofConfig sharedConfig = .ok sharedProvider := rfl
  obtain ⟨d, hd, hstatus⟩ : ∃ d,
      ((run sharedProvider namesakeRun).state.connections .parachain).get? "kusama" = some d
        ∧ d.status = .connected := by
    apply Option.map_eq_some_iff.1
    decide
  use d, hd
  have hended : ∃ e ∈ endings sharedProvider namesakeRun,
      e.attempt.kind = .parachain ∧ e.attempt.chain = "kusama" :=
    ⟨_, List.mem_cons_of_mem _ List.mem_cons_self, rfl, rfl⟩
  have hapart : LabelsApart sharedConfig.attempted := by
    apply NetworkTable.labelsApart_builtIn.mono
    decide +kernel
  obtain ⟨-, hgauges, -⟩ := gauges_run haccepted namesakeRun hd hended
  apply (hgauges hapart).1.2
  rw [hstatus]
  rfl

/-- The connection to the relay chain has failed, but the gauges do not show it. -/
theorem not_showsStatus_namesakeRun :
  Provider.ofConfig sharedConfig = .ok sharedProvider
    ∧ ∃ d, ((run sharedProvider namesakeRun).state.connections .relaychain).get? "kusama" = some d
      ∧ (∃ e ∈ endings sharedProvider namesakeRun,
        e.attempt.kind = .relaychain ∧ e.attempt.chain = "kusama")
      ∧ ¬ (run sharedProvider namesakeRun).gauges.ShowsStatus "kusama" d.status
  := by
  obtain ⟨d, hd, hstatus⟩ : ∃ d,
      ((run sharedProvider namesakeRun).state.connections .relaychain).get? "kusama" = some d
        ∧ d.status = .failed := by
    apply Option.map_eq_some_iff.1
    decide
  refine ⟨rfl, d, hd, ⟨_, List.mem_cons_self, rfl, rfl⟩, ?_⟩
  rw [hstatus]
  intro hshows
  have hzero : (run sharedProvider namesakeRun).gauges.shown ["kusama", "failed"] = [0] := by
    decide +kernel
  have hone := hshows .failed
  rw [show ApiStatus.name .failed = "failed" from rfl, hzero] at hone
  cases hone

end Session

end Extrinsics
