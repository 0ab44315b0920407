import Extrinsics.Proofs.Provider.Endings
import Extrinsics.Samples

/-!
# Connections

A provider has a connection for each chain of the network table, and keeps it. The client and
the status of a connection come from the attempts for its chain that have ended. Its accounts
come from activations, which list those of supported parachains only. So nothing ever happens
to the connection of a chain that is not supported.
-/

namespace Extrinsics

open Provider (Attempt)

/-- Whether a chain is among those of a kind that are supported. -/
def Config.Supports (c : Config) (kind : ChainKind) (chain : String) : Prop :=
  chain ∈ (c.supported kind).map SupportedChain.chain

/-- A connection to a chain of a kind that fits a configuration and some attempts that have
ended. -/
structure Connection.Fits (c : Config) (es : List Ending) (kind : ChainKind) (chain : String)
    (d : Connection) : Prop where
  chain_eq : d.chain = chain
  addressFormat_eq : ((c.networks.ofKind kind).get? chain).map Network.addressFormat
    = some d.addressFormat
  isSome_client_iff : d.client.isSome ↔ d.status = .connected
  /-- The connector returned the client to an attempt for the chain. -/
  exists_ending : ∀ client, d.client = some client → ∃ e ∈ es,
    e.attempt ∈ Provider.attempts c ∧ e.attempt.kind = kind ∧ e.attempt.chain = chain
      ∧ e.outcome = .ok client
  unsupported : ¬ c.Supports kind chain → d.status = .initializing ∧ d.client = none
  accounts : kind = .relaychain ∨ ¬ c.Supports kind chain → d.accounts = []

namespace ProviderState

/-- Two states that differ in the client and the status of one connection at most. -/
structure DifferAt (kind : ChainKind) (chain : String) (s t : ProviderState) : Prop where
  elsewhere : ∀ kind' chain', (kind', chain') ≠ (kind, chain) →
    (t.connections kind').get? chain' = (s.connections kind').get? chain'
  here : ∃ client status, (t.connections kind).get? chain
    = ((s.connections kind).get? chain).map fun d => { d with client, status }
  extension : t.extension = s.extension
  selected : t.selected = s.selected

theorem differAt_settle (s : ProviderState) (e : Ending) :
  DifferAt e.attempt.kind e.attempt.chain s (s.settle e)
  where
  elsewhere := by
    intro kind chain hne
    rw [get?_settle]
    have hother : ¬ (e.attempt.kind = kind ∧ e.attempt.chain = chain) := by
      rintro ⟨rfl, rfl⟩
      apply hne rfl
    simp only [if_neg hother, Option.map_id']
  here := by
    use e.client?, .ofClient e.client?
    rw [get?_settle]
    simp only [and_self, if_true]
    rfl
  extension := s.extension_settleAttempt ..
  selected := s.selected_settleAttempt ..

end ProviderState

namespace Provider

/-! ### The configuration stays -/

theorem config_of_ofConfig {c : Config} {p : Provider} (h : ofConfig c = .ok p) :
  p.config = c
  := by rw [eq_of_ofConfig h]

variable (p : Provider)

@[simp] theorem config_publishChange (s : ProviderState) :
  (p.publishChange s).config = p.config
  := by
  rw [publishChange]
  split <;> rfl

@[simp] theorem config_setExtension (status : ExtensionStatus) :
  (p.setExtension status).config = p.config
  := p.config_publishChange _

@[simp] theorem config_select (index : Option Nat) :
  (p.select index).config = p.config
  := p.config_publishChange _

@[simp] theorem config_complete (a : Attempt) (r : Except ConnectionError Client) :
  (p.complete a r).1.config = p.config
  := by
  cases r <;> rfl

end Provider

namespace Activation

variable (p : Provider) (granted : List GrantedExtension) (found : Bool)

/-- The chains that an activation still deals with are among some supported chains. -/
def IsAmong (l : List SupportedChain) : Activation → Prop
  | listing _ chain _ rest _ => chain ∈ l.map SupportedChain.chain ∧ rest ⊆ l
  | _ => True

variable {l rest : List SupportedChain}

theorem isAmong_proceed (h : rest ⊆ l) :
  (proceed p granted found rest).2.IsAmong l
  := by
  induction rest with
  | nil => trivial
  | cons c rest ih =>
    obtain ⟨hc, hrest⟩ := List.cons_subset.1 h
    rw [proceed]
    cases p.state.parachains.get? c.chain with
    | none => apply ih hrest
    | some connection => exact ⟨List.mem_map_of_mem hc, hrest⟩

theorem isAmong_enabled (answer : Except ExtensionError (List GrantedExtension)) :
  (enabled p answer).2.IsAmong p.config.parachains
  := by
  have hproceed (q : Provider) (granted : List GrantedExtension)
      (hq : q.config = p.config) :
      (proceed (q.setExtension .connected) granted false q.config.parachains).2.IsAmong
        p.config.parachains := by
    rw [hq]
    apply isAmong_proceed _ _ _ (List.Subset.refl _)
  cases answer with
  | error e => trivial
  | ok l =>
    cases l with
    | nil => trivial
    | cons g l => apply hproceed p (g :: l) rfl

theorem isAmong_listed (h : rest ⊆ l) (chain : String)
    (answer : Except ExtensionError (List ListedAccount)) :
  (listed p granted chain rest found answer).2.IsAmong l
  := by
  cases answer with
  | error e => apply isAmong_proceed _ _ _ h
  | ok accounts => apply isAmong_proceed _ _ _ h

theorem config_proceed (rest : List SupportedChain) :
  (proceed p granted found rest).1.config = p.config
  := by
  induction rest with
  | nil => rfl
  | cons c rest ih =>
    rw [proceed]
    cases p.state.parachains.get? c.chain with
    | none => apply ih
    | some connection => rfl

theorem config_enabled (answer : Except ExtensionError (List GrantedExtension)) :
  (enabled p answer).1.config = p.config
  := by
  cases answer with
  | error e => apply Provider.config_setExtension
  | ok l =>
    cases l with
    | nil => apply Provider.config_setExtension
    | cons g l => apply (config_proceed _ _ _ _).trans (p.config_setExtension .connected)

theorem config_listed (chain : String) (rest : List SupportedChain)
    (answer : Except ExtensionError (List ListedAccount)) :
  (listed p granted chain rest found answer).1.config = p.config
  := by
  cases answer with
  | error e => apply config_proceed
  | ok l => apply config_proceed

end Activation

namespace Session

variable {s : Session} {a : Action} {c : Config} {p : Provider}

/-! ### What a session deals with -/

/-- A session of a provider with a configuration: it attempts what mounting starts, and its
activations deal with parachains that are supported. -/
structure IsOf (c : Config) (s : Session) : Prop where
  config : s.provider.config = c
  attempts : ∀ a ∈ s.attempts, a ∈ Provider.attempts c
  activations : ∀ x ∈ s.activations, x.IsAmong c.parachains

namespace IsOf

theorem start (h : Provider.ofConfig c = .ok p) :
  IsOf c (start p)
  where
  config := Provider.config_of_ofConfig h
  attempts := fun _ ha => (List.not_mem_nil ha).elim
  activations := fun _ hx => (List.not_mem_nil hx).elim

/-- An answer to an activation. -/
theorem resume (hs : IsOf c s) (i : Nat) {next : Provider × Activation}
    (hconfig : next.1.config = s.provider.config) (hnext : next.2.IsAmong c.parachains) :
  IsOf c (s.resume i next)
  where
  config := hconfig.trans hs.config
  attempts := hs.attempts
  activations := by
    intro x hx
    rcases List.mem_or_eq_of_mem_set hx with hx | rfl
    · apply hs.activations x hx
    · apply hnext

theorem perform (hs : IsOf c s) (a : Action) :
  IsOf c (s.perform a)
  := by
  cases a with
  | mount =>
    refine ⟨hs.config, ?_, hs.activations⟩
    intro b hb
    rcases List.mem_append.1 hb with hb | hb
    · apply hs.attempts b hb
    · rwa [hs.config] at hb
  | complete i r =>
    rw [Session.perform]
    split
    · refine ⟨(s.provider.config_complete _ _).trans hs.config, ?_, hs.activations⟩
      intro b hb
      apply hs.attempts b (List.mem_of_mem_eraseIdx hb)
    · exact hs
  | abort i =>
    refine ⟨hs.config, ?_, hs.activations⟩
    intro b hb
    apply hs.attempts b (List.mem_of_mem_eraseIdx hb)
  | activate =>
    refine ⟨(s.provider.config_setExtension _).trans hs.config, hs.attempts, ?_⟩
    intro x hx
    rcases List.mem_append.1 hx with hx | hx
    · apply hs.activations x hx
    · rw [List.mem_singleton.1 hx]
      trivial
  | grant i answer =>
    rw [Session.perform]
    split
    · apply hs.resume i (Activation.config_enabled _ _)
      rw [← hs.config]
      apply Activation.isAmong_enabled
    · exact hs
  | list i answer =>
    rw [Session.perform]
    split
    · rename_i h
      apply hs.resume i (Activation.config_listed _ _ _ _ _ _)
      apply Activation.isAmong_listed _ _ _ (hs.activations _ (List.mem_of_getElem? h)).2
    · exact hs
  | deactivate => exact ⟨hs.config, hs.attempts, hs.activations⟩
  | select index =>
    exact ⟨(s.provider.config_select _).trans hs.config, hs.attempts, hs.activations⟩

end IsOf

/-- Every session of a run deals with what its configuration names. -/
theorem isOf_run (h : Provider.ofConfig c = .ok p) (as : List Action) :
  IsOf c (run p as)
  := by
  induction as using List.reverseRecOn with
  | nil => exact .start h
  | append_singleton as a ih =>
    rw [run_concat]
    apply ih.perform

/-- Only attempts that mounting starts end. -/
theorem mem_attempts_of_mem_endings (h : Provider.ofConfig c = .ok p) {as : List Action}
    {e : Ending} (he : e ∈ endings p as) :
  e.attempt ∈ Provider.attempts c
  := by
  induction as using List.reverseRecOn with
  | nil => cases he
  | append_singleton as a ih =>
    rw [endings_concat] at he
    rcases List.mem_append.1 he with he | he
    · apply ih he
    · apply (isOf_run h as).attempts _ (mem_of_ending? (Option.mem_toList.1 he))

/-! ### Accounts -/

/-- An action sets accounts of a chain only if it is a parachain that is supported. -/
theorem Effect.accounts_eq_nil {t : ProviderState} {xs : List Activation} (h : s.Effect a t xs)
    (hs : IsOf c s) {kind : ChainKind} {chain : String}
    (hchain : kind = .relaychain ∨ ¬ c.Supports kind chain)
    (hnil : s.state.accounts kind chain = []) :
  t.accounts kind chain = []
  := by
  cases h with
  | complete h r => rwa [ProviderState.accounts_settleAttempt]
  | @accounts i granted chain' format rest found stage h l selected hstage =>
    have hset := s.state.accounts_setAccounts kind chain' chain (Activation.nameAccounts l)
    rw [if_neg, hnil] at hset
    · apply hset
    · rintro ⟨rfl, rfl, -⟩
      rcases hchain with hkind | hchain
      · cases hkind
      · apply hchain (hs.activations _ (List.mem_of_getElem? h)).1
  | deactivate =>
    cases kind with
    | parachain => apply ProviderState.accounts_deactivate_parachain
    | relaychain => apply hnil
  | rest h => apply hnil
  | activate => apply hnil
  | refuse h hanswer => apply hnil
  | access h hanswer selected hstage => apply hnil
  | skip h e selected hstage => apply hnil
  | select index => apply hnil

/-- Only supported parachains ever have accounts. -/
theorem accounts_run (h : Provider.ofConfig c = .ok p) (as : List Action) {kind : ChainKind}
    {chain : String} (hchain : kind = .relaychain ∨ ¬ c.Supports kind chain) :
  (run p as).state.accounts kind chain = []
  := by
  induction as using List.reverseRecOn with
  | nil =>
    rw [run, List.foldl_nil, start, state, Provider.state_of_ofConfig h]
    apply ProviderState.accounts_initial
  | append_singleton as a ih =>
    rw [run_concat]
    apply ((run p as).effect_perform a).accounts_eq_nil (isOf_run h as) hchain ih

/-! ### Connections -/

/-- A provider has a connection for each chain of its table. -/
theorem keys_run (h : Provider.ofConfig c = .ok p) (as : List Action) (kind : ChainKind) :
  ((run p as).state.connections kind).keys = (c.networks.ofKind kind).keys
  := by
  apply Table.keys_eq_of_isSome
  intro chain
  have hsome := congrArg Option.isSome (get?_deactivate_run h as kind chain)
  rwa [ProviderState.get?_deactivate, Option.isSome_map, Option.isSome_map] at hsome

/-- Accounts aside, the connection to a chain is what its last attempt has made of it, or as it
was in the beginning. -/
theorem bare_run (h : Provider.ofConfig c = .ok p) (as : List Action) {kind : ChainKind}
    {chain : String} {d : Connection}
    (hd : ((run p as).state.connections kind).get? chain = some d) :
  ∃ n, (c.networks.ofKind kind).get? chain = some n
    ∧ d.bare = (Ending.lastFor? kind chain (endings p as)).elim (Connection.initial chain n)
      fun e => (Connection.initial chain n).settled e.client?
  := by
  have hlast := get?_deactivate_run h as kind chain
  rw [ProviderState.get?_deactivate, hd, Option.map_some] at hlast
  obtain ⟨n, hn, hlast⟩ := Option.map_eq_some_iff.1 hlast.symm
  use n, hn
  have hbare : d.bare = (if kind = .parachain then d.bare else d).bare := by
    split_ifs <;> rfl
  rw [hbare, ← hlast]
  cases Ending.lastFor? kind chain (endings p as) <;> rfl

theorem supports_of_mem_attempts {b : Attempt} (h : b ∈ Provider.attempts c) :
  c.Supports b.kind b.chain
  := by
  obtain ⟨x, hx, hb⟩ := Provider.mem_attempts_iff.1 h
  rw [(Provider.chain_of_attempt? hb).2.1]
  apply List.mem_map_of_mem hx

/-- The connections of a run fit its configuration and the attempts that have ended. -/
theorem fits_run (h : Provider.ofConfig c = .ok p) (as : List Action) {kind : ChainKind}
    {chain : String} {d : Connection}
    (hd : ((run p as).state.connections kind).get? chain = some d) :
  d.Fits c (endings p as) kind chain
  := by
  obtain ⟨n, hn, hbare⟩ := bare_run h as hd
  have haccounts (hchain : kind = .relaychain ∨ ¬ c.Supports kind chain) : d.accounts = [] := by
    have hnil := accounts_run h as hchain
    rwa [ProviderState.accounts, hd] at hnil
  cases hlast : Ending.lastFor? kind chain (endings p as) with
  | none =>
    -- No attempt for the chain has ended, so the connection is as in the beginning.
    rw [hlast] at hbare
    have hclient : d.client = none := congrArg Connection.client hbare
    have hstatus : d.status = .initializing := congrArg Connection.status hbare
    have hformat : d.addressFormat = n.addressFormat := congrArg Connection.addressFormat hbare
    refine ⟨congrArg Connection.chain hbare, ?_, ?_, ?_, fun _ => ⟨hstatus, hclient⟩, haccounts⟩
    · rw [hn, hformat, Option.map_some]
    · rw [hclient, hstatus]
      exact iff_of_false Bool.noConfusion ApiStatus.noConfusion
    · intro client hsome
      rw [hclient] at hsome
      cases hsome
  | some e =>
    obtain ⟨he, rfl, rfl⟩ := Ending.mem_of_lastFor? hlast
    have hattempt := mem_attempts_of_mem_endings h he
    rw [hlast] at hbare
    have hclient : d.client = e.client? := congrArg Connection.client hbare
    have hstatus : d.status = .ofClient e.client? := congrArg Connection.status hbare
    have hformat : d.addressFormat = n.addressFormat := congrArg Connection.addressFormat hbare
    refine ⟨congrArg Connection.chain hbare, ?_, ?_, ?_,
      fun hnot => (hnot (supports_of_mem_attempts hattempt)).elim, haccounts⟩
    · rw [hn, hformat, Option.map_some]
    · rw [hclient, hstatus]
      cases e.client? <;> simp [ApiStatus.ofClient]
    · intro client hsome
      use e, he, hattempt, rfl, rfl
      apply Ending.outcome_of_client?
      rw [← hclient, hsome]

/-- In every run from an accepted configuration each table has a connection for the chains that
its table of networks has, and no others. Each of them fits the configuration and the attempts
that have ended. When an attempt ends, nothing changes beside the client and the status of the
connection to its chain. -/
theorem connections_run (h : Provider.ofConfig c = .ok p) (as : List Action) :
  (∀ kind, ((run p as).state.connections kind).keys = (c.networks.ofKind kind).keys)
    ∧ (∀ kind chain d, ((run p as).state.connections kind).get? chain = some d →
      d.Fits c (endings p as) kind chain)
    ∧ ∀ i b r, (run p as).attempts[i]? = some b →
      ProviderState.DifferAt b.kind b.chain (run p as).state
        ((run p as).perform (.complete i r)).state
  := by
  refine ⟨keys_run h as, fun kind chain d hd => fits_run h as hd, ?_⟩
  intro i b r hb
  rw [perform, hb]
  dsimp only
  rw [state, state, Provider.state_complete]
  apply ProviderState.differAt_settle (run p as).provider.state ⟨b, r⟩

end Session

namespace Samples

/-- A configuration in which a parachain and a relay chain have the same identifier. -/
def sharedConfig : Config where
  appName := "sample"
  parachains := [⟨"kusama", none⟩]
  relaychains := [⟨"kusama", none⟩]
  networks :=
    ⟨.ofList [("kusama", NetworkTable.picasso)], .ofList [("kusama", NetworkTable.kusama)]⟩
  logs := .standard

/-- A provider that has done nothing yet. -/
def sharedProvider : Provider := ⟨sharedConfig, .initial sharedConfig.networks, 0, []⟩

/-- The attempt for the relay chain fails while an activation is under way, and that for the
parachain has not ended. -/
def sharedRun : List Session.Action :=
  [.mount, .activate, .complete 1 (.error (.unreachable NetworkTable.kusama.wsUrl "refused")),
    .grant 0 (.ok [⟨"polkadot-js", "0.44.1"⟩]), .list 0 (.ok accounts)]

end Samples

namespace Session

theorem connections_sharedRun :
  (∃ d, ((run Samples.sharedProvider Samples.sharedRun).state.connections .relaychain).get? "kusama"
      = some d ∧ d.status = .failed
    ∧ d.Fits Samples.sharedConfig (endings Samples.sharedProvider Samples.sharedRun) .relaychain
      "kusama")
    ∧ ProviderState.DifferAt .parachain "kusama"
      (run Samples.sharedProvider Samples.sharedRun).state
      ((run Samples.sharedProvider Samples.sharedRun).perform
        (.complete 0 (.ok ⟨"kusama", .empty⟩))).state
  := by
  have haccepted : Provider.ofConfig Samples.sharedConfig = .ok Samples.sharedProvider := rfl
  obtain ⟨-, hfits, hdiffer⟩ := connections_run haccepted Samples.sharedRun
  constructor
  · obtain ⟨d, hd, hstatus⟩ : ∃ d,
        ((run Samples.sharedProvider Samples.sharedRun).state.connections .relaychain).get? "kusama"
          = some d ∧ d.status = .failed := by
      apply Option.map_eq_some_iff.1
      decide
    use d, hd, hstatus
    apply hfits .relaychain "kusama" d hd
  · apply hdiffer 0 ⟨.parachain, "kusama", NetworkTable.picasso.wsUrl⟩
    decide

end Session

end Extrinsics

