import Extrinsics.Proofs.Table
import Extrinsics.Provider.Activation

/-!
# Sessions of a provider

A session is a provider together with the attempts to connect and the activations that it has
begun. It goes on by actions, in any order: somebody calls the provider, an attempt ends in
any way or is given up, or the extension answers an activation whatever it likes. An
activation rests only while it waits for an answer.

For each operation of the provider one lemma says what it makes of the state.
-/

namespace Extrinsics

/-- The networks of a kind. -/
def NetworkTable.ofKind (t : NetworkTable) : ChainKind → Table Network
  | .parachain => t.parachains
  | .relaychain => t.relaychains

/-! ### What the operations make of the state -/

namespace ProviderState

/-- The accounts known on a chain. -/
def accounts (s : ProviderState) (kind : ChainKind) (chain : String) : List Account :=
  (((s.connections kind).get? chain).map Connection.accounts).getD []

/-- What a state knows of the chain of a kind after the connection to a chain was changed. -/
theorem get?_modify (s : ProviderState) (kind kind' : ChainKind) (chain chain' : String)
    (f : Connection → Connection) :
  ((s.modify kind chain f).connections kind').get? chain'
    = ((s.connections kind').get? chain').map
      fun c => if kind' = kind ∧ chain' = chain then f c else c
  := by
  cases kind <;> cases kind' <;> simp [modify, connections, Table.modify]

/-- What a change of a connection leaves alone, a state knows as before. -/
theorem map_get?_modify {β : Type} (s : ProviderState) (kind kind' : ChainKind)
    (chain chain' : String) {f : Connection → Connection} {g : Connection → β}
    (h : ∀ c, g (f c) = g c) :
  (((s.modify kind chain f).connections kind').get? chain').map g
    = ((s.connections kind').get? chain').map g
  := by
  rw [get?_modify, Option.map_map]
  congr 1
  funext c
  rw [Function.comp_apply]
  split_ifs
  · exact h c
  · rfl

theorem extension_modify (s : ProviderState) (kind : ChainKind) (chain : String)
    (f : Connection → Connection) :
  (s.modify kind chain f).extension = s.extension
  := by
  cases kind <;> rfl

theorem selected_modify (s : ProviderState) (kind : ChainKind) (chain : String)
    (f : Connection → Connection) :
  (s.modify kind chain f).selected = s.selected
  := by
  cases kind <;> rfl

/-- The end of an attempt leaves the accounts as they are. -/
@[simp] theorem accounts_settleAttempt (s : ProviderState) (kind kind' : ChainKind)
    (chain chain' : String) (client : Option Client) (status : ApiStatus) :
  (s.settleAttempt kind chain client status).accounts kind' chain' = s.accounts kind' chain'
  := by
  rw [accounts, accounts]
  congr 1
  apply map_get?_modify
  intro c
  rfl

@[simp] theorem extension_settleAttempt (s : ProviderState) (kind : ChainKind) (chain : String)
    (client : Option Client) (status : ApiStatus) :
  (s.settleAttempt kind chain client status).extension = s.extension
  := s.extension_modify kind chain _

@[simp] theorem selected_settleAttempt (s : ProviderState) (kind : ChainKind) (chain : String)
    (client : Option Client) (status : ApiStatus) :
  (s.settleAttempt kind chain client status).selected = s.selected
  := s.selected_modify kind chain _

/-- Accounts are set on a parachain of the table only. -/
theorem accounts_setAccounts (s : ProviderState) (kind : ChainKind) (chain chain' : String)
    (l : List Account) :
  (s.setAccounts chain l).accounts kind chain'
    = if kind = .parachain ∧ chain' = chain ∧ (s.parachains.get? chain).isSome then l
      else s.accounts kind chain'
  := by
  rw [accounts, accounts, setAccounts, get?_modify]
  cases kind with
  | relaychain => simp
  | parachain =>
    by_cases h : chain' = chain
    · subst h
      cases hc : s.parachains.get? chain' <;> simp [connections, hc]
    · simp [h]

@[simp] theorem extension_setAccounts (s : ProviderState) (chain : String) (l : List Account) :
  (s.setAccounts chain l).extension = s.extension
  := s.extension_modify .parachain chain _

@[simp] theorem accounts_deactivate_parachain (s : ProviderState) (chain : String) :
  s.deactivate.accounts .parachain chain = []
  := by
  cases h : s.parachains.get? chain <;> simp [accounts, connections, deactivate, h]

@[simp] theorem accounts_deactivate_relaychain (s : ProviderState) (chain : String) :
  s.deactivate.accounts .relaychain chain = s.accounts .relaychain chain
  := rfl

/-- In the beginning there is a connection for each chain of the table. -/
theorem connections_initial (t : NetworkTable) (kind : ChainKind) :
  (initial t).connections kind = (t.ofKind kind).mapWithKey Connection.initial
  := by
  cases kind <;> rfl

/-- In the beginning there are no accounts. -/
theorem accounts_initial (t : NetworkTable) (kind : ChainKind) (chain : String) :
  (initial t).accounts kind chain = []
  := by
  rw [accounts, connections_initial, Table.get?_mapWithKey]
  cases (t.ofKind kind).get? chain <;> rfl

end ProviderState

/-- The status of a connection after an attempt, with a client if it succeeded. -/
def ApiStatus.ofClient (client : Option Client) : ApiStatus :=
  if client.isSome then .connected else .failed

namespace Provider

/-- A provider whose configuration was accepted has done nothing yet. -/
theorem eq_of_ofConfig {c : Config} {p : Provider} (h : ofConfig c = .ok p) :
  p = ⟨c, .initial c.networks, 0, []⟩
  := by
  rw [ofConfig] at h
  cases hc : c.validate with
  | error e =>
    rw [hc] at h
    cases h
  | ok u =>
    rw [hc] at h
    cases h
    rfl

theorem state_of_ofConfig {c : Config} {p : Provider} (h : ofConfig c = .ok p) :
  p.state = .initial c.networks
  := by rw [eq_of_ofConfig h]

variable (p : Provider)

/-- Publishing a change leads to the new state, also when it is the old one. -/
theorem state_publishChange (s : ProviderState) :
  (p.publishChange s).state = s
  := by
  rw [publishChange]
  split
  · rename_i h
    rw [h]
  · rfl

/-- The state with a status of the extension, and with a choice of an account. -/
theorem state_setExtension (status : ExtensionStatus) :
  (p.setExtension status).state = { p.state with extension := status }
  := p.state_publishChange _

theorem state_select (index : Option Nat) :
  (p.select index).state = { p.state with selected := index }
  := p.state_publishChange _

/-- An attempt leaves its client, if it has one, and its status at its chain. -/
theorem state_complete (a : Attempt) (r : Except ConnectionError Client) :
  (p.complete a r).1.state
    = p.state.settleAttempt a.kind a.chain r.toOption (.ofClient r.toOption)
  := by
  cases r <;> rfl

end Provider

namespace Activation

variable (p : Provider) (granted : List GrantedExtension) (found : Bool)

/-- An activation that waits for accounts. -/
def IsListing : Activation → Prop
  | listing _ _ _ _ _ => True
  | _ => False

/-- An activation that has ended. -/
def IsDone : Activation → Prop
  | done _ => True
  | _ => False

/-- Between two answers, an activation at most chooses an account. -/
theorem proceed_cases (rest : List SupportedChain) :
  (∃ selected, (proceed p granted found rest).1.state = { p.state with selected })
    ∧ ((proceed p granted found rest).2.IsListing ∨ (proceed p granted found rest).2.IsDone)
  := by
  induction rest with
  | nil => exact ⟨⟨_, rfl⟩, .inr trivial⟩
  | cons c rest ih =>
    rw [proceed]
    cases p.state.parachains.get? c.chain with
    | none => apply ih
    | some connection => exact ⟨⟨p.state.selected, rfl⟩, .inl trivial⟩

/-- An activation without access ends. -/
theorem enabled_of_nil {answer : Except ExtensionError (List GrantedExtension)}
    (h : answer.toOption.getD [] = []) :
  (enabled p answer).1.state = { p.state with extension := .noExtension }
    ∧ (enabled p answer).2 = done []
  := by
  cases answer with
  | error e =>
    constructor
    · apply Provider.state_setExtension
    · rfl
  | ok l =>
    obtain rfl : l = [] := h
    constructor
    · apply Provider.state_setExtension
    · rfl

/-- An activation with access goes on. -/
theorem enabled_of_ne_nil {answer : Except ExtensionError (List GrantedExtension)}
    (h : answer.toOption.getD [] ≠ []) :
  (∃ selected, (enabled p answer).1.state
      = { p.state with extension := .connected, selected := selected })
    ∧ ((enabled p answer).2.IsListing ∨ (enabled p answer).2.IsDone)
  := by
  cases answer with
  | error e => exact (h rfl).elim
  | ok l =>
    cases l with
    | nil => exact (h rfl).elim
    | cons g l =>
      have hproceed := proceed_cases (p.setExtension .connected) (g :: l) false
        p.config.parachains
      rw [Provider.state_setExtension] at hproceed
      apply hproceed

/-- An activation goes on when it gets no accounts of a chain. -/
theorem listed_error (chain : String) (rest : List SupportedChain) (e : ExtensionError) :
  (∃ selected, (listed p granted chain rest found (.error e)).1.state = { p.state with selected })
    ∧ ((listed p granted chain rest found (.error e)).2.IsListing
      ∨ (listed p granted chain rest found (.error e)).2.IsDone)
  := proceed_cases (p.count (.error "extension" e.code)) granted found rest

/-- An activation sets the accounts of a chain that it gets, and goes on. -/
theorem listed_ok (chain : String) (rest : List SupportedChain) (l : List ListedAccount) :
  (∃ selected, (listed p granted chain rest found (.ok l)).1.state
      = { p.state.setAccounts chain (nameAccounts l) with selected := selected })
    ∧ ((listed p granted chain rest found (.ok l)).2.IsListing
      ∨ (listed p granted chain rest found (.ok l)).2.IsDone)
  := proceed_cases (p.publish (p.state.setAccounts chain (nameAccounts l))) granted
    (found || !l.isEmpty) rest

end Activation

/-! ### Sessions -/

/-- A provider, with the attempts that have not ended and the activations that were begun. -/
structure Session where
  provider : Provider
  attempts : List Provider.Attempt
  activations : List Activation

namespace Session

/-- One thing that happens in a session. -/
inductive Action where
  | mount
  /-- An attempt ends. -/
  | complete (i : Nat) (r : Except ConnectionError Client)
  /-- An attempt is given up. -/
  | abort (i : Nat)
  | activate
  /-- The extension answers an activation that waits for access. -/
  | grant (i : Nat) (answer : Except ExtensionError (List GrantedExtension))
  /-- The extension answers an activation that waits for accounts. -/
  | list (i : Nat) (answer : Except ExtensionError (List ListedAccount))
  | deactivate
  | select (index : Option Nat)

/-- The session before anything has happened. -/
def start (p : Provider) : Session := ⟨p, [], []⟩

/-- The session after an answer to an activation. -/
def resume (s : Session) (i : Nat) (next : Provider × Activation) : Session :=
  { s with provider := next.1, activations := s.activations.set i next.2 }

/-- The session after an action. What waits for nothing gets no answer. -/
def perform (s : Session) : Action → Session
  | .mount => { s with attempts := s.attempts ++ Provider.attempts s.provider.config }
  | .complete i r =>
    match s.attempts[i]? with
    | some a =>
      { s with provider := (s.provider.complete a r).1, attempts := s.attempts.eraseIdx i }
    | none => s
  | .abort i => { s with attempts := s.attempts.eraseIdx i }
  | .activate =>
    { s with
      provider := Activation.begin s.provider
      activations := s.activations ++ [.enabling] }
  | .grant i answer =>
    match s.activations[i]? with
    | some .enabling => s.resume i (Activation.enabled s.provider answer)
    | _ => s
  | .list i answer =>
    match s.activations[i]? with
    | some (.listing granted chain _ rest found) =>
      s.resume i (Activation.listed s.provider granted chain rest found answer)
    | _ => s
  | .deactivate => { s with provider := s.provider.deactivate }
  | .select index => { s with provider := s.provider.select index }

/-- The session of a provider after actions that happen one after the other. -/
def run (p : Provider) (as : List Action) : Session := as.foldl perform (start p)

/-- The state of the provider. -/
def state (s : Session) : ProviderState := s.provider.state

theorem run_concat (p : Provider) (as : List Action) (a : Action) :
  run p (as ++ [a]) = (run p as).perform a
  := List.foldl_append

/-! ### What an action does -/

/-- The action reaches nothing that the provider publishes: it only begins attempts or gives
one up, or nothing waits for its answer. -/
def IsIdle (s : Session) : Action → Prop
  | .mount => True
  | .abort _ => True
  | .complete i _ => s.attempts[i]? = none
  | .grant i _ => s.activations[i]? ≠ some .enabling
  | .list i _ => ∀ granted chain format rest found,
    s.activations[i]? ≠ some (.listing granted chain format rest found)
  | _ => False

/-- What an action can make of the state and of the activations. -/
inductive Effect (s : Session) : Action → ProviderState → List Activation → Prop where
  | rest {a : Action} (h : s.IsIdle a) : Effect s a s.state s.activations
  | complete {i : Nat} {a : Provider.Attempt} (h : s.attempts[i]? = some a)
      (r : Except ConnectionError Client) :
    Effect s (.complete i r)
      (s.state.settleAttempt a.kind a.chain r.toOption (.ofClient r.toOption)) s.activations
  | activate :
    Effect s .activate { s.state with extension := .connecting } (s.activations ++ [.enabling])
  | refuse {i : Nat} {answer : Except ExtensionError (List GrantedExtension)}
      (h : s.activations[i]? = some .enabling) (hanswer : answer.toOption.getD [] = []) :
    Effect s (.grant i answer) { s.state with extension := .noExtension }
      (s.activations.set i (.done []))
  | access {i : Nat} {answer : Except ExtensionError (List GrantedExtension)} {stage : Activation}
      (h : s.activations[i]? = some .enabling) (hanswer : answer.toOption.getD [] ≠ [])
      (selected : Option Nat) (hstage : stage.IsListing ∨ stage.IsDone) :
    Effect s (.grant i answer)
      { s.state with extension := .connected, selected := selected } (s.activations.set i stage)
  | skip {i : Nat} {granted : List GrantedExtension} {chain : String} {format : BitVec 16}
      {rest : List SupportedChain} {found : Bool} {stage : Activation}
      (h : s.activations[i]? = some (.listing granted chain format rest found))
      (e : ExtensionError) (selected : Option Nat) (hstage : stage.IsListing ∨ stage.IsDone) :
    Effect s (.list i (.error e)) { s.state with selected } (s.activations.set i stage)
  | accounts {i : Nat} {granted : List GrantedExtension} {chain : String} {format : BitVec 16}
      {rest : List SupportedChain} {found : Bool} {stage : Activation}
      (h : s.activations[i]? = some (.listing granted chain format rest found))
      (l : List ListedAccount) (selected : Option Nat)
      (hstage : stage.IsListing ∨ stage.IsDone) :
    Effect s (.list i (.ok l))
      { s.state.setAccounts chain (Activation.nameAccounts l) with selected := selected }
      (s.activations.set i stage)
  | deactivate : Effect s .deactivate s.state.deactivate s.activations
  | select (index : Option Nat) :
    Effect s (.select index) { s.state with selected := index } s.activations

theorem effect_grant (s : Session) (i : Nat)
    (answer : Except ExtensionError (List GrantedExtension)) :
  s.Effect (.grant i answer) (s.perform (.grant i answer)).state
    (s.perform (.grant i answer)).activations
  := by
  rw [perform]
  split
  · rename_i h
    by_cases hanswer : answer.toOption.getD [] = []
    · obtain ⟨hstate, hstage⟩ := Activation.enabled_of_nil s.provider hanswer
      rw [resume, state, hstate, hstage]
      apply Effect.refuse h hanswer
    · obtain ⟨⟨selected, hstate⟩, hstage⟩ := Activation.enabled_of_ne_nil s.provider hanswer
      rw [resume, state, hstate]
      apply Effect.access h hanswer selected hstage
  · rename_i h
    exact .rest h

theorem effect_list (s : Session) (i : Nat)
    (answer : Except ExtensionError (List ListedAccount)) :
  s.Effect (.list i answer) (s.perform (.list i answer)).state
    (s.perform (.list i answer)).activations
  := by
  rw [perform]
  split
  · rename_i granted chain format rest found h
    cases answer with
    | error e =>
      obtain ⟨⟨selected, hstate⟩, hstage⟩ :=
        Activation.listed_error s.provider granted found chain rest e
      rw [resume, state, hstate]
      apply Effect.skip h e selected hstage
    | ok l =>
      obtain ⟨⟨selected, hstate⟩, hstage⟩ :=
        Activation.listed_ok s.provider granted found chain rest l
      rw [resume, state, hstate]
      apply Effect.accounts h l selected hstage
  · rename_i h
    exact .rest h

/-- An action has an effect. -/
theorem effect_perform (s : Session) (a : Action) :
  s.Effect a (s.perform a).state (s.perform a).activations
  := by
  cases a with
  | mount => exact .rest trivial
  | complete i r =>
    rw [perform]
    split
    · rename_i a h
      rw [state, Provider.state_complete]
      apply Effect.complete h
    · rename_i h
      exact .rest h
  | abort i => exact .rest trivial
  | activate =>
    rw [perform, state, Activation.begin, Provider.state_setExtension]
    apply Effect.activate
  | grant i answer => apply effect_grant
  | list i answer => apply effect_list
  | deactivate => apply Effect.deactivate
  | select index =>
    rw [perform, state, Provider.state_select]
    apply Effect.select

end Session

end Extrinsics
