import Mathlib.Data.List.Induction
import Extrinsics.Proofs.Provider.Session
import Extrinsics.Samples

/-!
# Accounts and access

While the extension grants no access, no chain should have accounts. Two answers break this: a
refusal, which leaves the accounts that an earlier activation has found, and a list of accounts
that comes after the extension was given up, or after another activation was refused. Nothing
else breaks it.
-/

namespace Extrinsics

/-- The extension was not asked for access, or it grants none. -/
def ExtensionStatus.IsClosed (e : ExtensionStatus) : Prop := e = .initializing ∨ e = .noExtension

instance (e : ExtensionStatus) : Decidable e.IsClosed := inferInstanceAs (Decidable (_ ∨ _))

namespace ProviderState

/-- No chain has accounts. -/
def IsBare (s : ProviderState) : Prop := ∀ kind chain, s.accounts kind chain = []

/-- No chain has accounts while the extension grants no access. -/
def IsGuarded (s : ProviderState) : Prop := s.extension.IsClosed → s.IsBare

/-- The end of an attempt does not matter for the accounts. -/
theorem isBare_settleAttempt (s : ProviderState) (kind : ChainKind) (chain : String)
    (client : Option Client) (status : ApiStatus) :
  (s.settleAttempt kind chain client status).IsBare ↔ s.IsBare
  := by
  simp only [IsBare, accounts_settleAttempt]

theorem isGuarded_settleAttempt (s : ProviderState) (kind : ChainKind) (chain : String)
    (client : Option Client) (status : ApiStatus) :
  (s.settleAttempt kind chain client status).IsGuarded ↔ s.IsGuarded
  := by
  rw [IsGuarded, extension_settleAttempt, isBare_settleAttempt, IsGuarded]

/-- A chain has no accounts after they were set when none were listed. -/
theorem isBare_setAccounts {s : ProviderState} (h : s.IsBare) (chain : String)
    (l : List ListedAccount) :
  (s.setAccounts chain (Activation.nameAccounts l)).IsBare
    ↔ ((s.parachains.get? chain).isSome → l = [])
  := by
  have hnames : Activation.nameAccounts l = [] ↔ l = [] := by
    rw [Activation.nameAccounts, List.mapIdx_eq_nil_iff]
  constructor
  · intro hbare hsome
    have haccounts := hbare .parachain chain
    rw [accounts_setAccounts, if_pos ⟨rfl, rfl, hsome⟩] at haccounts
    apply hnames.1 haccounts
  · intro hnil kind chain'
    rw [accounts_setAccounts]
    split
    · rename_i hchain
      apply hnames.2 (hnil hchain.2.2)
    · apply h

end ProviderState

namespace Session

/-- An answer that leaves accounts although the extension grants no access. -/
inductive Leaks (s : Session) : Action → Prop where
  /-- An activation gets no access while there are accounts of an earlier one. -/
  | refusal {i : Nat} {answer : Except ExtensionError (List GrantedExtension)}
      (h : s.activations[i]? = some .enabling) (hanswer : answer.toOption.getD [] = [])
      (hbare : ¬ s.state.IsBare) :
    Leaks s (.grant i answer)
  /-- An activation gets accounts when there is no access any more. -/
  | late {i : Nat} {granted : List GrantedExtension} {chain : String} {format : BitVec 16}
      {rest : List SupportedChain} {found : Bool} {l : List ListedAccount}
      (h : s.activations[i]? = some (.listing granted chain format rest found)) (hne : l ≠ [])
      (hsome : (s.state.parachains.get? chain).isSome) (hclosed : s.state.extension.IsClosed) :
    Leaks s (.list i (.ok l))

variable {s : Session} {a : Action}

theorem not_leaks_of_isIdle (h : s.IsIdle a) :
  ¬ s.Leaks a
  := by
  intro hleaks
  cases hleaks with
  | refusal hasking _ _ => apply h hasking
  | late hlisting _ _ _ => apply h _ _ _ _ _ hlisting

/-- Relay chains keep the accounts they have. -/
theorem Effect.accounts_relaychain {t : ProviderState} {xs : List Activation}
    (h : s.Effect a t xs) (chain : String) :
  t.accounts .relaychain chain = s.state.accounts .relaychain chain
  := by
  cases h with
  | complete h r => apply ProviderState.accounts_settleAttempt
  | @accounts i granted chain' format rest found stage h l selected hstage =>
    have hset := s.state.accounts_setAccounts .relaychain chain' chain
      (Activation.nameAccounts l)
    rw [if_neg fun hkind => ChainKind.noConfusion hkind.1] at hset
    apply hset
  | rest h => rfl
  | activate => rfl
  | refuse h hanswer => rfl
  | access h hanswer selected hstage => rfl
  | skip h e selected hstage => rfl
  | deactivate => rfl
  | select index => rfl

/-- From a state in which no chain has accounts without access, an action leads to another one
exactly when it does not leak. -/
theorem Effect.isGuarded_iff {t : ProviderState} {xs : List Activation} (h : s.Effect a t xs)
    (hrelay : ∀ chain, s.state.accounts .relaychain chain = []) (hs : s.state.IsGuarded) :
  t.IsGuarded ↔ ¬ s.Leaks a
  := by
  cases h with
  | rest h => exact iff_of_true hs (not_leaks_of_isIdle h)
  | complete h r =>
    apply iff_of_true ((ProviderState.isGuarded_settleAttempt ..).2 hs)
    rintro ⟨⟩
  | activate =>
    apply iff_of_true
    · rintro (hclosed | hclosed) <;> cases hclosed
    · rintro ⟨⟩
  | refuse h hanswer =>
    constructor
    · intro hguarded hleaks
      cases hleaks with
      | refusal _ _ hbare => apply hbare (hguarded (.inr rfl))
    · intro hleaks _
      by_contra hbare
      apply hleaks (.refusal h hanswer hbare)
  | access h hanswer selected hstage =>
    apply iff_of_true
    · rintro (hclosed | hclosed) <;> cases hclosed
    · intro hleaks
      cases hleaks with
      | refusal _ hnil _ => apply hanswer hnil
  | skip h e selected hstage =>
    apply iff_of_true hs
    rintro ⟨⟩
  | @accounts i granted chain format rest found stage h l selected hstage =>
    have hext := s.state.extension_setAccounts chain (Activation.nameAccounts l)
    -- Setting accounts keeps the status, so only a closed one matters. Then there were none.
    constructor
    · intro hguarded hleaks
      cases hleaks with
      | late h' hne hsome hclosed =>
        rw [h] at h'
        cases h'
        have hbare := hguarded (hext.symm ▸ hclosed)
        apply hne ((ProviderState.isBare_setAccounts (hs hclosed) chain l).1 hbare hsome)
    · intro hleaks hclosed
      have hclosed : s.state.extension.IsClosed := hext ▸ hclosed
      apply (ProviderState.isBare_setAccounts (hs hclosed) chain l).2
      intro hsome
      by_contra hne
      apply hleaks (.late h hne hsome hclosed)
  | deactivate =>
    apply iff_of_true
    · rintro - (_ | _) chain
      · apply ProviderState.accounts_deactivate_parachain
      · rw [ProviderState.accounts_deactivate_relaychain, hrelay]
    · rintro ⟨⟩
  | select index =>
    apply iff_of_true hs
    rintro ⟨⟩

/-! ### One activation at a time -/

/-- An activation begins only when none is under way and there are no accounts, and the
extension is given up only when no activation is under way. -/
def IsOrderly (s : Session) : Action → Prop
  | .activate => (∀ x ∈ s.activations, x.IsDone) ∧ s.state.IsBare
  | .deactivate => ∀ x ∈ s.activations, x.IsDone
  | _ => True

/-- The activations are under way one at a time. While one waits for access there are no
accounts, and while it waits for accounts there is access. -/
structure IsCalm (t : ProviderState) (xs : List Activation) : Prop where
  single : ∀ (i j : Nat) (x y : Activation), xs[i]? = some x → xs[j]? = some y →
    ¬ x.IsDone → ¬ y.IsDone → i = j
  asking : .enabling ∈ xs → t.IsBare
  listing : ∀ x ∈ xs, x.IsListing → t.extension = .connected

namespace IsCalm

variable {t t' : ProviderState} {xs : List Activation}

/-- A change that keeps what there is keeps the calm. -/
theorem mono (h : IsCalm t xs) (hbare : t.IsBare → t'.IsBare)
    (hext : t.extension = .connected → t'.extension = .connected) :
  IsCalm t' xs
  where
  single := h.single
  asking := fun hmem => hbare (h.asking hmem)
  listing := fun x hx hlisting => hext (h.listing x hx hlisting)

/-- When all activations have ended, it is calm. -/
theorem of_isDone (h : ∀ x ∈ xs, x.IsDone) :
  IsCalm t xs
  where
  single := fun _ _ x _ hx _ hlive _ => (hlive (h x (List.mem_of_getElem? hx))).elim
  asking := fun hmem => (h _ hmem).elim
  listing := by
    intro x hx hlisting
    have hdone := h x hx
    cases x with
    | listing => cases hdone
    | enabling => cases hlisting
    | done => cases hlisting

/-- A new activation may begin when the others have ended. -/
theorem concat (h : ∀ x ∈ xs, x.IsDone) (hbare : t.IsBare) :
  IsCalm t (xs ++ [.enabling])
  where
  single := by
    have hlast (i : Nat) (x : Activation) (hx : (xs ++ [.enabling])[i]? = some x)
        (hlive : ¬ x.IsDone) : i = xs.length := by
      rw [List.getElem?_append] at hx
      split at hx
      · exact (hlive (h x (List.mem_of_getElem? hx))).elim
      · rename_i hi
        rw [List.getElem?_singleton] at hx
        split at hx
        · omega
        · cases hx
    intro i j x y hx hy hx' hy'
    rw [hlast i x hx hx', hlast j y hy hy']
  asking := fun _ => hbare
  listing := by
    intro x hx hlisting
    rcases List.mem_append.1 hx with hx | hx
    · apply (of_isDone h).listing x hx hlisting
    · rw [List.mem_singleton.1 hx] at hlisting
      cases hlisting

/-- The one activation that is under way may go on. -/
theorem set (h : IsCalm t xs) {i : Nat} {x stage : Activation} (hx : xs[i]? = some x)
    (hlive : ¬ x.IsDone) (hstage : stage.IsListing ∨ stage.IsDone)
    (hext : stage.IsListing → t'.extension = .connected) :
  IsCalm t' (xs.set i stage)
  := by
  -- The activations beside the one that goes on have ended, so it is still the only one.
  have honly (j : Nat) (y : Activation) (hy : (xs.set i stage)[j]? = some y)
      (hy' : ¬ y.IsDone) : j = i ∧ y = stage := by
    rw [List.getElem?_set] at hy
    split at hy
    · rename_i hij
      split at hy
      · cases hy
        use hij.symm
      · cases hy
    · rename_i hij
      exact (hij (h.single i j x y hx hy hlive hy')).elim
  have hmem (y : Activation) (hy : y ∈ xs.set i stage) (hy' : ¬ y.IsDone) : y = stage := by
    obtain ⟨j, hj⟩ := List.mem_iff_getElem?.1 hy
    apply (honly j y hj hy').2
  constructor
  · intro j k y z hy hz hy' hz'
    rw [(honly j y hy hy').1, (honly k z hz hz').1]
  · intro hasking
    rw [← hmem .enabling hasking id] at hstage
    rcases hstage with hstage | hstage <;> cases hstage
  · intro y hy hlisting
    apply hext
    rwa [← hmem y hy fun hdone => by cases y <;> trivial]

end IsCalm

/-- An orderly action keeps the calm. -/
theorem Effect.isCalm {t : ProviderState} {xs : List Activation} (h : s.Effect a t xs)
    (hs : IsCalm s.state s.activations) (ho : s.IsOrderly a) :
  IsCalm t xs
  := by
  cases h with
  | rest h => apply hs
  | complete h r =>
    apply hs.mono
    · apply (ProviderState.isBare_settleAttempt ..).2
    · rw [ProviderState.extension_settleAttempt]
      exact id
  | activate =>
    obtain ⟨hdone, hbare⟩ := ho
    apply IsCalm.concat hdone
    apply hbare
  | refuse h hanswer =>
    apply hs.set h id
    · right
      trivial
    · rintro ⟨⟩
  | access h hanswer selected hstage =>
    apply hs.set h id hstage
    intro _
    rfl
  | skip h e selected hstage =>
    apply hs.set h id hstage
    intro _
    apply hs.listing _ (List.mem_of_getElem? h) trivial
  | @accounts i granted chain format rest found stage h l selected hstage =>
    apply hs.set h id hstage
    intro _
    apply (s.state.extension_setAccounts chain (Activation.nameAccounts l)).trans
    apply hs.listing _ (List.mem_of_getElem? h) trivial
  | deactivate => apply IsCalm.of_isDone ho
  | select index =>
    apply hs.mono
    · exact id
    · exact id

/-- While activations are under way one at a time, no answer leaks. -/
theorem IsCalm.not_leaks (hs : IsCalm s.state s.activations) :
  ¬ s.Leaks a
  := by
  intro hleaks
  cases hleaks with
  | refusal h hanswer hbare => apply hbare (hs.asking (List.mem_of_getElem? h))
  | late h hne hsome hclosed =>
    rw [hs.listing _ (List.mem_of_getElem? h) trivial] at hclosed
    rcases hclosed with hclosed | hclosed <;> cases hclosed

/-! ### Runs -/

variable {c : Config} {p : Provider}

/-- No relay chain ever has accounts. -/
theorem accounts_relaychain_run (h : Provider.ofConfig c = .ok p) (as : List Action)
    (chain : String) :
  (run p as).state.accounts .relaychain chain = []
  := by
  induction as using List.reverseRecOn with
  | nil =>
    rw [run, List.foldl_nil, start, state, Provider.state_of_ofConfig h]
    apply ProviderState.accounts_initial
  | append_singleton as a ih =>
    rw [run_concat, ((run p as).effect_perform a).accounts_relaychain, ih]

/-- In a run, no chain has accounts without access exactly as long as no answer leaks. -/
theorem isGuarded_run_iff (h : Provider.ofConfig c = .ok p) (as : List Action) :
  (∀ bs, bs <+: as → (run p bs).state.IsGuarded)
    ↔ ∀ bs a, bs ++ [a] <+: as → ¬ (run p bs).Leaks a
  := by
  have hstep (bs : List Action) (a : Action) (hs : (run p bs).state.IsGuarded) :
      (run p (bs ++ [a])).state.IsGuarded ↔ ¬ (run p bs).Leaks a := by
    rw [run_concat]
    apply ((run p bs).effect_perform a).isGuarded_iff (accounts_relaychain_run h bs) hs
  constructor
  · intro hguarded bs a hbs
    apply (hstep bs a (hguarded bs ((List.prefix_append bs [a]).trans hbs))).1
    apply hguarded (bs ++ [a]) hbs
  · intro hnone bs
    induction bs using List.reverseRecOn with
    | nil =>
      intro _ _ kind chain
      rw [run, List.foldl_nil, start, state, Provider.state_of_ofConfig h]
      apply ProviderState.accounts_initial
    | append_singleton bs a ih =>
      intro hbs
      apply (hstep bs a (ih ((List.prefix_append bs [a]).trans hbs))).2
      apply hnone bs a hbs

/-- In a run of orderly actions, activations are under way one at a time. -/
theorem isCalm_run {as : List Action}
    (ho : ∀ bs a, bs ++ [a] <+: as → (run p bs).IsOrderly a) :
  IsCalm (run p as).state (run p as).activations
  := by
  induction as using List.reverseRecOn with
  | nil =>
    apply IsCalm.of_isDone
    rintro x ⟨⟩
  | append_singleton as a ih =>
    have hcalm := ih fun bs b hbs => ho bs b (hbs.trans (List.prefix_append as [a]))
    rw [run_concat]
    apply ((run p as).effect_perform a).isCalm hcalm (ho as a List.prefix_rfl)

/-- In every run from an accepted configuration, no chain has accounts while the extension
grants no access, exactly as long as no answer leaks. None does when every activation begins
with no other one under way and no accounts there, and the extension is given up only when no
activation is under way. -/
theorem guarded_run (h : Provider.ofConfig c = .ok p) (as : List Action) :
  ((∀ bs, bs <+: as → (run p bs).state.IsGuarded)
      ↔ ∀ bs a, bs ++ [a] <+: as → ¬ (run p bs).Leaks a)
    ∧ ((∀ bs a, bs ++ [a] <+: as → (run p bs).IsOrderly a) → (run p as).state.IsGuarded)
  := by
  constructor
  · apply isGuarded_run_iff h
  · intro ho
    apply (isGuarded_run_iff h as).2 _ as List.prefix_rfl
    intro bs a hbs
    apply IsCalm.not_leaks
    apply isCalm_run
    intro cs b hcs
    apply ho cs b (hcs.trans ((List.prefix_append bs [a]).trans hbs))

end Session

namespace Samples

/-- A configuration with the parachain Picasso. -/
def picassoConfig : Config where
  appName := "sample"
  parachains := [⟨"picasso", none⟩]
  relaychains := []
  networks := ⟨.ofList [("picasso", NetworkTable.picasso)], .empty⟩
  logs := .standard

/-- A provider that has done nothing yet. -/
def picassoProvider : Provider := ⟨picassoConfig, .initial picassoConfig.networks, 0, []⟩

/-- An activation finds accounts, and a second one gets no access. -/
def refusedRun : List Session.Action :=
  [.activate, .grant 0 (.ok [⟨"polkadot-js", "0.44.1"⟩]), .list 0 (.ok accounts),
    .activate, .grant 1 (.ok [])]

end Samples

namespace Session

/-- A second activation that gets no access leaves the accounts of the first. -/
theorem not_isGuarded_refusedRun :
  Provider.ofConfig Samples.picassoConfig = .ok Samples.picassoProvider
    ∧ ¬ (run Samples.picassoProvider Samples.refusedRun).state.IsGuarded
  := by
  constructor
  · rfl
  · intro hguarded
    have haccounts := hguarded (.inr rfl) .parachain "picasso"
    revert haccounts
    decide

theorem guarded_refusedRun :
  ∃ bs a, bs ++ [a] <+: Samples.refusedRun ∧ (run Samples.picassoProvider bs).Leaks a
  := by
  have haccepted : Provider.ofConfig Samples.picassoConfig = .ok Samples.picassoProvider := rfl
  obtain ⟨hiff, -⟩ := guarded_run haccepted Samples.refusedRun
  by_contra hnone
  push Not at hnone
  have haccounts := hiff.2 hnone Samples.refusedRun List.prefix_rfl (.inr rfl) .parachain "picasso"
  revert haccounts
  decide

end Session

end Extrinsics
