import Mathlib.Data.List.Induction
import Extrinsics.Proofs.Lists
import Extrinsics.Proofs.Provider.Session

/-!
# Mounting

The attempts that mounting starts end in some order. An attempt writes at its own chain, and
there it replaces what an earlier one has left. So a chain comes to what its last attempt
brings. The order does not matter exactly when all attempts for a chain bring the same client,
or none. A chain that is supported once has one attempt; one that is supported twice, at two
endpoints, has two, which may end differently.
-/

namespace Extrinsics

/-- The connection to a chain after an attempt, with a client if it succeeded. -/
def Connection.settled (c : Connection) (client : Option Client) : Connection :=
  { c with client, status := .ofClient client }

/-- The chains of a kind that are supported. -/
def Config.supported (c : Config) : ChainKind → List SupportedChain
  | .parachain => c.parachains
  | .relaychain => c.relaychains

/-- States with the same connections, extension and choice are the same. -/
theorem ProviderState.ext_get? {s s' : ProviderState}
    (h : ∀ kind chain, (s.connections kind).get? chain = (s'.connections kind).get? chain)
    (hextension : s.extension = s'.extension) (hselected : s.selected = s'.selected) :
  s = s'
  := by
  have hparachains : s.parachains = s'.parachains := Table.ext_get? (h .parachain)
  have hrelaychains : s.relaychains = s'.relaychains := Table.ext_get? (h .relaychain)
  cases s
  cases s'
  cases hparachains
  cases hrelaychains
  cases hextension
  cases hselected
  rfl

namespace Provider

/-- How an attempt for a chain ends at an endpoint. -/
abbrev Outcomes := String → String → Except ConnectionError Client

/-- The client that an attempt brings, if it succeeds. -/
def Attempt.client? (o : Outcomes) (a : Attempt) : Option Client := (o a.chain a.url).toOption

/-- The provider after attempts have ended, one after the other. -/
def completeAll (o : Outcomes) (p : Provider) (l : List Attempt) : Provider :=
  l.foldl (fun p a => (p.complete a (o a.chain a.url)).1) p

/-- The status of the connection to a chain of a kind. -/
def status? (p : Provider) (kind : ChainKind) (chain : String) : Option ApiStatus :=
  ((p.state.connections kind).get? chain).map Connection.status

/-- While attempts end one after the other, each chain settles once: when its status is no
longer what it was at first, it stays. -/
def SettlesOnce (o : Outcomes) (p : Provider) (l : List Attempt) : Prop :=
  ∀ l₁ l₂, l₁ <+: l₂ → l₂ <+: l → ∀ kind chain,
    (p.completeAll o l₁).status? kind chain = p.status? kind chain
      ∨ (p.completeAll o l₂).status? kind chain = (p.completeAll o l₁).status? kind chain

/-- Attempts for the same chain agree in something. -/
def AgreeOn {α : Type} (f : Attempt → α) (l : List Attempt) : Prop :=
  ∀ a ∈ l, ∀ b ∈ l, a.kind = b.kind → a.chain = b.chain → f a = f b

/-- The last attempt for a chain of a kind. -/
def lastFor? (kind : ChainKind) (chain : String) (l : List Attempt) : Option Attempt :=
  (l.filter fun a => a.kind = kind ∧ a.chain = chain).getLast?

variable {α : Type} {f : Attempt → α} {o : Outcomes} {p : Provider} {c : Config}
  {kind : ChainKind} {chain : String}

/-! ### The last attempt for a chain -/

theorem lastFor?_concat (kind : ChainKind) (chain : String) (l : List Attempt) (a : Attempt) :
  lastFor? kind chain (l ++ [a])
    = if a.kind = kind ∧ a.chain = chain then some a else lastFor? kind chain l
  := getLast?_filter_concat (fun a : Attempt => a.kind = kind ∧ a.chain = chain) l a

theorem mem_of_lastFor? {l : List Attempt} {a : Attempt} (h : lastFor? kind chain l = some a) :
  a ∈ l ∧ a.kind = kind ∧ a.chain = chain
  := mem_of_getLast?_filter h

theorem exists_lastFor? {l : List Attempt} {a : Attempt} (h : a ∈ l) :
  ∃ b, lastFor? a.kind a.chain l = some b
  := exists_getLast?_filter (fun b : Attempt => b.kind = a.kind ∧ b.chain = a.chain) h ⟨rfl, rfl⟩

/-- Where attempts for the same chain agree, more of them do not matter. -/
theorem AgreeOn.exists_lastFor? {l l' m : List Attempt} (h : AgreeOn f m) (hsub : l ⊆ l')
    (hl' : l' ⊆ m) {a : Attempt} (ha : lastFor? kind chain l = some a) :
  ∃ b, lastFor? kind chain l' = some b ∧ f b = f a
  := by
  obtain ⟨hmem, rfl, rfl⟩ := mem_of_lastFor? ha
  obtain ⟨b, hb⟩ := Provider.exists_lastFor? (hsub hmem)
  obtain ⟨hmem', hkind, hchain⟩ := mem_of_lastFor? hb
  use b, hb
  apply h b (hl' hmem') a (hl' (hsub hmem)) hkind hchain

/-- Where attempts for the same chain agree, their order does not matter. -/
theorem AgreeOn.map_lastFor? {l l' m : List Attempt} (h : AgreeOn f m) (hl : l.Perm m)
    (hl' : l'.Perm m) (kind : ChainKind) (chain : String) :
  (lastFor? kind chain l).map f = (lastFor? kind chain l').map f
  := by
  have hsub : l ⊆ l' := (hl.trans hl'.symm).subset
  have hsub' : l' ⊆ l := (hl'.trans hl.symm).subset
  cases ha : lastFor? kind chain l with
  | some a =>
    obtain ⟨b, hb, hf⟩ := h.exists_lastFor? hsub hl'.subset ha
    rw [hb, Option.map_some, Option.map_some, hf]
  | none =>
    cases hb : lastFor? kind chain l' with
    | none => rfl
    | some b =>
      obtain ⟨a, ha', -⟩ := h.exists_lastFor? hsub' hl.subset hb
      rw [ha] at ha'
      cases ha'

/-! ### What attempts leave -/

theorem state_completeAll_concat (o : Outcomes) (p : Provider) (l : List Attempt) (a : Attempt) :
  (p.completeAll o (l ++ [a])).state
    = (p.completeAll o l).state.settleAttempt a.kind a.chain (a.client? o)
      (.ofClient (a.client? o))
  := by
  rw [completeAll, List.foldl_append, List.foldl_cons, List.foldl_nil, state_complete]
  rfl

/-- The connection to a chain is what its last attempt makes of it. -/
theorem get?_completeAll (o : Outcomes) (p : Provider) (l : List Attempt) (kind : ChainKind)
    (chain : String) :
  ((p.completeAll o l).state.connections kind).get? chain
    = ((p.state.connections kind).get? chain).map fun d =>
      ((lastFor? kind chain l).map (Attempt.client? o)).elim d d.settled
  := by
  induction l using List.reverseRecOn with
  | nil => exact Option.map_id'.symm
  | append_singleton l a ih =>
    rw [state_completeAll_concat, ProviderState.settleAttempt, ProviderState.get?_modify,
      lastFor?_concat, ih, Option.map_map]
    congr 1
    funext d
    rw [Function.comp_apply]
    by_cases h : a.kind = kind ∧ a.chain = chain
    · rw [if_pos h, if_pos ⟨h.1.symm, h.2.symm⟩]
      cases lastFor? kind chain l <;> rfl
    · rw [if_neg h, if_neg fun h' => h ⟨h'.1.symm, h'.2.symm⟩]

/-- Attempts change connections only. -/
theorem extension_completeAll (o : Outcomes) (p : Provider) (l : List Attempt) :
  (p.completeAll o l).state.extension = p.state.extension
    ∧ (p.completeAll o l).state.selected = p.state.selected
  := by
  induction l using List.reverseRecOn with
  | nil => constructor <;> rfl
  | append_singleton l a ih =>
    rw [state_completeAll_concat, ProviderState.extension_settleAttempt,
      ProviderState.selected_settleAttempt]
    apply ih

/-- What a chain has come to after its last attempt. -/
theorem get?_completeAll_concat {a : Attempt} {d : Connection}
    (h : (p.state.connections a.kind).get? a.chain = some d) (o : Outcomes) (l : List Attempt) :
  ((p.completeAll o (l ++ [a])).state.connections a.kind).get? a.chain
    = some (d.settled (a.client? o))
  := by
  rw [get?_completeAll, h, lastFor?_concat, if_pos ⟨rfl, rfl⟩]
  rfl

theorem status?_completeAll_concat {a : Attempt} {d : Connection}
    (h : (p.state.connections a.kind).get? a.chain = some d) (o : Outcomes) (l : List Attempt) :
  (p.completeAll o (l ++ [a])).status? a.kind a.chain = some (.ofClient (a.client? o))
  := by
  rw [status?, get?_completeAll_concat h]
  rfl

/-! ### Accepted configurations -/

theorem chain_of_attempt? {t : Table Network} {s : SupportedChain} {a : Attempt}
    (h : attempt? kind t s = some a) :
  a.kind = kind ∧ a.chain = s.chain ∧ ∃ n, t.get? s.chain = some n
  := by
  obtain ⟨n, hn, rfl⟩ := Option.map_eq_some_iff.1 h
  use rfl, rfl, n

/-- There is an attempt for each supported chain of the table. -/
theorem mem_attempts_iff {a : Attempt} :
  a ∈ attempts c
    ↔ ∃ s ∈ c.supported a.kind, attempt? a.kind (c.networks.ofKind a.kind) s = some a
  := by
  rw [attempts, List.mem_append, List.mem_filterMap, List.mem_filterMap]
  constructor
  · rintro (⟨s, hs, ha⟩ | ⟨s, hs, ha⟩)
    · use s
      rw [(chain_of_attempt? ha).1]
      use hs, ha
    · use s
      rw [(chain_of_attempt? ha).1]
      use hs, ha
  · rintro ⟨s, hs, ha⟩
    cases h : a.kind with
    | parachain =>
      left
      rw [h] at hs ha
      use s, hs, ha
    | relaychain =>
      right
      rw [h] at hs ha
      use s, hs, ha

/-- In the beginning, a chain that is attempted has a connection that is not settled. -/
theorem get?_of_mem_attempts (h : Provider.ofConfig c = .ok p) {a : Attempt}
    (ha : a ∈ attempts c) :
  ∃ n, (p.state.connections a.kind).get? a.chain = some (Connection.initial a.chain n)
  := by
  obtain ⟨s, -, hs⟩ := mem_attempts_iff.1 ha
  obtain ⟨-, hchain, n, hn⟩ := chain_of_attempt? hs
  use n
  rw [state_of_ofConfig h, ProviderState.connections_initial, Table.get?_mapWithKey, hchain, hn]
  rfl

/-- Attempts for one chain are one attempt when each list names each chain once. -/
theorem agreeOn_of_nodup (h : ∀ kind, ((c.supported kind).map SupportedChain.chain).Nodup)
    (f : Attempt → α) :
  AgreeOn f (attempts c)
  := by
  intro a ha b hb hkind hchain
  obtain ⟨s, hs, ha⟩ := mem_attempts_iff.1 ha
  obtain ⟨s', hs', hb⟩ := mem_attempts_iff.1 hb
  rw [← hkind] at hs' hb
  have hsame : s.chain = s'.chain := by
    rw [← (chain_of_attempt? ha).2.1, ← (chain_of_attempt? hb).2.1, hchain]
  obtain rfl := List.inj_on_of_nodup_map (h a.kind) hs hs' hsame
  rw [ha] at hb
  cases hb
  rfl

/-! ### Orders -/

theorem ofClient_ne_initializing (client : Option Client) :
  ApiStatus.ofClient client ≠ .initializing
  := by
  cases client <;> rintro ⟨⟩

theorem ofClient_eq_iff {x y : Option Client} :
  ApiStatus.ofClient x = ApiStatus.ofClient y ↔ x.isSome = y.isSome
  := by
  cases x <;> cases y <;> simp [ApiStatus.ofClient]

theorem status?_completeAll (o : Outcomes) (p : Provider) (l : List Attempt) (kind : ChainKind)
    (chain : String) :
  (p.completeAll o l).status? kind chain
    = ((p.state.connections kind).get? chain).map fun d =>
      ((lastFor? kind chain l).map fun a => ApiStatus.ofClient (a.client? o)).getD d.status
  := by
  rw [status?, get?_completeAll, Option.map_map]
  congr 1
  funext d
  cases h : lastFor? kind chain l <;> simp [Connection.settled]

/-- All orders lead to one state exactly when attempts for the same chain bring the same. -/
theorem state_eq_iff (h : Provider.ofConfig c = .ok p) (o : Outcomes) :
  (∀ l l', l.Perm (attempts c) → l'.Perm (attempts c) →
      (p.completeAll o l).state = (p.completeAll o l').state)
    ↔ AgreeOn (Attempt.client? o) (attempts c)
  := by
  constructor
  · intro hsame a ha b hb hkind hchain
    obtain ⟨n, hn⟩ := get?_of_mem_attempts h ha
    have hlast (b : Attempt) (hb : b ∈ attempts c) :
        ((attempts c).erase b ++ [b]).Perm (attempts c) :=
      (List.perm_append_singleton b _).trans (List.perm_cons_erase hb).symm
    have hconnection := get?_completeAll_concat hn o ((attempts c).erase a)
    rw [hsame _ _ (hlast a ha) (hlast b hb), hkind, hchain,
      get?_completeAll_concat (hkind ▸ hchain ▸ hn) o] at hconnection
    apply (congrArg Connection.client (Option.some.inj hconnection)).symm
  · intro hagree l l' hl hl'
    obtain ⟨hextension, hselected⟩ := extension_completeAll o p l
    obtain ⟨hextension', hselected'⟩ := extension_completeAll o p l'
    apply ProviderState.ext_get?
    · intro kind chain
      rw [get?_completeAll, get?_completeAll, hagree.map_lastFor? hl hl' kind chain]
    · rw [hextension, hextension']
    · rw [hselected, hselected']

/-- Each chain settles once in all orders exactly when attempts for the same chain all succeed
or all fail. -/
theorem settlesOnce_iff (h : Provider.ofConfig c = .ok p) (o : Outcomes) :
  (∀ l, l.Perm (attempts c) → p.SettlesOnce o l)
    ↔ AgreeOn (fun a => (a.client? o).isSome) (attempts c)
  := by
  constructor
  · intro hsettles a ha b hb hkind hchain
    by_contra hne
    have hab : b ≠ a := by
      rintro rfl
      apply hne rfl
    obtain ⟨n, hn⟩ := get?_of_mem_attempts h ha
    -- In this order the attempts end with the two.
    have hrest := List.perm_cons_erase ((List.mem_erase_of_ne hab).2 hb)
    have horder : ((((attempts c).erase a).erase b ++ [a]) ++ [b]).Perm (attempts c) := by
      apply (List.perm_append_singleton b _).trans
      apply ((List.perm_append_singleton a _).cons b).trans
      apply (List.Perm.swap a b _).trans
      apply (hrest.symm.cons a).trans (List.perm_cons_erase ha).symm
    have hfirst := status?_completeAll_concat hn o (((attempts c).erase a).erase b)
    have hsecond := status?_completeAll_concat (hkind ▸ hchain ▸ hn) o
      (((attempts c).erase a).erase b ++ [a])
    rw [← hkind, ← hchain] at hsecond
    rcases hsettles _ horder _ _ (List.prefix_append _ [b]) List.prefix_rfl a.kind a.chain with
      hstays | hsame
    · rw [hfirst, status?, hn] at hstays
      apply ofClient_ne_initializing (a.client? o) (Option.some.inj hstays)
    · rw [hfirst, hsecond] at hsame
      apply hne (ofClient_eq_iff.1 (Option.some.inj hsame)).symm
  · intro hagree l hl l₁ l₂ hinit hinit' kind chain
    cases ha : lastFor? kind chain l₁ with
    | none =>
      left
      rw [status?_completeAll, ha]
      rfl
    | some a =>
      right
      obtain ⟨b, hb, hsome⟩ :=
        hagree.exists_lastFor? hinit.subset (List.Subset.trans hinit'.subset hl.subset) ha
      rw [status?_completeAll, status?_completeAll, ha, hb, Option.map_some, Option.map_some,
        ofClient_eq_iff.2 hsome]

/-- When all attempts that mounting starts have ended, every order has led to the same state
exactly when attempts for the same chain bring the same client, or none. On the way each chain
settles once, in every order, exactly when attempts for the same chain all succeed or all fail.
Both hold when the list of each kind names each chain once. -/
theorem mounting_orders (h : Provider.ofConfig c = .ok p) (o : Outcomes) :
  ((∀ l l', l.Perm (attempts c) → l'.Perm (attempts c) →
        (p.completeAll o l).state = (p.completeAll o l').state)
      ↔ AgreeOn (Attempt.client? o) (attempts c))
    ∧ ((∀ l, l.Perm (attempts c) → p.SettlesOnce o l)
      ↔ AgreeOn (fun a => (a.client? o).isSome) (attempts c))
    ∧ ((∀ kind, ((c.supported kind).map SupportedChain.chain).Nodup) →
      (∀ l l', l.Perm (attempts c) → l'.Perm (attempts c) →
          (p.completeAll o l).state = (p.completeAll o l').state)
        ∧ ∀ l, l.Perm (attempts c) → p.SettlesOnce o l)
  := by
  refine ⟨state_eq_iff h o, settlesOnce_iff h o, ?_⟩
  intro hnodup
  constructor
  · apply (state_eq_iff h o).2 (agreeOn_of_nodup hnodup _)
  · apply (settlesOnce_iff h o).2 (agreeOn_of_nodup hnodup _)

end Provider

namespace Samples

/-- A configuration with the parachain Picasso at two endpoints. -/
def twiceConfig : Config where
  appName := "sample"
  parachains := [⟨"picasso", some "ws://a"⟩, ⟨"picasso", some "ws://b"⟩]
  relaychains := []
  networks := ⟨.ofList [("picasso", NetworkTable.picasso)], .empty⟩
  logs := .standard

/-- A provider that has done nothing yet. -/
def twiceProvider : Provider := ⟨twiceConfig, .initial twiceConfig.networks, 0, []⟩

/-- Only the second endpoint answers. -/
def secondAnswers : Provider.Outcomes := fun chain url =>
  if url = "ws://b" then .ok ⟨chain, .empty⟩ else .error (.unreachable url "refused")

end Samples

namespace Provider

/-- A chain that is supported at two endpoints may fail and then be connected, and its
connection depends on the order. -/
theorem not_settlesOnce_secondAnswers :
  ofConfig Samples.twiceConfig = .ok Samples.twiceProvider
    ∧ ¬ Samples.twiceProvider.SettlesOnce Samples.secondAnswers (attempts Samples.twiceConfig)
    ∧ (Samples.twiceProvider.completeAll Samples.secondAnswers
        (attempts Samples.twiceConfig)).state
      ≠ (Samples.twiceProvider.completeAll Samples.secondAnswers
        (attempts Samples.twiceConfig).reverse).state
  := by
  refine ⟨rfl, ?_, ?_⟩
  · intro hsettles
    have hsecond := hsettles ((attempts Samples.twiceConfig).take 1) (attempts Samples.twiceConfig)
      (List.take_prefix 1 _) List.prefix_rfl .parachain "picasso"
    revert hsecond
    decide
  · decide

theorem mounting_orders_secondAnswers :
  ∃ l l', l.Perm (attempts Samples.twiceConfig) ∧ l'.Perm (attempts Samples.twiceConfig)
    ∧ (Samples.twiceProvider.completeAll Samples.secondAnswers l).state
      ≠ (Samples.twiceProvider.completeAll Samples.secondAnswers l').state
  := by
  have haccepted : ofConfig Samples.twiceConfig = .ok Samples.twiceProvider := rfl
  obtain ⟨hiff, -⟩ := mounting_orders haccepted Samples.secondAnswers
  by_contra hnone
  push Not at hnone
  have hagree := hiff.1 hnone
    ⟨.parachain, "picasso", "ws://a"⟩ List.mem_cons_self ⟨.parachain, "picasso", "ws://b"⟩
    (List.mem_cons_of_mem _ List.mem_cons_self) rfl rfl
  revert hagree
  decide

end Provider

end Extrinsics
