import Extrinsics.Proofs.Provider.Connections

/-!
# Acceptance

A configuration is accepted if the table of each kind has every supported chain of that kind. The
provider keeps a connection for each chain of the tables, and keeps its address format. So nothing
that is supported is left out: mounting starts an attempt for each supported chain, and an
activation that has access asks for the accounts of each supported parachain, both in the order of
the configuration.
-/

namespace Extrinsics

open Provider (Attempt)

namespace Config

variable {c : Config}

/-! ### What is missing -/

/-- A chain is the first of some supported ones that a table does not have. -/
def IsFirstMissing (chains : List SupportedChain) (networks : Table Network) (chain : String) :
    Prop :=
  ∃ l₁ x l₂, chains = l₁ ++ x :: l₂ ∧ x.chain = chain ∧ networks.get? chain = none
    ∧ ∀ y ∈ l₁, networks.get? y.chain ≠ none

/-- A chain is the first supported one that the table of its kind does not have, with parachains
before relay chains. -/
def Misses (c : Config) (chain : String) : Prop :=
  IsFirstMissing c.parachains c.networks.parachains chain
    ∨ (∀ x ∈ c.parachains, c.networks.parachains.get? x.chain ≠ none)
      ∧ IsFirstMissing c.relaychains c.networks.relaychains chain

/-- The tables have every supported chain. -/
def IsCovered (c : Config) : Prop :=
  ∀ kind, ∀ x ∈ c.supported kind, (c.networks.ofKind kind).get? x.chain ≠ none

theorem missing?_eq_some_iff {chains : List SupportedChain} {networks : Table Network}
    {chain : String} :
  missing? chains networks = some chain ↔ IsFirstMissing chains networks chain
  := by
  rw [missing?, Option.map_eq_some_iff]
  simp only [List.find?_eq_some_iff_append, Table.contains]
  constructor
  · rintro ⟨x, ⟨hx, l₁, l₂, rfl, hl₁⟩, rfl⟩
    refine ⟨l₁, x, l₂, rfl, rfl, by simpa using hx, fun y hy => ?_⟩
    have hsome := hl₁ y hy
    simpa [Option.isSome_iff_ne_none] using hsome
  · rintro ⟨l₁, x, l₂, rfl, rfl, hx, hl₁⟩
    refine ⟨x, ⟨by simp [hx], l₁, l₂, rfl, fun y hy => ?_⟩, rfl⟩
    have hsome := hl₁ y hy
    simpa [Option.isSome_iff_ne_none] using hsome

theorem missing?_eq_none_iff {chains : List SupportedChain} {networks : Table Network} :
  missing? chains networks = none ↔ ∀ x ∈ chains, networks.get? x.chain ≠ none
  := by
  rw [missing?, Option.map_eq_none_iff, List.find?_eq_none]
  simp [Table.contains]

theorem validate_eq_error_iff (c : Config) (e : ConfigError) :
  c.validate = .error e ↔ ∃ chain, e = .unknownChain chain ∧ c.Misses chain
  := by
  have hmisses (chain : String) : c.Misses chain
      ↔ (missing? c.parachains c.networks.parachains).or
        (missing? c.relaychains c.networks.relaychains) = some chain := by
    rw [Misses, ← missing?_eq_some_iff, ← missing?_eq_none_iff, ← missing?_eq_some_iff,
      Option.or_eq_some_iff]
  rw [validate]
  simp only [hmisses]
  cases (missing? c.parachains c.networks.parachains).or
    (missing? c.relaychains c.networks.relaychains) <;> simp [eq_comm]

theorem validate_eq_ok_iff (c : Config) :
  c.validate = .ok () ↔ c.IsCovered
  := by
  have hcovered : c.IsCovered ↔ (missing? c.parachains c.networks.parachains).or
      (missing? c.relaychains c.networks.relaychains) = none := by
    rw [Option.or_eq_none_iff, missing?_eq_none_iff, missing?_eq_none_iff]
    constructor
    · intro h
      use h .parachain, h .relaychain
    · rintro ⟨hparachains, hrelaychains⟩ (_ | _)
      · exact hparachains
      · exact hrelaychains
  rw [validate, hcovered]
  cases (missing? c.parachains c.networks.parachains).or
    (missing? c.relaychains c.networks.relaychains) <;> simp

/-! ### Texts -/

/-- The configuration that a text describes, accepted or not. -/
def described? (s : String) : Option Config :=
  (TomlText.tree? s).bind fun tree => (shape.decode .config tree).toOption

/-- A configuration that a text describes is read if it is accepted. -/
theorem ofToml_of_described? {s : String} (h : described? s = some c) :
  ofToml s = c.validate.map fun _ => c
  := by
  obtain ⟨tree, htree, hdecode⟩ := Option.bind_eq_some_iff.1 h
  rw [ofToml, htree]
  dsimp only
  cases hc : shape.decode .config tree with
  | error e =>
    rw [hc] at hdecode
    cases hdecode
  | ok c' =>
    rw [hc] at hdecode
    cases hdecode
    rfl

end Config

namespace Provider

variable {c : Config}

theorem ofConfig_eq (c : Config) :
  ofConfig c = c.validate.map fun _ => ⟨c, .initial c.networks, 0, []⟩
  := rfl

theorem ofConfig_eq_error_iff (c : Config) (e : ConfigError) :
  ofConfig c = .error e ↔ ∃ chain, e = .unknownChain chain ∧ c.Misses chain
  := by
  rw [← Config.validate_eq_error_iff, ofConfig_eq]
  cases c.validate <;> simp [Except.map]

theorem isCovered_of_ofConfig {p : Provider} (h : ofConfig c = .ok p) :
  c.IsCovered
  := by
  rw [← Config.validate_eq_ok_iff]
  rw [ofConfig_eq] at h
  cases hc : c.validate with
  | error e =>
    rw [hc] at h
    cases h
  | ok u => rfl

theorem exists_ofConfig_eq_error_iff (c : Config) :
  (∃ e, ofConfig c = .error e) ↔ ∃ kind, ∃ x ∈ c.supported kind,
    (c.networks.ofKind kind).get? x.chain = none
  := by
  have hcovered : (∃ e, ofConfig c = .error e) ↔ ¬ c.IsCovered := by
    rw [← Config.validate_eq_ok_iff, ofConfig_eq]
    cases c.validate <;> simp [Except.map]
  rw [hcovered, Config.IsCovered]
  push Not
  rfl

/-! ### Attempts -/

/-- An attempt for a supported chain of a kind: at its own endpoint, or without one at that of the
network that the table of the kind has for it. -/
structure Attempt.IsFor (c : Config) (kind : ChainKind) (x : SupportedChain) (a : Attempt) :
    Prop where
  kind_eq : a.kind = kind
  chain_eq : a.chain = x.chain
  exists_network : ∃ n, (c.networks.ofKind kind).get? x.chain = some n ∧ a.url = x.url.getD n.wsUrl

end Provider

/-- The supported chains with their kinds, parachains first. -/
def Config.entries (c : Config) : List (ChainKind × SupportedChain) :=
  c.parachains.map (ChainKind.parachain, ·) ++ c.relaychains.map (ChainKind.relaychain, ·)

namespace Provider

theorem attempts_eq (c : Config) :
  attempts c = c.entries.filterMap fun x => attempt? x.1 (c.networks.ofKind x.1) x.2
  := by
  rw [attempts, Config.entries, List.filterMap_append, List.filterMap_map, List.filterMap_map]
  rfl

theorem isFor_of_attempt? {c : Config} {kind : ChainKind} {x : SupportedChain} {a : Attempt}
    (h : attempt? kind (c.networks.ofKind kind) x = some a) :
  a.IsFor c kind x
  := by
  obtain ⟨n, hn, rfl⟩ := Option.map_eq_some_iff.1 h
  exact ⟨rfl, rfl, n, hn, rfl⟩

variable {c : Config}

theorem mem_supported_of_mem_entries {x : ChainKind × SupportedChain} (h : x ∈ c.entries) :
  x.2 ∈ c.supported x.1
  := by
  rcases List.mem_append.1 h with h | h
  · obtain ⟨y, hy, rfl⟩ := List.mem_map.1 h
    exact hy
  · obtain ⟨y, hy, rfl⟩ := List.mem_map.1 h
    exact hy

/-- Where the tables have every supported chain, there is one attempt for each. -/
theorem forall₂_attempts (h : c.IsCovered) :
  List.Forall₂ (fun x a => Attempt.IsFor c x.1 x.2 a) c.entries (attempts c)
  := by
  have hall := forall₂_filterMap (l := c.entries)
    (f := fun x => attempt? x.1 (c.networks.ofKind x.1) x.2) fun x hx => by
      rw [attempt?, ne_eq, Option.map_eq_none_iff]
      apply h x.1 x.2 (mem_supported_of_mem_entries hx)
  rw [attempts_eq]
  exact hall.imp fun x a hx => isFor_of_attempt? hx

end Provider

/-! ### Questions for accounts -/

/-- What an activation has to ask for a supported parachain: the accounts of the chain, in the
address format of its network. -/
def Config.question? (c : Config) (x : SupportedChain) : Option (String × BitVec 16) :=
  (c.networks.parachains.get? x.chain).map fun n => (x.chain, n.addressFormat)

theorem Config.IsCovered.question?_ne_none {c : Config} (h : c.IsCovered) {x : SupportedChain}
    (hx : x ∈ c.parachains) :
  c.question? x ≠ none
  := by
  rw [question?, ne_eq, Option.map_eq_none_iff]
  apply h .parachain x hx

/-- The parachains of a state have the address formats of their networks. -/
def ProviderState.HasFormats (c : Config) (s : ProviderState) : Prop :=
  ∀ chain, (s.parachains.get? chain).map Connection.addressFormat
    = (c.networks.parachains.get? chain).map Network.addressFormat

theorem ProviderState.HasFormats.setAccounts {c : Config} {s : ProviderState}
    (h : s.HasFormats c) (chain : String) (l : List Account) :
  (s.setAccounts chain l).HasFormats c
  := by
  intro chain'
  refine Eq.trans ?_ (h chain')
  apply s.map_get?_modify .parachain .parachain
  intro d
  rfl

namespace Activation

variable {c : Config} {p : Provider}

/-- An activation that comes to a chain of the table asks for its accounts. -/
theorem proceed_cons (h : p.state.HasFormats c) {x : SupportedChain} {q : String × BitVec 16}
    (hx : c.question? x = some q) (granted : List GrantedExtension) (found : Bool)
    (rest : List SupportedChain) :
  proceed p granted found (x :: rest) = (p, listing granted q.1 q.2 rest found)
  := by
  obtain ⟨n, hn, rfl⟩ := Option.map_eq_some_iff.1 hx
  have hformat := h x.chain
  rw [hn, Option.map_some] at hformat
  obtain ⟨d, hd, hsame⟩ := Option.map_eq_some_iff.1 hformat
  rw [proceed, hd]
  dsimp only
  rw [hsame]

/-- The accounts that an activation waits for: the chain and the address format. -/
def question? : Activation → Option (String × BitVec 16)
  | listing _ chain format _ _ => some (chain, format)
  | _ => none

/-- An activation deals with every supported parachain: `asked` is what it was answered, and with
what it waits for and what is to come this makes up all questions. Without access it asks
nothing. -/
def Covers (c : Config) (asked : List (String × BitVec 16)) : Activation → Prop
  | enabling => asked = []
  | listing granted chain format rest _ =>
    granted ≠ [] ∧ asked.map some ++ some (chain, format) :: rest.map c.question?
      = c.parachains.map c.question?
  | done granted =>
    asked.map some = if granted = [] then [] else c.parachains.map c.question?

theorem covers_proceed (h : p.state.HasFormats c) (hc : c.IsCovered)
    {granted : List GrantedExtension} (hgranted : granted ≠ []) (found : Bool)
    {asked : List (String × BitVec 16)} {rest : List SupportedChain}
    (hrest : asked.map some ++ rest.map c.question? = c.parachains.map c.question?) :
  (proceed p granted found rest).2.Covers c asked
  := by
  cases rest with
  | nil =>
    rw [proceed, Covers, if_neg hgranted, ← hrest, List.map_nil, List.append_nil]
  | cons x rest =>
    have hmem : c.question? x ∈ c.parachains.map c.question? := by
      rw [← hrest]
      apply List.mem_append_right _ List.mem_cons_self
    obtain ⟨y, hy, hsame⟩ := List.mem_map.1 hmem
    obtain ⟨q, hq⟩ := Option.ne_none_iff_exists'.1 (hsame ▸ hc.question?_ne_none hy)
    rw [proceed_cons h hq]
    refine ⟨hgranted, ?_⟩
    rw [← hrest, List.map_cons, hq]

theorem covers_enabled (h : p.state.HasFormats c) (hc : c.IsCovered) (hp : p.config = c)
    (answer : Except ExtensionError (List GrantedExtension)) :
  (enabled p answer).2.Covers c []
  := by
  have hproceed (granted : List GrantedExtension) (hgranted : granted ≠ []) :
      (proceed (p.setExtension .connected) granted false p.config.parachains).2.Covers c [] := by
    apply covers_proceed _ hc hgranted
    · rw [hp]
      rfl
    · rw [Provider.state_setExtension]
      exact h
  cases answer with
  | error e => rfl
  | ok l =>
    cases l with
    | nil => rfl
    | cons g l => apply hproceed (g :: l) (List.cons_ne_nil g l)

theorem covers_listed (h : p.state.HasFormats c) (hc : c.IsCovered)
    {granted : List GrantedExtension} {chain : String} {format : BitVec 16}
    {rest : List SupportedChain} {found : Bool} {asked : List (String × BitVec 16)}
    (hlisting : (listing granted chain format rest found).Covers c asked)
    (answer : Except ExtensionError (List ListedAccount)) :
  (listed p granted chain rest found answer).2.Covers c (asked ++ [(chain, format)])
  := by
  obtain ⟨hgranted, hrest⟩ := hlisting
  have hnext : (asked ++ [(chain, format)]).map some ++ rest.map c.question?
      = c.parachains.map c.question? := by
    rw [← hrest, List.map_append, List.append_assoc]
    rfl
  cases answer with
  | error e => exact covers_proceed (p := p.count _) h hc hgranted _ hnext
  | ok l => exact covers_proceed (p := p.publish _) (h.setAccounts chain _) hc hgranted _ hnext

end Activation

/-! ### Runs -/

namespace Session

variable {c : Config} {p : Provider}

/-- The question of an activation that an action answers, if it answers one. -/
def lookup? (s : Session) (i : Nat) : Action → Option (String × BitVec 16)
  | .list j _ => if j = i then s.activations[i]?.bind Activation.question? else none
  | _ => none

/-- The questions of an activation that actions answer, in their order. -/
def lookupsFrom (s : Session) (i : Nat) : List Action → List (String × BitVec 16)
  | [] => []
  | a :: as => (s.lookup? i a).toList ++ (s.perform a).lookupsFrom i as

/-- The questions for accounts that an activation was answered in a run. -/
def lookups (p : Provider) (as : List Action) (i : Nat) : List (String × BitVec 16) :=
  (start p).lookupsFrom i as

theorem lookupsFrom_concat (s : Session) (i : Nat) (as : List Action) (a : Action) :
  s.lookupsFrom i (as ++ [a])
    = s.lookupsFrom i as ++ ((as.foldl perform s).lookup? i a).toList
  := by
  induction as generalizing s with
  | nil => apply List.append_nil
  | cons b as ih =>
    rw [List.cons_append, lookupsFrom, ih, lookupsFrom, List.append_assoc]
    rfl

theorem lookups_concat (p : Provider) (as : List Action) (a : Action) (i : Nat) :
  lookups p (as ++ [a]) i = lookups p as i ++ ((run p as).lookup? i a).toList
  := (start p).lookupsFrom_concat i as a

theorem hasFormats_run (h : Provider.ofConfig c = .ok p) (as : List Action) :
  (run p as).state.HasFormats c
  := by
  intro chain
  have hget := congrArg (Option.map Connection.addressFormat)
    (get?_deactivate_run h as .parachain chain)
  rw [ProviderState.get?_deactivate, Option.map_map, Option.map_map] at hget
  refine hget.trans ?_
  congr 1
  funext n
  rw [Function.comp_apply]
  cases Ending.lastFor? .parachain chain (endings p as) <;> rfl

/-- What an activation was answered, with its stage. An activation that was not begun was answered
nothing. -/
def CoversAt (c : Config) (asked : List (String × BitVec 16)) : Option Activation → Prop
  | some stage => stage.Covers c asked
  | none => asked = []

variable {s : Session} {i : Nat} {asked : List (String × BitVec 16)}

/-- An activation that goes on deals with what it has to; the others stay as they are. -/
theorem coversAt_resume (h : CoversAt c asked s.activations[i]?) {j : Nat}
    {next : Provider × Activation} {asked' : List (String × BitVec 16)}
    (hnext : i = j → next.2.Covers c asked') (hrest : i ≠ j → asked' = asked)
    (hj : j < s.activations.length) :
  CoversAt c asked' (s.resume j next).activations[i]?
  := by
  rw [resume]
  by_cases hij : i = j
  · subst hij
    rw [List.getElem?_set_self hj]
    exact hnext rfl
  · rw [List.getElem?_set_ne (Ne.symm hij), hrest hij]
    exact h

theorem perform_list_of_none {j : Nat} (h : s.activations[j]?.bind Activation.question? = none)
    (answer : Except ExtensionError (List ListedAccount)) :
  s.perform (.list j answer) = s
  := by
  rw [perform]
  split
  · rename_i hj
    rw [hj] at h
    cases h
  · rfl

theorem coversAt_list (hc : c.IsCovered) (hformats : s.state.HasFormats c)
    (h : CoversAt c asked s.activations[i]?) (j : Nat)
    (answer : Except ExtensionError (List ListedAccount)) :
  CoversAt c (asked ++ (s.lookup? i (.list j answer)).toList)
    (s.perform (.list j answer)).activations[i]?
  := by
  rw [lookup?]
  cases hq : s.activations[j]?.bind Activation.question? with
  | none =>
    have hnone : (if j = i then s.activations[i]?.bind Activation.question? else none) = none := by
      split
      · rename_i hij
        rw [← hij, hq]
      · rfl
    rw [perform_list_of_none hq, hnone]
    exact (List.append_nil asked).symm ▸ h
  | some q =>
    obtain ⟨stage, hj, hstage⟩ := Option.bind_eq_some_iff.1 hq
    cases stage with
    | listing granted chain format rest found =>
      cases hstage
      rw [perform, hj]
      apply coversAt_resume h _ _ (List.getElem?_eq_some_iff.1 hj).1
      · rintro rfl
        rw [hj] at h
        rw [if_pos rfl, hq]
        exact Activation.covers_listed hformats hc h answer
      · intro hij
        rw [if_neg (Ne.symm hij), Option.toList_none, List.append_nil]
    | enabling => cases hstage
    | done granted => cases hstage

theorem coversAt_perform (hc : c.IsCovered) (hformats : s.state.HasFormats c)
    (hconfig : s.provider.config = c) (h : CoversAt c asked s.activations[i]?) (a : Action) :
  CoversAt c (asked ++ (s.lookup? i a).toList) (s.perform a).activations[i]?
  := by
  have hsame : asked ++ [] = asked := List.append_nil asked
  cases a with
  | list j answer => apply coversAt_list hc hformats h
  | activate =>
    refine hsame.symm ▸ ?_
    rw [perform, List.getElem?_append]
    split
    · exact h
    · rename_i hi
      rw [List.getElem?_eq_none (Nat.not_lt.1 hi)] at h
      rw [List.getElem?_singleton]
      split
      · exact h
      · exact h
  | grant j answer =>
    refine hsame.symm ▸ ?_
    rw [perform]
    split
    · rename_i hj
      apply coversAt_resume h _ (fun _ => rfl) (List.getElem?_eq_some_iff.1 hj).1
      rintro rfl
      rw [hj] at h
      obtain rfl : asked = [] := h
      exact Activation.covers_enabled hformats hc hconfig answer
    · exact h
  | complete j r =>
    refine hsame.symm ▸ ?_
    rw [perform]
    split <;> exact h
  | _ => exact hsame.symm ▸ h

/-- In every run from an accepted configuration, each activation deals with all supported
parachains. -/
theorem coversAt_run (h : Provider.ofConfig c = .ok p) (as : List Action) (i : Nat) :
  CoversAt c (lookups p as i) (run p as).activations[i]?
  := by
  induction as using List.reverseRecOn with
  | nil => rfl
  | append_singleton as a ih =>
    rw [run_concat, lookups_concat]
    apply coversAt_perform (Provider.isCovered_of_ofConfig h) (hasFormats_run h as)
      (isOf_run h as).config ih

/-- A configuration is refused exactly if a table lacks a supported chain of its kind, and the error
names the first one, parachains before relay chains; a text that describes a configuration is
refused with the same error. With an accepted configuration, in every run, mounting begins exactly
one attempt for each supported chain, in their order, and each activation deals with all supported
parachains. -/
theorem covered_run (c : Config) :
  ((∃ e, Provider.ofConfig c = .error e) ↔ ∃ kind, ∃ x ∈ c.supported kind,
      (c.networks.ofKind kind).get? x.chain = none)
    ∧ (∀ e, Provider.ofConfig c = .error e ↔ ∃ chain, e = .unknownChain chain ∧ c.Misses chain)
    ∧ (∀ text, Config.described? text = some c →
      (∀ e, Config.ofToml text = .error e ↔ Provider.ofConfig c = .error e)
        ∧ ∀ c', Config.ofToml text = .ok c' ↔ c' = c ∧ ∃ p, Provider.ofConfig c = .ok p)
    ∧ ∀ p as, Provider.ofConfig c = .ok p →
      (∃ l, ((run p as).perform .mount).attempts = (run p as).attempts ++ l
          ∧ List.Forall₂ (fun x a => Provider.Attempt.IsFor c x.1 x.2 a) c.entries l)
        ∧ (∀ x ∈ c.parachains, ∃ n, c.networks.parachains.get? x.chain = some n
          ∧ c.question? x = some (x.chain, n.addressFormat))
        ∧ ∀ i (stage : Activation), (run p as).activations[i]? = some stage →
          stage.Covers c (lookups p as i)
  := by
  refine ⟨Provider.exists_ofConfig_eq_error_iff c, Provider.ofConfig_eq_error_iff c, ?_, ?_⟩
  · intro text htext
    rw [Config.ofToml_of_described? htext, Provider.ofConfig_eq]
    cases c.validate <;> simp [Except.map, eq_comm]
  · intro p as h
    have hc := Provider.isCovered_of_ofConfig h
    refine ⟨⟨_, rfl, ?_⟩, ?_, ?_⟩
    · rw [(isOf_run h as).config]
      apply Provider.forall₂_attempts hc
    · intro x hx
      obtain ⟨n, hn⟩ := Option.ne_none_iff_exists'.1 (hc .parachain x hx)
      use n, hn
      rw [Config.question?, show c.networks.parachains.get? x.chain = some n from hn]
      rfl
    · intro i stage hstage
      have hcovers := coversAt_run h as i
      rw [hstage] at hcovers
      exact hcovers

end Session

end Extrinsics
