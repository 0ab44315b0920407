import Extrinsics.Proofs.Provider.Acceptance

/-!
# Discovery of accounts

An activation with which nothing interferes: each of its requests is answered before anything else
happens, in any way. Without access it leaves the status of the extension and nothing else. With
access it makes one lookup for each supported parachain, and a chain comes to the accounts of the
last lookup for it that succeeds.
-/

namespace Extrinsics

/-- How an extension answers an activation: whether it grants access to an application, and which
accounts it lists in an address format. The answers may depend on the number of requests before. -/
structure Bridge where
  grants (k : Nat) (appName : String) : Except ExtensionError (List GrantedExtension)
  lists (k : Nat) (format : BitVec 16) : Except ExtensionError (List ListedAccount)

/-- A request for the accounts of a chain in an address format, and its answer. -/
structure Lookup where
  chain : String
  format : BitVec 16
  answer : Except ExtensionError (List ListedAccount)

/-- The error of an answer, if it is one. -/
def ExtensionError.of? {α : Type} : Except ExtensionError α → Option ExtensionError
  | .error e => some e
  | .ok _ => none

namespace Lookup

/-- The accounts that a lookup lists, if it succeeds. -/
def listed? (l : Lookup) : Option (List ListedAccount) := l.answer.toOption

/-- Whether a lookup lists some account. -/
def finds (l : Lookup) : Bool := l.listed?.any fun accounts => !accounts.isEmpty

/-- The last of some lookups for a chain that succeeds. -/
def lastFor? (chain : String) (ls : List Lookup) : Option Lookup :=
  (ls.filter fun l => l.chain = chain ∧ l.listed?.isSome).getLast?

theorem lastFor?_concat (chain : String) (ls : List Lookup) (l : Lookup) :
  lastFor? chain (ls ++ [l])
    = if l.chain = chain ∧ l.listed?.isSome then some l else lastFor? chain ls
  := getLast?_filter_concat (fun l : Lookup => l.chain = chain ∧ l.listed?.isSome) ls l

theorem finds_iff (l : Lookup) :
  l.finds ↔ ∃ accounts, l.answer = .ok accounts ∧ accounts ≠ []
  := by
  obtain ⟨chain, format, answer⟩ := l
  cases answer <;> simp [finds, listed?, Except.toOption]

end Lookup

namespace Provider

variable (p : Provider)

/-! ### What lookups leave -/

/-- The provider after a lookup. -/
def record (l : Lookup) : Provider :=
  match l.answer with
  | .error e => p.count (.error "extension" e.code)
  | .ok accounts => p.publish (p.state.setAccounts l.chain (Activation.nameAccounts accounts))

theorem parachains_record (l : Lookup) (chain : String) :
  (p.record l).state.parachains.get? chain
    = (p.state.parachains.get? chain).map fun d =>
      if l.chain = chain then
        l.listed?.elim d fun accounts => { d with accounts := Activation.nameAccounts accounts }
      else d
  := by
  obtain ⟨chain', format, answer⟩ := l
  cases answer with
  | error e =>
    simp only [Lookup.listed?, Except.toOption, Option.elim_none, ite_self, Option.map_id']
    rfl
  | ok accounts =>
    have hget := p.state.get?_modify .parachain .parachain chain' chain fun d =>
      { d with accounts := Activation.nameAccounts accounts }
    simp only [true_and, eq_comm (a := chain)] at hget
    exact hget

/-- A parachain comes to the accounts of the last lookup for it that succeeds. -/
theorem parachains_foldl_record (ls : List Lookup) (chain : String) :
  (ls.foldl record p).state.parachains.get? chain
    = (p.state.parachains.get? chain).map fun d =>
      ((Lookup.lastFor? chain ls).bind Lookup.listed?).elim d
        fun accounts => { d with accounts := Activation.nameAccounts accounts }
  := by
  induction ls using List.reverseRecOn with
  | nil => exact Option.map_id'.symm
  | append_singleton ls l ih =>
    rw [List.foldl_append, List.foldl_cons, List.foldl_nil, parachains_record, ih, Option.map_map,
      Lookup.lastFor?_concat]
    congr 1
    funext d
    rw [Function.comp_apply]
    by_cases hchain : l.chain = chain
    · cases hl : l.listed? with
      | none => simp [hchain]
      | some accounts =>
        rw [if_pos hchain, if_pos ⟨hchain, rfl⟩, Option.bind_some, hl]
        cases (Lookup.lastFor? chain ls).bind Lookup.listed? <;> rfl
    · rw [if_neg hchain, if_neg fun h => hchain h.1]

/-- Lookups change the accounts of parachains only. -/
theorem state_foldl_record (ls : List Lookup) :
  (ls.foldl record p).state.relaychains = p.state.relaychains
    ∧ (ls.foldl record p).state.extension = p.state.extension
  := by
  induction ls generalizing p with
  | nil => exact ⟨rfl, rfl⟩
  | cons l ls ih =>
    rw [List.foldl_cons, (ih _).1, (ih _).2, record]
    cases l.answer <;> exact ⟨rfl, rfl⟩

/-- Each lookup that fails is counted. -/
theorem counted_foldl_record (ls : List Lookup) :
  (ls.foldl record p).counted
    = p.counted ++ ls.filterMap fun l =>
      (ExtensionError.of? l.answer).map fun e => .error "extension" e.code
  := by
  induction ls generalizing p with
  | nil => exact (List.append_nil _).symm
  | cons l ls ih =>
    rw [List.foldl_cons, ih, record]
    obtain ⟨chain, format, answer⟩ := l
    cases answer with
    | error e => apply List.append_assoc
    | ok accounts => rfl

theorem hasFormats_record {c : Config} (h : p.state.HasFormats c) (l : Lookup) :
  (p.record l).state.HasFormats c
  := by
  rw [record]
  cases l.answer with
  | error e => exact h
  | ok accounts => exact h.setAccounts l.chain _

@[simp] theorem counted_setExtension (status : ExtensionStatus) :
  (p.setExtension status).counted = p.counted
  := by
  rw [setExtension, publishChange]
  split <;> rfl

end Provider

namespace Activation

/-- The accounts of an answer are named in their order: each keeps its address, and one without a
name gets its position. -/
theorem getElem?_nameAccounts (l : List ListedAccount) (i : Nat) :
  (nameAccounts l)[i]? = l[i]?.map fun a => ⟨a.address, a.name.getD (toString i)⟩
  := List.getElem?_mapIdx

/-- An activation records the answer to a lookup and goes on. -/
theorem listed_eq (p : Provider) (granted : List GrantedExtension) (rest : List SupportedChain)
    (found : Bool) (l : Lookup) :
  listed p granted l.chain rest found l.answer
    = proceed (p.record l) granted (found || l.finds) rest
  := by
  obtain ⟨chain, format, answer⟩ := l
  cases answer with
  | error e =>
    rw [listed, Lookup.finds, Lookup.listed?, Except.toOption, Option.any_none, Bool.or_false]
    rfl
  | ok accounts => rfl

/-- What an activation without access counts: an error of the extension if the request failed, and
its outcome. -/
theorem counted_enabled_of_nil (p : Provider)
    {answer : Except ExtensionError (List GrantedExtension)} (h : answer.toOption.getD [] = []) :
  (enabled p answer).1.counted
    = p.counted ++ (ExtensionError.of? answer).toList.map (fun e => .error "extension" e.code)
      ++ [.activation "no_extension"]
  := by
  cases answer with
  | error e => exact congrArg (· ++ _) (Provider.counted_setExtension _ .noExtension)
  | ok l =>
    obtain rfl : l = [] := h
    rw [ExtensionError.of?, Option.toList_none, List.map_nil, List.append_nil]
    exact congrArg (· ++ _) (p.counted_setExtension .noExtension)

end Activation

namespace Session

/-! ### An activation without interference -/

/-- The action with which an extension answers an activation that waits for it. Before, there were
`k` requests. -/
def answer? (b : Bridge) (s : Session) (i k : Nat) : Option Action :=
  s.activations[i]?.bind fun
    | .enabling => some (.grant i (b.grants k s.provider.config.appName))
    | .listing _ _ format _ _ => some (.list i (b.lists k format))
    | .done _ => none

/-- The session after some requests of an activation, one after the other. -/
def attend (b : Bridge) (i : Nat) (s : Session) (ks : List Nat) : Session :=
  ks.foldl (fun s k => (s.answer? b i k).elim s s.perform) s

/-- The session after an activation with which nothing interferes. It has at most one request for
access and one for each supported parachain. -/
def discover (b : Bridge) (s : Session) : Session :=
  (s.perform .activate).attend b s.activations.length
    (List.range (s.provider.config.parachains.length + 1))

variable {b : Bridge} {s : Session} {i : Nat} {c : Config} {p q : Provider}
  {granted : List GrantedExtension}

theorem attend_cons (b : Bridge) (i : Nat) (s : Session) (k : Nat) (ks : List Nat) :
  s.attend b i (k :: ks) = ((s.answer? b i k).elim s s.perform).attend b i ks
  := rfl

theorem perform_grant (h : s.activations[i]? = some .enabling)
    (answer : Except ExtensionError (List GrantedExtension)) :
  s.perform (.grant i answer) = s.resume i (Activation.enabled s.provider answer)
  := by rw [perform, h]

/-- What has gone on twice is where it has gone on to the second time. -/
theorem resume_resume (s : Session) (i : Nat) (next next' : Provider × Activation) :
  (s.resume i next).resume i next' = s.resume i next'
  := by
  rw [resume, resume, resume]
  simp only [List.set_set]

theorem activations_resume (hi : i < s.activations.length) (next : Provider × Activation) :
  (s.resume i next).activations[i]? = some next.2
  := List.getElem?_set_self hi

/-- An activation that has ended has no more requests. -/
theorem attend_of_done (h : s.activations[i]? = some (.done granted)) (ks : List Nat) :
  s.attend b i ks = s
  := by
  induction ks with
  | nil => rfl
  | cons k ks ih =>
    rw [attend_cons, answer?, h]
    exact ih

/-- An activation that has come to some chains makes a lookup for each of them. -/
theorem attend_proceed (granted : List GrantedExtension) (hi : i < s.activations.length)
    {rest : List SupportedChain} (hrest : ∀ x ∈ rest, c.question? x ≠ none)
    (hq : q.state.HasFormats c) (found : Bool) (k : Nat) :
  ∃ ls : List Lookup,
    ls.map (fun l => some (l.chain, l.format)) = rest.map c.question?
      ∧ (∀ (j : Nat) (l : Lookup), ls[j]? = some l → l.answer = b.lists (k + j) l.format)
      ∧ (s.resume i (Activation.proceed q granted found rest)).attend b i
          (List.range' k rest.length)
        = s.resume i
          (Activation.proceed (ls.foldl Provider.record q) granted (found || ls.any Lookup.finds) [])
  := by
  induction rest generalizing q found k with
  | nil =>
    refine ⟨[], rfl, ?_, ?_⟩
    · rintro j l ⟨⟩
    · rw [List.foldl_nil, List.any_nil, Bool.or_false]
      rfl
  | cons x rest ih =>
    obtain ⟨hx, hrest⟩ := List.forall_mem_cons.1 hrest
    obtain ⟨⟨chain, format⟩, hquestion⟩ := Option.ne_none_iff_exists'.1 hx
    let l : Lookup := ⟨chain, format, b.lists k format⟩
    obtain ⟨ls, hquestions, hanswers, hattend⟩ :=
      ih hrest (Provider.hasFormats_record q hq l) (found || l.finds) (k + 1)
    refine ⟨l :: ls, ?_, ?_, ?_⟩
    · rw [List.map_cons, List.map_cons, hquestions, hquestion]
    · intro j l' hl'
      cases j with
      | zero =>
        cases hl'
        rfl
      | succ j =>
        rw [hanswers j l' hl']
        congr 1
        omega
    · have hlisting : (s.resume i (q, Activation.listing granted chain format rest found)).perform
          (.list i (b.lists k format)) = s.resume i
            (Activation.proceed (q.record l) granted (found || l.finds) rest) := by
        rw [perform, activations_resume hi, ← Activation.listed_eq]
        apply resume_resume
      rw [Activation.proceed_cons hq hquestion, List.length_cons, List.range'_succ, attend_cons,
        answer?, activations_resume hi, Option.bind_some, Option.elim_some, hlisting, hattend,
        List.foldl_cons, List.any_cons, Bool.or_assoc]

/-- An activation first asks for access. -/
theorem discover_eq (b : Bridge) (s : Session) :
  s.discover b
    = ((s.perform .activate).resume s.activations.length
        (Activation.enabled (Activation.begin s.provider)
          (b.grants 0 (Activation.begin s.provider).config.appName))).attend b s.activations.length
      (List.range' 1 s.provider.config.parachains.length)
  := by
  have hasking : (s.perform .activate).activations[s.activations.length]? = some .enabling :=
    List.getElem?_concat_length
  rw [discover, List.range_eq_range', List.range'_succ, attend_cons, answer?, hasking,
    Option.bind_some, Option.elim_some, perform_grant hasking]
  rfl

/-- The last activation ends, and the others stay as they are. -/
theorem activations_resume_activate (s : Session) (next : Provider × Activation) :
  ((s.perform .activate).resume s.activations.length next).activations = s.activations ++ [next.2]
  := by
  rw [resume, perform]
  simp

theorem counted_begin (p : Provider) :
  (Activation.begin p).counted = p.counted
  := p.counted_setExtension .connecting

theorem state_begin (p : Provider) :
  (Activation.begin p).state = { p.state with extension := .connecting }
  := p.state_setExtension .connecting

/-- What an activation of a session leaves that gets no access. -/
structure IsRefused (s t : Session) (answer : Except ExtensionError (List GrantedExtension)) :
    Prop where
  attempts : t.attempts = s.attempts
  activations : t.activations = s.activations ++ [.done []]
  state : t.state = { s.state with extension := .noExtension }
  counted : t.provider.counted = s.provider.counted
    ++ (ExtensionError.of? answer).toList.map (fun e => .error "extension" e.code)
    ++ [.activation "no_extension"]

theorem isRefused_discover (b : Bridge) (s : Session)
    (h : (b.grants 0 s.provider.config.appName).toOption.getD [] = []) :
  IsRefused s (s.discover b) (b.grants 0 s.provider.config.appName)
  := by
  have hconfig : (Activation.begin s.provider).config = s.provider.config :=
    s.provider.config_setExtension .connecting
  rw [discover_eq, hconfig]
  generalize b.grants 0 s.provider.config.appName = answer at h ⊢
  obtain ⟨hstate, hdone⟩ := Activation.enabled_of_nil (Activation.begin s.provider) h
  have hactivations := activations_resume_activate s
    (Activation.enabled (Activation.begin s.provider) answer)
  rw [hdone] at hactivations
  rw [attend_of_done (by rw [hactivations]; exact List.getElem?_concat_length)]
  refine ⟨rfl, hactivations, ?_, ?_⟩
  · rw [Session.state, resume, hstate, state_begin]
    rfl
  · rw [← counted_begin s.provider]
    exact Activation.counted_enabled_of_nil _ h

/-- What an activation of a session leaves that gets access and then makes some lookups. -/
structure Discovers (c : Config) (b : Bridge) (granted : List GrantedExtension) (s t : Session)
    (ls : List Lookup) : Prop where
  /-- There is one lookup for each supported parachain, in its address format. -/
  questions : ls.map (fun l => some (l.chain, l.format)) = c.parachains.map c.question?
  answers : ∀ (k : Nat) (l : Lookup), ls[k]? = some l → l.answer = b.lists (1 + k) l.format
  attempts : t.attempts = s.attempts
  activations : t.activations = s.activations ++ [.done granted]
  extension : t.state.extension = .connected
  relaychains : t.state.relaychains = s.state.relaychains
  /-- A parachain comes to the accounts of the last lookup for it that succeeds. -/
  parachains : ∀ chain, t.state.parachains.get? chain = (s.state.parachains.get? chain).map fun d =>
    ((Lookup.lastFor? chain ls).bind Lookup.listed?).elim d
      fun accounts => { d with accounts := Activation.nameAccounts accounts }
  selected_eq_some_iff : t.state.selected = some 0
    ↔ ∃ l ∈ ls, ∃ accounts, l.answer = .ok accounts ∧ accounts ≠ []
  selected_eq_none_iff : t.state.selected = none
    ↔ ¬ ∃ l ∈ ls, ∃ accounts, l.answer = .ok accounts ∧ accounts ≠ []
  counted : t.provider.counted = s.provider.counted
    ++ ls.filterMap (fun l => (ExtensionError.of? l.answer).map fun e => .error "extension" e.code)
    ++ [.activation "connected"]

theorem exists_discovers (hc : c.IsCovered) (hconfig : s.provider.config = c)
    (hformats : s.state.HasFormats c) (h : b.grants 0 c.appName = .ok granted)
    (hgranted : granted ≠ []) :
  ∃ ls, Discovers c b granted s (s.discover b) ls
  := by
  have hbegin : (Activation.begin s.provider).config = c :=
    (s.provider.config_setExtension .connecting).trans hconfig
  have hi : s.activations.length < (s.perform .activate).activations.length := by
    rw [perform]
    simp
  let q := (Activation.begin s.provider).setExtension .connected
  have hq : q.state = { s.state with extension := .connected } := by
    rw [Provider.state_setExtension, state_begin]
    rfl
  have henabled : Activation.enabled (Activation.begin s.provider) (.ok granted)
      = Activation.proceed q granted false c.parachains := by
    cases granted with
    | nil => exact (hgranted rfl).elim
    | cons g granted =>
      rw [← hbegin]
      rfl
  obtain ⟨ls, hquestions, hanswers, hattend⟩ := attend_proceed (b := b) granted hi
    (fun x hx => hc.question?_ne_none hx) (q := q) (by rw [hq]; exact hformats) false 1
  have ht : s.discover b = (s.perform .activate).resume s.activations.length
      (Activation.proceed (ls.foldl Provider.record q) granted (ls.any Lookup.finds) []) := by
    rw [discover_eq, hbegin, h, henabled, hconfig, hattend, Bool.false_or]
  have hfinds : ls.any Lookup.finds ↔ ∃ l ∈ ls, ∃ accounts, l.answer = .ok accounts ∧ accounts ≠ []
      := by
    simp only [List.any_eq_true, Lookup.finds_iff]
  have hselected : (s.discover b).state.selected
      = if ls.any Lookup.finds then some 0 else none := by
    rw [ht]
    rfl
  have hcounted : q.counted = s.provider.counted :=
    (Provider.counted_setExtension _ .connected).trans (counted_begin s.provider)
  obtain ⟨hrelaychains, hextension⟩ := q.state_foldl_record ls
  refine ⟨ls, hquestions, hanswers, ?_, ?_, ?_, ?_, ?_, ?_, ?_, ?_⟩
  · rw [ht]
    rfl
  · rw [ht]
    apply activations_resume_activate
  · rw [ht]
    exact hextension.trans (by rw [hq])
  · rw [ht]
    exact hrelaychains.trans (by rw [hq])
  · intro chain
    rw [ht]
    exact (q.parachains_foldl_record ls chain).trans (by rw [hq])
  · rw [hselected, ← hfinds]
    cases ls.any Lookup.finds <;> simp
  · rw [hselected, ← hfinds]
    cases ls.any Lookup.finds <;> simp
  · rw [ht, ← hcounted]
    exact congrArg (· ++ _) (q.counted_foldl_record ls)

/-- In every run from an accepted configuration, an activation with which nothing interferes does
one of two things. Without access it leaves the status of the extension, and nothing else but what
is counted. With access it makes a lookup for each supported parachain and leaves what they list.
Accounts are named in their order, those without a name by their position. -/
theorem discovered_run (h : Provider.ofConfig c = .ok p) (as : List Action) (b : Bridge) :
  ((b.grants 0 c.appName).toOption.getD [] = [] →
      IsRefused (run p as) ((run p as).discover b) (b.grants 0 c.appName))
    ∧ (∀ granted, b.grants 0 c.appName = .ok granted → granted ≠ [] →
      ∃ ls, Discovers c b granted (run p as) ((run p as).discover b) ls)
    ∧ ∀ (l : List ListedAccount) (i : Nat), (Activation.nameAccounts l)[i]?
      = l[i]?.map fun a => ⟨a.address, a.name.getD (toString i)⟩
  := by
  have hconfig := (isOf_run h as).config
  refine ⟨?_, ?_, Activation.getElem?_nameAccounts⟩
  · intro hnil
    rw [← hconfig] at hnil ⊢
    exact isRefused_discover b (run p as) hnil
  · intro granted hanswer hgranted
    exact exists_discovers (Provider.isCovered_of_ofConfig h) hconfig (hasFormats_run h as) hanswer
      hgranted

end Session

namespace Samples

/-- An extension that lists accounts when it is asked for the first time, and fails after that. -/
def lockingBridge : Bridge where
  grants := fun _ _ => .ok [⟨"polkadot-js", "0.44.1"⟩]
  lists := fun k format =>
    if k = 1 then .ok accounts else .error (.accountLookup format "locked")

end Samples

namespace Session

open Samples

/-- Of two lookups for one parachain the second fails, so that the accounts of the first stay. -/
theorem discovered_lockingBridge :
  (∃ ls, Discovers twiceConfig lockingBridge [⟨"polkadot-js", "0.44.1"⟩]
      (run twiceProvider [.mount, .activate])
      ((run twiceProvider [.mount, .activate]).discover lockingBridge) ls)
    ∧ ((run twiceProvider [.mount, .activate]).discover lockingBridge).state.accounts .parachain
      "picasso" = [⟨alice, "Alice"⟩, ⟨bob, "1"⟩]
  := by
  have haccepted : Provider.ofConfig twiceConfig = .ok twiceProvider := rfl
  obtain ⟨-, hdiscovers, -⟩ := discovered_run haccepted [.mount, .activate] lockingBridge
  constructor
  · apply hdiscovers _ rfl
    apply List.cons_ne_nil
  · decide

end Session

end Extrinsics
