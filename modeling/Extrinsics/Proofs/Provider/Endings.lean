import Extrinsics.Proofs.Provider.Mounting

/-!
# The attempts that have ended

When an attempt ends, it leaves its client at its chain, or none. Nothing else that happens in a
session matters for the clients and the statuses of connections. So the state without extension,
`deactivate`, is what the attempts that have ended make of the first one.
-/

namespace Extrinsics

open Provider (Attempt)

/-- The connection without accounts. -/
def Connection.bare (d : Connection) : Connection := { d with accounts := [] }

/-- An attempt that has ended, and how the connector has ended it. -/
structure Ending where
  attempt : Attempt
  outcome : Except ConnectionError Client

namespace Ending

/-- The client that the connector returned, if it did. -/
def client? (e : Ending) : Option Client := e.outcome.toOption

theorem outcome_of_client? {e : Ending} {client : Client} (h : e.client? = some client) :
  e.outcome = .ok client
  := by
  obtain ⟨a, r⟩ := e
  cases r with
  | ok client' =>
    cases h
    rfl
  | error e => cases h

/-- The last of some endings that concern a chain of a kind. -/
def lastFor? (kind : ChainKind) (chain : String) (es : List Ending) : Option Ending :=
  (es.filter fun e => e.attempt.kind = kind ∧ e.attempt.chain = chain).getLast?

theorem lastFor?_concat (kind : ChainKind) (chain : String) (es : List Ending) (e : Ending) :
  lastFor? kind chain (es ++ [e])
    = if e.attempt.kind = kind ∧ e.attempt.chain = chain then some e
      else lastFor? kind chain es
  := getLast?_filter_concat
    (fun e : Ending => e.attempt.kind = kind ∧ e.attempt.chain = chain) es e

theorem mem_of_lastFor? {kind : ChainKind} {chain : String} {es : List Ending} {e : Ending}
    (h : lastFor? kind chain es = some e) :
  e ∈ es ∧ e.attempt.kind = kind ∧ e.attempt.chain = chain
  := mem_of_getLast?_filter h

end Ending

namespace ProviderState

variable (s : ProviderState)

/-- The state after an attempt has ended. -/
def settle (e : Ending) : ProviderState :=
  s.settleAttempt e.attempt.kind e.attempt.chain e.client? (.ofClient e.client?)

/-- An attempt that has ended matters for the connection to its chain only. -/
theorem get?_settle (e : Ending) (kind : ChainKind) (chain : String) :
  ((s.settle e).connections kind).get? chain
    = ((s.connections kind).get? chain).map fun d =>
      if e.attempt.kind = kind ∧ e.attempt.chain = chain then d.settled e.client? else d
  := by
  rw [settle, settleAttempt, get?_modify]
  congr 1
  funext d
  simp only [eq_comm (a := kind), eq_comm (a := chain)]
  rfl

/-- Without extension, a parachain has no accounts. -/
theorem get?_deactivate (kind : ChainKind) (chain : String) :
  (s.deactivate.connections kind).get? chain
    = ((s.connections kind).get? chain).map fun d =>
      if kind = .parachain then d.bare else d
  := by
  cases kind with
  | parachain => simp [deactivate, connections, Connection.bare]
  | relaychain => simp [deactivate, connections]

theorem deactivate_settle (e : Ending) :
  (s.settle e).deactivate = s.deactivate.settle e
  := by
  apply ext_get?
  · intro kind chain
    rw [get?_deactivate, get?_settle, get?_settle, get?_deactivate, Option.map_map, Option.map_map]
    congr 1
    funext d
    rw [Function.comp_apply, Function.comp_apply]
    split_ifs <;> rfl
  · exact (s.deactivate.extension_settleAttempt ..).symm
  · exact (s.deactivate.selected_settleAttempt ..).symm

theorem deactivate_setAccounts (chain : String) (l : List Account) :
  (s.setAccounts chain l).deactivate = s.deactivate
  := by
  apply ext_get?
  · intro kind chain'
    rw [get?_deactivate, get?_deactivate, setAccounts, get?_modify, Option.map_map]
    congr 1
    funext d
    rw [Function.comp_apply]
    split_ifs with hkind hchain hchain
    · rfl
    · rfl
    · exact (hkind hchain.1).elim
    · rfl
  · rfl
  · rfl

/-- Giving up the extension a second time changes nothing. -/
theorem deactivate_deactivate :
  s.deactivate.deactivate = s.deactivate
  := by
  apply ext_get?
  · intro kind chain
    rw [get?_deactivate, get?_deactivate, Option.map_map]
    congr 1
    funext d
    rw [Function.comp_apply]
    split_ifs <;> rfl
  · rfl
  · rfl

/-- In the beginning there is no extension. -/
theorem deactivate_initial (t : NetworkTable) :
  (initial t).deactivate = initial t
  := by
  apply ext_get?
  · intro kind chain
    rw [get?_deactivate, connections_initial, Table.get?_mapWithKey, Option.map_map]
    congr 1
    funext n
    rw [Function.comp_apply]
    split_ifs <;> rfl
  · rfl
  · rfl

/-- The connection to a chain is what the last attempt for it makes of it. -/
theorem get?_foldl_settle (es : List Ending) (kind : ChainKind) (chain : String) :
  ((es.foldl settle s).connections kind).get? chain
    = ((s.connections kind).get? chain).map fun d =>
      (Ending.lastFor? kind chain es).elim d fun e => d.settled e.client?
  := by
  induction es using List.reverseRecOn with
  | nil => exact Option.map_id'.symm
  | append_singleton es e ih =>
    rw [List.foldl_append, List.foldl_cons, List.foldl_nil, get?_settle, ih, Option.map_map,
      Ending.lastFor?_concat]
    congr 1
    funext d
    rw [Function.comp_apply]
    split_ifs
    · cases Ending.lastFor? kind chain es <;> rfl
    · rfl

end ProviderState

namespace Session

variable {s : Session} {a : Action} {c : Config} {p : Provider}

/-- The attempt that an action ends, if it ends one. -/
def ending? (s : Session) : Action → Option Ending
  | .complete i r => s.attempts[i]?.map fun a => ⟨a, r⟩
  | _ => none

/-- The attempts that actions end, in their order. -/
def endingsFrom (s : Session) : List Action → List Ending
  | [] => []
  | a :: as => (s.ending? a).toList ++ (s.perform a).endingsFrom as

/-- The attempts that have ended in a run. -/
def endings (p : Provider) (as : List Action) : List Ending := (start p).endingsFrom as

theorem endingsFrom_concat (s : Session) (as : List Action) (a : Action) :
  s.endingsFrom (as ++ [a]) = s.endingsFrom as ++ ((as.foldl perform s).ending? a).toList
  := by
  induction as generalizing s with
  | nil => apply List.append_nil
  | cons b as ih =>
    rw [List.cons_append, endingsFrom, ih, endingsFrom, List.append_assoc]
    rfl

theorem endings_concat (p : Provider) (as : List Action) (a : Action) :
  endings p (as ++ [a]) = endings p as ++ ((run p as).ending? a).toList
  := (start p).endingsFrom_concat as a

theorem ending?_of_isIdle (h : s.IsIdle a) :
  s.ending? a = none
  := by
  cases a with
  | complete i r =>
    rw [ending?, show s.attempts[i]? = none from h]
    rfl
  | _ => rfl

/-- Leaving the extension aside, the end of an attempt is all that changes a state. -/
theorem Effect.deactivate_eq {t : ProviderState} {xs : List Activation} (h : s.Effect a t xs) :
  t.deactivate = (s.ending? a).elim s.state.deactivate s.state.deactivate.settle
  := by
  cases h with
  | rest h =>
    rw [ending?_of_isIdle h]
    rfl
  | @complete i b h r =>
    rw [ending?, h]
    apply s.state.deactivate_settle ⟨b, r⟩
  | @accounts i granted chain format rest found stage h l selected hstage =>
    apply s.state.deactivate_setAccounts chain (Activation.nameAccounts l)
  | activate => rfl
  | refuse h hanswer => rfl
  | access h hanswer selected hstage => rfl
  | skip h e selected hstage => rfl
  | deactivate => apply s.state.deactivate_deactivate
  | select index => rfl

/-- Leaving the extension aside, a run leads to what the attempts that have ended make of the
state. -/
theorem deactivate_run (p : Provider) (as : List Action) :
  (run p as).state.deactivate = (endings p as).foldl ProviderState.settle p.state.deactivate
  := by
  induction as using List.reverseRecOn with
  | nil => rfl
  | append_singleton as a ih =>
    rw [run_concat, ((run p as).effect_perform a).deactivate_eq, endings_concat,
      List.foldl_append, ← ih]
    cases (run p as).ending? a <;> rfl

theorem mem_of_ending? {e : Ending} (h : s.ending? a = some e) :
  e.attempt ∈ s.attempts
  := by
  cases a with
  | complete i r =>
    obtain ⟨b, hb, rfl⟩ := Option.map_eq_some_iff.1 h
    apply List.mem_of_getElem? hb
  | _ => cases h

/-- The connections of a run without extension are what the last attempts have made of them, or
as they were in the beginning. -/
theorem get?_deactivate_run (h : Provider.ofConfig c = .ok p) (as : List Action)
    (kind : ChainKind) (chain : String) :
  ((run p as).state.deactivate.connections kind).get? chain
    = ((c.networks.ofKind kind).get? chain).map fun n =>
      (Ending.lastFor? kind chain (endings p as)).elim (Connection.initial chain n)
        fun e => (Connection.initial chain n).settled e.client?
  := by
  rw [deactivate_run, Provider.state_of_ofConfig h, ProviderState.deactivate_initial,
    ProviderState.get?_foldl_settle, ProviderState.connections_initial, Table.get?_mapWithKey,
    Option.map_map]
  rfl

end Session

end Extrinsics
