import Extrinsics.Proofs.Provider.Connections

/-!
# Giving up the extension

When the extension is given up, nothing is left of what was done with it: the state is as if
only connections had been dealt with. A run and the same run without the extension are followed
side by side. They have the same attempts under way, and their states are the same once the
extension is left aside.
-/

namespace Extrinsics.Session

/-- Whether an action deals with connections. All others deal with the extension, with its
accounts or with the choice of one. -/
def Action.isConnecting : Action → Bool
  | .mount => true
  | .complete _ _ => true
  | .abort _ => true
  | _ => false

/-- A session that would be like another one without the extension. -/
structure Mirrors (s t : Session) : Prop where
  attempts : s.attempts = t.attempts
  state : s.state.deactivate = t.state

variable {s t : Session} {a : Action} {c : Config} {p : Provider}

theorem attempts_perform (h : a.isConnecting = false) :
  (s.perform a).attempts = s.attempts
  := by
  cases a with
  | activate => rfl
  | grant i answer =>
    rw [perform]
    split <;> rfl
  | list i answer =>
    rw [perform]
    split <;> rfl
  | deactivate => rfl
  | select index => rfl
  | _ => cases h

theorem ending?_of_not_isConnecting (h : a.isConnecting = false) :
  s.ending? a = none
  := by
  cases a with
  | complete i r => cases h
  | _ => rfl

/-- An action on connections changes the state when an attempt ends. -/
theorem state_perform (h : a.isConnecting) :
  (s.perform a).state = (s.ending? a).elim s.state s.state.settle
  := by
  cases a with
  | mount => rfl
  | abort i => rfl
  | complete i r =>
    rw [perform, ending?]
    cases s.attempts[i]? with
    | none => rfl
    | some b => apply Provider.state_complete
  | _ => cases h

namespace Mirrors

theorem ending?_eq (h : Mirrors s t) (a : Action) :
  s.ending? a = t.ending? a
  := by
  cases a with
  | complete i r => rw [ending?, ending?, h.attempts]
  | _ => rfl

/-- Both sessions may go on with an action on connections. -/
theorem perform (h : Mirrors s t) (hconfig : s.provider.config = t.provider.config)
    (ha : a.isConnecting) :
  Mirrors (s.perform a) (t.perform a)
  where
  attempts := by
    cases a with
    | mount =>
      rw [Session.perform, Session.perform, hconfig, h.attempts]
    | complete i r =>
      rw [Session.perform, Session.perform, h.attempts]
      cases t.attempts[i]? with
      | none => apply h.attempts
      | some b => rfl
    | abort i => rw [Session.perform, Session.perform, h.attempts]
    | _ => cases ha
  state := by
    rw [(s.effect_perform a).deactivate_eq, h.ending?_eq, h.state, state_perform ha]

/-- The other actions matter on one side only. -/
theorem ignore (h : Mirrors s t) (ha : a.isConnecting = false) :
  Mirrors (s.perform a) t
  where
  attempts := (attempts_perform ha).trans h.attempts
  state := by
    rw [(s.effect_perform a).deactivate_eq, ending?_of_not_isConnecting ha]
    apply h.state

end Mirrors

/-- A run is like the one without its actions on the extension. -/
theorem mirrors_run (h : Provider.ofConfig c = .ok p) (as : List Action) :
  Mirrors (run p as) (run p (as.filter Action.isConnecting))
  := by
  induction as using List.reverseRecOn with
  | nil =>
    refine ⟨rfl, ?_⟩
    rw [List.filter_nil, run, List.foldl_nil, start, state, Provider.state_of_ofConfig h]
    apply ProviderState.deactivate_initial
  | append_singleton as a ih =>
    rw [run_concat, List.filter_append]
    cases ha : a.isConnecting with
    | true =>
      have hconfig := (isOf_run h as).config.trans
        (isOf_run h (as.filter Action.isConnecting)).config.symm
      rw [List.filter_cons_of_pos ha, List.filter_nil, run_concat]
      apply ih.perform hconfig ha
    | false =>
      rw [List.filter_cons_of_neg (Bool.not_eq_true _ ▸ ha), List.filter_nil, List.append_nil]
      apply ih.ignore ha

/-- When the extension is given up, the state is as it would be if nothing had been done but to
mount, to end attempts and to give attempts up. -/
theorem deactivated_run (h : Provider.ofConfig c = .ok p) (as : List Action) :
  (run p (as ++ [.deactivate])).state = (run p (as.filter Action.isConnecting)).state
  := by
  rw [run_concat]
  apply (mirrors_run h as).state

/-- An activation that has found accounts, and one that still waits, leave nothing. -/
theorem deactivated_sharedRun :
  (run Samples.sharedProvider Samples.sharedRun).state.accounts .parachain "kusama" ≠ []
    ∧ (run Samples.sharedProvider (Samples.sharedRun ++ [Action.activate] ++ [.deactivate])).state
      = (run Samples.sharedProvider [.mount,
        .complete 1 (.error (.unreachable NetworkTable.kusama.wsUrl "refused"))]).state
  := by
  have haccepted : Provider.ofConfig Samples.sharedConfig = .ok Samples.sharedProvider := rfl
  have hconnecting : (Samples.sharedRun ++ [Action.activate]).filter Action.isConnecting
      = [.mount, .complete 1 (.error (.unreachable NetworkTable.kusama.wsUrl "refused"))] := rfl
  constructor
  · decide
  · rw [deactivated_run haccepted, hconnecting]

end Extrinsics.Session
