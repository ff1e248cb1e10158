import InxCoordinator.Coordinator.Model

/-! `New` and its options. `New` applies `defaultOptions`, then the caller's options, to an
empty `Options`, and refuses a migrator without a treasury output function. An `Option` is
a closure one of the `With...` functions returns; `WithQuorum` builds its quorum with
`newQuorum` when the option is applied, so `New` itself panics on a bad quorum configuration.
The logger is left out. -/
namespace InxCoordinator

/-- `Options`, without the logger. Durations are `time.Duration` nanoseconds. -/
structure Options where
  stateFilePath : String
  milestoneInterval : Nat
  signingRetryTimeout : Nat
  signingRetryAmount : Int
  quorum : Option Quorum

/-- An `Option`: the `With...` call that made it. `WithLogger` only sets the logger. -/
inductive OptionCall where
  | withStateFilePath (stateFilePath : String)
  | withMilestoneInterval (milestoneInterval : Nat)
  | withSigningRetryTimeout (timeout : Nat)
  | withSigningRetryAmount (amount : Int)
  | withQuorum (quorumEnabled : Bool) (quorumGroups : List (String × List QuorumClientConfig))
      (timeout : Nat)
  deriving DecidableEq, Repr

/-- The closure the `With...` call returns, applied to the options. `newQuorum`'s panic is the
`error`. -/
def OptionCall.run : OptionCall → Options → Except String Options
  | .withStateFilePath stateFilePath, opts => .ok { opts with stateFilePath }
  | .withMilestoneInterval milestoneInterval, opts => .ok { opts with milestoneInterval }
  | .withSigningRetryTimeout timeout, opts => .ok { opts with signingRetryTimeout := timeout }
  | .withSigningRetryAmount amount, opts => .ok { opts with signingRetryAmount := amount }
  | .withQuorum quorumEnabled quorumGroups timeout, opts =>
    if !quorumEnabled then .ok { opts with quorum := none }
    else (newQuorum quorumGroups timeout).map fun q => { opts with quorum := some q }

/-- `defaultOptions`: the state file `coordinator.state`, a milestone every 10 s, and 10 signing
retries 2 s apart. -/
def defaultOptions : List OptionCall :=
  [.withStateFilePath "coordinator.state", .withMilestoneInterval (10 * 1000000000),
    .withSigningRetryAmount 10, .withSigningRetryTimeout (2 * 1000000000)]

/-- `Options.apply`: each option in turn. -/
def Options.apply (options : Options) (opts : List OptionCall) : Except String Options :=
  opts.foldlM (fun options opt => opt.run options) options

/-- `New`, given whether `migratorService` and `treasuryOutputFunc` are non-nil. The outer
`error` is a panic while the options are applied, the inner one the error `New` returns. Its
value is the options and the configuration the coordinator runs with. -/
def new (migratorService treasuryOutputFunc : Bool) (opts : List OptionCall) :
    Except String (Except Error (Options × Config)) := do
  let options ← (⟨"", 0, 0, 0, none⟩ : Options).apply defaultOptions
  let options ← options.apply opts
  if migratorService && !treasuryOutputFunc then
    return .error (.critical (.message
      "migrator configured, but no treasury output fetch function provided"))
  return .ok (options, ⟨options.stateFilePath, options.quorum.isSome, migratorService⟩)

section

variable {options : Options} {panic : String}

/-- Only an enabled `WithQuorum` can panic, and it does exactly when `newQuorum` does. -/
theorem OptionCall.run_error {opt : OptionCall} :
    opt.run options = .error panic ↔ ∃ quorumGroups timeout,
      opt = .withQuorum true quorumGroups timeout ∧
        newQuorum quorumGroups timeout = .error panic := by
  cases opt with
  | withQuorum quorumEnabled quorumGroups timeout =>
      cases quorumEnabled <;> rcases h : newQuorum quorumGroups timeout with e | q <;>
        simp [run, h, Except.map, and_assoc, eq_comm]
  | _ => simp [run]

/-- Applying options panics at the first option that panics. -/
theorem Options.apply_error_iff {opts : List OptionCall} :
    (∃ panic, options.apply opts = .error panic) ↔ ∃ quorumGroups timeout panic,
      .withQuorum true quorumGroups timeout ∈ opts ∧
        newQuorum quorumGroups timeout = .error panic := by
  induction opts generalizing options with
  | nil => simp [Options.apply, pure, Except.pure]
  | cons opt rest ih =>
      simp only [Options.apply, List.foldlM_cons] at ih ⊢
      rcases hRun : opt.run options with panic | options'
      · obtain ⟨quorumGroups, timeout, rfl, hq⟩ := OptionCall.run_error.1 hRun
        exact ⟨fun _ => ⟨_, _, _, List.mem_cons_self _ _, hq⟩, fun _ => ⟨panic, rfl⟩⟩
      · simp only [bind, Except.bind, ih, List.mem_cons]
        refine ⟨fun ⟨g, t, p, hMem, hq⟩ => ⟨g, t, p, .inr hMem, hq⟩,
          fun ⟨g, t, p, hMem, hq⟩ => ?_⟩
        rcases hMem with hOpt | hMem
        · have hPanic : opt.run options = .error p :=
            OptionCall.run_error.2 ⟨g, t, hOpt.symm, hq⟩
          rw [hRun] at hPanic
          cases hPanic
        · exact ⟨g, t, p, hMem, hq⟩

end

/-- `New` panics exactly when one of its options is an enabled `WithQuorum` whose groups
`newQuorum` rejects: no group at all, or a group without nodes. The quorum is built when the
option is applied, so this holds even when a later `WithQuorum(false, ...)` disables the quorum,
and whatever the migrator. When it does not panic, `New` returns an error exactly when a migrator
is given without a treasury output function, and that error is critical. -/
theorem new_panics_iff (migratorService treasuryOutputFunc : Bool) (opts : List OptionCall) :
    ((∃ panic, new migratorService treasuryOutputFunc opts = .error panic) ↔
      ∃ quorumGroups timeout panic, .withQuorum true quorumGroups timeout ∈ opts ∧
        newQuorum quorumGroups timeout = .error panic) ∧
    ∀ r, new migratorService treasuryOutputFunc opts = .ok r →
      ((∃ e, r = .error e ∧ e.kind = .critical) ↔
        migratorService = true ∧ treasuryOutputFunc = false) := by
  -- the defaults never panic
  have hDefaults : (⟨"", 0, 0, 0, none⟩ : Options).apply defaultOptions =
      .ok ⟨"coordinator.state", 10 * 1000000000, 2 * 1000000000, 10, none⟩ := rfl
  have hPanics := @Options.apply_error_iff ⟨"coordinator.state", 10 * 1000000000,
    2 * 1000000000, 10, none⟩ opts
  simp only [new, hDefaults, bind, Except.bind]
  rcases hApply : Options.apply ⟨"coordinator.state", 10 * 1000000000, 2 * 1000000000, 10, none⟩
    opts with panic | options
  · exact ⟨⟨fun _ => hPanics.1 ⟨panic, hApply⟩, fun _ => ⟨panic, rfl⟩⟩,
      fun r hr => nomatch hr⟩
  · refine ⟨⟨fun ⟨_, hp⟩ => ?_, fun h => ?_⟩, ?_⟩
    · cases migratorService <;> cases treasuryOutputFunc <;> cases hp
    · obtain ⟨panic, hPanic⟩ := hPanics.2 h
      exact nomatch hPanic.symm.trans hApply
    · cases migratorService <;> cases treasuryOutputFunc <;> simp [pure, Except.pure]

end InxCoordinator
