import InxCoordinator.Coordinator.CrashSafety

/-! What `createAndSendMilestone` persists, and in which order. Around the send of a milestone
that carries a receipt, the migrator state is persisted with `sendingReceipt = true` before the
send and with `false` after a send that succeeded, and for a milestone without one it is never
persisted. After the send `coo.state` is set and only then written to `stateFilePath`, after
the old file was renamed away. So the process's memory and the state file never disagree: a
restart from the state file resumes exactly the state the process held. -/
namespace InxCoordinator

/-- What `WriteJSONToFile` leaves of `state`, and the report that follows it. -/
def Effect.WritesOnly (state : State) : Effect → Prop
  | .writeStateFile (.valid state') => state' = state
  | .writeStateFile .corrupt => True
  | .issuedMilestone _ _ _ => True
  | _ => False

/-- The process's memory and the state file agree: whenever the process is up and
`stateFilePath` holds a state that `InitState(bootstrap=false)` can load, that state is
`coo.state`. -/
def World.Coherent (w : World) : Prop :=
  ∀ coo, w.coo = some coo → ∀ st, w.stateFile = some (.valid st) → st = coo.state

section Stages

variable {cfg : Config} {ans : MilestoneAnswers} {parents : List BlockID}
  {newMilestoneIndex : MilestoneIndex} {previousMilestoneID : MilestoneID}

theorem writeStateFile_writesOnly {write : WriteResult} {state : State} {x : Effect}
    {f : Unit → Trace State} (hf : ∀ u, ∀ y ∈ (f u).effects, y.WritesOnly state)
    (hx : x ∈ (writeStateFile write state >>= f).effects) : x.WritesOnly state := by
  rcases Trace.mem_bind_effects.1 hx with hx | ⟨u, -, hx⟩
  · rcases write with _ | ⟨_ | _ | _, err⟩ <;>
      simp only [writeStateFile, Trace.emit_eq, Trace.pure_eq, Trace.fail_eq, Trace.mk_ok_bind,
        List.append_nil, List.singleton_append, List.mem_singleton, List.not_mem_nil] at hx <;>
      subst hx <;> trivial
  · exact hf u x hx

/-- From the rename on, in order: the send of `m`; the migrator state persisted after a
successful send of a milestone with a receipt; then, unless that failed, the new state set,
what the write leaves of it, and the report. -/
theorem commitMilestone_stages (cfg : Config) (ans : MilestoneAnswers) (m : Milestone)
    (milestoneID : MilestoneID) :
    (commitMilestone cfg ans m milestoneID).effects = [] ∨
      ∃ persisted written, (commitMilestone cfg ans m milestoneID).effects =
          .renameStateFile :: .sendBlock (.milestone m milestoneID) ans.send ::
            (persisted ++ written) ∧
        (∀ x ∈ persisted, x = .persistMigratorState false) ∧
        (Effect.persistMigratorState false ∈ persisted ↔
          cfg.migrator = true ∧ m.receipt.isSome = true ∧ ∃ blockID, ans.send = .ok blockID) ∧
        (written = [] ∨ ∃ blockID rest, ans.send = .ok blockID ∧
          written = .setState ⟨m.index, milestoneID, blockID, ans.now⟩ :: rest ∧
          ∀ x ∈ rest, x.WritesOnly ⟨m.index, milestoneID, blockID, ans.now⟩) := by
  unfold commitMilestone
  rcases hr : ans.rename with _ | e'
  swap; · exact .inl (by simp only [Trace.checkNil_some, Trace.mk_error_bind])
  refine .inr ?_
  have hReport : ∀ state : State, ∀ u : Unit, ∀ y ∈ (Trace.emit (.issuedMilestone
      state.latestMilestoneIndex state.latestMilestoneID state.latestMilestoneBlockID) >>=
        fun _ => (pure state : Trace State)).effects, y.WritesOnly state := by
    intro state u y hy
    simp only [Trace.emit_eq, Trace.pure_eq, Trace.mk_ok_bind, List.append_nil,
      List.mem_singleton] at hy
    exact hy ▸ trivial
  rcases hs : ans.send with e' | blockID
  · exact ⟨[], [], by simp, by simp, by simp, .inl rfl⟩
  by_cases hp : cfg.migrator = true ∧ m.receipt.isSome = true
  · rcases hq : ans.persistAfterSend with _ | e'
    · exact ⟨[.persistMigratorState false], _, by simp [hp, hq]; rfl, by simp, by simp [hp],
        .inr ⟨blockID, _, rfl, rfl, fun x hx => writeStateFile_writesOnly (hReport _) hx⟩⟩
    · exact ⟨[.persistMigratorState false], [], by simp [hp, hq], by simp, by simp [hp],
        .inl rfl⟩
  · exact ⟨[], _, by simp [hp]; rfl, by simp, by simp [hp],
      .inr ⟨blockID, _, rfl, rfl, fun x hx => writeStateFile_writesOnly (hReport _) hx⟩⟩

/-- `createAndSendMilestone` stops before the rename, or `commitMilestone` gets past it with
the milestone `prepareMilestone` built. -/
theorem createAndSendMilestone_committed :
    (∀ x ∈ (createAndSendMilestone cfg ans parents newMilestoneIndex previousMilestoneID).effects,
        x.BeforeRename) ∨
      ∃ m milestoneID,
        (prepareMilestone cfg ans parents newMilestoneIndex previousMilestoneID).result =
          .ok (m, milestoneID) ∧ (commitMilestone cfg ans m milestoneID).effects ≠ [] ∧
        (createAndSendMilestone cfg ans parents newMilestoneIndex previousMilestoneID).effects =
          (prepareMilestone cfg ans parents newMilestoneIndex previousMilestoneID).effects ++
            (commitMilestone cfg ans m milestoneID).effects := by
  rw [createAndSendMilestone_eq]
  rcases hp : (prepareMilestone cfg ans parents newMilestoneIndex previousMilestoneID).result
    with e' | ⟨m, milestoneID⟩
  · exact .inl fun x hx => prepareMilestone_effects (by simpa [Trace.bind_of_error hp] using hx)
  rw [Trace.bind_of_ok hp]
  by_cases hNil : (commitMilestone cfg ans m milestoneID).effects = []
  · exact .inl fun x hx => prepareMilestone_effects (by simpa [hNil] using hx)
  · exact .inr ⟨m, milestoneID, rfl, hNil, rfl⟩

end Stages

/-- The migrator's persistence protocol. `createAndSendMilestone` either hands over no
milestone, and then never persists the migrator state with `sendingReceipt = false`; or it
hands over milestone `m` right after the rename. Before the send it persisted the migrator
state with `true` exactly when `m` carries a receipt, and never with `false`; after the send it
never persists `true`, and persists `false` exactly when `m` carries a receipt and
`sendBlockFunc` accepted it. -/
theorem createAndSendMilestone_persistMigratorState (cfg : Config) (ans : MilestoneAnswers)
    (parents : List BlockID) (newMilestoneIndex : MilestoneIndex)
    (previousMilestoneID : MilestoneID) :
    (∀ x ∈ (createAndSendMilestone cfg ans parents newMilestoneIndex previousMilestoneID).effects,
        x.BeforeRename) ∨
      ∃ pre m milestoneID post,
        (createAndSendMilestone cfg ans parents newMilestoneIndex previousMilestoneID).effects =
          pre ++ .renameStateFile :: .sendBlock (.milestone m milestoneID) ans.send :: post ∧
        (Effect.persistMigratorState true ∈ pre ↔ m.receipt.isSome) ∧
        Effect.persistMigratorState false ∉ pre ∧ Effect.persistMigratorState true ∉ post ∧
        (Effect.persistMigratorState false ∈ post ↔
          m.receipt.isSome ∧ ∃ blockID, ans.send = .ok blockID) := by
  rcases createAndSendMilestone_committed with hBefore | ⟨m, milestoneID, hp, hNe, hEq⟩
  · exact .inl hBefore
  rw [hEq]
  have hPre := prepareMilestone_effects_of_ok hp
  rcases commitMilestone_stages cfg ans m milestoneID
    with hNil | ⟨persisted, written, hEq, hPersisted, hFalse, hWritten⟩
  · exact absurd hNil hNe
  -- a receipt comes only from the migrator
  have hMigrator : m.receipt.isSome = true → cfg.migrator = true := by
    obtain ⟨-, -, -, -, hEmbed⟩ := prepareMilestone_ok hp
    intro hSome
    have hPersisted : Effect.persistMigratorState true ∈ (embedTreasury cfg ans).effects := by
      rw [embedTreasury_effects_of_ok hEmbed, if_pos hSome]
      exact List.mem_singleton_self _
    exact (mem_embedTreasury_effects.1 hPersisted).1
  -- the state set and written after the send persist nothing
  have hWrittenQuiet : ∀ b, Effect.persistMigratorState b ∉ written := by
    intro b hb
    rcases hWritten with rfl | ⟨blockID, rest, -, rfl, hRest⟩
    · cases hb
    · rcases List.mem_cons.1 hb with hb | hb
      · cases hb
      · exact hRest _ hb
  refine .inr ⟨_, m, milestoneID, persisted ++ written, by rw [hEq], ?_, ?_, ?_, ?_⟩
  · rw [hPre]; split_ifs with _ hr hr <;> simp [hr]
  · rw [hPre]; split_ifs <;> simp
  · simpa [hWrittenQuiet] using fun h => nomatch hPersisted _ h
  · simp only [List.mem_append, hWrittenQuiet, or_false, hFalse]
    exact ⟨fun h => ⟨h.2.1, h.2.2⟩, fun h => ⟨hMigrator h.1, h⟩⟩

section Coherent

variable {w : World} {x : Effect} {state : State}

/-- An effect that sets no state leaves `coo.state` alone. -/
theorem World.apply_coo_state (hx : ∀ st, x ≠ .setState st) {coo' : Coordinator}
    (h : (w.apply x).coo = some coo') : ∃ coo, w.coo = some coo ∧ coo'.state = coo.state := by
  rcases x with _ | _ | _ | _ | st | _ | _ | _ | _
  case setState => exact absurd rfl (hx st)
  case renameStateFile =>
    rcases hFile : w.stateFile with _ | file <;> simp only [World.apply, hFile] at h <;>
      exact ⟨coo', h, rfl⟩
  case sendBlock | writeStateFile => exact ⟨coo', h, rfl⟩
  -- the other effects go through `Coordinator.apply`, which only `setState` changes the state of
  all_goals
    obtain ⟨coo, hcoo, rfl⟩ := Option.map_eq_some'.1 h
    exact ⟨coo, hcoo, rfl⟩

theorem World.Coherent.of_stateFile_none (h : w.stateFile = none) : w.Coherent :=
  fun _ _ st hst => by simp [h] at hst

theorem World.Coherent.apply_quiet (hw : w.Coherent) (hq : x.Quiet)
    (hx : ∀ st, x ≠ .setState st) : (w.apply x).Coherent := by
  intro coo' hcoo st hst
  obtain ⟨coo, hcoo0, hState⟩ := World.apply_coo_state hx hcoo
  rw [hState]
  exact hw coo hcoo0 st ((World.apply_quiet hq).1 ▸ hst)

/-- From the `setState` of `state` on: what the write leaves, and the report, keep the memory
at `state` and a loadable state file at `state`. -/
theorem World.apply_writesOnly (hw : (∀ coo, w.coo = some coo → coo.state = state) ∧
      ∀ st, w.stateFile = some (.valid st) → st = state) (hx : x.WritesOnly state) :
    (∀ coo, (w.apply x).coo = some coo → coo.state = state) ∧
      ∀ st, (w.apply x).stateFile = some (.valid st) → st = state := by
  rcases x with _ | _ | _ | _ | _ | (state' | _) | _ | _ | _ <;> try exact absurd hx id
  · refine ⟨hw.1, fun st hst => ?_⟩
    simp only [World.apply, Option.some.injEq, StateFile.valid.injEq] at hst
    exact hst ▸ hx
  · exact ⟨hw.1, fun st hst => by simp [World.apply] at hst⟩
  · refine ⟨fun coo' hcoo => ?_, hw.2⟩
    simp only [World.apply, Option.map_eq_some'] at hcoo
    obtain ⟨coo, hcoo, rfl⟩ := hcoo
    exact hw.1 coo hcoo

/-- From the rename on, the state file is gone until the state set after the send is written:
whatever came before, the commit leaves the memory and the state file in agreement. -/
theorem World.Coherent.foldl_commit {block : Block} {answer : Except Error BlockID}
    {persisted written : List Effect}
    (hPersisted : ∀ x ∈ persisted, x = .persistMigratorState false)
    (hWritten : written = [] ∨ ∃ state rest, written = .setState state :: rest ∧
      ∀ x ∈ rest, x.WritesOnly state) :
    ((.renameStateFile :: .sendBlock block answer :: (persisted ++ written)).foldl World.apply
      w).Coherent := by
  -- the rename and the send leave no state file, and persisting the migrator state keeps it so
  have hGone : ((.renameStateFile :: .sendBlock block answer :: persisted).foldl World.apply
      w).stateFile = none :=
    World.foldl_apply_of_forall (P := (·.stateFile = none))
      (w := (w.apply .renameStateFile).apply (.sendBlock block answer))
      (fun x hx w' hw' => (World.apply_quiet (hPersisted x hx ▸ trivial)).1.trans hw')
      (World.apply_rename_stateFile (w := w))
  rw [← List.cons_append, ← List.cons_append, List.foldl_append]
  rcases hWritten with rfl | ⟨state, rest, rfl, hRest⟩
  · exact .of_stateFile_none hGone
  · have hSet := World.foldl_apply_of_forall
      (P := fun w' => (∀ coo, w'.coo = some coo → coo.state = state) ∧
        ∀ st, w'.stateFile = some (.valid st) → st = state)
      (fun x hx w' hw' => World.apply_writesOnly hw' (hRest x hx))
      (w := World.apply ((Effect.renameStateFile :: .sendBlock block answer :: persisted).foldl
        World.apply w) (.setState state))
      ⟨fun coo hcoo => by
        obtain ⟨coo, -, rfl⟩ := Option.map_eq_some'.1 hcoo; rfl,
       fun _ hst => Option.noConfusion (hGone.symm.trans hst)⟩
    exact fun coo hcoo st hst => (hSet.2 st hst).trans (hSet.1 coo hcoo).symm

theorem World.Coherent.foldl_quiet {effects : List Effect} (hw : w.Coherent)
    (h : ∀ x ∈ effects, x.Quiet ∧ ∀ st, x ≠ .setState st) :
    (effects.foldl World.apply w).Coherent :=
  World.foldl_apply_of_forall (fun x hx _ hw => hw.apply_quiet (h x hx).1 (h x hx).2) hw

theorem World.Coherent.foldl_createAndSendMilestone {cfg : Config} {ans : MilestoneAnswers}
    {parents : List BlockID} {newMilestoneIndex : MilestoneIndex}
    {previousMilestoneID : MilestoneID} (hw : w.Coherent) :
    ((createAndSendMilestone cfg ans parents newMilestoneIndex previousMilestoneID).effects.foldl
      World.apply w).Coherent := by
  rcases createAndSendMilestone_committed with hBefore | ⟨m, milestoneID, -, hNe, hEq⟩
  · exact hw.foldl_quiet fun x hx => ⟨(hBefore x hx).quiet, (hBefore x hx).ne_setState⟩
  rcases commitMilestone_stages cfg ans m milestoneID
    with hNil | ⟨persisted, written, hCommit, hPersisted, -, hWritten⟩
  · exact absurd hNil hNe
  rw [hEq, List.foldl_append, hCommit]
  refine World.Coherent.foldl_commit hPersisted ?_
  rcases hWritten with hNil | ⟨_, rest, -, rfl, hRest⟩
  exacts [.inl hNil, .inr ⟨_, rest, rfl, hRest⟩]

/-- Every operation, whatever its answers, leaves the memory and the state file in agreement. -/
theorem World.Coherent.foldl_perform {cfg : Config} {coo : Coordinator} {o : Op}
    (hw : w.Coherent) : ((coo.perform cfg o).effects.foldl World.apply w).Coherent := by
  cases o with
  | bootstrap ans =>
      cases hb : coo.bootstrapped
      · rw [Coordinator.perform, bootstrap_of_not_bootstrapped hb]
        split
        · exact hw.foldl_createAndSendMilestone
        · rw [List.foldl_append]
          exact hw.foldl_createAndSendMilestone.foldl_quiet (by simp [Effect.Quiet])
      · rw [Coordinator.perform, bootstrap_of_bootstrapped hb]
        exact hw
  | issueMilestone parents isNodeSynced backPressure ans =>
      simp only [Coordinator.perform, issueMilestone]
      split
      · exact hw
      · split
        · exact hw
        · simpa using hw.foldl_createAndSendMilestone
  | issueCheckpoint =>
      exact hw.foldl_quiet fun x hx =>
        ⟨(issueCheckpoint_ofCheckpoint hx).quiet, (issueCheckpoint_ofCheckpoint hx).ne_setState⟩

end Coherent

section Runs

variable {cfg : Config} {w w' w₀ : World}

theorem World.Step.coherent (h : World.Step cfg w w') (hw : w.Coherent) : w'.Coherent := by
  cases h with
  | @initState coo bootstrap startIndex latestMilestone now _ hInit =>
      cases bootstrap
      · obtain ⟨state, hFile, rfl⟩ := initState_resume hInit
        intro coo hcoo st hst
        simp only [Option.some.injEq] at hcoo
        simp only [hFile, Option.some.injEq, StateFile.valid.injEq] at hst
        rw [← hcoo, hst]
      · exact .of_stateFile_none (initState_bootstrap hInit).1
  | perform o _ => exact hw.foldl_perform
  | crash o k _ => exact fun coo hcoo => nomatch hcoo

theorem World.Reach.coherent (h : World.Reach cfg w₀ w) (hw : w₀.Coherent) : w.Coherent := by
  induction h with
  | refl => exact hw
  | step _ hStep ih => exact hStep.coherent ih

end Runs

/-- The process's memory and the state file never disagree. In every world reached from a
process that is down, whatever the files held, whatever crashed and whatever the callbacks
answered: while the process is up, a state file that `InitState(bootstrap=false)` can load
holds exactly `coo.state`, so a restart from it resumes exactly that state, bootstrapped. -/
theorem stateFile_matches_memory {cfg : Config} {w₀ w : World} (hReach : World.Reach cfg w₀ w)
    (hDown : w₀.coo = none) {coo : Coordinator} (hUp : w.coo = some coo) :
    (∀ st, w.stateFile = some (.valid st) → st = coo.state) ∧
    ∀ startIndex latestMilestone now coo',
      initState cfg w.stateFile false startIndex latestMilestone now = .ok coo' →
      coo' = ⟨coo.state, true⟩ := by
  have hCoherent := hReach.coherent fun _ hcoo => nomatch hDown.symm.trans hcoo
  refine ⟨hCoherent coo hUp, fun startIndex latestMilestone now coo' hInit => ?_⟩
  obtain ⟨state, hFile, rfl⟩ := initState_resume hInit
  rw [hCoherent coo hUp state hFile]

/-- A resumed coordinator issues milestone 6: its memory and the state file both hold it. -/
theorem stateFile_matches_memory_afterIssue :
    ∃ w coo, World.Reach ⟨"coordinator.state", false, false⟩
        ⟨none, some (.valid ⟨5, 3, 4, 0⟩), none, []⟩ w ∧ w.coo = some coo ∧
      (∀ st, w.stateFile = some (.valid st) → st = coo.state) ∧
      ∀ startIndex latestMilestone now coo',
        initState ⟨"coordinator.state", false, false⟩ w.stateFile false startIndex
          latestMilestone now = .ok coo' →
        coo' = ⟨coo.state, true⟩ := by
  let ans : MilestoneAnswers :=
    ⟨100, .ok ⟨1, 2⟩, none, none, none, .error (.message ""), none, .ok 11, none, .ok 13, none, .ok⟩
  have hReach : World.Reach ⟨"coordinator.state", false, false⟩
      ⟨none, some (.valid ⟨5, 3, 4, 0⟩), none, []⟩ _ :=
    .step (.step .refl (.initState false 0 ⟨5, 3⟩ 0 rfl rfl))
      (.perform (.issueMilestone [] true [] ans) rfl)
  exact ⟨_, _, hReach, rfl, stateFile_matches_memory hReach rfl rfl⟩

end InxCoordinator
