import InxCoordinator.Coordinator.Chain

/-! Crash safety of the state file. The process may crash after any effect of an operation and
be restarted with `InitState`. `createAndSendMilestone` renames the state file away before it
sends a milestone, and writes the state of that milestone only after the send. So whenever
`stateFilePath` holds a state that `InitState(bootstrap=false)` can load, that state describes
the last milestone handed to `sendBlockFunc`, or, while none has been, it is the file the world
started with; and a coordinator resumed from it continues the chain from that milestone.

The world steps are those of `World.Step`: `InitState`, a whole operation, or a crash after the
first `k` effects of one. Operations go on after a critical error too, which only adds runs. -/
namespace InxCoordinator

/-- The last milestone handed to `sendBlockFunc`, with its ID and the answer it got. -/
def lastMilestone (sent : List (Block × Except Error BlockID)) :
    Option (Milestone × MilestoneID × Except Error BlockID) :=
  sent.foldl (fun last step => match step with
    | (.milestone m milestoneID, answer) => some (m, milestoneID, answer)
    | (.checkpoint _, _) => last) none

/-- What `stateFilePath` may hold: a state that `InitState(bootstrap=false)` can load describes
the last milestone handed over, or, while none has been, is the file `loaded` the world started
with. -/
def World.Good (loaded : Option StateFile) (w : World) : Prop :=
  ∀ st, w.stateFile = some (.valid st) →
    match lastMilestone w.sent with
    | none => loaded = some (.valid st)
    | some (m, milestoneID, answer) => st.Describes m milestoneID answer

/-- Between the send of milestone `m` and the end of its operation: `m` is the last milestone
handed over, and a loadable state file describes it. -/
def World.Records (m : Milestone) (milestoneID : MilestoneID) (answer : Except Error BlockID)
    (w : World) : Prop :=
  lastMilestone w.sent = some (m, milestoneID, answer) ∧
    ∀ st, w.stateFile = some (.valid st) → st.Describes m milestoneID answer

/-- The effects that touch neither the state file nor the milestones handed over. -/
def Effect.Quiet : Effect → Prop
  | .renameStateFile => False
  | .writeStateFile _ => False
  | .sendBlock (.milestone _ _) _ => False
  | _ => True

/-- Every crash point of an effect list keeps `World.Good`: so does each of its prefixes. -/
def CrashSafe (effects : List Effect) : Prop :=
  ∀ loaded w k, World.Good loaded w → World.Good loaded ((effects.take k).foldl World.apply w)

section Effect

variable {loaded : Option StateFile} {w : World} {x : Effect} {m : Milestone}
  {milestoneID : MilestoneID} {answer : Except Error BlockID}

@[simp] theorem lastMilestone_nil : lastMilestone [] = none := rfl

@[simp] theorem lastMilestone_append_milestone (sent : List (Block × Except Error BlockID)) :
    lastMilestone (sent ++ [(.milestone m milestoneID, answer)]) = some (m, milestoneID, answer) := by
  simp [lastMilestone]

@[simp] theorem lastMilestone_append_checkpoint (sent : List (Block × Except Error BlockID))
    (parents : List BlockID) :
    lastMilestone (sent ++ [(.checkpoint parents, answer)]) = lastMilestone sent := by
  simp [lastMilestone]

/-- A quiet effect leaves the state file and the last milestone alone. -/
theorem World.apply_quiet (h : x.Quiet) :
    (w.apply x).stateFile = w.stateFile ∧ lastMilestone (w.apply x).sent = lastMilestone w.sent := by
  rcases x with _ | _ | _ | ⟨_ | _, _⟩ | _ | _ | _ | _ | _ <;>
    first | exact absurd h id | simp [World.apply]

theorem World.Good.apply_quiet (hw : World.Good loaded w) (h : x.Quiet) :
    World.Good loaded (w.apply x) := by
  intro st hst
  rw [(World.apply_quiet h).2]
  exact hw st ((World.apply_quiet h).1 ▸ hst)

theorem World.apply_rename_stateFile : (w.apply .renameStateFile).stateFile = none := by
  cases h : w.stateFile <;> simp [World.apply, h]

theorem World.Records.good (hw : World.Records m milestoneID answer w) : World.Good loaded w := by
  intro st hst
  rw [hw.1]
  exact hw.2 st hst

/-- After a send, an effect is quiet or writes the state file. -/
theorem Effect.AfterSend.quiet_or_write (h : x.AfterSend m milestoneID answer) :
    x.Quiet ∨ ∃ file, x = .writeStateFile file := by
  rcases x with _ | _ | _ | ⟨_ | _, _⟩ | _ | _ | _ | _ | _ <;>
    first | exact absurd h id | exact .inl trivial | exact .inr ⟨_, rfl⟩

/-- The effects after a send keep the record of the milestone sent. -/
theorem World.Records.apply_afterSend (hw : World.Records m milestoneID answer w)
    (h : x.AfterSend m milestoneID answer) : World.Records m milestoneID answer (w.apply x) := by
  rcases h.quiet_or_write with hQuiet | ⟨file, rfl⟩
  · obtain ⟨hFile, hLast⟩ := World.apply_quiet (w := w) hQuiet
    exact ⟨hLast.trans hw.1, fun st hst => hw.2 st (hFile ▸ hst)⟩
  · refine ⟨hw.1, fun st hst => ?_⟩
    cases file with
    | valid state =>
        simp only [World.apply, Option.some.injEq, StateFile.valid.injEq] at hst
        exact hst ▸ h
    | corrupt => simp [World.apply] at hst

theorem Effect.BeforeRename.quiet (h : x.BeforeRename) : x.Quiet := by
  rcases h with ⟨err, rfl⟩ | rfl <;> trivial

theorem Effect.OfCheckpoint.quiet (h : x.OfCheckpoint) : x.Quiet := by
  rcases x with _ | _ | _ | ⟨_ | _, _⟩ | _ | _ | _ | _ | _ <;> first | exact absurd h id | trivial

end Effect

section Effects

variable {effects rest : List Effect} {m : Milestone} {milestoneID : MilestoneID}
  {answer : Except Error BlockID}

theorem World.foldl_apply_of_forall {P : World → Prop} {w : World} {effects : List Effect}
    (hStep : ∀ x ∈ effects, ∀ w, P w → P (w.apply x)) (hw : P w) :
    P (effects.foldl World.apply w) := by
  induction effects generalizing w with
  | nil => exact hw
  | cons x rest ih =>
      exact ih (fun y hy => hStep y (List.mem_cons_of_mem _ hy)) (hStep x (List.mem_cons_self _ _) w hw)

theorem CrashSafe.of_quiet (h : ∀ x ∈ effects, x.Quiet) : CrashSafe effects :=
  fun _ _ _ hw => World.foldl_apply_of_forall
    (fun x hx _ hw => hw.apply_quiet (h x (List.mem_of_mem_take hx))) hw

theorem CrashSafe.append {effects' : List Effect} (h : CrashSafe effects) (h' : CrashSafe effects') :
    CrashSafe (effects ++ effects') := by
  intro loaded w k hw
  rw [List.take_append_eq_append_take, List.foldl_append]
  exact h' loaded _ _ (h loaded w k hw)

/-- The rename, the send of `m`, and what follows the send: before the send the state file is
gone, and from the send on the world records `m`. -/
theorem CrashSafe.commit (hRest : ∀ x ∈ rest, x.AfterSend m milestoneID answer) :
    CrashSafe (.renameStateFile :: .sendBlock (.milestone m milestoneID) answer :: rest) := by
  intro loaded w k hw
  match k with
  | 0 => exact hw
  | 1 => exact fun st hst => by simp [World.apply_rename_stateFile] at hst
  | k + 2 =>
      simp only [List.take_succ_cons, List.foldl_cons]
      refine World.Records.good (World.foldl_apply_of_forall
        (fun x hx _ hw => hw.apply_afterSend (hRest x (List.mem_of_mem_take hx))) ?_)
      exact ⟨by simp [World.apply],
        fun _ hst => Option.noConfusion ((World.apply_rename_stateFile (w := w)).symm.trans hst)⟩

theorem createAndSendMilestone_crashSafe {cfg : Config} {ans : MilestoneAnswers}
    {parents : List BlockID} {newMilestoneIndex : MilestoneIndex}
    {previousMilestoneID : MilestoneID} :
    CrashSafe (createAndSendMilestone cfg ans parents newMilestoneIndex previousMilestoneID).effects := by
  rcases createAndSendMilestone_effects cfg ans parents newMilestoneIndex previousMilestoneID
    with hBefore | ⟨pre, m, milestoneID, rest, hEq, hPre, -, -, -, hRest⟩
  · exact .of_quiet fun x hx => (hBefore x hx).quiet
  · rw [hEq]
    exact (CrashSafe.of_quiet fun x hx => (hPre x hx).quiet).append (.commit hRest)

/-- Every crash point of every operation keeps `World.Good`. -/
theorem Coordinator.perform_crashSafe (cfg : Config) (coo : Coordinator) (o : Op) :
    CrashSafe (coo.perform cfg o).effects := by
  cases o with
  | bootstrap ans =>
      cases hb : coo.bootstrapped
      · rw [Coordinator.perform, bootstrap_of_not_bootstrapped hb]
        split
        · exact createAndSendMilestone_crashSafe
        · exact createAndSendMilestone_crashSafe.append (.of_quiet (by simp [Effect.Quiet]))
      · rw [Coordinator.perform, bootstrap_of_bootstrapped hb]
        exact .of_quiet nofun
  | issueMilestone parents isNodeSynced backPressure ans =>
      simp only [Coordinator.perform, issueMilestone]
      split
      · exact .of_quiet nofun
      · split
        · exact .of_quiet nofun
        · simpa using createAndSendMilestone_crashSafe
  | issueCheckpoint =>
      exact .of_quiet fun x hx => (issueCheckpoint_ofCheckpoint hx).quiet

end Effects

section Runs

variable {cfg : Config} {loaded : Option StateFile} {w w' w₀ : World}

theorem World.Step.good (h : World.Step cfg w w') (hw : World.Good loaded w) :
    World.Good loaded w' := by
  cases h with
  | initState => exact hw
  | @perform coo o _ =>
      have := Coordinator.perform_crashSafe cfg coo o loaded w (coo.perform cfg o).effects.length hw
      rwa [List.take_length] at this
  | @crash coo o k _ => exact Coordinator.perform_crashSafe cfg coo o loaded w k hw

theorem World.Reach.good (h : World.Reach cfg w₀ w) (hw : World.Good loaded w₀) :
    World.Good loaded w := by
  induction h with
  | refl => exact hw
  | step _ hStep ih => exact hStep.good ih

end Runs

/-- Crash safety of the state file. In every world reached from a process that is down, with
`loaded` at `stateFilePath` and nothing sent, whatever crashes, restarts and answers came in
between: a state file that `InitState(bootstrap=false)` can load describes the last milestone
handed to `sendBlockFunc` (its index, its ID and the block ID the send returned), or is `loaded`
if none has been handed; and a coordinator resumed from it hands milestones that continue the
chain from the last one handed. -/
theorem stateFile_describes_last_milestone {cfg : Config} {loaded oldStateFile : Option StateFile}
    {w : World} (hReach : World.Reach cfg ⟨none, loaded, oldStateFile, []⟩ w) :
    (∀ st, w.stateFile = some (.valid st) →
      match lastMilestone w.sent with
      | none => loaded = some (.valid st)
      | some (m, milestoneID, answer) => st.Describes m milestoneID answer) ∧
    ∀ m milestoneID answer, lastMilestone w.sent = some (m, milestoneID, answer) →
      ∀ startIndex latestMilestone now coo,
        initState cfg w.stateFile false startIndex latestMilestone now = .ok coo →
        ∀ ops, MilestoneChain m.index milestoneID (runMilestones (coo.run cfg ops)) := by
  have hGood : World.Good loaded w := hReach.good fun _ hst => hst
  refine ⟨hGood, fun m milestoneID answer hLast startIndex latestMilestone now coo hInit ops => ?_⟩
  obtain ⟨st, hFile, rfl⟩ := initState_resume hInit
  have hDescribes := hGood st hFile
  rw [hLast] at hDescribes
  obtain ⟨hIndex, hID, -⟩ := hDescribes
  simpa [hIndex, hID] using Coordinator.run_milestoneChain cfg ⟨st, true⟩ ops

theorem stateFile_describes_last_milestone_crashAfterRename :
    ∃ w, World.Reach ⟨"coordinator.state", false, false⟩
        ⟨none, some (.valid ⟨5, 3, 4, 0⟩), none, []⟩ w ∧
      (∀ st, w.stateFile = some (.valid st) →
        match lastMilestone w.sent with
        | none => some (StateFile.valid ⟨5, 3, 4, 0⟩) = some (.valid st)
        | some (m, milestoneID, answer) => st.Describes m milestoneID answer) ∧
      ∀ m milestoneID answer, lastMilestone w.sent = some (m, milestoneID, answer) →
        ∀ startIndex latestMilestone now coo,
          initState ⟨"coordinator.state", false, false⟩ w.stateFile false startIndex latestMilestone
            now = .ok coo →
          ∀ ops, MilestoneChain m.index milestoneID
            (runMilestones (coo.run ⟨"coordinator.state", false, false⟩ ops)) := by
  let ans : MilestoneAnswers :=
    ⟨0, .ok ⟨1, 2⟩, none, none, none, .error (.message ""), none, .ok 5, none, .ok 9, none, .ok⟩
  have hReach : World.Reach ⟨"coordinator.state", false, false⟩
      ⟨none, some (.valid ⟨5, 3, 4, 0⟩), none, []⟩ _ :=
    .step (.step (.step .refl (.initState false 0 ⟨5, 3⟩ 0 rfl rfl))
      (.perform (.issueMilestone [] true [] ans) rfl)) (.crash (.issueMilestone [] true [] ans) 2 rfl)
  exact ⟨_, hReach, stateFile_describes_last_milestone hReach⟩

/-- A coordinator resumed from a loaded state whose `IssueMilestone` fails to send, and a caller
that waited on `milestoneLock`: both hand index 6 naming milestone 3, the second after the first
renamed the state file away. -/
theorem stateFile_resume_reissues :
    ∃ w, World.Reach ⟨"coordinator.state", false, false⟩
        ⟨none, some (.valid ⟨5, 3, 4, 0⟩), none, []⟩ w ∧
      ∃ m₁ milestoneID₁ answer₁ m₂ milestoneID₂ answer₂,
        w.sent = [(.milestone m₁ milestoneID₁, answer₁), (.milestone m₂ milestoneID₂, answer₂)] ∧
        m₁.index = 6 ∧ m₂.index = 6 ∧ m₁.previousMilestoneID = 3 ∧ m₂.previousMilestoneID = 3 :=
  ⟨_, .step (.step (.step .refl (.initState false 0 ⟨5, 3⟩ 0 rfl rfl))
      (.perform (.issueMilestone [] true []
        ⟨0, .ok ⟨1, 2⟩, none, none, none, .error (.message ""), none, .ok 11, none,
          .error (.message ""), none, .ok⟩) rfl))
      (.perform (.issueMilestone [] true []
        ⟨0, .ok ⟨1, 2⟩, none, none, none, .error (.message ""), none, .ok 12, none, .ok 13, none,
          .ok⟩) rfl),
    _, _, _, _, _, _, rfl, rfl, rfl, rfl, rfl⟩

end InxCoordinator
