import InxCoordinator.Quorum.Invariant

/-! The synchronisation of a round, over every interleaving. `checkMerkleTreeHash` adds one to
`wg` per group before it spawns the group tasks, each group task calls `wg.Done()` when it
returns, and the waiter closes `quorumDoneChan` once `wg.Wait()` returns. Each group task's
`QuorumLoop` keeps its counters in step with what it took from its channels. -/
namespace InxCoordinator

variable {cooMerkleProof : MilestoneMerkleRoots} {q : Quorum} {s : Round} {t : GroupTask}
  {g i validResults : Nat}

/-- Once the lock is taken and every `wg.Add(1)` done, `wg` is the number of group tasks that
have not returned. So every `wg.Done()` finds it positive and it never goes negative;
`quorumDoneChan` is closed only after every group task returned, and the waiter can close it
exactly when it is still open and every group task has returned. -/
theorem checkMerkleTreeHash_waitGroup (hs : Round.Reach cooMerkleProof q s)
    (hOuter : s.outer ≠ .locking) :
    s.waitGroup = s.groups.countP GroupTask.running ∧
    (s.quorumDoneClosed = true → ∀ t ∈ s.groups, t.phase = .done) ∧
    ((Round.step cooMerkleProof s .close).isSome ↔
      s.quorumDoneClosed = false ∧ ∀ t ∈ s.groups, t.phase = .done) := by
  have hWait := hs.inv.waitGroup hOuter
  have hZero : s.waitGroup = 0 ↔ ∀ t ∈ s.groups, t.phase = .done := by
    simp [hWait, List.countP_eq_zero]
  refine ⟨hWait, hs.inv.closed, ?_⟩
  by_cases hClosed : s.quorumDoneClosed = false <;> simp [Round.step, hOuter, hClosed, hZero]

theorem checkMerkleTreeHash_waitGroup_twoGroups :
    ∃ q, newQuorum [("g1", [⟨"", "http://node-1"⟩]),
        ("g2", [⟨"", "http://node-2"⟩])] 1 = .ok q ∧
    ∃ s, Round.Reach ⟨1, 2⟩ q s ∧ s.outer ≠ .locking ∧
      (s.waitGroup = s.groups.countP GroupTask.running ∧
      (s.quorumDoneClosed = true → ∀ t ∈ s.groups, t.phase = .done) ∧
      ((Round.step ⟨1, 2⟩ s .close).isSome ↔
        s.quorumDoneClosed = false ∧ ∀ t ∈ s.groups, t.phase = .done)) := by
  let acts : List Action := [.lock, .group 0 .start, .group 0 .expire, .group 0 .takeDeadline]
  exact ⟨_, rfl, Round.Reach.of_run acts rfl fun hs =>
    ⟨by decide, checkMerkleTreeHash_waitGroup hs (by decide)⟩⟩

/-- The invariant of `QuorumLoop`: at the `select` of iteration `i`, `i` is below
`len(quorumGroupEntries)`, the loop has taken exactly `i` messages, none of them a reply whose
roots differ from `cooMerkleProof`, and `validResults` counts the matching replies among
them. -/
theorem checkMerkleTreeHashQuorumGroup_loop_invariant (hs : Round.Reach cooMerkleProof q s)
    (hg : s.groups[g]? = some t) (hPhase : t.phase = .collecting i validResults) :
    i < t.clients.length ∧ t.consumed.length = i ∧ Clean cooMerkleProof t.consumed ∧
      validResults = t.consumed.count (.response cooMerkleProof) :=
  GroupTask.inv_collecting (hs.inv.groups t (List.mem_iff_getElem?.2 ⟨g, hg⟩)) hPhase

/-- Iteration 1 of a group of two, after the first node's matching reply. -/
theorem checkMerkleTreeHashQuorumGroup_loop_invariant_secondIteration :
    ∃ q, newQuorum [("g", [⟨"", "http://node-1"⟩, ⟨"", "http://node-2"⟩])] 1
        = .ok q ∧
    ∃ s, Round.Reach ⟨1, 2⟩ q s ∧ ∃ t, s.groups[0]? = some t ∧ t.phase = .collecting 1 1 ∧
      (1 < t.clients.length ∧ t.consumed.length = 1 ∧ Clean ⟨1, 2⟩ t.consumed ∧
        1 = t.consumed.count (.response ⟨1, 2⟩)) := by
  let acts : List Action := [.lock, .group 0 .start,
    .group 0 (.answer 0 (.response ⟨1, 2⟩) 1), .group 0 (.record 0), .group 0 (.deliver 0),
    .group 0 .takeResult]
  exact ⟨_, rfl, Round.Reach.of_run acts rfl fun hs =>
    ⟨_, rfl, rfl, checkMerkleTreeHashQuorumGroup_loop_invariant (g := 0) hs rfl rfl⟩⟩

end InxCoordinator
