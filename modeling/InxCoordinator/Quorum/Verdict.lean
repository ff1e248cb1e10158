import InxCoordinator.Quorum.Progress

/-! What the error `checkMerkleTreeHash` returns says about the replies the groups' loops
took. The loops decide: a reply still in a buffer when its loop stops counts for nothing,
and the outer call returns the first error sent on `quorumErrChan`. -/
namespace InxCoordinator

variable {cooMerkleProof : MilestoneMerkleRoots} {q : Quorum} {s : Round}
  {v : Option QuorumFailure}

theorem not_clean_iff {consumed : List NodeAnswer} :
    ¬Clean cooMerkleProof consumed ↔ ∃ r, NodeAnswer.response r ∈ consumed ∧ r ≠ cooMerkleProof := by
  simp [Clean]

/-- Soundness of the verdict: `nil` only if every group's loop took a matching reply and no
differing one; the critical mismatch only if a loop took a differing reply; the soft
no-answer only if a group ended without a matching reply; and no other value. -/
theorem checkMerkleTreeHash_sound (hs : Round.Reach cooMerkleProof q s)
    (hRet : s.outer = .returned v) :
    (v.map QuorumFailure.toError = none →
      ∀ t ∈ s.groups, Matched cooMerkleProof t.consumed ∧ Clean cooMerkleProof t.consumed) ∧
    (v.map QuorumFailure.toError = some (.critical (.sentinel .quorumMerkleTreeHashMismatch)) →
      ∃ t ∈ s.groups, ∃ r, NodeAnswer.response r ∈ t.consumed ∧ r ≠ cooMerkleProof) ∧
    (v.map QuorumFailure.toError = some (.soft (.sentinel .quorumGroupNoAnswer)) →
      ∃ t ∈ s.groups, t.phase = .done ∧ ¬Matched cooMerkleProof t.consumed) ∧
    (v.map QuorumFailure.toError = none ∨
      v.map QuorumFailure.toError = some (.critical (.sentinel .quorumMerkleTreeHashMismatch)) ∨
      v.map QuorumFailure.toError = some (.soft (.sentinel .quorumGroupNoAnswer))) := by
  have hInv := hs.inv
  refine ⟨fun hv t ht => ?_, fun hv => ?_, fun hv => ?_, ?_⟩
  · obtain rfl : v = none := Option.map_eq_none'.1 hv
    obtain ⟨-, hClean, hMatched⟩ := hInv.returnedNone hRet t ht
    exact ⟨hMatched, hClean⟩
  · obtain ⟨f, rfl, hf⟩ := Option.map_eq_some'.1 hv
    obtain ⟨t, ht, -, hJust⟩ := hInv.returnedSome f hRet
    cases f
    · exact ⟨t, ht, not_clean_iff.1 hJust⟩
    · cases hf
  · obtain ⟨f, rfl, hf⟩ := Option.map_eq_some'.1 hv
    obtain ⟨t, ht, hDone, hJust⟩ := hInv.returnedSome f hRet
    cases f
    · cases hf
    · exact ⟨t, ht, hDone, hJust⟩
  · rcases v with _ | _ | _ <;> simp [QuorumFailure.toError]

theorem checkMerkleTreeHash_sound_oneNode :
    ∃ q, newQuorum [("g", [⟨"", "http://node-1"⟩])] 1 = .ok q ∧
    ∃ s, Round.Reach ⟨1, 2⟩ q s ∧ ∃ v, s.outer = .returned v ∧
    (v.map QuorumFailure.toError = none →
      ∀ t ∈ s.groups, Matched ⟨1, 2⟩ t.consumed ∧ Clean ⟨1, 2⟩ t.consumed) ∧
    (v.map QuorumFailure.toError = some (.critical (.sentinel .quorumMerkleTreeHashMismatch)) →
      ∃ t ∈ s.groups, ∃ r, NodeAnswer.response r ∈ t.consumed ∧ r ≠ ⟨1, 2⟩) ∧
    (v.map QuorumFailure.toError = some (.soft (.sentinel .quorumGroupNoAnswer)) →
      ∃ t ∈ s.groups, t.phase = .done ∧ ¬Matched ⟨1, 2⟩ t.consumed) ∧
    (v.map QuorumFailure.toError = none ∨
      v.map QuorumFailure.toError = some (.critical (.sentinel .quorumMerkleTreeHashMismatch)) ∨
      v.map QuorumFailure.toError = some (.soft (.sentinel .quorumGroupNoAnswer))) := by
  let acts : List Action := [.lock, .group 0 .start,
    .group 0 (.answer 0 (.response ⟨1, 2⟩) 1), .group 0 (.record 0), .group 0 (.deliver 0),
    .group 0 .takeResult, .close, .finish]
  exact ⟨_, rfl, Round.Reach.of_run acts rfl fun hs => ⟨_, rfl, checkMerkleTreeHash_sound hs rfl⟩⟩

/-- A round stops only once the outer call has returned; the verdict is then `nil` exactly
when every group's loop took a matching reply and no differing one, and any other verdict is
the error some group's loop sent, for its reason. -/
theorem checkMerkleTreeHash_nil_iff (hs : Round.Reach cooMerkleProof q s) :
    ((∀ a, Round.step cooMerkleProof s a = none) → ∃ v, s.outer = .returned v) ∧
    ∀ v, s.outer = .returned v →
      (v = none ↔ ∀ t ∈ s.groups, Clean cooMerkleProof t.consumed ∧ Matched cooMerkleProof t.consumed) ∧
      ∀ f, v = some f → ∃ t ∈ s.groups, t.phase = .done ∧ f.Justified cooMerkleProof t.consumed := by
  have hInv := hs.inv
  refine ⟨fun hStuck => ?_, fun v hRet => ⟨⟨fun hv t ht => ?_, fun hAll => ?_⟩,
    fun f hv => hInv.returnedSome f (hv ▸ hRet)⟩⟩
  · by_contra hRunning
    obtain ⟨a, s', h⟩ := Round.exists_step_of_running hs fun v hv => hRunning ⟨v, hv⟩
    simp [hStuck a] at h
  · exact (hInv.returnedNone (hv ▸ hRet) t ht).2
  · rcases v with _ | f
    · rfl
    · obtain ⟨t, ht, -, hJust⟩ := hInv.returnedSome f hRet
      cases f
      · exact absurd (hAll t ht).1 hJust
      · exact absurd (hAll t ht).2 hJust

theorem checkMerkleTreeHash_nil_iff_oneNode :
    ∃ q, newQuorum [("g", [⟨"", "http://node-1"⟩])] 1 = .ok q ∧
    ∃ s, Round.Reach ⟨1, 2⟩ q s ∧
    ((∀ a, Round.step ⟨1, 2⟩ s a = none) → ∃ v, s.outer = .returned v) ∧
    ∀ v, s.outer = .returned v →
      (v = none ↔ ∀ t ∈ s.groups, Clean ⟨1, 2⟩ t.consumed ∧ Matched ⟨1, 2⟩ t.consumed) ∧
      ∀ f, v = some f → ∃ t ∈ s.groups, t.phase = .done ∧ f.Justified ⟨1, 2⟩ t.consumed := by
  let acts : List Action := [.lock, .group 0 .start,
    .group 0 (.answer 0 (.response ⟨1, 2⟩) 1), .group 0 (.record 0), .group 0 (.deliver 0),
    .group 0 .takeResult, .close, .finish]
  exact ⟨_, rfl, Round.Reach.of_run acts rfl checkMerkleTreeHash_nil_iff⟩

/-- Two groups of one node each. The first group's node answers with other roots; its loop
takes the reply and blocks on `quorumErrChan` to send the critical mismatch. The second group's
deadline passes with no reply, and its soft no-answer reaches the outer call first. The round
returns `ErrQuorumGroupNoAnswer`, and the mismatch is not received. -/
theorem checkMerkleTreeHash_mismatch_lost :
    ∃ q, newQuorum [("g1", [⟨"", "http://node-1"⟩]), ("g2", [⟨"", "http://node-2"⟩])] 1 = .ok q ∧
      ∃ s, Round.run ⟨1, 2⟩ (Round.init q) [.lock, .group 0 .start, .group 1 .start,
          .group 0 (.answer 0 (.response ⟨1, 3⟩) 1), .group 0 (.record 0), .group 0 (.deliver 0),
          .group 0 .takeResult, .group 1 .expire, .group 1 .takeDeadline, .handOver 1] = some s ∧
        (∃ t, s.groups[0]? = some t ∧ t.consumed = [.response ⟨1, 3⟩] ∧
          t.phase = .sending .mismatch) ∧
        (∃ v, s.outer = .returned v ∧
          v.map QuorumFailure.toError = some (.soft (.sentinel .quorumGroupNoAnswer))) ∧
        Round.step ⟨1, 2⟩ s (.handOver 0) = none :=
  ⟨_, rfl, _, rfl, ⟨_, rfl, rfl, rfl⟩, ⟨_, rfl, rfl⟩, rfl⟩

end InxCoordinator
