import InxCoordinator.Quorum.Invariant

/-! What a round leaves running once the outer call has returned. Nothing receives on
`quorumErrChan` any more, so a second group that ends with an error blocks on its send for
good, `wg` never reaches zero and the waiter never closes `quorumDoneChan`. And client tasks
that their group's loop stopped waiting for still write their entry's statistic, after
`quorumStatsLock` has been released. -/
namespace InxCoordinator

variable {cooMerkleProof : MilestoneMerkleRoots} {q : Quorum} {s s' : Round} {t : GroupTask}
  {g : Nat} {f : QuorumFailure} {v : Option QuorumFailure}

namespace Round

/-- A group blocked on `quorumErrChan` keeps `wg` above zero, so `quorumDoneChan` is open. -/
theorem open_of_blocked (hInv : s.Inv cooMerkleProof) (hg : s.groups[g]? = some t)
    (hSend : t.phase = .sending f) : s.quorumDoneClosed = false := by
  cases hc : s.quorumDoneClosed
  · rfl
  · simp [hInv.closed hc t (List.mem_iff_getElem?.2 ⟨g, hg⟩)] at hSend

/-- After the return, every step leaves the outer call returned and a group blocked on
`quorumErrChan` still blocked. -/
theorem step_of_blocked {a : Action} (hInv : s.Inv cooMerkleProof)
    (hRet : s.outer = .returned v) (hg : s.groups[g]? = some t) (hSend : t.phase = .sending f)
    (h : Round.step cooMerkleProof s a = some s') :
    s'.outer = s.outer ∧ ∃ t', s'.groups[g]? = some t' ∧ t'.phase = .sending f := by
  rcases step_cases h with ⟨-, hLocking, -⟩ | ⟨g', _, -, -, hGroup⟩ | ⟨_, -, hHand⟩ |
    ⟨-, hOuter, -, hWait, -⟩ | ⟨-, hSelecting, -⟩
  · simp [hRet] at hLocking
  · obtain ⟨u, u', hu, hMove, rfl⟩ := moveGroup_eq hGroup
    refine ⟨rfl, ?_⟩
    by_cases hgg : g' = g
    · subst hgg
      obtain rfl : u = t := Option.some.inj (hu.symm.trans hg)
      have hKeep := (GroupTask.move_of_pastLoop (by simp [hSend]) (by simp [hSend]) hMove).1
      exact ⟨u', by simp [List.getElem?_set, (List.getElem?_eq_some_iff.1 hg).1],
        hKeep.trans hSend⟩
    · exact ⟨t, by simp [List.getElem?_set, hgg, hg], hSend⟩
  · obtain ⟨_, _, hSel, -⟩ := handOver_eq hHand; simp [hRet] at hSel
  · -- the blocked group still runs, so wg is not zero
    have hPos : 0 < s.groups.countP GroupTask.running :=
      List.countP_pos_iff.2 ⟨t, List.mem_iff_getElem?.2 ⟨g, hg⟩, by simp [hSend]⟩
    rw [← hInv.waitGroup hOuter] at hPos
    omega
  · simp [hRet] at hSelecting

/-- On every schedule after the return, a group blocked on `quorumErrChan` is still blocked
and `quorumDoneChan` is still open: neither that group task nor the waiter ever finishes. -/
theorem run_of_blocked (hs : Reach cooMerkleProof q s) (hRet : s.outer = .returned v)
    (hg : s.groups[g]? = some t) (hSend : t.phase = .sending f) (acts : List Action)
    (hRun : Round.run cooMerkleProof s acts = some s') :
    s'.quorumDoneClosed = false ∧ ∃ t', s'.groups[g]? = some t' ∧ t'.phase = .sending f := by
  induction acts generalizing s t with
  | nil => cases hRun; exact ⟨open_of_blocked hs.inv hg hSend, t, hg, hSend⟩
  | cons a rest ih =>
      simp only [Round.run, Option.bind_eq_some] at hRun
      obtain ⟨mid, hStep, hRest⟩ := hRun
      obtain ⟨hOuter, t', hg', hSend'⟩ := step_of_blocked hs.inv hRet hg hSend hStep
      exact ih (hs.step a hStep) (hOuter.trans hRet) hg' hSend' hRest

end Round

/-- Two groups end without a matching reply. The outer call returns the first one's soft
error; on every schedule after that the second group stays blocked on its send to
`quorumErrChan`, and `quorumDoneChan` stays open. -/
theorem checkMerkleTreeHash_leaks_group :
    ∃ q, newQuorum [("g1", [⟨"", "http://node-1"⟩]),
        ("g2", [⟨"", "http://node-2"⟩])] 1 = .ok q ∧
    ∃ s, Round.Reach ⟨1, 2⟩ q s ∧ s.outer = .returned (some .noAnswer) ∧
      ∀ acts s', Round.run ⟨1, 2⟩ s acts = some s' →
        s'.quorumDoneClosed = false ∧ ∃ t, s'.groups[1]? = some t ∧ t.phase = .sending .noAnswer := by
  let acts : List Action := [.lock, .group 0 .start, .group 1 .start, .group 0 .expire,
    .group 0 .takeDeadline, .group 1 .expire, .group 1 .takeDeadline, .handOver 0]
  exact ⟨_, rfl, Round.Reach.of_run acts rfl fun hs =>
    ⟨rfl, fun acts' _ hRun => Round.run_of_blocked hs rfl rfl rfl acts' hRun⟩⟩

/-- The second client has not answered when the group's loop takes its deadline with one
matching reply; the round returns `nil` and releases `quorumStatsLock`. The client's call then
ends and its task writes the entry's statistic: a snapshot taken between its two writes shows
this round's response time next to the error from before the round, and the error is written
after it. -/
theorem checkMerkleTreeHash_stats_written_after_unlock :
    ∃ q, newQuorum [("g", [⟨"", "http://node-1"⟩, ⟨"", "http://node-2"⟩])] 1
        = .ok q ∧
    ∃ s, Round.Reach ⟨1, 2⟩ q s ∧ s.outer = .returned none ∧ s.outer.holdsStatsLock = false ∧
      (s.quorumStatsSnapshot [0])[1]? = some ⟨"g", "", "http://node-2", 0, none⟩ ∧
      ∃ s', Round.step ⟨1, 2⟩ s (.group 0 (.answer 1 (.error (.message "context canceled")) 3))
          = some s' ∧
        (s'.quorumStatsSnapshot [0])[1]? = some ⟨"g", "", "http://node-2", 3, none⟩ ∧
      ∃ s'', Round.step ⟨1, 2⟩ s' (.group 0 (.record 1)) = some s'' ∧
        (s''.quorumStatsSnapshot [0])[1]? =
          some ⟨"g", "", "http://node-2", 3, some (.message "context canceled")⟩ := by
  let acts : List Action := [.lock, .group 0 .start,
    .group 0 (.answer 0 (.response ⟨1, 2⟩) 1), .group 0 (.record 0), .group 0 (.deliver 0),
    .group 0 .takeResult, .group 0 .expire, .group 0 .takeDeadline, .close, .finish]
  exact ⟨_, rfl, Round.Reach.of_run acts rfl fun hs =>
    ⟨rfl, rfl, rfl, _, rfl, rfl, _, rfl, rfl⟩⟩

end InxCoordinator
