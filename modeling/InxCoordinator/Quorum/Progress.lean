import InxCoordinator.Quorum.Invariant

/-! A round cannot get stuck before the outer call returns, and it cannot run forever: each
step uses up one of finitely many moves its tasks still have. So every interleaving that
cannot be extended ends with `checkMerkleTreeHash` returned. -/
namespace InxCoordinator

variable {cooMerkleProof : MilestoneMerkleRoots} {q : Quorum} {s s' : Round}
  {t t' : GroupTask} {g n i v : Nat}

theorem Round.moveGroup_isSome {f : GroupTask → Option GroupTask} (hg : s.groups[g]? = some t)
    (ht : (f t).isSome) : (s.moveGroup g f).isSome := by
  obtain ⟨t', ht'⟩ := Option.isSome_iff_exists.1 ht
  simp [Round.moveGroup, hg, ht']

/-- While the outer call has not returned, some task can move: a group blocked on
`quorumErrChan` meets the outer receive, and a group in its loop can always take its
deadline. -/
theorem Round.exists_step_of_running (hs : Round.Reach cooMerkleProof q s)
    (hRunning : ∀ v, s.outer ≠ .returned v) : ∃ a s', Round.step cooMerkleProof s a = some s' := by
  have hInv := hs.inv
  simp only [← Option.isSome_iff_exists]
  cases hOuter : s.outer with
  | locking => exact ⟨.lock, by simp [Round.step, hOuter]⟩
  | returned v => exact absurd hOuter (hRunning v)
  | selecting =>
      by_cases hSend : ∃ (g : Nat) (t : GroupTask) (f : QuorumFailure), s.groups[g]? = some t ∧
          t.phase = .sending f
      · obtain ⟨g, t, f, hg, hf⟩ := hSend
        exact ⟨.handOver g, by simp [Round.step, Round.handOver, hOuter, hg, hf]⟩
      by_cases hClosed : s.quorumDoneClosed = true
      · exact ⟨.finish, by simp [Round.step, hOuter, hClosed]⟩
      by_cases hWait : s.waitGroup = 0
      · exact ⟨.close, by simp [Round.step, hOuter, hClosed, hWait]⟩
      have hPos : 0 < s.groups.countP GroupTask.running := by
        rw [← hInv.waitGroup (by simp [hOuter])]; omega
      obtain ⟨t, ht, hRun⟩ := List.countP_pos_iff.1 hPos
      obtain ⟨g, hg⟩ := List.getElem?_of_mem ht
      have hMove : ∀ m, (t.move cooMerkleProof s.quorumDoneClosed m).isSome →
          (Round.step cooMerkleProof s (.group g m)).isSome := fun m hm => by
        simpa [Round.step, hOuter] using Round.moveGroup_isSome hg hm
      cases hp : t.phase with
      | idle => exact ⟨_, hMove .start (by simp [GroupTask.move, GroupTask.start, hp])⟩
      | collecting i v =>
          cases hx : t.expired
          · exact ⟨_, hMove .expire (by simp [GroupTask.move, GroupTask.expire, hp, hx])⟩
          · exact ⟨_, hMove .takeDeadline (by simp [GroupTask.move, GroupTask.takeDeadline, hp, hx])⟩
      | sending f => exact absurd ⟨g, t, f, hg, hp⟩ hSend
      | done => simp [hp] at hRun

/-- Moves a client task still has. -/
def ClientPhase.pending : ClientPhase → Nat
  | .idle => 4
  | .calling => 3
  | .timed _ => 2
  | .recorded _ => 1
  | .sent => 0

/-- Moves a group loop over `n` clients still has: each iteration takes one receive. -/
def GroupPhase.pending (n : Nat) : GroupPhase → Nat
  | .idle => n + 2
  | .collecting i _ => n - i + 1
  | .sending _ => 1
  | .done => 0

/-- Moves a group task and its client tasks still have, the deadline included. -/
def GroupTask.pending (t : GroupTask) : Nat :=
  t.phase.pending t.clients.length + (if t.expired then 0 else 1) +
    (t.clients.map (·.phase.pending)).sum

def OuterPhase.pending : OuterPhase → Nat
  | .locking => 2
  | .selecting => 1
  | .returned _ => 0

/-- Moves a round still has. -/
def Round.pending (s : Round) : Nat :=
  s.outer.pending + (if s.quorumDoneClosed then 0 else 1) + (s.groups.map GroupTask.pending).sum

private theorem sum_map_set_add {α : Type} (f : α → Nat) {l : List α} {i : Nat} {a b : α}
    (hb : l[i]? = some b) : ((l.set i a).map f).sum + f b = (l.map f).sum + f a := by
  induction l generalizing i with
  | nil => simp at hb
  | cons x xs ih =>
      cases i with
      | zero => simp only [List.getElem?_cons_zero, Option.some.injEq] at hb; subst hb; simp; omega
      | succ i =>
          have := ih (by simpa using hb)
          simp only [List.set_cons_succ, List.map_cons, List.sum_cons]; omega

theorem afterLoop_pending_le : (afterLoop v).pending n ≤ 1 := by
  unfold afterLoop; split <;> simp [GroupPhase.pending]

theorem nextIteration_pending_le : (nextIteration n i v).pending n ≤ n - i + 1 := by
  unfold nextIteration
  split
  · simp [GroupPhase.pending]
  · have := afterLoop_pending_le (v := v) (n := n); omega

namespace ClientTask

variable {c c' : ClientTask}

theorem pending_answer {a : NodeAnswer} {seconds : Nat} (h : c.answer a seconds = some c') :
    c'.phase.pending < c.phase.pending := by
  obtain ⟨hCalling, hTimed⟩ := answer_phase h
  simp [hCalling, hTimed, ClientPhase.pending]

theorem pending_record (h : c.record = some c') : c'.phase.pending < c.phase.pending := by
  obtain ⟨_, hTimed, hRecorded⟩ := record_phase h
  simp [hTimed, hRecorded, ClientPhase.pending]

end ClientTask

namespace GroupTask

variable {closed : Bool} {m : Move}

theorem pending_moveClient {j : Nat} {f : ClientTask → Option ClientTask}
    (hf : ∀ c c', f c = some c' → c'.phase.pending < c.phase.pending)
    (h : t.moveClient j f = some t') : t'.pending < t.pending := by
  obtain ⟨c, c', hc, hc', rfl⟩ := moveClient_eq h
  have hSum := sum_map_set_add (·.phase.pending) (a := c') hc
  have hLt := hf c c' hc'
  simp only [pending, List.length_set] at hSum ⊢
  omega

/-- `go` of the group task: the loop's iterations and the client tasks' moves are counted. -/
theorem pending_start (hSpawn : t.SpawnInv) (h : t.start = some t') : t'.pending < t.pending := by
  obtain ⟨hIdle, rfl⟩ := start_eq h
  have hBefore : (t.clients.map (·.phase.pending)).sum = t.clients.length * 4 := by
    rw [List.map_congr_left (g := fun _ => 4) fun c hc => by
      simp [hSpawn hIdle c hc, ClientPhase.pending]]
    simp [List.sum_const_nat]
  have hAfter : ((t.clients.map ({ · with phase := .calling })).map (·.phase.pending)).sum =
      t.clients.length * 3 := by
    simp [Function.comp_def, ClientPhase.pending, List.sum_const_nat]
  have hIdlePending : t.phase.pending t.clients.length = t.clients.length + 2 := by rw [hIdle]; rfl
  have := nextIteration_pending_le (n := t.clients.length) (i := 0) (v := 0)
  dsimp only [pending]
  rw [List.length_map, hAfter, hBefore]
  omega

/-- A step of the loop alone, from iteration `i`: the clients and the deadline are left as
they are. -/
theorem pending_loop {i v : Nat} (hClients : t'.clients = t.clients)
    (hExpired : t'.expired = t.expired) (hPhase : t.phase = .collecting i v)
    (hLe : t'.phase.pending t.clients.length ≤ t.clients.length - i) : t'.pending < t.pending := by
  have : t.phase.pending t.clients.length = t.clients.length - i + 1 := by rw [hPhase]; rfl
  simp only [pending, hClients, hExpired]
  omega

/-- Every move of a group's tasks uses up one of their pending moves. -/
theorem pending_move (hInv : t.Inv cooMerkleProof) (hSpawn : t.SpawnInv)
    (h : t.move cooMerkleProof closed m = some t') : t'.pending < t.pending := by
  cases m with
  | start => exact pending_start hSpawn h
  | answer _ _ _ => exact pending_moveClient (fun _ _ => ClientTask.pending_answer) h
  | record _ => exact pending_moveClient (fun _ _ => ClientTask.pending_record) h
  | deliver j =>
      obtain ⟨c, a, hc, ha, hPhase, hExpired, hClients, -⟩ := deliver_eq h
      have hSum := sum_map_set_add (·.phase.pending) (a := { c with phase := .sent }) hc
      have hRecorded : c.phase.pending = 1 := by rw [ha]; rfl
      have hSent : ClientPhase.sent.pending = 0 := rfl
      dsimp only at hSum
      simp only [pending, hPhase, hExpired, hClients, List.length_set]
      omega
  | expire =>
      obtain ⟨-, hLive, rfl⟩ := expire_eq h
      simp [pending, hLive]
  | takeDone =>
      obtain ⟨⟨i, v, hPhase⟩, -, rfl⟩ := takeDone_eq h
      exact pending_loop rfl rfl hPhase (Nat.zero_le _)
  | takeError =>
      obtain ⟨i, v, e, rest, hPhase, -, rfl⟩ := takeError_eq h
      have hi := (inv_collecting hInv hPhase).1
      exact pending_loop rfl rfl hPhase (Nat.le_trans nextIteration_pending_le (by omega))
  | takeResult =>
      obtain ⟨i, v, r, rest, hPhase, -, rfl⟩ := takeResult_eq h
      have hi := (inv_collecting hInv hPhase).1
      refine pending_loop rfl rfl hPhase ?_
      dsimp only
      split
      · show 1 ≤ _; omega
      · exact Nat.le_trans nextIteration_pending_le (by omega)
  | takeDeadline =>
      obtain ⟨i, v, hPhase, -, rfl⟩ := takeDeadline_eq h
      have hi := (inv_collecting hInv hPhase).1
      exact pending_loop rfl rfl hPhase (Nat.le_trans afterLoop_pending_le (by omega))

end GroupTask

/-- Every step of a reachable round uses up one of its pending moves, so no interleaving is
infinite. -/
theorem Round.pending_step {a : Action} (hInv : s.Inv cooMerkleProof)
    (h : Round.step cooMerkleProof s a = some s') : s'.pending < s.pending := by
  rcases Round.step_cases h with ⟨-, hOuter, rfl⟩ | ⟨g, _, -, -, hGroup⟩ | ⟨g, -, hHand⟩ |
    ⟨-, -, hOpen, -, rfl⟩ | ⟨-, hOuter, -, rfl⟩
  · simp [Round.pending, hOuter, OuterPhase.pending]
  · obtain ⟨t, t', hg, hMove, rfl⟩ := Round.moveGroup_eq hGroup
    have ht : t ∈ s.groups := List.mem_iff_getElem?.2 ⟨g, hg⟩
    have := GroupTask.pending_move (hInv.groups t ht) (hInv.spawned t ht) hMove
    have := sum_map_set_add GroupTask.pending (a := t') hg
    simp only [Round.pending]; omega
  · obtain ⟨t, f, hSel, hg, hSend, rfl⟩ := Round.handOver_eq hHand
    have := sum_map_set_add GroupTask.pending (a := { t with phase := .done }) hg
    have hDone : ({ t with phase := .done } : GroupTask).pending < t.pending := by
      simp [GroupTask.pending, hSend, GroupPhase.pending]
    simp only [Round.pending, hSel, OuterPhase.pending]; omega
  · simp [Round.pending, hOpen]
  · simp [Round.pending, hOuter, OuterPhase.pending]

/-- Deadlock freedom of a round: in every reachable state in which `checkMerkleTreeHash` has
not returned, some task has an enabled step; and every step uses up one of the round's
pending moves, so the outer call returns on every interleaving. -/
theorem checkMerkleTreeHash_deadlock_free (hs : Round.Reach cooMerkleProof q s)
    (hRunning : ∀ v, s.outer ≠ .returned v) :
    (∃ a s', Round.step cooMerkleProof s a = some s') ∧
      ∀ a s', Round.step cooMerkleProof s a = some s' → s'.pending < s.pending :=
  ⟨Round.exists_step_of_running hs hRunning, fun _ _ => Round.pending_step hs.inv⟩

/-- Mid-round: the first group's deadline passed with no reply and its loop is blocked on
`quorumErrChan`, while the second is still collecting. -/
theorem checkMerkleTreeHash_deadlock_free_midRound :
    ∃ q, newQuorum [("g1", [⟨"", "http://node-1"⟩]), ("g2", [⟨"", "http://node-2"⟩])] 1 = .ok q ∧
    ∃ s, Round.Reach ⟨1, 2⟩ q s ∧ s.outer = .selecting ∧
      s.groups.map (·.phase) = [.sending .noAnswer, .collecting 0 0] ∧ (∀ v, s.outer ≠ .returned v) ∧
      (∃ a s', Round.step ⟨1, 2⟩ s a = some s') ∧
        ∀ a s', Round.step ⟨1, 2⟩ s a = some s' → s'.pending < s.pending :=
  ⟨_, rfl, Round.Reach.of_run [.lock, .group 0 .start, .group 1 .start, .group 0 .expire,
      .group 0 .takeDeadline] rfl fun hs =>
    ⟨rfl, rfl, fun _ h => OuterPhase.noConfusion h,
      checkMerkleTreeHash_deadlock_free hs fun _ h => OuterPhase.noConfusion h⟩⟩

end InxCoordinator
