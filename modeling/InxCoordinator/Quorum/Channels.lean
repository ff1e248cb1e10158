import InxCoordinator.Quorum.Progress

/-! The buffered channels of a quorum group. `checkMerkleTreeHashQuorumGroup` makes
`nodeResultChan` and `nodeErrorChan` with a buffer of `len(quorumGroupEntries)` each, and each
client task sends one message, on one of them. The two channels together have then received
exactly one message per client task that has sent, never more than there are clients, so a
send finds room in its buffer whether or not the group's loop still receives, and every client
task runs on to its send. -/
namespace InxCoordinator

/-- A client task past its one send. -/
def ClientPhase.hasSent (p : ClientPhase) : Bool := decide (p = .sent)

@[simp] theorem ClientPhase.hasSent_eq_true {p : ClientPhase} : p.hasSent = true ↔ p = .sent :=
  decide_eq_true_iff

/-- The messages group `t`'s two channels have received: those its loop took and those still
in the buffers. -/
def GroupTask.received (t : GroupTask) : Nat :=
  t.consumed.length + t.nodeResultChan.length + t.nodeErrorChan.length

/-- Every message the channels received is the one send of a client task that has sent. -/
def GroupTask.ChanInv (t : GroupTask) : Prop :=
  t.received = t.clients.countP (·.phase.hasSent)

variable {cooMerkleProof : MilestoneMerkleRoots} {q : Quorum} {s s' : Round}
  {t t' : GroupTask} {c c' : ClientTask} {g j : Nat} {closed : Bool} {m : Move}

/-- Replacing client `j`, which has not sent, adds one to the count if its replacement has. -/
theorem countP_hasSent_set {l : List ClientTask} (hc : l[j]? = some c)
    (hWaiting : c.phase ≠ .sent) (c' : ClientTask) :
    (l.set j c').countP (·.phase.hasSent) =
      l.countP (·.phase.hasSent) + (if c'.phase = .sent then 1 else 0) := by
  obtain ⟨hlt, rfl⟩ := List.getElem?_eq_some_iff.1 hc
  simp [List.countP_set _ _ _ _ hlt, hWaiting, ClientPhase.hasSent]

namespace GroupTask

/-- A send puts one message in one of the two buffers. -/
theorem deliver_received (h : t.deliver j = some t') : t'.received = t.received + 1 := by
  obtain ⟨_, _, -, -, -, -, -, hConsumed, hBuffers⟩ := deliver_eq h
  unfold received; rw [hConsumed]; omega

theorem answer_not_sent {a : NodeAnswer} {seconds : Nat} (h : c.answer a seconds = some c') :
    c.phase ≠ .sent ∧ c'.phase ≠ .sent := by
  obtain ⟨hCalling, hTimed⟩ := ClientTask.answer_phase h
  simp [hCalling, hTimed]

theorem record_not_sent (h : c.record = some c') : c.phase ≠ .sent ∧ c'.phase ≠ .sent := by
  obtain ⟨_, hTimed, hRecorded⟩ := ClientTask.record_phase h
  simp [hTimed, hRecorded]

/-- A move of client `j` that is not its send leaves the count alone. -/
theorem chanInv_moveClient {f : ClientTask → Option ClientTask}
    (hf : ∀ c c', f c = some c' → c.phase ≠ .sent ∧ c'.phase ≠ .sent)
    (hChan : t.ChanInv) (h : t.moveClient j f = some t') : t'.ChanInv := by
  obtain ⟨c, c', hc, hc', rfl⟩ := moveClient_eq h
  have hSet := countP_hasSent_set hc (hf c c' hc').1 c'
  rw [if_neg (hf c c' hc').2, Nat.add_zero] at hSet
  exact hChan.trans hSet.symm

/-- Every move of a group's tasks keeps the count: the start spawns clients that have not sent,
a send adds one message and one client that has sent, the loop moves a message from a buffer
to what it took. -/
theorem chanInv_move (hSpawn : t.SpawnInv) (hChan : t.ChanInv)
    (h : t.move cooMerkleProof closed m = some t') : t'.ChanInv := by
  cases m with
  | start =>
      obtain ⟨hIdle, rfl⟩ := start_eq h
      have hNone : t.clients.countP (·.phase.hasSent) = 0 :=
        List.countP_eq_zero.2 fun c hc => by simp [hSpawn hIdle c hc]
      have hCalling : (t.clients.map ({ · with phase := .calling })).countP (·.phase.hasSent) = 0 :=
        List.countP_eq_zero.2 (by simp)
      unfold ChanInv at hChan ⊢
      exact hChan.trans (hNone.trans hCalling.symm)
  | answer _ _ _ => exact chanInv_moveClient (fun _ _ => answer_not_sent) hChan h
  | record _ => exact chanInv_moveClient (fun _ _ => record_not_sent) hChan h
  | deliver _ =>
      obtain ⟨c, a, hc, hRecorded, -, -, hClients, -⟩ := deliver_eq h
      have hSet := countP_hasSent_set hc (by simp [hRecorded]) { c with phase := .sent }
      unfold ChanInv at hChan ⊢
      rw [deliver_received h, hClients, hSet, hChan, if_pos rfl]
  | expire => obtain ⟨-, -, rfl⟩ := expire_eq h; exact hChan
  | takeDone => obtain ⟨-, -, rfl⟩ := takeDone_eq h; exact hChan
  | takeError =>
      obtain ⟨_, _, _, _, -, hErr, rfl⟩ := takeError_eq h
      unfold ChanInv received at hChan ⊢
      simp only [hErr, List.length_cons, List.length_append, List.length_nil] at hChan ⊢
      omega
  | takeResult =>
      obtain ⟨_, _, _, _, -, hRes, rfl⟩ := takeResult_eq h
      unfold ChanInv received at hChan ⊢
      simp only [hRes, List.length_cons, List.length_append, List.length_nil] at hChan ⊢
      omega
  | takeDeadline => obtain ⟨_, _, -, -, rfl⟩ := takeDeadline_eq h; exact hChan

/-- A client task with its message ready finds room in the channel it sends on: the channels
hold fewer messages than there are clients while one of them has not sent. -/
theorem deliver_of_recorded (hChan : t.ChanInv) (hc : t.clients[j]? = some c)
    {a : NodeAnswer} (hRecorded : c.phase = .recorded a) :
    ∃ t', t.deliver j = some t' ∧ t'.clients[j]? = some { c with phase := .sent } := by
  obtain ⟨hlt, -⟩ := List.getElem?_eq_some_iff.1 hc
  have hWaiting : t.clients.countP (·.phase.hasSent) < t.clients.length := by
    rw [List.countP_eq_length_filter]
    exact List.length_filter_lt_length_iff_exists.2
      ⟨c, List.mem_iff_getElem?.2 ⟨j, hc⟩, by simp [hRecorded]⟩
  have hRoom : t.nodeResultChan.length < t.clients.length ∧
      t.nodeErrorChan.length < t.clients.length := by
    unfold ChanInv received at hChan; omega
  unfold deliver
  cases a <;> simp [hc, hRecorded, hRoom.1, hRoom.2, List.getElem?_set_self hlt]

theorem moveClient_of_some {f : ClientTask → Option ClientTask} (hc : t.clients[j]? = some c)
    (hf : f c = some c') : t.moveClient j f = some { t with clients := t.clients.set j c' } := by
  simp [moveClient, hc, hf]

end GroupTask

theorem ClientPhase.pending_eq_zero {p : ClientPhase} : p.pending = 0 ↔ p = .sent := by
  cases p <;> simp [ClientPhase.pending]

theorem ClientTask.answer_of_calling (h : c.phase = .calling) (a : NodeAnswer) (seconds : Nat) :
    ∃ c', c.answer a seconds = some c' ∧ c'.phase = .timed a := by
  simp [ClientTask.answer, h]

theorem ClientTask.record_of_timed {a : NodeAnswer} (h : c.phase = .timed a) :
    ∃ c', c.record = some c' ∧ c'.phase = .recorded a := by
  simp [ClientTask.record, h]

namespace Round

theorem chanInv_init : ∀ t ∈ (Round.init q).groups, t.ChanInv := by
  intro t ht
  obtain ⟨group, -, rfl⟩ := List.mem_map.1 ht
  simp [GroupTask.ChanInv, GroupTask.received, GroupTask.init, List.countP_map,
    Function.comp_def, ClientPhase.hasSent]

/-- Every step keeps the count of every group. -/
theorem chanInv_step {a : Action} (hInv : s.Inv cooMerkleProof)
    (hChan : ∀ t ∈ s.groups, t.ChanInv) (h : Round.step cooMerkleProof s a = some s') :
    ∀ t ∈ s'.groups, t.ChanInv := by
  have hSet : ∀ {g : Nat} {u : GroupTask}, u.ChanInv → ∀ t ∈ s.groups.set g u, t.ChanInv :=
    fun hu t ht => (List.mem_or_eq_of_mem_set ht).elim (hChan t) (· ▸ hu)
  rcases step_cases h with ⟨-, -, rfl⟩ | ⟨g, _, -, -, hGroup⟩ | ⟨g, -, hHand⟩ |
    ⟨-, -, -, -, rfl⟩ | ⟨-, -, -, rfl⟩
  · exact hChan
  · obtain ⟨t, t', hg, hMove, rfl⟩ := moveGroup_eq hGroup
    have ht : t ∈ s.groups := List.mem_iff_getElem?.2 ⟨g, hg⟩
    exact hSet (GroupTask.chanInv_move (hInv.spawned t ht) (hChan t ht) hMove)
  · obtain ⟨t, f, -, hg, -, rfl⟩ := handOver_eq hHand
    exact hSet (hChan t (List.mem_iff_getElem?.2 ⟨g, hg⟩))
  · exact hChan
  · exact hChan

theorem Reach.chanInv (hs : Round.Reach cooMerkleProof q s) : ∀ t ∈ s.groups, t.ChanInv := by
  induction hs with
  | init => exact chanInv_init
  | step _ hPrev hStep ih => exact chanInv_step hPrev.inv ih hStep

/-- A spawned client task means the lock is taken. -/
theorem outer_ne_locking (hInv : s.Inv cooMerkleProof) (hg : s.groups[g]? = some t)
    (hc : t.clients[j]? = some c) (hSpawned : c.phase ≠ .idle) : s.outer ≠ .locking := by
  have ht : t ∈ s.groups := List.mem_iff_getElem?.2 ⟨g, hg⟩
  exact fun hLocking => hSpawned (hInv.spawned t ht ((hInv.locking hLocking).1 t ht) c
    (List.mem_iff_getElem?.2 ⟨j, hc⟩))

/-- A move group `g` can make is a step of the round once the lock is taken. -/
theorem step_group (hOuter : s.outer ≠ .locking) (hg : s.groups[g]? = some t)
    (hMove : t.move cooMerkleProof s.quorumDoneClosed m = some t') :
    ∃ s', Round.step cooMerkleProof s (.group g m) = some s' ∧ s'.groups[g]? = some t' := by
  obtain ⟨hlt, -⟩ := List.getElem?_eq_some_iff.1 hg
  simp [Round.step, hOuter, Round.moveGroup, hg, hMove, List.getElem?_set_self hlt]

/-- One move of a spawned client task that has not sent: its call returns, its `Error` is
written, or it sends. -/
theorem step_client (hs : Round.Reach cooMerkleProof q s) (hg : s.groups[g]? = some t)
    (hc : t.clients[j]? = some c) (hSpawned : c.phase ≠ .idle) (hWaiting : c.phase ≠ .sent) :
    ∃ m s' t' c', Round.step cooMerkleProof s (.group g m) = some s' ∧ s'.groups[g]? = some t' ∧
      t'.clients[j]? = some c' ∧ c'.phase ≠ .idle ∧ c.phase.pending = c'.phase.pending + 1 := by
  have hOuter := outer_ne_locking hs.inv hg hc hSpawned
  obtain ⟨hlt, -⟩ := List.getElem?_eq_some_iff.1 hc
  rcases hp : c.phase with _ | _ | a | a | _
  · exact absurd hp hSpawned
  · obtain ⟨c', hc', hp'⟩ :=
      ClientTask.answer_of_calling hp (.error (.message "context canceled")) 0
    obtain ⟨s', hStep, hg'⟩ := step_group (m := .answer j _ 0) hOuter hg
      (GroupTask.moveClient_of_some hc hc')
    exact ⟨_, s', _, c', hStep, hg', List.getElem?_set_self hlt, by simp [hp'],
      by simp [hp', ClientPhase.pending]⟩
  · obtain ⟨c', hc', hp'⟩ := ClientTask.record_of_timed hp
    obtain ⟨s', hStep, hg'⟩ := step_group (m := .record j) hOuter hg
      (GroupTask.moveClient_of_some hc hc')
    exact ⟨_, s', _, c', hStep, hg', List.getElem?_set_self hlt, by simp [hp'],
      by simp [hp', ClientPhase.pending]⟩
  · obtain ⟨t', hDeliver, hc'⟩ :=
      GroupTask.deliver_of_recorded (hs.chanInv t (List.mem_iff_getElem?.2 ⟨g, hg⟩)) hc hp
    obtain ⟨s', hStep, hg'⟩ := step_group (m := .deliver j) hOuter hg hDeliver
    exact ⟨_, s', _, _, hStep, hg', hc', by simp, by simp [ClientPhase.pending]⟩
  · exact absurd hp hWaiting

/-- From every reachable state, a spawned client task runs on to its send. -/
theorem exists_run_sent (hs : Round.Reach cooMerkleProof q s) (hg : s.groups[g]? = some t)
    (hc : t.clients[j]? = some c) (hSpawned : c.phase ≠ .idle) :
    ∃ acts s' t' c', Round.run cooMerkleProof s acts = some s' ∧ s'.groups[g]? = some t' ∧
      t'.clients[j]? = some c' ∧ c'.phase = .sent := by
  obtain ⟨n, hPending⟩ : ∃ n, c.phase.pending = n := ⟨_, rfl⟩
  induction n generalizing s t c with
  | zero => exact ⟨[], s, t, c, rfl, hg, hc, ClientPhase.pending_eq_zero.1 hPending⟩
  | succ n ih =>
      have hWaiting : c.phase ≠ .sent := fun hp => by simp [hp, ClientPhase.pending] at hPending
      obtain ⟨m, s₁, t₁, c₁, hStep, hg₁, hc₁, hSpawned₁, hLess⟩ :=
        step_client hs hg hc hSpawned hWaiting
      obtain ⟨acts, s', t', c', hRun, rest⟩ := ih (hs.step _ hStep) hg₁ hc₁ hSpawned₁ (by omega)
      exact ⟨.group g m :: acts, s', t', c', by simp [Round.run, hStep, hRun], rest⟩

end Round

/-- In every reachable state, over every interleaving, every message group `g`'s channels
received is the one send of a client task that has sent, so they never hold more than the
`len(quorumGroupEntries)` messages they have room for. A client task with its message ready
can always send it, whatever the group's loop and the outer call are doing, and every spawned
client task runs on to its send. -/
theorem checkMerkleTreeHashQuorumGroup_sends_never_block (hs : Round.Reach cooMerkleProof q s)
    (hg : s.groups[g]? = some t) :
    t.received = t.clients.countP (·.phase.hasSent) ∧ t.received ≤ t.clients.length ∧
    (∀ (j : Nat) (c : ClientTask) (a : NodeAnswer), t.clients[j]? = some c →
      c.phase = .recorded a →
      ∃ (s' : Round) (t' : GroupTask),
        Round.step cooMerkleProof s (.group g (.deliver j)) = some s' ∧
        s'.groups[g]? = some t' ∧ t'.received = t.received + 1 ∧
        t'.clients[j]? = some { c with phase := .sent }) ∧
    (∀ (j : Nat) (c : ClientTask), t.clients[j]? = some c → c.phase ≠ .idle →
      ∃ (acts : List Action) (s' : Round) (t' : GroupTask) (c' : ClientTask),
        Round.run cooMerkleProof s acts = some s' ∧ s'.groups[g]? = some t' ∧
        t'.clients[j]? = some c' ∧ c'.phase = .sent) := by
  have hChan := hs.chanInv t (List.mem_iff_getElem?.2 ⟨g, hg⟩)
  refine ⟨hChan, hChan ▸ List.countP_le_length _, fun j c a hc hRecorded => ?_,
    fun _ _ hc hSpawned => Round.exists_run_sent hs hg hc hSpawned⟩
  obtain ⟨t', hDeliver, hc'⟩ := GroupTask.deliver_of_recorded hChan hc hRecorded
  obtain ⟨s', hStep, hg'⟩ := Round.step_group (m := .deliver j)
    (Round.outer_ne_locking hs.inv hg hc (by simp [hRecorded])) hg hDeliver
  exact ⟨s', t', hStep, hg', GroupTask.deliver_received hDeliver, hc'⟩

/-- The group's loop took its deadline with the first node's matching reply, and the outer
call has returned `nil`; nobody receives from the group's channels any more. The second
node's client task still runs on to its send. -/
theorem checkMerkleTreeHashQuorumGroup_sends_never_block_afterReturn :
    ∃ q, newQuorum [("g", [⟨"", "http://node-1"⟩, ⟨"", "http://node-2"⟩])] 1
        = .ok q ∧
    ∃ s, Round.Reach ⟨1, 2⟩ q s ∧ s.outer = .returned none ∧
      ∃ t, s.groups[0]? = some t ∧ t.received ≤ t.clients.length ∧
      ∃ acts s' t' c', Round.run ⟨1, 2⟩ s acts = some s' ∧ s'.groups[0]? = some t' ∧
        t'.clients[1]? = some c' ∧ c'.phase = .sent := by
  let acts : List Action := [.lock, .group 0 .start,
    .group 0 (.answer 0 (.response ⟨1, 2⟩) 1), .group 0 (.record 0), .group 0 (.deliver 0),
    .group 0 .takeResult, .group 0 .expire, .group 0 .takeDeadline, .close, .finish]
  exact ⟨_, rfl, Round.Reach.of_run acts rfl fun hs =>
    have h := checkMerkleTreeHashQuorumGroup_sends_never_block hs rfl
    ⟨rfl, _, rfl, h.2.1, h.2.2.2 1 _ rfl (by decide)⟩⟩

end InxCoordinator
