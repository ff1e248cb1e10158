import InxCoordinator.Quorum.Round

/-! What every reachable state of a round satisfies. Each group's phase agrees with the
messages its loop took; the WaitGroup counts the groups that have not returned, and
`quorumDoneChan` is closed only after all of them have. -/
namespace InxCoordinator

section
variable (cooMerkleProof : MilestoneMerkleRoots)

/-- No reply the group's loop took differs from the local roots. -/
def Clean (consumed : List NodeAnswer) : Prop :=
  ∀ r, NodeAnswer.response r ∈ consumed → r = cooMerkleProof

/-- The group's loop took a reply equal to the local roots. -/
def Matched (consumed : List NodeAnswer) : Prop :=
  NodeAnswer.response cooMerkleProof ∈ consumed

/-- What a group's phase says about the messages its loop took, for `n` clients. -/
def PhaseInv (n : Nat) (consumed : List NodeAnswer) : GroupPhase → Prop
  | .idle => consumed = []
  | .collecting i v => i < n ∧ consumed.length = i ∧ Clean cooMerkleProof consumed ∧
      v = consumed.count (.response cooMerkleProof)
  | .sending .mismatch => ¬Clean cooMerkleProof consumed
  | .sending .noAnswer => Clean cooMerkleProof consumed ∧ ¬Matched cooMerkleProof consumed
  | .done => True

def GroupTask.Inv (t : GroupTask) : Prop :=
  PhaseInv cooMerkleProof t.clients.length t.consumed t.phase

/-- No client task runs before its group task has started and spawned it. -/
def GroupTask.SpawnInv (t : GroupTask) : Prop :=
  t.phase = .idle → ∀ c ∈ t.clients, c.phase = .idle

/-- Why a group's loop sent `f`: a differing reply, or the loop ended without a match. -/
def QuorumFailure.Justified : QuorumFailure → List NodeAnswer → Prop
  | .mismatch, consumed => ¬Clean cooMerkleProof consumed
  | .noAnswer, consumed => ¬Matched cooMerkleProof consumed

end

variable {cooMerkleProof : MilestoneMerkleRoots} {consumed : List NodeAnswer} {n i v : Nat}

theorem differs_eq_false {r : MilestoneMerkleRoots} :
    differs cooMerkleProof r = false ↔ r = cooMerkleProof := by
  obtain ⟨a, b⟩ := cooMerkleProof
  obtain ⟨c, d⟩ := r
  simp only [differs, Bool.or_eq_false_iff, bne_eq_false_iff_eq, MilestoneMerkleRoots.mk.injEq]
  constructor <;> rintro ⟨rfl, rfl⟩ <;> exact ⟨rfl, rfl⟩

@[simp] theorem clean_append_error {e : Error} :
    Clean cooMerkleProof (consumed ++ [.error e]) ↔ Clean cooMerkleProof consumed := by
  simp [Clean]

theorem clean_append_self (hClean : Clean cooMerkleProof consumed) :
    Clean cooMerkleProof (consumed ++ [.response cooMerkleProof]) := by
  intro r hr
  rcases List.mem_append.1 hr with h | h
  · exact hClean r h
  · simpa using h

theorem not_clean_append {r : MilestoneMerkleRoots} (hr : r ≠ cooMerkleProof) :
    ¬Clean cooMerkleProof (consumed ++ [.response r]) :=
  fun hClean => hr (hClean r (by simp))

theorem matched_iff_count_pos :
    Matched cooMerkleProof consumed ↔ 0 < consumed.count (.response cooMerkleProof) :=
  List.count_pos_iff.symm

theorem afterLoop_ne_idle : afterLoop v ≠ .idle := by
  unfold afterLoop; split <;> simp

theorem nextIteration_ne_idle : nextIteration n i v ≠ .idle := by
  unfold nextIteration; split
  · simp
  · exact afterLoop_ne_idle

theorem afterLoop_eq_done : afterLoop v = .done ↔ v ≠ 0 := by
  unfold afterLoop; split <;> simp_all

theorem nextIteration_eq_done (h : nextIteration n i v = .done) : v ≠ 0 := by
  unfold nextIteration at h; split at h
  · cases h
  · exact afterLoop_eq_done.1 h

theorem phaseInv_afterLoop (hClean : Clean cooMerkleProof consumed)
    (hv : v = consumed.count (.response cooMerkleProof)) :
    PhaseInv cooMerkleProof n consumed (afterLoop v) := by
  unfold afterLoop; split
  · exact ⟨hClean, by rw [matched_iff_count_pos]; omega⟩
  · trivial

theorem phaseInv_nextIteration (hLength : consumed.length = i)
    (hClean : Clean cooMerkleProof consumed) (hv : v = consumed.count (.response cooMerkleProof)) :
    PhaseInv cooMerkleProof n consumed (nextIteration n i v) := by
  unfold nextIteration; split
  · exact ⟨‹_›, hLength, hClean, hv⟩
  · exact phaseInv_afterLoop hClean hv

theorem ClientTask.answer_phase {c c' : ClientTask} {a : NodeAnswer} {seconds : Nat}
    (h : c.answer a seconds = some c') : c.phase = .calling ∧ c'.phase = .timed a := by
  unfold ClientTask.answer at h; split at h
  · cases h; exact ⟨‹_›, rfl⟩
  · cases h

theorem ClientTask.record_phase {c c' : ClientTask} (h : c.record = some c') :
    ∃ a, c.phase = .timed a ∧ c'.phase = .recorded a := by
  unfold ClientTask.record at h; split at h
  · cases h; exact ⟨_, ‹_›, rfl⟩
  · cases h

namespace GroupTask

variable {t t' : GroupTask} {closed : Bool} {m : Move}

/-- The moves that leave the group's loop alone: the clients' and the deadline's. -/
def SameLoop (t t' : GroupTask) : Prop :=
  t'.phase = t.phase ∧ t'.consumed = t.consumed ∧ t'.clients.length = t.clients.length

theorem moveClient_eq {j : Nat} {f : ClientTask → Option ClientTask}
    (h : t.moveClient j f = some t') :
    ∃ c c', t.clients[j]? = some c ∧ f c = some c' ∧ t' = { t with clients := t.clients.set j c' } := by
  unfold moveClient at h
  split at h
  · obtain ⟨c', hc', rfl⟩ := Option.map_eq_some'.1 h
    exact ⟨_, c', ‹_›, hc', rfl⟩
  · cases h

/-- A send moves client `j` from `recorded` to `sent` and puts one message in one of the two
buffers. -/
theorem deliver_eq {j : Nat} (h : t.deliver j = some t') :
    ∃ c a, t.clients[j]? = some c ∧ c.phase = .recorded a ∧ t'.phase = t.phase ∧
      t'.expired = t.expired ∧ t'.clients = t.clients.set j { c with phase := .sent } ∧
      t'.consumed = t.consumed ∧ t'.nodeResultChan.length + t'.nodeErrorChan.length =
        t.nodeResultChan.length + t.nodeErrorChan.length + 1 := by
  unfold deliver at h
  split at h
  · split at h
    · split at h
      · cases h
        exact ⟨_, _, ‹_›, ‹_›, rfl, rfl, rfl, rfl, by simp only [List.length_append]; rfl⟩
      · cases h
    · split at h
      · cases h
        exact ⟨_, _, ‹_›, ‹_›, rfl, rfl, rfl, rfl,
          by simp only [List.length_append, List.length_singleton]; omega⟩
      · cases h
    · cases h
  · cases h

theorem sameLoop_moveClient {j : Nat} {f : ClientTask → Option ClientTask}
    (h : t.moveClient j f = some t') : SameLoop t t' := by
  obtain ⟨-, -, -, -, rfl⟩ := moveClient_eq h
  exact ⟨rfl, rfl, List.length_set ..⟩

theorem sameLoop_deliver {j : Nat} (h : t.deliver j = some t') : SameLoop t t' := by
  obtain ⟨_, _, -, -, hPhase, -, hClients, hConsumed, -⟩ := deliver_eq h
  exact ⟨hPhase, hConsumed, by rw [hClients, List.length_set]⟩

theorem expire_eq (h : t.expire = some t') :
    t.phase ≠ .idle ∧ t.expired = false ∧ t' = { t with expired := true } := by
  unfold expire at h
  split at h
  · exact ⟨‹_ ∧ _›.1, ‹_ ∧ _›.2, (Option.some.inj h).symm⟩
  · cases h

theorem start_eq (h : t.start = some t') :
    t.phase = .idle ∧ t' = { t with phase := nextIteration t.clients.length 0 0,
                                    clients := t.clients.map ({ · with phase := .calling }) } := by
  unfold start at h
  split at h
  · exact ⟨‹_›, (Option.some.inj h).symm⟩
  · cases h

theorem takeDone_eq (h : t.takeDone closed = some t') :
    (∃ i v, t.phase = .collecting i v) ∧ closed = true ∧ t' = { t with phase := .done } := by
  unfold takeDone at h
  split at h
  · split at h
    · cases h; exact ⟨⟨_, _, ‹_›⟩, ‹_›, rfl⟩
    · cases h
  · cases h

theorem takeError_eq (h : t.takeError = some t') :
    ∃ i v e rest, t.phase = .collecting i v ∧ t.nodeErrorChan = e :: rest ∧
      t' = { t with phase := nextIteration t.clients.length (i + 1) v, nodeErrorChan := rest,
                    consumed := t.consumed ++ [.error e] } := by
  unfold takeError at h
  split at h
  · cases h; exact ⟨_, _, _, _, ‹_›, ‹_›, rfl⟩
  · cases h

theorem takeResult_eq (h : t.takeResult cooMerkleProof = some t') :
    ∃ i v r rest, t.phase = .collecting i v ∧ t.nodeResultChan = r :: rest ∧
      t' = { t with
        phase := if differs cooMerkleProof r then .sending .mismatch
                 else nextIteration t.clients.length (i + 1) (v + 1)
        nodeResultChan := rest, consumed := t.consumed ++ [.response r] } := by
  unfold takeResult at h
  split at h
  · cases h; exact ⟨_, _, _, _, ‹_›, ‹_›, rfl⟩
  · cases h

theorem takeDeadline_eq (h : t.takeDeadline = some t') :
    ∃ i v, t.phase = .collecting i v ∧ t.expired = true ∧ t' = { t with phase := afterLoop v } := by
  unfold takeDeadline at h
  split at h
  · split at h
    · cases h; exact ⟨_, _, ‹_›, ‹_›, rfl⟩
    · cases h
  · cases h

theorem inv_collecting (hInv : t.Inv cooMerkleProof) (hPhase : t.phase = .collecting i v) :
    i < t.clients.length ∧ t.consumed.length = i ∧ Clean cooMerkleProof t.consumed ∧
      v = t.consumed.count (.response cooMerkleProof) := by
  unfold Inv at hInv; rw [hPhase] at hInv; exact hInv

theorem inv_of_sameLoop (h : SameLoop t t') (hInv : t.Inv cooMerkleProof) :
    t'.Inv cooMerkleProof := by
  obtain ⟨hPhase, hConsumed, hLength⟩ := h
  unfold Inv; rw [hPhase, hConsumed, hLength]; exact hInv

/-- Every move keeps the group's phase in line with what its loop took. -/
theorem inv_move (hInv : t.Inv cooMerkleProof) (h : t.move cooMerkleProof closed m = some t') :
    t'.Inv cooMerkleProof := by
  cases m with
  | start =>
      obtain ⟨hIdle, rfl⟩ := start_eq h
      have hNil : t.consumed = [] := by unfold Inv at hInv; rw [hIdle] at hInv; exact hInv
      dsimp only [Inv]; rw [List.length_map, hNil]
      exact phaseInv_nextIteration rfl (by simp [Clean]) rfl
  | answer _ _ _ | record _ => exact inv_of_sameLoop (sameLoop_moveClient h) hInv
  | deliver _ => exact inv_of_sameLoop (sameLoop_deliver h) hInv
  | expire => obtain ⟨-, -, rfl⟩ := expire_eq h; exact hInv
  | takeDone => obtain ⟨-, -, rfl⟩ := takeDone_eq h; trivial
  | takeError =>
      obtain ⟨i, v, e, rest, hPhase, -, rfl⟩ := takeError_eq h
      obtain ⟨-, hLength, hClean, hv⟩ := inv_collecting hInv hPhase
      exact phaseInv_nextIteration (by simp [hLength]) (clean_append_error.2 hClean)
        (by simp [hv])
  | takeResult =>
      obtain ⟨i, v, r, rest, hPhase, -, rfl⟩ := takeResult_eq h
      obtain ⟨-, hLength, hClean, hv⟩ := inv_collecting hInv hPhase
      show PhaseInv _ _ _ (if differs cooMerkleProof r then _ else _)
      by_cases hDiff : differs cooMerkleProof r = true
      · rw [if_pos hDiff]
        exact not_clean_append fun hr => by rw [differs_eq_false.2 hr] at hDiff; cases hDiff
      · rw [if_neg hDiff]
        obtain rfl : r = cooMerkleProof := differs_eq_false.1 (Bool.eq_false_iff.2 hDiff)
        exact phaseInv_nextIteration (by simp [hLength]) (clean_append_self hClean)
          (by simp [hv])
  | takeDeadline =>
      obtain ⟨i, v, hPhase, -, rfl⟩ := takeDeadline_eq h
      obtain ⟨-, -, hClean, hv⟩ := inv_collecting hInv hPhase
      exact phaseInv_afterLoop hClean hv

/-- A group task past its loop (blocked on `quorumErrChan`, or returned) keeps its phase and
what its loop took; its client tasks may still move. -/
theorem move_of_pastLoop (hStarted : t.phase ≠ .idle) (hPast : ∀ i v, t.phase ≠ .collecting i v)
    (h : t.move cooMerkleProof closed m = some t') :
    t'.phase = t.phase ∧ t'.consumed = t.consumed := by
  cases m with
  | start => exact absurd (start_eq h).1 hStarted
  | answer _ _ _ | record _ => exact ⟨(sameLoop_moveClient h).1, (sameLoop_moveClient h).2.1⟩
  | deliver _ => exact ⟨(sameLoop_deliver h).1, (sameLoop_deliver h).2.1⟩
  | expire => obtain ⟨-, -, rfl⟩ := expire_eq h; exact ⟨rfl, rfl⟩
  | takeDone => obtain ⟨⟨i, v, hPhase⟩, -⟩ := takeDone_eq h; exact absurd hPhase (hPast i v)
  | takeError => obtain ⟨i, v, _, _, hPhase, -⟩ := takeError_eq h; exact absurd hPhase (hPast i v)
  | takeResult => obtain ⟨i, v, _, _, hPhase, -⟩ := takeResult_eq h; exact absurd hPhase (hPast i v)
  | takeDeadline => obtain ⟨i, v, hPhase, -⟩ := takeDeadline_eq h; exact absurd hPhase (hPast i v)

/-- A loop that ends without sending took a matching reply and no differing one, unless it
left through the closed `quorumDoneChan`. -/
theorem ended_of_move (hInv : t.Inv cooMerkleProof) (h : t.move cooMerkleProof closed m = some t')
    (hRunning : t.phase ≠ .done) (hDone : t'.phase = .done) :
    (m = .takeDone ∧ closed = true) ∨
      (Clean cooMerkleProof t'.consumed ∧ Matched cooMerkleProof t'.consumed) := by
  cases m with
  | start =>
      obtain ⟨-, rfl⟩ := start_eq h
      exact absurd rfl (nextIteration_eq_done hDone)
  | answer _ _ _ | record _ => exact absurd ((sameLoop_moveClient h).1 ▸ hDone) hRunning
  | deliver _ => exact absurd ((sameLoop_deliver h).1 ▸ hDone) hRunning
  | expire => obtain ⟨-, -, rfl⟩ := expire_eq h; exact absurd hDone hRunning
  | takeDone => exact .inl ⟨rfl, (takeDone_eq h).2.1⟩
  | takeError =>
      obtain ⟨i, v, e, rest, hPhase, -, rfl⟩ := takeError_eq h
      obtain ⟨-, -, hClean, hv⟩ := inv_collecting hInv hPhase
      have hv0 := nextIteration_eq_done hDone
      exact .inr ⟨clean_append_error.2 hClean,
        List.mem_append_left _ (matched_iff_count_pos.2 (by omega))⟩
  | takeResult =>
      obtain ⟨i, v, r, rest, hPhase, -, rfl⟩ := takeResult_eq h
      obtain ⟨-, -, hClean, -⟩ := inv_collecting hInv hPhase
      by_cases hDiff : differs cooMerkleProof r = true
      · simp [hDiff] at hDone
      · obtain rfl : r = cooMerkleProof := differs_eq_false.1 (Bool.eq_false_iff.2 hDiff)
        exact .inr ⟨clean_append_self hClean, List.mem_append_right _ (List.mem_singleton_self _)⟩
  | takeDeadline =>
      obtain ⟨i, v, hPhase, -, rfl⟩ := takeDeadline_eq h
      obtain ⟨-, -, hClean, hv⟩ := inv_collecting hInv hPhase
      have hv0 := afterLoop_eq_done.1 hDone
      exact .inr ⟨hClean, matched_iff_count_pos.2 (by dsimp only; omega)⟩

/-- A client of an idle group is idle itself, so no move leaves a group idle: the start
leaves it, and every other move needs a started group or client. -/
theorem move_ne_idle (hSpawn : t.SpawnInv) (h : t.move cooMerkleProof closed m = some t') :
    t'.phase ≠ .idle := by
  intro hIdle
  have hClient : ∀ {j : Nat} {c : ClientTask}, t.clients[j]? = some c → t.phase = .idle →
      c.phase = .idle :=
    fun hc hp => hSpawn hp _ (List.mem_iff_getElem?.2 ⟨_, hc⟩)
  cases m with
  | start => obtain ⟨-, rfl⟩ := start_eq h; exact nextIteration_ne_idle hIdle
  | answer j a s =>
      obtain ⟨c, c', hc, hc', rfl⟩ := moveClient_eq h
      have hCalling := (ClientTask.answer_phase hc').1
      simp [hClient hc hIdle] at hCalling
  | record j =>
      obtain ⟨c, c', hc, hc', rfl⟩ := moveClient_eq h
      obtain ⟨a, ha, -⟩ := ClientTask.record_phase hc'
      simp [hClient hc hIdle] at ha
  | deliver j =>
      obtain ⟨c, a, hc, ha, hPhase, -⟩ := deliver_eq h
      simp [hClient hc (hPhase ▸ hIdle)] at ha
  | expire => obtain ⟨hRun, -, rfl⟩ := expire_eq h; exact hRun hIdle
  | takeDone => obtain ⟨-, -, rfl⟩ := takeDone_eq h; cases hIdle
  | takeError =>
      obtain ⟨_, _, _, _, -, -, rfl⟩ := takeError_eq h; exact nextIteration_ne_idle hIdle
  | takeResult =>
      obtain ⟨_, _, r, _, -, -, rfl⟩ := takeResult_eq h
      revert hIdle; show (if differs cooMerkleProof r then _ else _) ≠ _
      split
      · simp
      · exact nextIteration_ne_idle
  | takeDeadline =>
      obtain ⟨_, _, -, -, rfl⟩ := takeDeadline_eq h; exact afterLoop_ne_idle hIdle

end GroupTask

end InxCoordinator
