import InxCoordinator.Coordinator.Trace

/-! `IssueCheckpoint` splits the tips into chunks of at most seven and issues one chained
block per chunk. Followed iteration by iteration: every slice the loop takes is in bounds,
block `k` has the block before it and chunk `k` as parents, and a failed creation or send
stops the loop after the blocks before it. -/
namespace InxCoordinator

/-- The block that block `k` of a checkpoint chains on: `lastCheckpointBlockID` for the
first, the ID the send of block `k - 1` answered for the others. -/
def checkpointPrevious (seed : BlockID) (ids : Nat → BlockID) (k : Nat) : BlockID :=
  if k = 0 then seed else ids (k - 1)

/-- The parents of block `k`: the block it chains on and `tips[7k : 7k + 7]`, sorted and
without duplicates. -/
def checkpointParents (seed : BlockID) (ids : Nat → BlockID) (tips : List BlockID) (k : Nat) :
    List BlockID :=
  removeDupsAndSort (checkpointPrevious seed ids k :: (tips.drop (7 * k)).take 7)

/-- The effects of `IssueCheckpoint`: checkpoint blocks handed over, and their reports. -/
def Effect.OfCheckpoint : Effect → Prop
  | .sendBlock (.checkpoint _) _ => True
  | .issuedCheckpointBlock _ _ _ _ => True
  | _ => False

/-- What block `k` of a checkpoint does when it is created and sent with answer `ids k`. -/
def checkpointBlockEffects (checkpointIndex checkpointsNumber : Nat) (seed : BlockID)
    (ids : Nat → BlockID) (tips : List BlockID) (k : Nat) : List Effect :=
  [.sendBlock (.checkpoint (checkpointParents seed ids tips k)) (.ok (ids k)),
    .issuedCheckpointBlock checkpointIndex k checkpointsNumber (ids k)]

variable {ans : CheckpointAnswers} {checkpointIndex total i k : Nat}
  {tips : List BlockID} {seed lastCheckpointBlockID : BlockID} {ids : Nat → BlockID} {e : Error}

theorem checkpointPrevious_succ (seed : BlockID) (ids : Nat → BlockID) (k : Nat) :
    checkpointPrevious seed ids (k + 1) = ids k :=
  rfl

/-- The slice `tips[7i : min(7i + 7, n)]` is the next seven tips, or fewer at the end. -/
theorem chunk_eq_take :
    (tips.drop (7 * i)).take (min (7 * i + 7) tips.length - 7 * i) = (tips.drop (7 * i)).take 7 :=
  List.take_eq_take.2 (by rw [List.length_drop]; omega)

theorem goSlice_chunk (h : i * 7 < tips.length) :
    goSlice tips (i * 7) (min (i * 7 + 7) tips.length) = pure ((tips.drop (7 * i)).take 7) := by
  rw [goSlice, if_pos ⟨by omega, by omega⟩, Nat.mul_comm i 7, chunk_eq_take]

theorem issueCheckpointBlock_ok {blockID : BlockID} (h : i * 7 < tips.length)
    (hCreate : ans.createCheckpoint i = none) (hSend : ans.send i = .ok blockID) :
    issueCheckpointBlock ans checkpointIndex tips total i lastCheckpointBlockID =
      ⟨[.sendBlock (.checkpoint (removeDupsAndSort
          (lastCheckpointBlockID :: (tips.drop (7 * i)).take 7))) (.ok blockID),
        .issuedCheckpointBlock checkpointIndex i total blockID], .ok blockID⟩ := by
  simp [issueCheckpointBlock, goSlice_chunk h, hCreate, hSend]

theorem issueCheckpointBlock_createFails (h : i * 7 < tips.length)
    (hCreate : ans.createCheckpoint i = some e) :
    issueCheckpointBlock ans checkpointIndex tips total i lastCheckpointBlockID =
      ⟨[], .error (softWrap "failed to create checkPoint" e)⟩ := by
  simp [issueCheckpointBlock, goSlice_chunk h, hCreate]

theorem issueCheckpointBlock_sendFails (h : i * 7 < tips.length)
    (hCreate : ans.createCheckpoint i = none) (hSend : ans.send i = .error e) :
    issueCheckpointBlock ans checkpointIndex tips total i lastCheckpointBlockID =
      ⟨[.sendBlock (.checkpoint (removeDupsAndSort
          (lastCheckpointBlockID :: (tips.drop (7 * i)).take 7))) (.error e)],
        .error (softWrap "failed to send checkPoint" e)⟩ := by
  simp [issueCheckpointBlock, goSlice_chunk h, hCreate, hSend]

/-- Iterations `i` to `i + fuel - 1` all create and send their block: the loop has their
effects in order and returns the last block's ID. -/
theorem issueCheckpointLoop_ok {fuel : Nat}
    (hAll : ∀ j, i ≤ j → j < i + fuel → j * 7 < tips.length ∧ ans.createCheckpoint j = none ∧
      ans.send j = .ok (ids j))
    (hLast : lastCheckpointBlockID = checkpointPrevious seed ids i) :
    issueCheckpointLoop ans checkpointIndex tips total fuel i lastCheckpointBlockID =
      ⟨(List.range' i fuel).flatMap
          (checkpointBlockEffects checkpointIndex total seed ids tips),
        .ok (checkpointPrevious seed ids (i + fuel))⟩ := by
  subst hLast
  induction fuel generalizing i with
  | zero => rfl
  | succ fuel ih =>
      obtain ⟨hSlice, hCreate, hSend⟩ := hAll i le_rfl (by omega)
      rw [issueCheckpointLoop, issueCheckpointBlock_ok hSlice hCreate hSend, Trace.mk_ok_bind,
        ← checkpointPrevious_succ seed ids i, ih fun j hj hjf => hAll j (by omega) (by omega)]
      simp [List.range'_succ, checkpointBlockEffects, checkpointParents, checkpointPrevious_succ,
        Nat.add_right_comm i 1 fuel, ← Nat.add_assoc]

/-- Iteration `k` fails after iterations `i` to `k - 1` succeeded: the loop has their effects
and then the failed iteration's, and returns its error. -/
theorem issueCheckpointLoop_fail {fuel : Nat} {failed : List Effect} (hik : i ≤ k)
    (hk : k < i + fuel)
    (hBefore : ∀ j, i ≤ j → j < k → j * 7 < tips.length ∧ ans.createCheckpoint j = none ∧
      ans.send j = .ok (ids j))
    (hFail : issueCheckpointBlock ans checkpointIndex tips total k
      (checkpointPrevious seed ids k) = ⟨failed, .error e⟩)
    (hLast : lastCheckpointBlockID = checkpointPrevious seed ids i) :
    issueCheckpointLoop ans checkpointIndex tips total fuel i lastCheckpointBlockID =
      ⟨(List.range' i (k - i)).flatMap
          (checkpointBlockEffects checkpointIndex total seed ids tips) ++ failed,
        .error e⟩ := by
  subst hLast
  induction fuel generalizing i with
  | zero => omega
  | succ fuel ih =>
      rw [issueCheckpointLoop]
      rcases Nat.eq_or_lt_of_le hik with rfl | hlt
      · simp [hFail]
      · obtain ⟨hSlice, hCreate, hSend⟩ := hBefore i le_rfl hlt
        rw [issueCheckpointBlock_ok hSlice hCreate hSend, Trace.mk_ok_bind,
          ← checkpointPrevious_succ seed ids i, ih (by omega) (by omega)
            fun j hj hjk => hBefore j (by omega) hjk]
        obtain ⟨d, rfl⟩ : ∃ d, k = i + 1 + d := ⟨k - (i + 1), by omega⟩
        simp [show i + 1 + d - i = d + 1 by omega, List.range'_succ, checkpointBlockEffects,
          checkpointParents, checkpointPrevious_succ]

/-- The whole checkpoint, when every slice is in bounds and the tips are not empty. -/
theorem issueCheckpoint_eq {backPressure : List Bool} (hTips : tips ≠ [])
    (hPressure : checkBackPressureFunctions backPressure = false) :
    issueCheckpoint true backPressure ans checkpointIndex seed tips =
      issueCheckpointLoop ans checkpointIndex tips (checkpointsNumber tips.length)
        (checkpointsNumber tips.length) 0 seed := by
  simp [issueCheckpoint, hTips, hPressure]

/-- Every block's slice is in bounds: `7k ≤ min(7k + 7, n) ≤ n` for `k < ⌈n / 7⌉`. -/
theorem slice_bounds_of_lt (hk : k < checkpointsNumber tips.length) :
    7 * k ≤ min (7 * k + 7) tips.length ∧ min (7 * k + 7) tips.length ≤ tips.length ∧
      k * 7 < tips.length := by
  unfold checkpointsNumber at hk; omega

theorem goSlice_effects {lo hi : Nat} : (goSlice tips lo hi).effects = [] := by
  unfold goSlice; split <;> rfl

theorem issueCheckpointBlock_ofCheckpoint {x : Effect}
    (hx : x ∈ (issueCheckpointBlock ans checkpointIndex tips total i
      lastCheckpointBlockID).effects) : x.OfCheckpoint := by
  simp [issueCheckpointBlock, goSlice_effects] at hx
  obtain ⟨_, -, -, rfl | ⟨_, -, rfl⟩⟩ := hx <;> trivial

/-- `IssueCheckpoint` hands over only checkpoint blocks and reports them. -/
theorem issueCheckpoint_ofCheckpoint {backPressure : List Bool} {isNodeSynced : Bool} {x : Effect}
    (hx : x ∈ (issueCheckpoint isNodeSynced backPressure ans checkpointIndex seed tips).effects) :
    x.OfCheckpoint := by
  have hLoop : ∀ fuel i last,
      x ∈ (issueCheckpointLoop ans checkpointIndex tips (checkpointsNumber tips.length) fuel i
        last).effects →
        x.OfCheckpoint := by
    intro fuel
    induction fuel with
    | zero => intro _ _ h; simp [issueCheckpointLoop] at h
    | succ fuel ih =>
        intro i last h
        simp only [issueCheckpointLoop, Trace.mem_bind_effects] at h
        obtain h | ⟨b, -, h⟩ := h
        · exact issueCheckpointBlock_ofCheckpoint h
        · exact ih _ _ h
  unfold issueCheckpoint at hx
  split at hx
  · simp at hx
  · split at hx
    · simp at hx
    · split at hx
      · simp at hx
      · exact hLoop _ _ _ hx

theorem mem_checkpointParents {p : BlockID} :
    p ∈ checkpointParents seed ids tips k ↔
      p = checkpointPrevious seed ids k ∨ p ∈ (tips.drop (7 * k)).take 7 := by
  simp [checkpointParents]

theorem checkpointParents_length :
    1 ≤ (checkpointParents seed ids tips k).length ∧ (checkpointParents seed ids tips k).length ≤ 8 :=
  ⟨List.length_pos.2 removeDupsAndSort_ne_nil,
    (removeDupsAndSort_length_le _).trans (by simp)⟩

/-- Every tip is a parent of the block of its chunk. -/
theorem exists_checkpointParents_of_mem {p : BlockID} (hp : p ∈ tips) :
    ∃ k < checkpointsNumber tips.length, p ∈ checkpointParents seed ids tips k := by
  obtain ⟨m, hm, rfl⟩ := List.getElem_of_mem hp
  refine ⟨m / 7, by unfold checkpointsNumber; omega, mem_checkpointParents.2 (.inr ?_)⟩
  refine List.mem_iff_getElem.2 ⟨m % 7, by simp; omega, ?_⟩
  simp [Nat.div_add_mod]

theorem sendBlock_count {fuel : Nat} :
    (((List.range' i fuel).flatMap
        (checkpointBlockEffects checkpointIndex total seed ids tips)).filter
      (· matches .sendBlock _ _)).length = fuel := by
  induction fuel generalizing i with
  | zero => rfl
  | succ fuel ih => simp [List.range'_succ, checkpointBlockEffects, ih]

/-- Checkpoint chunking. With tips given and the gates passed: if every block is created and
sent, `IssueCheckpoint` hands over `⌈n / 7⌉` blocks, block `k` with the block before it and
`tips[7k : min(7k + 7, n)]` as parents, reports each in order and returns the last block's
ID; if creating or sending block `k` fails, blocks `0` to `k - 1` were sent and the error is
soft. Every slice is in bounds, every block has 1 to 8 sorted, distinct parents, and every
tip is a parent of some block. -/
theorem issueCheckpoint_chunks {backPressure : List Bool} (hTips : tips ≠ [])
    (hPressure : checkBackPressureFunctions backPressure = false) :
    ((∀ k < checkpointsNumber tips.length,
        ans.createCheckpoint k = none ∧ ans.send k = .ok (ids k)) →
      (issueCheckpoint true backPressure ans checkpointIndex seed tips).effects =
        (List.range (checkpointsNumber tips.length)).flatMap
          (checkpointBlockEffects checkpointIndex (checkpointsNumber tips.length) seed ids tips) ∧
      ((issueCheckpoint true backPressure ans checkpointIndex seed tips).effects.filter
        (· matches .sendBlock _ _)).length = checkpointsNumber tips.length ∧
      (issueCheckpoint true backPressure ans checkpointIndex seed tips).result =
        .ok (ids (checkpointsNumber tips.length - 1))) ∧
    (∀ k < checkpointsNumber tips.length,
      (∀ j < k, ans.createCheckpoint j = none ∧ ans.send j = .ok (ids j)) →
      (∀ e, ans.createCheckpoint k = some e →
        (issueCheckpoint true backPressure ans checkpointIndex seed tips).effects =
          (List.range k).flatMap
            (checkpointBlockEffects checkpointIndex (checkpointsNumber tips.length) seed ids tips) ∧
        (issueCheckpoint true backPressure ans checkpointIndex seed tips).result =
          .error (softWrap "failed to create checkPoint" e)) ∧
      (∀ e, ans.createCheckpoint k = none → ans.send k = .error e →
        (issueCheckpoint true backPressure ans checkpointIndex seed tips).effects =
          (List.range k).flatMap
            (checkpointBlockEffects checkpointIndex (checkpointsNumber tips.length) seed ids tips) ++
            [.sendBlock (.checkpoint (checkpointParents seed ids tips k)) (.error e)] ∧
        (issueCheckpoint true backPressure ans checkpointIndex seed tips).result =
          .error (softWrap "failed to send checkPoint" e))) ∧
    (∀ k < checkpointsNumber tips.length,
      7 * k ≤ min (7 * k + 7) tips.length ∧ min (7 * k + 7) tips.length ≤ tips.length ∧
      (checkpointParents seed ids tips k).Sorted (· < ·) ∧
      (∀ p, p ∈ checkpointParents seed ids tips k ↔ p = checkpointPrevious seed ids k ∨
        p ∈ (tips.drop (7 * k)).take (min (7 * k + 7) tips.length - 7 * k)) ∧
      1 ≤ (checkpointParents seed ids tips k).length ∧
      (checkpointParents seed ids tips k).length ≤ 8) ∧
    ∀ p ∈ tips, ∃ k < checkpointsNumber tips.length, p ∈ checkpointParents seed ids tips k := by
  have hN : 0 < checkpointsNumber tips.length := by
    have := List.length_pos.2 hTips; unfold checkpointsNumber; omega
  have hSlice := fun k (hk : k < checkpointsNumber tips.length) => (slice_bounds_of_lt hk).2.2
  have hSeed : seed = checkpointPrevious seed ids 0 := rfl
  rw [issueCheckpoint_eq hTips hPressure]
  refine ⟨fun hAll => ?_, fun k hk hBefore => ⟨fun e hCreate => ?_, fun e hCreate hSend => ?_⟩,
    fun k hk => ?_, fun p hp => exists_checkpointParents_of_mem hp⟩
  · rw [issueCheckpointLoop_ok (fun j _ hj => ⟨hSlice j (by omega), hAll j (by omega)⟩) hSeed]
    refine ⟨by rw [List.range_eq_range'], sendBlock_count, ?_⟩
    simp [checkpointPrevious, hN.ne']
  · rw [issueCheckpointLoop_fail (Nat.zero_le k) (by simpa using hk)
      (fun j _ hj => ⟨hSlice j (by omega), hBefore j hj⟩)
      (issueCheckpointBlock_createFails (hSlice k hk) hCreate) hSeed]
    simp [List.range_eq_range']
  · rw [issueCheckpointLoop_fail (Nat.zero_le k) (by simpa using hk)
      (fun j _ hj => ⟨hSlice j (by omega), hBefore j hj⟩)
      (issueCheckpointBlock_sendFails (hSlice k hk) hCreate hSend) hSeed]
    simp [List.range_eq_range', checkpointParents]
  · exact ⟨(slice_bounds_of_lt hk).1, (slice_bounds_of_lt hk).2.1, removeDupsAndSort_sorted _,
      fun p => by rw [mem_checkpointParents, chunk_eq_take], checkpointParents_length.1,
      checkpointParents_length.2⟩

theorem issueCheckpoint_chunks_eightTips :
    ∃ (tips : List BlockID) (ans : CheckpointAnswers) (ids : Nat → BlockID),
      tips = [1, 2, 3, 4, 5, 6, 7, 8] ∧ ids = (fun _ => 100) ∧
      ans = ⟨fun _ => none, fun k => .ok (ids k)⟩ ∧
      tips ≠ [] ∧ checkBackPressureFunctions [] = false ∧
      ((∀ k < checkpointsNumber tips.length,
          ans.createCheckpoint k = none ∧ ans.send k = .ok (ids k)) →
        (issueCheckpoint true [] ans 3 50 tips).effects =
          (List.range (checkpointsNumber tips.length)).flatMap
            (checkpointBlockEffects 3 (checkpointsNumber tips.length) 50 ids tips) ∧
        ((issueCheckpoint true [] ans 3 50 tips).effects.filter
          (· matches .sendBlock _ _)).length = checkpointsNumber tips.length ∧
        (issueCheckpoint true [] ans 3 50 tips).result =
          .ok (ids (checkpointsNumber tips.length - 1))) ∧
      (∀ k < checkpointsNumber tips.length,
        (∀ j < k, ans.createCheckpoint j = none ∧ ans.send j = .ok (ids j)) →
        (∀ e, ans.createCheckpoint k = some e →
          (issueCheckpoint true [] ans 3 50 tips).effects =
            (List.range k).flatMap
              (checkpointBlockEffects 3 (checkpointsNumber tips.length) 50 ids tips) ∧
          (issueCheckpoint true [] ans 3 50 tips).result =
            .error (softWrap "failed to create checkPoint" e)) ∧
        (∀ e, ans.createCheckpoint k = none → ans.send k = .error e →
          (issueCheckpoint true [] ans 3 50 tips).effects =
            (List.range k).flatMap
              (checkpointBlockEffects 3 (checkpointsNumber tips.length) 50 ids tips) ++
              [.sendBlock (.checkpoint (checkpointParents 50 ids tips k)) (.error e)] ∧
          (issueCheckpoint true [] ans 3 50 tips).result =
            .error (softWrap "failed to send checkPoint" e))) ∧
      (∀ k < checkpointsNumber tips.length,
        7 * k ≤ min (7 * k + 7) tips.length ∧ min (7 * k + 7) tips.length ≤ tips.length ∧
        (checkpointParents 50 ids tips k).Sorted (· < ·) ∧
        (∀ p, p ∈ checkpointParents 50 ids tips k ↔ p = checkpointPrevious 50 ids k ∨
          p ∈ (tips.drop (7 * k)).take (min (7 * k + 7) tips.length - 7 * k)) ∧
        1 ≤ (checkpointParents 50 ids tips k).length ∧
        (checkpointParents 50 ids tips k).length ≤ 8) ∧
      ∀ p ∈ tips, ∃ k < checkpointsNumber tips.length, p ∈ checkpointParents 50 ids tips k :=
  ⟨_, _, _, rfl, rfl, rfl, List.cons_ne_nil _ _, rfl,
    issueCheckpoint_chunks (List.cons_ne_nil _ _) (by rfl)⟩

end InxCoordinator
