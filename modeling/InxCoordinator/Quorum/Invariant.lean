import InxCoordinator.Quorum.Group

/-! The invariant of a round over every interleaving: the WaitGroup counts the groups that
have not returned, `quorumDoneChan` is closed only after all of them have, and what the outer
call returned is backed by what some group's loop took. -/
namespace InxCoordinator

/-- A group task `wg` still waits for. -/
def GroupTask.running (t : GroupTask) : Bool := decide (t.phase ≠ .done)

@[simp] theorem GroupTask.running_eq_true {t : GroupTask} : t.running = true ↔ t.phase ≠ .done :=
  decide_eq_true_iff

private theorem forall_mem_set {α : Type} {l : List α} {P : α → Prop} {i : Nat} {a : α}
    (hl : ∀ x ∈ l, P x) (ha : P a) : ∀ x ∈ l.set i a, P x :=
  fun x hx => (List.mem_or_eq_of_mem_set hx).elim (hl x) (· ▸ ha)

private theorem exists_mem_set {α : Type} {l : List α} {P : α → Prop} {i : Nat} {a b : α}
    (hb : l[i]? = some b) (hab : P b → P a) (h : ∃ x ∈ l, P x) : ∃ x ∈ l.set i a, P x := by
  obtain ⟨x, hx, hP⟩ := h
  obtain ⟨k, hk⟩ := List.getElem?_of_mem hx
  by_cases hki : i = k
  · subst hki
    obtain rfl : x = b := Option.some.inj (hk.symm.trans hb)
    exact ⟨a, List.mem_set _ _ (List.getElem?_eq_some_iff.1 hb).1 _, hab hP⟩
  · exact ⟨x, List.mem_iff_getElem?.2 ⟨k, by simp [List.getElem?_set, hki, hk]⟩, hP⟩

namespace Round

variable {cooMerkleProof : MilestoneMerkleRoots} {s s' : Round} {g : Nat}

/-- What holds in every reachable state of a round. -/
structure Inv (cooMerkleProof : MilestoneMerkleRoots) (s : Round) : Prop where
  groups : ∀ t ∈ s.groups, t.Inv cooMerkleProof
  spawned : ∀ t ∈ s.groups, t.SpawnInv
  locking : s.outer = .locking → (∀ t ∈ s.groups, t.phase = .idle) ∧ s.quorumDoneClosed = false
  waitGroup : s.outer ≠ .locking → s.waitGroup = s.groups.countP GroupTask.running
  closed : s.quorumDoneClosed = true → ∀ t ∈ s.groups, t.phase = .done
  selecting : s.outer = .selecting → ∀ t ∈ s.groups, t.phase = .done →
    Clean cooMerkleProof t.consumed ∧ Matched cooMerkleProof t.consumed
  returnedNone : s.outer = .returned none → ∀ t ∈ s.groups,
    t.phase = .done ∧ Clean cooMerkleProof t.consumed ∧ Matched cooMerkleProof t.consumed
  returnedSome : ∀ f, s.outer = .returned (some f) →
    ∃ t ∈ s.groups, t.phase = .done ∧ f.Justified cooMerkleProof t.consumed

theorem moveGroup_eq {f : GroupTask → Option GroupTask} (h : s.moveGroup g f = some s') :
    ∃ t t', s.groups[g]? = some t ∧ f t = some t' ∧
      s' = { s with groups := s.groups.set g t',
                    waitGroup := if t.phase ≠ .done ∧ t'.phase = .done then s.waitGroup - 1
                                 else s.waitGroup } := by
  unfold moveGroup at h
  split at h
  · obtain ⟨t', ht', rfl⟩ := Option.map_eq_some'.1 h
    exact ⟨_, t', ‹_›, ht', rfl⟩
  · cases h

theorem handOver_eq (h : s.handOver g = some s') :
    ∃ t f, s.outer = .selecting ∧ s.groups[g]? = some t ∧ t.phase = .sending f ∧
      s' = { s with outer := .returned (some f),
                    groups := s.groups.set g { t with phase := .done },
                    waitGroup := s.waitGroup - 1 } := by
  unfold handOver at h
  split at h
  · split at h
    · cases h; exact ⟨_, _, ‹_›, ‹_›, ‹_›, rfl⟩
    · cases h
  · cases h

/-- What a step can do, guards included. -/
theorem step_cases {a : Action} (h : Round.step cooMerkleProof s a = some s') :
    (a = .lock ∧ s.outer = .locking ∧
      s' = { s with outer := .selecting, waitGroup := s.groups.length }) ∨
    (∃ g m, a = .group g m ∧ s.outer ≠ .locking ∧
      s.moveGroup g (·.move cooMerkleProof s.quorumDoneClosed m) = some s') ∨
    (∃ g, a = .handOver g ∧ s.handOver g = some s') ∨
    (a = .close ∧ s.outer ≠ .locking ∧ s.quorumDoneClosed = false ∧ s.waitGroup = 0 ∧
      s' = { s with quorumDoneClosed := true }) ∨
    (a = .finish ∧ s.outer = .selecting ∧ s.quorumDoneClosed = true ∧
      s' = { s with outer := .returned none }) := by
  cases a with
  | handOver g => exact .inr (.inr (.inl ⟨g, rfl, h⟩))
  | group g m =>
      simp only [Round.step] at h
      split at h
      · cases h
      · exact .inr (.inl ⟨g, m, rfl, ‹_›, h⟩)
  | lock =>
      simp only [Round.step] at h
      split at h
      · cases h; exact .inl ⟨rfl, ‹_›, rfl⟩
      · cases h
  | close =>
      simp only [Round.step] at h
      split at h
      · rename_i hc
        cases h; exact .inr (.inr (.inr (.inl ⟨rfl, hc.1, hc.2.1, hc.2.2, rfl⟩)))
      · cases h
  | finish =>
      simp only [Round.step] at h
      split at h
      · rename_i hc
        cases h; exact .inr (.inr (.inr (.inr ⟨rfl, hc.1, hc.2, rfl⟩)))
      · cases h

theorem Inv.init (q : Quorum) : (Round.init q).Inv cooMerkleProof where
  groups := by simp [Round.init, GroupTask.init, GroupTask.Inv, PhaseInv]
  spawned := by simp [Round.init, GroupTask.init, GroupTask.SpawnInv]
  locking := fun _ => ⟨by simp [Round.init, GroupTask.init], rfl⟩
  waitGroup := fun h => absurd rfl h
  closed := nofun
  selecting := nofun
  returnedNone := nofun
  returnedSome := fun _ => nofun

theorem Inv.lock (hInv : s.Inv cooMerkleProof) (hOuter : s.outer = .locking) :
    Inv cooMerkleProof { s with outer := .selecting, waitGroup := s.groups.length } := by
  obtain ⟨hIdle, hOpen⟩ := hInv.locking hOuter
  refine ⟨hInv.groups, hInv.spawned, nofun, fun _ => ?_, fun h => by simp [hOpen] at h,
    fun _ t ht hDone => by simp [hIdle t ht] at hDone, nofun, fun _ => nofun⟩
  exact (List.countP_eq_length.2 fun t ht => by simp [hIdle t ht]).symm

/-- A move of a group's tasks keeps the invariant; `wg.Done()` keeps the count. -/
theorem Inv.moveGroup {m : Move} (hInv : s.Inv cooMerkleProof) (hOuter : s.outer ≠ .locking)
    (h : s.moveGroup g (·.move cooMerkleProof s.quorumDoneClosed m) = some s') :
    s'.Inv cooMerkleProof := by
  obtain ⟨t, t', hg, hMove, rfl⟩ := moveGroup_eq h
  have ht : t ∈ s.groups := List.mem_iff_getElem?.2 ⟨g, hg⟩
  obtain ⟨hLt, hGet⟩ := List.getElem?_eq_some_iff.1 hg
  have hFinal : t.phase = .done → t'.phase = .done ∧ t'.consumed = t.consumed :=
    fun hDone => (GroupTask.move_of_pastLoop (by simp [hDone]) (by simp [hDone]) hMove).imp_left
      (·.trans hDone)
  refine ⟨forall_mem_set hInv.groups (GroupTask.inv_move (hInv.groups t ht) hMove),
    forall_mem_set hInv.spawned fun hIdle => absurd hIdle
      (GroupTask.move_ne_idle (hInv.spawned t ht) hMove),
    fun h => absurd h hOuter, fun _ => ?_,
    fun hc => forall_mem_set (hInv.closed hc) (hFinal (hInv.closed hc t ht)).1,
    fun hSel x hx hDone => ?_, fun hRet x hx => ?_,
    fun f hRet => exists_mem_set hg (fun ⟨hd, hj⟩ => ⟨(hFinal hd).1, (hFinal hd).2 ▸ hj⟩)
      (hInv.returnedSome f hRet)⟩
  · dsimp only
    rw [List.countP_set _ _ _ _ hLt, hGet, ← hInv.waitGroup hOuter]
    by_cases hd : t.phase = .done
    · simp [hd, (hFinal hd).1]
    · have hPos : 0 < s.groups.countP GroupTask.running :=
        List.countP_pos_iff.2 ⟨t, ht, by simpa using hd⟩
      rw [← hInv.waitGroup hOuter] at hPos
      by_cases hd' : t'.phase = .done <;> simp [hd, hd'] ; omega
  · rcases List.mem_or_eq_of_mem_set hx with hx | rfl
    · exact hInv.selecting hSel x hx hDone
    · by_cases hd : t.phase = .done
      · exact (hFinal hd).2 ▸ hInv.selecting hSel t ht hd
      · rcases GroupTask.ended_of_move (hInv.groups t ht) hMove hd hDone with ⟨-, hc⟩ | hEnd
        · exact absurd (hInv.closed hc t ht) hd
        · exact hEnd
  · rcases List.mem_or_eq_of_mem_set hx with hx | rfl
    · exact hInv.returnedNone hRet x hx
    · obtain ⟨hd, hc, hm⟩ := hInv.returnedNone hRet t ht
      obtain ⟨hd', hc'⟩ := hFinal hd
      exact ⟨hd', hc' ▸ hc, hc' ▸ hm⟩

/-- The rendezvous on `quorumErrChan` keeps the invariant, and the error the outer call
returns is justified by the sending group's loop. -/
theorem Inv.handOver (hInv : s.Inv cooMerkleProof) (h : s.handOver g = some s') :
    s'.Inv cooMerkleProof := by
  obtain ⟨t, f, hSel, hg, hSend, rfl⟩ := handOver_eq h
  have ht : t ∈ s.groups := List.mem_iff_getElem?.2 ⟨g, hg⟩
  obtain ⟨hLt, hGet⟩ := List.getElem?_eq_some_iff.1 hg
  have hOpen : s.quorumDoneClosed = false := by
    cases hc : s.quorumDoneClosed
    · rfl
    · simp [hInv.closed hc t ht] at hSend
  have hSending := hInv.groups t ht
  unfold GroupTask.Inv at hSending; rw [hSend] at hSending
  refine ⟨forall_mem_set hInv.groups (by exact trivial), forall_mem_set hInv.spawned nofun,
    nofun, fun _ => ?_,
    fun hc => by simp [hOpen] at hc, nofun, nofun, fun f' hRet => ?_⟩
  · have hPos : 0 < s.groups.countP GroupTask.running :=
      List.countP_pos_iff.2 ⟨t, ht, by simp [hSend]⟩
    dsimp only
    rw [List.countP_set _ _ _ _ hLt, hGet, hInv.waitGroup (by simp [hSel])]
    simp [hSend]
  · obtain rfl : f = f' := by cases hRet; rfl
    refine ⟨{ t with phase := .done }, List.mem_set _ _ hLt _, rfl, ?_⟩
    cases f
    · exact hSending
    · exact hSending.2

theorem Inv.close (hInv : s.Inv cooMerkleProof) (hOuter : s.outer ≠ .locking)
    (hWait : s.waitGroup = 0) : Inv cooMerkleProof { s with quorumDoneClosed := true } := by
  refine ⟨hInv.groups, hInv.spawned, fun h => absurd h hOuter, hInv.waitGroup, fun _ t ht => ?_,
    hInv.selecting, hInv.returnedNone, hInv.returnedSome⟩
  simpa using List.countP_eq_zero.1 ((hInv.waitGroup hOuter).symm.trans hWait) t ht

theorem Inv.finish (hInv : s.Inv cooMerkleProof) (hOuter : s.outer = .selecting)
    (hClosed : s.quorumDoneClosed = true) : Inv cooMerkleProof { s with outer := .returned none } :=
  ⟨hInv.groups, hInv.spawned, nofun, fun _ => hInv.waitGroup (by simp [hOuter]), hInv.closed,
    nofun,
    fun _ t ht => ⟨hInv.closed hClosed t ht, hInv.selecting hOuter t ht (hInv.closed hClosed t ht)⟩,
    fun _ => nofun⟩

theorem Inv.step {a : Action} (hInv : s.Inv cooMerkleProof)
    (h : Round.step cooMerkleProof s a = some s') : s'.Inv cooMerkleProof := by
  rcases step_cases h with ⟨-, hOuter, rfl⟩ | ⟨_, _, -, hOuter, hMove⟩ | ⟨_, -, hHand⟩ |
    ⟨-, hOuter, -, hWait, rfl⟩ | ⟨-, hOuter, hClosed, rfl⟩
  exacts [hInv.lock hOuter, hInv.moveGroup hOuter hMove, hInv.handOver hHand,
    hInv.close hOuter hWait, hInv.finish hOuter hClosed]

theorem Reach.inv {q : Quorum} (hs : Reach cooMerkleProof q s) : s.Inv cooMerkleProof := by
  induction hs with
  | init => exact .init q
  | step _ _ hStep ih => exact ih.step hStep

end Round

end InxCoordinator
