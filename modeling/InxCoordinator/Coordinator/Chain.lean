import InxCoordinator.Coordinator.Milestone
import InxCoordinator.Coordinator.Checkpoint

/-! The milestone chain of one coordinator process. `milestoneLock` runs `Bootstrap`,
`IssueMilestone` and `IssueCheckpoint` one at a time, so a run is a sequence of whole
operations. A critical error stops its own caller, but callers already waiting on the lock
still run, on the memory the failed operation left. Every operation hands at most one
milestone, the one after the tip `coo.state` holds, and makes it the tip only if it records
it, which needs the send and the migrator's persistence after it to succeed. A milestone
handed and not recorded comes with a critical error, and the next milestone any waiting caller
hands has its index again. -/
namespace InxCoordinator

/-- The milestones a list of effects hands to `sendBlockFunc`, in order. -/
def handedMilestones (effects : List Effect) : List (Milestone × MilestoneID) :=
  effects.filterMap Effect.milestone?

/-- Whether an effect sets `coo.state`. -/
def Effect.isSetState : Effect → Bool
  | .setState _ => true
  | _ => false

/-- The milestones an operation's effects hand over, each with whether the operation then set
`coo.state`: it hands at most one, and every state it sets records that one. -/
def handedRecords (effects : List Effect) : List (Milestone × MilestoneID × Bool) :=
  (handedMilestones effects).map fun h => (h.1, h.2, effects.any Effect.isSetState)

/-- The milestones handed in a run, in order, each with whether it was recorded. -/
def runMilestones (history : List (Op × Trace BlockID)) :
    List (Milestone × MilestoneID × Bool) :=
  history.flatMap fun step => handedRecords step.2.effects

/-- Milestones handed from the tip at index `latest` with milestone ID `latestID`: each has the
next `uint32` index and the tip's ID as its previous milestone ID. A recorded one becomes the
tip; one that was not recorded leaves the tip where it was, so the next one repeats its index. -/
def MilestoneChain : MilestoneIndex → MilestoneID → List (Milestone × MilestoneID × Bool) → Prop
  | _, _, [] => True
  | latest, latestID, (m, milestoneID, recorded) :: rest =>
    m.index = latest + 1 ∧ m.previousMilestoneID = latestID ∧
      if recorded then MilestoneChain m.index milestoneID rest
      else MilestoneChain latest latestID rest

/-- The index and milestone ID the chain continues from. -/
def State.tip (state : State) : MilestoneIndex × MilestoneID :=
  (state.latestMilestoneIndex, state.latestMilestoneID)

/-- What one operation does to the chain, from tip `tip` to tip `tip'`: it hands nothing and
leaves the tip; or it hands the milestone after the tip, which becomes the tip if the operation
sets a state, and otherwise the operation failed critically and the tip stays. -/
def ContinuesChain {α : Type} (tip : MilestoneIndex × MilestoneID) (t : Trace α)
    (tip' : MilestoneIndex × MilestoneID) : Prop :=
  (handedMilestones t.effects = [] ∧ tip' = tip) ∨
    ∃ m milestoneID, handedMilestones t.effects = [(m, milestoneID)] ∧
      m.index = tip.1 + 1 ∧ m.previousMilestoneID = tip.2 ∧
      tip' = (if t.effects.any Effect.isSetState then (m.index, milestoneID) else tip) ∧
      (t.effects.any Effect.isSetState = false → t.isCritical = true)

section Quiet

variable {x : Effect} {m : Milestone} {milestoneID : MilestoneID} {answer : Except Error BlockID}

theorem Effect.BeforeRename.milestone?_eq (h : x.BeforeRename) : x.milestone? = none := by
  rcases h with ⟨err, rfl⟩ | rfl <;> rfl

theorem Effect.BeforeRename.ne_setState (h : x.BeforeRename) (state : State) :
    x ≠ .setState state := by
  rcases h with ⟨err, rfl⟩ | rfl <;> nofun

theorem Effect.AfterSend.milestone?_eq (h : x.AfterSend m milestoneID answer) :
    x.milestone? = none := by
  cases x <;> first | rfl | exact absurd h id

theorem Effect.OfCheckpoint.milestone?_eq (h : x.OfCheckpoint) : x.milestone? = none := by
  rcases x with _ | _ | _ | ⟨_ | _, _⟩ | _ | _ | _ | _ | _ <;> first | rfl | exact absurd h id

theorem Effect.OfCheckpoint.ne_setState (h : x.OfCheckpoint) (state : State) :
    x ≠ .setState state := by
  rintro rfl; exact h

end Quiet

@[simp] theorem handedMilestones_append {l₁ l₂ : List Effect} :
    handedMilestones (l₁ ++ l₂) = handedMilestones l₁ ++ handedMilestones l₂ :=
  List.filterMap_append _ _ _

@[simp] theorem handedMilestones_setBootstrapped : handedMilestones [.setBootstrapped] = [] := rfl

theorem handedMilestones_eq_nil {l : List Effect} (h : ∀ x ∈ l, x.milestone? = none) :
    handedMilestones l = [] :=
  List.filterMap_eq_nil_iff.2 h

/-- An effect list with no `setState` leaves `coo.state` alone. -/
theorem Coordinator.foldl_apply_state_eq {coo : Coordinator} {l : List Effect}
    (h : ∀ x ∈ l, ∀ state, x ≠ .setState state) : (l.foldl Coordinator.apply coo).state = coo.state :=
  Coordinator.foldl_apply_state (P := (· = coo.state)) coo l rfl fun st hst => absurd rfl (h _ hst st)

/-- After an effect list with some `setState`, `coo.state` is one of the states it set. -/
theorem Coordinator.foldl_apply_state_of_mem {P : State → Prop} {coo : Coordinator}
    {l : List Effect} {state : State} (hMem : .setState state ∈ l)
    (hSet : ∀ st, .setState st ∈ l → P st) : P (l.foldl Coordinator.apply coo).state := by
  induction l generalizing coo with
  | nil => cases hMem
  | cons x l ih =>
      by_cases hIn : Effect.setState state ∈ l
      · exact ih hIn fun st h => hSet st (List.mem_cons_of_mem _ h)
      · obtain rfl : x = .setState state := by simpa [hIn, eq_comm] using hMem
        exact Coordinator.foldl_apply_state _ l (hSet state (List.mem_cons_self _ _))
          fun st h => hSet st (List.mem_cons_of_mem _ h)

theorem any_isSetState {l : List Effect} :
    l.any Effect.isSetState = true ↔ ∃ st, .setState st ∈ l := by
  simp only [List.any_eq_true]
  constructor
  · rintro ⟨x, hx, hSet⟩
    cases x <;> first | exact ⟨_, hx⟩ | cases hSet
  · rintro ⟨st, hst⟩
    exact ⟨_, hst, rfl⟩

/-- An operation that hands what `t` hands, sets a state when `t` does and fails critically
when `t` does continues the chain as `t` does. -/
theorem ContinuesChain.of_trace {α β : Type} {tip tip' : MilestoneIndex × MilestoneID}
    {t : Trace α} {t' : Trace β} (h : ContinuesChain tip t tip')
    (hHanded : handedMilestones t'.effects = handedMilestones t.effects)
    (hSet : t'.effects.any Effect.isSetState = t.effects.any Effect.isSetState)
    (hCritical : t.isCritical = true → t'.isCritical = true) : ContinuesChain tip t' tip' := by
  rcases h with ⟨hNil, hTip⟩ | ⟨m, milestoneID, hHand, hIndex, hPrev, hTip, hFail⟩
  · exact .inl ⟨hHanded.trans hNil, hTip⟩
  · exact .inr ⟨m, milestoneID, hHanded.trans hHand, hIndex, hPrev, hSet ▸ hTip,
      fun hNone => hCritical (hFail (hSet ▸ hNone))⟩

section Operation

variable {cfg : Config} {ans : MilestoneAnswers} {parents : List BlockID}
  {newMilestoneIndex : MilestoneIndex} {previousMilestoneID : MilestoneID}

/-- `createAndSendMilestone` hands nothing and records nothing, or hands one milestone, with
the index and previous milestone ID it was given, and sets only states that record it. -/
theorem createAndSendMilestone_handed (cfg : Config) (ans : MilestoneAnswers)
    (parents : List BlockID) (newMilestoneIndex : MilestoneIndex)
    (previousMilestoneID : MilestoneID) :
    (∀ x ∈ (createAndSendMilestone cfg ans parents newMilestoneIndex previousMilestoneID).effects,
        x.BeforeRename) ∨
      ∃ m milestoneID, handedMilestones
          (createAndSendMilestone cfg ans parents newMilestoneIndex previousMilestoneID).effects =
            [(m, milestoneID)] ∧
        m.index = newMilestoneIndex ∧ m.previousMilestoneID = previousMilestoneID ∧
        ∀ st, .setState st ∈
            (createAndSendMilestone cfg ans parents newMilestoneIndex previousMilestoneID).effects →
          st.latestMilestoneIndex = m.index ∧ st.latestMilestoneID = milestoneID := by
  rcases createAndSendMilestone_effects cfg ans parents newMilestoneIndex previousMilestoneID
    with hBefore | ⟨pre, m, milestoneID, rest, hEq, hPre, hIndex, hPrev, -, hRest⟩
  · exact .inl hBefore
  · refine .inr ⟨m, milestoneID, ?_, hIndex, hPrev, fun st hst => ?_⟩
    · rw [hEq, handedMilestones, List.filterMap_append, List.filterMap_cons, List.filterMap_cons,
        ← handedMilestones, ← handedMilestones, handedMilestones_eq_nil
          fun x hx => (hPre x hx).milestone?_eq, handedMilestones_eq_nil
          fun x hx => (hRest x hx).milestone?_eq]
      rfl
    · rw [hEq] at hst
      rcases List.mem_append.1 hst with hst | hst
      · exact absurd rfl ((hPre _ hst).ne_setState st)
      · simp only [List.mem_cons, reduceCtorEq, false_or] at hst
        exact ⟨(hRest _ hst).1, (hRest _ hst).2.1⟩

/-- `createAndSendMilestone` from `coo.state` continues the chain. -/
theorem createAndSendMilestone_chain (cfg : Config) (ans : MilestoneAnswers)
    (parents : List BlockID) (coo : Coordinator) :
    ContinuesChain coo.state.tip
      (createAndSendMilestone cfg ans parents (coo.state.latestMilestoneIndex + 1)
        coo.state.latestMilestoneID)
      ((createAndSendMilestone cfg ans parents (coo.state.latestMilestoneIndex + 1)
        coo.state.latestMilestoneID).effects.foldl Coordinator.apply coo).state.tip := by
  rcases createAndSendMilestone_handed cfg ans parents (coo.state.latestMilestoneIndex + 1)
      coo.state.latestMilestoneID with hBefore | ⟨m, milestoneID, hHanded, hIndex, hPrev, hSet⟩
  · exact .inl ⟨handedMilestones_eq_nil fun x hx => (hBefore x hx).milestone?_eq, by
      rw [Coordinator.foldl_apply_state_eq fun x hx => (hBefore x hx).ne_setState]⟩
  refine .inr ⟨m, milestoneID, hHanded, hIndex, hPrev, ?_, fun hNone => ?_⟩
  · split
    · -- every state set records m
      obtain ⟨st, hst⟩ := any_isSetState.1 ‹_›
      exact Coordinator.foldl_apply_state_of_mem (P := fun st => st.tip = (m.index, milestoneID))
        hst fun st hst => by simp only [State.tip, (hSet st hst).1, (hSet st hst).2]
    · rw [Coordinator.foldl_apply_state_eq fun x hx st hEq =>
        ‹¬_› (any_isSetState.2 ⟨st, hEq ▸ hx⟩)]
  -- handed and not recorded: it stopped after the send with a critical error
  rcases hr : (createAndSendMilestone cfg ans parents (coo.state.latestMilestoneIndex + 1)
      coo.state.latestMilestoneID).result with e | state
  · rcases createAndSendMilestone_error hr with hCrit | ⟨-, -, -, -, hEff⟩
    · simp [Trace.isCritical, hr, hCrit]
    · simp [hEff, handedMilestones, Effect.milestone?] at hHanded
  · obtain ⟨-, -, -, -, -, hMem⟩ := createAndSendMilestone_ok hr
    simp [any_isSetState.2 ⟨_, hMem⟩] at hNone

end Operation

section Perform

variable {cfg : Config} {coo : Coordinator} {ans : MilestoneAnswers}

theorem bootstrap_of_bootstrapped (h : coo.bootstrapped = true) :
    bootstrap cfg coo ans = pure coo.state.latestMilestoneBlockID := by
  simp [bootstrap, h]

/-- `Bootstrap` on a coordinator not yet bootstrapped: `createAndSendMilestone` from
`coo.state`, then `coo.bootstrapped` set if it succeeded. -/
theorem bootstrap_of_not_bootstrapped (h : coo.bootstrapped = false) :
    bootstrap cfg coo ans =
      match (createAndSendMilestone cfg ans [coo.state.latestMilestoneBlockID]
          (coo.state.latestMilestoneIndex + 1) coo.state.latestMilestoneID).result with
      | .error e => ⟨(createAndSendMilestone cfg ans [coo.state.latestMilestoneBlockID]
          (coo.state.latestMilestoneIndex + 1) coo.state.latestMilestoneID).effects,
          .error (.critical e)⟩
      | .ok state => ⟨(createAndSendMilestone cfg ans [coo.state.latestMilestoneBlockID]
          (coo.state.latestMilestoneIndex + 1) coo.state.latestMilestoneID).effects ++
            [.setBootstrapped], .ok state.latestMilestoneBlockID⟩ := by
  rw [bootstrap, if_neg (by simp [h]), Trace.eta (createAndSendMilestone ..)]
  rcases (createAndSendMilestone cfg ans [coo.state.latestMilestoneBlockID]
    (coo.state.latestMilestoneIndex + 1) coo.state.latestMilestoneID).result with e | state <;> rfl

/-- Every operation continues the chain from `coo.state`. -/
theorem Coordinator.perform_chain (cfg : Config) (coo : Coordinator) (o : Op) :
    ContinuesChain coo.state.tip (coo.perform cfg o)
      ((coo.perform cfg o).effects.foldl Coordinator.apply coo).state.tip := by
  cases o with
  | bootstrap ans =>
      cases hb : coo.bootstrapped
      · have hChain := createAndSendMilestone_chain cfg ans [coo.state.latestMilestoneBlockID] coo
        rw [Coordinator.perform, bootstrap_of_not_bootstrapped hb]
        split
        · -- its error, made critical
          exact hChain.of_trace rfl rfl fun _ => by simp [Trace.isCritical]
        · -- its effects and `setBootstrapped`, which leaves `coo.state` alone
          rename_i hOk
          simp only [List.foldl_append, List.foldl_cons, List.foldl_nil, Coordinator.apply]
          exact hChain.of_trace (by simp) (by simp [Effect.isSetState])
            fun h => by simp [Trace.isCritical, hOk] at h
      · rw [Coordinator.perform, bootstrap_of_bootstrapped hb]
        exact .inl ⟨rfl, rfl⟩
  | issueMilestone parents isNodeSynced backPressure ans =>
      simp only [Coordinator.perform, issueMilestone]
      split
      · exact .inl ⟨rfl, rfl⟩
      · split
        · exact .inl ⟨rfl, rfl⟩
        · simp only [Trace.pure_eq, Trace.bind_pure_effects]
          exact (createAndSendMilestone_chain cfg ans parents coo).of_trace (by simp) (by simp)
            (by simp)
  | issueCheckpoint checkpointIndex lastCheckpointBlockID tips isNodeSynced backPressure ans =>
      rw [Coordinator.perform]
      exact .inl ⟨handedMilestones_eq_nil fun x hx =>
          (issueCheckpoint_ofCheckpoint hx).milestone?_eq,
        by rw [Coordinator.foldl_apply_state_eq fun x hx =>
          (issueCheckpoint_ofCheckpoint hx).ne_setState]⟩

end Perform

/-- Every run continues the chain from the coordinator's state. -/
theorem Coordinator.run_milestoneChain (cfg : Config) (coo : Coordinator) (ops : List Op) :
    MilestoneChain coo.state.latestMilestoneIndex coo.state.latestMilestoneID
      (runMilestones (coo.run cfg ops)) := by
  induction ops generalizing coo with
  | nil => trivial
  | cons o rest ih =>
      have hNext := ih ((coo.perform cfg o).effects.foldl Coordinator.apply coo)
      rw [Coordinator.run, runMilestones, List.flatMap_cons, ← runMilestones]
      rcases Coordinator.perform_chain cfg coo o with
        ⟨hNil, hTip⟩ | ⟨m, milestoneID, hHanded, hIndex, hPrev, hTip, -⟩
      · simp only [State.tip, Prod.mk.injEq] at hTip
        rwa [handedRecords, hNil, List.map_nil, List.nil_append, ← hTip.1, ← hTip.2]
      · rw [handedRecords, hHanded, List.map_singleton, List.singleton_append]
        refine ⟨hIndex, hPrev, ?_⟩
        -- the next milestone continues from the handed one if it was recorded, else from the tip
        cases hSet : (coo.perform cfg o).effects.any Effect.isSetState <;>
          simp only [hSet, if_true, if_false, Bool.false_eq_true, State.tip, Prod.mk.injEq]
            at hTip ⊢ <;>
          rwa [← hTip.1, ← hTip.2]

section Init

variable {cfg : Config} {stateFile : Option StateFile} {startIndex : MilestoneIndex}
  {latestMilestone : LatestMilestoneInfo} {now : Nat} {coo : Coordinator}

/-- `InitState(bootstrap=true)` succeeds only with no state file, and then sets up a coordinator
not yet bootstrapped whose tip is the milestone before `startIndex` (at least 1): the zero
milestone ID when that is the genesis, the node's latest milestone ID otherwise, which is then
not zero. -/
theorem initState_bootstrap
    (h : initState cfg stateFile true startIndex latestMilestone now = .ok coo) :
    stateFile = none ∧
    coo = ⟨⟨(if startIndex = 0 then 1 else startIndex) - 1,
      if (if startIndex = 0 then 1 else startIndex) = 1 then emptyMilestoneID
        else latestMilestone.milestoneID, emptyBlockID, now⟩, false⟩ ∧
    ((if startIndex = 0 then 1 else startIndex) ≠ 1 →
      latestMilestone.milestoneID ≠ emptyMilestoneID) := by
  unfold initState at h
  cases stateFile with
  | some file => simp [throw, throwThe, MonadExceptOf.throw, bind, Except.bind] at h
  | none =>
    refine ⟨rfl, ?_⟩
    generalize (if startIndex = 0 then 1 else startIndex) = i0 at h ⊢
    simp [bind, Except.bind, pure, Except.pure, throw, throwThe, MonadExceptOf.throw] at h
    split_ifs at h with hIdx hOne hEmpty <;> cases h
    · simp [hOne]
    · simp [hOne, hEmpty]

/-- `InitState(bootstrap=false)` succeeds only on a state file it can load, and then resumes
from that state, bootstrapped. -/
theorem initState_resume
    (h : initState cfg stateFile false startIndex latestMilestone now = .ok coo) :
    ∃ state, stateFile = some (.valid state) ∧ coo = ⟨state, true⟩ := by
  unfold initState at h
  rcases stateFile with _ | state | _
  · cases h
  · simp only [Bool.false_eq_true, if_false] at h
    split at h
    · cases h
    · cases h; exact ⟨state, rfl, rfl⟩
  · cases h

end Init

section Indices

/-- `uint32` increment. -/
theorem MilestoneIndex.toNat_add_one (a : MilestoneIndex) : (a + 1).toNat = (a.toNat + 1) % 2^32 :=
  rfl

/-- A chain's indices, each with whether it was recorded, from its tip: the next index is one
more in `uint32` after a recorded milestone and the same after one that was not. -/
theorem MilestoneChain.succ_mod {latest : MilestoneIndex} {latestID : MilestoneID}
    {l : List (Milestone × MilestoneID × Bool)} (h : MilestoneChain latest latestID l) :
    List.Chain (fun a b : MilestoneIndex × Bool =>
        b.1.toNat = if a.2 then (a.1.toNat + 1) % 2^32 else a.1.toNat)
      (latest, true) (l.map fun handed => (handed.1.index, handed.2.2)) := by
  induction l generalizing latest latestID with
  | nil => exact .nil
  | cons x rest ih =>
      obtain ⟨hIndex, -, hRest⟩ := h
      have hx : x.1.index.toNat = (latest.toNat + 1) % 2^32 := by
        rw [hIndex, MilestoneIndex.toNat_add_one]
      refine .cons hx ?_
      show List.Chain _ (x.1.index, x.2.2) _
      cases hRecorded : x.2.2 <;>
        simp only [hRecorded, if_true, if_false, Bool.false_eq_true] at hRest
      · -- after an unrecorded milestone the next index is one more than the tip again
        exact List.Chain'.imp_head (fun {z} hz => show z.1.toNat = x.1.index.toNat by
          rw [hx]; exact hz) (ih hRest)
      · exact ih hRest

/-- Below `2^32` the `uint32` increments of a chain's indices do not wrap. -/
theorem MilestoneChain.chain_toNat {a : MilestoneIndex × Bool} {l : List (MilestoneIndex × Bool)}
    (h : List.Chain (fun a b : MilestoneIndex × Bool =>
        b.1.toNat = if a.2 then (a.1.toNat + 1) % 2^32 else a.1.toNat) a l)
    (hRange : a.1.toNat + l.length < 2^32) :
    List.Chain (fun a b : MilestoneIndex × Bool =>
      b.1.toNat = if a.2 then a.1.toNat + 1 else a.1.toNat) a l := by
  induction h with
  | nil => exact .nil
  | @cons a b rest hab _ ih =>
      simp only [List.length_cons] at hRange
      have hb : b.1.toNat = if a.2 then a.1.toNat + 1 else a.1.toNat := by
        rw [hab]; split <;> simp only [Nat.mod_eq_of_lt (show a.1.toNat + 1 < 2^32 by omega)]
      refine .cons hb (ih ?_)
      split at hb <;> omega

/-- The indices handed in any run, each with whether its operation recorded it, start one above
the coordinator's latest index and go up by one in `uint32` after each recorded milestone and
stay after each unrecorded one; while the latest index plus the number of milestones handed
stays below `2^32` they do so as naturals, without wrapping. -/
theorem milestone_indices_mod (cfg : Config) (coo : Coordinator) (ops : List Op) :
    List.Chain (fun a b : MilestoneIndex × Bool =>
        b.1.toNat = if a.2 then (a.1.toNat + 1) % 2^32 else a.1.toNat)
      (coo.state.latestMilestoneIndex, true)
      ((runMilestones (coo.run cfg ops)).map fun handed => (handed.1.index, handed.2.2)) ∧
    (coo.state.latestMilestoneIndex.toNat + (runMilestones (coo.run cfg ops)).length < 2^32 →
      List.Chain (fun a b : MilestoneIndex × Bool =>
          b.1.toNat = if a.2 then a.1.toNat + 1 else a.1.toNat)
        (coo.state.latestMilestoneIndex, true)
        ((runMilestones (coo.run cfg ops)).map fun handed => (handed.1.index, handed.2.2))) :=
  ⟨(Coordinator.run_milestoneChain cfg coo ops).succ_mod, fun hRange =>
    MilestoneChain.chain_toNat (Coordinator.run_milestoneChain cfg coo ops).succ_mod
      (by rwa [List.length_map])⟩
/-- A bootstrap at `startIndex = 2^32 - 1`, which `InitState` accepts, hands index
`4294967295` and then index `0`. -/
theorem milestone_index_wraps :
    ∃ coo, initState ⟨"coordinator.state", false, false⟩ none true 4294967295
        ⟨4294967294, 7⟩ 0 = .ok coo ∧
      (runMilestones (coo.run ⟨"coordinator.state", false, false⟩
        [.bootstrap ⟨0, .ok ⟨1, 2⟩, none, none, none, .error (.message ""), none, .ok 5, none,
          .ok 9, none, .ok⟩,
         .issueMilestone [] true [] ⟨0, .ok ⟨1, 2⟩, none, none, none, .error (.message ""), none,
          .ok 6, none, .ok 10, none, .ok⟩])).map (·.1.index) = [4294967295, 0] :=
  ⟨_, rfl, rfl⟩

end Indices

end InxCoordinator
