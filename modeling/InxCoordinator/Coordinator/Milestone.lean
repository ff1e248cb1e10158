import InxCoordinator.Coordinator.Trace

/-! What `createAndSendMilestone` does, stage by stage: before the rename it only reports the
quorum's verdict and persists the migrator state, and every error except the quorum's is
critical; from the rename on it hands exactly the milestone it built to `sendBlockFunc`, and
every state it sets or writes records that milestone. -/
namespace InxCoordinator

/-- `state` records milestone `m`, whose payload hashes to `milestoneID`, sent with answer
`answer`. -/
def State.Describes (state : State) (m : Milestone) (milestoneID : MilestoneID)
    (answer : Except Error BlockID) : Prop :=
  state.latestMilestoneIndex = m.index ∧ state.latestMilestoneID = milestoneID ∧
    answer = .ok state.latestMilestoneBlockID

/-- The effects `createAndSendMilestone` can have after it hands milestone `m` over. -/
def Effect.AfterSend (m : Milestone) (milestoneID : MilestoneID)
    (answer : Except Error BlockID) : Effect → Prop
  | .persistMigratorState _ => True
  | .setState state => state.Describes m milestoneID answer
  | .writeStateFile (.valid state) => state.Describes m milestoneID answer
  | .writeStateFile .corrupt => True
  | .issuedMilestone _ _ _ => True
  | _ => False

/-- The effects `createAndSendMilestone` can have before the rename: the quorum's report and
the migrator state persisted before the send. -/
def Effect.BeforeRename (x : Effect) : Prop :=
  (∃ err, x = .quorumFinished err) ∨ x = .persistMigratorState true

/-- The milestone an effect hands to `sendBlockFunc`. -/
def Effect.milestone? : Effect → Option (Milestone × MilestoneID)
  | .sendBlock (.milestone m milestoneID) _ => some (m, milestoneID)
  | _ => none

variable {cfg : Config} {ans : MilestoneAnswers} {parents : List BlockID}
  {newMilestoneIndex : MilestoneIndex} {previousMilestoneID : MilestoneID} {e : Error}
  {m : Milestone} {milestoneID : MilestoneID}

@[simp] theorem askQuorum_effects :
    (askQuorum cfg ans).effects =
      if cfg.quorum then [.quorumFinished (ans.quorum.map QuorumFailure.toError)] else [] := by
  unfold askQuorum
  split
  · rcases ans.quorum with _ | f <;> rfl
  · rfl

/-- The quorum lets `createAndSendMilestone` on exactly when there is none or its verdict is
`nil`. -/
@[simp] theorem askQuorum_result_ok {u : Unit} :
    (askQuorum cfg ans).result = .ok u ↔ (cfg.quorum = true → ans.quorum = none) := by
  unfold askQuorum
  split <;> rcases ans.quorum with _ | f <;> simp_all

@[simp] theorem askQuorum_result_error :
    (askQuorum cfg ans).result = .error e ↔
      cfg.quorum = true ∧ ∃ f, ans.quorum = some f ∧ e = f.toError := by
  unfold askQuorum
  split <;> rcases ans.quorum with _ | f <;> simp [*, eq_comm]

@[simp] theorem mem_embedTreasury_effects {x : Effect} :
    x ∈ (embedTreasury cfg ans).effects ↔
      cfg.migrator = true ∧ ans.receipt.isSome ∧ x = .persistMigratorState true := by
  unfold embedTreasury
  split
  · split <;> simp_all
  · simp_all

theorem embedTreasury_error (h : (embedTreasury cfg ans).result = .error e) :
    e.kind = .critical := by
  unfold embedTreasury at h
  split at h
  · split at h <;> simp at h
    obtain ⟨e', -, rfl⟩ | ⟨-, ⟨e', -, rfl⟩ | ⟨_, -, h⟩⟩ := h <;> simp_all [criticalWrap]
  · cases h

/-- A receipt comes with the migrator state persisted before the send, and only then. -/
theorem embedTreasury_effects_of_ok {receipt? : Option ReceiptMilestoneOpt}
    (h : (embedTreasury cfg ans).result = .ok receipt?) :
    (embedTreasury cfg ans).effects =
      if receipt?.isSome then [.persistMigratorState true] else [] := by
  unfold embedTreasury at h ⊢
  by_cases hm : cfg.migrator = true
  · simp only [hm, if_true] at h ⊢
    rcases hr : ans.receipt with _ | receipt <;> simp only [hr] at h ⊢
    · cases h; rfl
    · rcases hp : ans.persistBeforeSend with _ | e' <;>
        rcases ho : ans.treasuryOutput with e' | out <;> simp [hp, ho] at h ⊢
      simp [← h]
  · simp only [hm, Bool.false_eq_true, if_false, Trace.pure_eq, Except.ok.injEq] at h ⊢
    simp [← h]

theorem embedTreasury_ok {receipt : ReceiptMilestoneOpt} {receipt? : Option ReceiptMilestoneOpt}
    (h : (embedTreasury cfg ans).result = .ok receipt?) (hMigrator : cfg.migrator = true)
    (hReceipt : ans.receipt = some receipt) :
    ∃ out, ans.treasuryOutput = .ok out ∧ receipt? = some { receipt with
      transaction := some ⟨out.milestoneID, out.amount - receipt.sum⟩ }.sortFunds := by
  unfold embedTreasury at h
  rcases hp : ans.persistBeforeSend with _ | e' <;> rcases ho : ans.treasuryOutput with e' | out <;>
    simp [hMigrator, hReceipt, hp, ho] at h
  exact ⟨out, rfl, h.symm⟩

/-- `prepareMilestone` stage by stage: it returns a milestone exactly when `merkleRootFunc`,
the quorum, the migrator, `createMilestone` and the milestone ID all let it through, and the
milestone is built from their answers. -/
theorem prepareMilestone_result_ok {p : Milestone × MilestoneID} :
    (prepareMilestone cfg ans parents newMilestoneIndex previousMilestoneID).result = .ok p ↔
      ∃ merkleProof receipt milestoneID, ans.merkleRoots = .ok merkleProof ∧
        (cfg.quorum = true → ans.quorum = none) ∧ (embedTreasury cfg ans).result = .ok receipt ∧
        ans.createMilestone = none ∧ ans.milestoneID = .ok milestoneID ∧
        p = (⟨newMilestoneIndex, UInt32.ofNat ans.now, removeDupsAndSort parents, receipt,
          previousMilestoneID, merkleProof⟩, milestoneID) := by
  simp only [prepareMilestone, Trace.bind_result_ok, Trace.check_result_ok, askQuorum_result_ok,
    Trace.checkNil_result_ok, Trace.pure_eq, Except.ok.injEq]
  constructor
  · rintro ⟨merkleProof, hm, -, hq, receipt, hE, -, hc, milestoneID, hi, rfl⟩
    exact ⟨merkleProof, receipt, milestoneID, hm, hq, hE, hc, hi, rfl⟩
  · rintro ⟨merkleProof, receipt, milestoneID, hm, hq, hE, hc, hi, rfl⟩
    exact ⟨merkleProof, hm, (), hq, receipt, hE, (), hc, milestoneID, hi, rfl⟩

/-- The quorum's verdict, reported by `QuorumFinished`, and the migrator state persisted
before the send are all `prepareMilestone` does. -/
theorem prepareMilestone_effects {x : Effect}
    (hx : x ∈ (prepareMilestone cfg ans parents newMilestoneIndex previousMilestoneID).effects) :
    x.BeforeRename := by
  simp only [prepareMilestone, Trace.mem_bind_effects, Trace.check_effects,
    Trace.checkNil_effects, askQuorum_effects, mem_embedTreasury_effects, Trace.pure_eq,
    List.not_mem_nil, false_or, and_false, exists_false, or_false] at hx
  obtain ⟨_, -, hx | ⟨_, -, -, -, rfl⟩⟩ := hx
  · split at hx
    · exact .inl ⟨_, List.mem_singleton.1 hx⟩
    · cases hx
  · exact .inr rfl

/-- Every error `prepareMilestone` returns is critical, except the quorum's verdict, which it
returns right after reporting it. -/
theorem prepareMilestone_error
    (h : (prepareMilestone cfg ans parents newMilestoneIndex previousMilestoneID).result = .error e) :
    e.kind = .critical ∨ (cfg.quorum = true ∧ ∃ f, ans.quorum = some f ∧ e = f.toError ∧
      (prepareMilestone cfg ans parents newMilestoneIndex previousMilestoneID).effects =
        [.quorumFinished (some e)]) := by
  simp only [prepareMilestone, Trace.bind_result_error, Trace.check_result_error,
    Trace.check_result_ok, askQuorum_result_error, askQuorum_result_ok,
    Trace.checkNil_result_error, Trace.checkNil_result_ok, Trace.pure_eq, reduceCtorEq,
    and_false, exists_false, or_false] at h
  rcases h with ⟨_, -, rfl⟩ | ⟨_, hm, ⟨hQuorum, f, hf, rfl⟩ | ⟨-, -, hE | ⟨-, -, ⟨_, -, rfl⟩ |
      ⟨-, -, _, -, rfl⟩⟩⟩⟩
  · exact .inl rfl
  -- the quorum's verdict, returned right after its report
  · have hA : (askQuorum cfg ans).result = .error f.toError :=
      askQuorum_result_error.2 ⟨hQuorum, f, hf, rfl⟩
    refine .inr ⟨hQuorum, f, hf, rfl, ?_⟩
    simp [prepareMilestone, hm, Trace.bind_of_error hA, hQuorum, hf]
  · exact .inl (embedTreasury_error hE)
  · exact .inl rfl
  · exact .inl rfl

theorem prepareMilestone_ok {milestone : Milestone × MilestoneID}
    (h : (prepareMilestone cfg ans parents newMilestoneIndex previousMilestoneID).result =
      .ok milestone) :
    milestone.1.index = newMilestoneIndex ∧
      milestone.1.previousMilestoneID = previousMilestoneID ∧
      milestone.1.parents = removeDupsAndSort parents ∧ ans.milestoneID = .ok milestone.2 ∧
      (embedTreasury cfg ans).result = .ok milestone.1.receipt := by
  obtain ⟨_, _, _, -, -, hE, -, hID, rfl⟩ := prepareMilestone_result_ok.1 h
  exact ⟨rfl, rfl, rfl, hID, hE⟩

/-- A `prepareMilestone` that succeeded reported the quorum's `nil` verdict if there is a
quorum, and persisted the migrator state exactly when the milestone carries a receipt. -/
theorem prepareMilestone_effects_of_ok {p : Milestone × MilestoneID}
    (h : (prepareMilestone cfg ans parents newMilestoneIndex previousMilestoneID).result = .ok p) :
    (prepareMilestone cfg ans parents newMilestoneIndex previousMilestoneID).effects =
      (if cfg.quorum then [.quorumFinished none] else []) ++
        (if p.1.receipt.isSome then [.persistMigratorState true] else []) := by
  obtain ⟨merkleProof, receipt, milestoneID, hm, hq, hE, hc, hi, rfl⟩ :=
    prepareMilestone_result_ok.1 h
  have hA : (askQuorum cfg ans).result = .ok () := askQuorum_result_ok.2 hq
  simp only [prepareMilestone, hm, hc, hi, Trace.check_ok, Trace.checkNil_none, Trace.mk_ok_bind,
    Trace.bind_of_ok hA, Trace.bind_of_ok hE, Trace.pure_eq, List.append_nil, List.nil_append,
    askQuorum_effects, embedTreasury_effects_of_ok hE]
  cases hQuorum : cfg.quorum
  · rfl
  · simp [hq hQuorum]

theorem writeStateFile_afterSend (write : WriteResult) {state : State}
    {answer : Except Error BlockID} (hState : state.Describes m milestoneID answer) :
    ∀ x ∈ (writeStateFile write state).effects, x.AfterSend m milestoneID answer := by
  rcases write with _ | ⟨_ | _ | _, err⟩ <;> simp [writeStateFile, Effect.AfterSend, hState]

theorem writeStateFile_error {write : WriteResult} {state : State}
    (h : (writeStateFile write state).result = .error e) : e.kind = .critical := by
  unfold writeStateFile at h
  rcases write with _ | ⟨_ | _ | _, err⟩ <;> simp [criticalWrap] at h <;> simp [← h]

theorem writeStateFile_ok {write : WriteResult} {state : State} {u : Unit}
    (h : (writeStateFile write state).result = .ok u) : write = .ok := by
  unfold writeStateFile at h
  rcases write with _ | ⟨_ | _ | _, err⟩ <;> simp at h ⊢

/-- From the rename on, `createAndSendMilestone` hands `m` to `sendBlockFunc` right after the
rename, and nothing it does afterwards hands another block or records another milestone. -/
theorem commitMilestone_shape (cfg : Config) (ans : MilestoneAnswers) (m : Milestone)
    (milestoneID : MilestoneID) :
    (commitMilestone cfg ans m milestoneID).effects = [] ∨
      ∃ rest, (commitMilestone cfg ans m milestoneID).effects =
          .renameStateFile :: .sendBlock (.milestone m milestoneID) ans.send :: rest ∧
        ∀ x ∈ rest, x.AfterSend m milestoneID ans.send := by
  unfold commitMilestone
  rcases hr : ans.rename with _ | e'
  · refine .inr ⟨_, by simp [hr]; rfl, ?_⟩
    rcases hs : ans.send with e' | blockID
    · simp
    · have hState : State.Describes ⟨m.index, milestoneID, blockID, ans.now⟩ m milestoneID
          (.ok blockID) := ⟨rfl, rfl, rfl⟩
      have hWrite := writeStateFile_afterSend ans.write hState
      by_cases hp : cfg.migrator = true ∧ m.receipt.isSome = true <;>
        simp only [hp, Trace.check_ok, and_self, ↓reduceIte, Trace.mk_ok_bind, List.nil_append,
          List.mem_cons, Trace.mem_bind_effects, Trace.checkNil_effects, List.not_mem_nil,
          Trace.checkNil_result_ok, List.mem_singleton, exists_and_right, exists_const, false_or,
          or_false, forall_eq_or_imp, and_imp]
      -- the state set, what the write leaves and the event all record m
      · refine ⟨trivial, fun x _ hx => ?_⟩
        rcases hx with rfl | hx | ⟨-, rfl⟩
        exacts [hState, hWrite x hx, trivial]
      · refine ⟨hState, fun x hx => ?_⟩
        rcases hx with hx | ⟨-, rfl⟩
        exacts [hWrite x hx, trivial]
  · simp [hr]

/-- Every error from the rename on is critical. -/
theorem commitMilestone_error (h : (commitMilestone cfg ans m milestoneID).result = .error e) :
    e.kind = .critical := by
  have hWrite := fun e state => @writeStateFile_error e ans.write state
  unfold commitMilestone at h
  by_cases hp : cfg.migrator = true ∧ m.receipt.isSome = true <;>
    simp only [hp, Trace.emit_eq, Bool.and_self, Bool.and_eq_true, ↓reduceIte, Trace.pure_eq,
      Trace.mk_ok_bind, List.singleton_append, List.nil_append, Trace.bind_result_error,
      Trace.checkNil_result_error, Trace.checkNil_result_ok, Trace.check_result_error,
      Trace.check_result_ok, criticalWrap, reduceCtorEq, and_false, exists_const, or_false] at h
  -- each error is wrapped critical, the state file's by writeStateFile
  · rcases h with ⟨_, -, rfl⟩ | ⟨-, ⟨_, -, rfl⟩ | ⟨_, -, ⟨_, -, rfl⟩ | ⟨-, hW⟩⟩⟩
    exacts [rfl, rfl, rfl, hWrite _ _ hW]
  · rcases h with ⟨_, -, rfl⟩ | ⟨-, ⟨_, -, rfl⟩ | ⟨_, -, hW⟩⟩
    exacts [rfl, rfl, hWrite _ _ hW]

/-- A `createAndSendMilestone` that gets past the rename and succeeds sets and returns the
state that records the milestone it sent. -/
theorem commitMilestone_ok {state : State}
    (h : (commitMilestone cfg ans m milestoneID).result = .ok state) :
    state.Describes m milestoneID ans.send ∧
      Effect.setState state ∈ (commitMilestone cfg ans m milestoneID).effects := by
  unfold commitMilestone at h ⊢
  by_cases hp : cfg.migrator = true ∧ m.receipt.isSome = true <;>
    simp only [hp, State.Describes, Trace.emit_eq, Bool.and_self, Bool.and_eq_true, ↓reduceIte,
      Trace.pure_eq, Trace.mk_ok_bind, List.singleton_append, List.nil_append, Trace.bind_result_ok,
      Trace.checkNil_result_ok, Trace.check_result_ok, Except.ok.injEq, Trace.mem_bind_effects,
      Trace.checkNil_effects, Trace.check_effects, List.not_mem_nil, List.mem_cons,
      List.mem_singleton, Effect.setState.injEq, reduceCtorEq, exists_and_right, exists_const,
      and_false, or_false, false_or] at h ⊢
  · obtain ⟨hr, _, hs, hPersist, -, rfl⟩ := h
    exact ⟨⟨rfl, rfl, hs⟩, hr, _, hs, hPersist, .inl rfl⟩
  · obtain ⟨hr, _, hs, -, rfl⟩ := h
    exact ⟨⟨rfl, rfl, hs⟩, hr, _, hs, .inl rfl⟩

theorem createAndSendMilestone_eq :
    createAndSendMilestone cfg ans parents newMilestoneIndex previousMilestoneID =
      prepareMilestone cfg ans parents newMilestoneIndex previousMilestoneID >>= fun p =>
        commitMilestone cfg ans p.1 p.2 :=
  rfl

/-- `createAndSendMilestone` either stops before the rename, with only reports and the
migrator behind it, or hands exactly one milestone, the one with the index and previous
milestone ID it was given, right after the rename, and afterwards only records it. -/
theorem createAndSendMilestone_effects (cfg : Config) (ans : MilestoneAnswers)
    (parents : List BlockID) (newMilestoneIndex : MilestoneIndex)
    (previousMilestoneID : MilestoneID) :
    (∀ x ∈ (createAndSendMilestone cfg ans parents newMilestoneIndex previousMilestoneID).effects,
        x.BeforeRename) ∨
      ∃ pre m milestoneID rest,
        (createAndSendMilestone cfg ans parents newMilestoneIndex previousMilestoneID).effects =
          pre ++ .renameStateFile :: .sendBlock (.milestone m milestoneID) ans.send :: rest ∧
        (∀ x ∈ pre, x.BeforeRename) ∧ m.index = newMilestoneIndex ∧
        m.previousMilestoneID = previousMilestoneID ∧ m.parents = removeDupsAndSort parents ∧
        ∀ x ∈ rest, x.AfterSend m milestoneID ans.send := by
  rw [createAndSendMilestone_eq]
  rcases hp : (prepareMilestone cfg ans parents newMilestoneIndex previousMilestoneID).result
    with e' | ⟨m, milestoneID⟩
  · exact .inl fun x hx => prepareMilestone_effects (by simpa [Trace.bind_of_error hp] using hx)
  · obtain ⟨hIndex, hPrev, hParents, -⟩ := prepareMilestone_ok hp
    rw [Trace.bind_of_ok hp]
    rcases commitMilestone_shape cfg ans m milestoneID with hNil | ⟨rest, hRest, hAfter⟩
    · exact .inl fun x hx => prepareMilestone_effects (by simpa [hNil] using hx)
    · exact .inr ⟨_, m, milestoneID, rest, by rw [hRest], fun x hx => prepareMilestone_effects hx,
        hIndex, hPrev, hParents, hAfter⟩

theorem createAndSendMilestone_error
    (h : (createAndSendMilestone cfg ans parents newMilestoneIndex previousMilestoneID).result =
      .error e) :
    e.kind = .critical ∨ (cfg.quorum = true ∧ ∃ f, ans.quorum = some f ∧ e = f.toError ∧
      (createAndSendMilestone cfg ans parents newMilestoneIndex previousMilestoneID).effects =
        [.quorumFinished (some e)]) := by
  rw [createAndSendMilestone_eq] at h ⊢
  rcases hp : (prepareMilestone cfg ans parents newMilestoneIndex previousMilestoneID).result
    with e' | ⟨m, milestoneID⟩
  · rw [Trace.bind_of_error hp] at h ⊢
    cases h
    exact prepareMilestone_error hp
  · rw [Trace.bind_of_ok hp] at h
    exact .inl (commitMilestone_error h)

/-- A successful `createAndSendMilestone` handed its milestone and set the state that records
it. -/
theorem createAndSendMilestone_ok {state : State}
    (h : (createAndSendMilestone cfg ans parents newMilestoneIndex previousMilestoneID).result =
      .ok state) :
    ∃ m milestoneID, m.index = newMilestoneIndex ∧ m.previousMilestoneID = previousMilestoneID ∧
      state.Describes m milestoneID ans.send ∧ Effect.setState state ∈
        (createAndSendMilestone cfg ans parents newMilestoneIndex previousMilestoneID).effects := by
  rw [createAndSendMilestone_eq] at h ⊢
  obtain ⟨⟨m, milestoneID⟩, hp, hc⟩ := Trace.bind_result_ok.1 h
  obtain ⟨hIndex, hPrev, -⟩ := prepareMilestone_ok hp
  obtain ⟨hState, hSet⟩ := commitMilestone_ok hc
  exact ⟨m, milestoneID, hIndex, hPrev, hState, by simp [Trace.bind_of_ok hp, hSet]⟩

/-- The only milestone `createAndSendMilestone` hands over is the one it prepared. -/
theorem prepareMilestone_of_sendBlock {answer : Except Error BlockID}
    (hSent : .sendBlock (.milestone m milestoneID) answer ∈
      (createAndSendMilestone cfg ans parents newMilestoneIndex previousMilestoneID).effects) :
    (prepareMilestone cfg ans parents newMilestoneIndex previousMilestoneID).result =
      .ok (m, milestoneID) := by
  have hBefore : ∀ x ∈ (prepareMilestone cfg ans parents newMilestoneIndex
      previousMilestoneID).effects, x ≠ .sendBlock (.milestone m milestoneID) answer :=
    fun x hx hEq => by simpa [hEq, Effect.BeforeRename] using prepareMilestone_effects hx
  rw [createAndSendMilestone_eq] at hSent
  rcases hp : (prepareMilestone cfg ans parents newMilestoneIndex previousMilestoneID).result
    with e' | ⟨m', milestoneID'⟩
  · rw [Trace.bind_of_error hp] at hSent
    exact absurd rfl (hBefore _ hSent)
  · rw [Trace.bind_of_ok hp] at hSent
    rcases List.mem_append.1 hSent with hPre | hCommit
    · exact absurd rfl (hBefore _ hPre)
    rcases commitMilestone_shape cfg ans m' milestoneID' with hNil | ⟨rest, hRest, hAfter⟩
    · simp [hNil] at hCommit
    simp only [hRest, List.mem_cons] at hCommit
    rcases hCommit with hRename | hMilestone | hLater
    · cases hRename
    · cases hMilestone; rfl
    · exact False.elim (hAfter _ hLater)

/-- With the migrator's receipt, the milestone handed over carries a treasury transaction from
the latest treasury output, whose new amount is the old one minus the receipt's sum in
`uint64`: the exact difference when the receipt is covered. Nothing checks that it is: when the
receipt is worth more than the treasury holds, the new amount wraps around past the old one.
A failed `treasuryOutputFunc` hands nothing over and leaves no trace but the quorum's report and
the migrator state persisted before the send; once it is reached, its error comes back wrapped
critical. -/
theorem createAndSendMilestone_treasury {receipt : ReceiptMilestoneOpt}
    (hMigrator : cfg.migrator = true) (hReceipt : ans.receipt = some receipt) :
    (∀ m milestoneID answer, .sendBlock (.milestone m milestoneID) answer ∈
        (createAndSendMilestone cfg ans parents newMilestoneIndex previousMilestoneID).effects →
      ∃ out, ans.treasuryOutput = .ok out ∧ m.receipt = some { receipt with
          transaction := some ⟨out.milestoneID, out.amount - receipt.sum⟩ }.sortFunds ∧
        (receipt.sum ≤ out.amount →
          (out.amount - receipt.sum).toNat = out.amount.toNat - receipt.sum.toNat) ∧
        (out.amount < receipt.sum → out.amount < out.amount - receipt.sum)) ∧
    ∀ err, ans.treasuryOutput = .error err →
      (∀ x ∈ (createAndSendMilestone cfg ans parents newMilestoneIndex
          previousMilestoneID).effects, x.BeforeRename) ∧
      ((∃ roots, ans.merkleRoots = .ok roots) → (cfg.quorum = true → ans.quorum = none) →
        ans.persistBeforeSend = none →
        (createAndSendMilestone cfg ans parents newMilestoneIndex previousMilestoneID).result =
          .error (criticalWrap "unable to fetch unspent treasury output" err)) := by
  -- a milestone handed over means every stage before it, the migrator's included, went through
  have hHanded : ∀ m milestoneID answer, .sendBlock (.milestone m milestoneID) answer ∈
      (createAndSendMilestone cfg ans parents newMilestoneIndex previousMilestoneID).effects →
      ∃ out, ans.treasuryOutput = .ok out ∧ m.receipt = some { receipt with
        transaction := some ⟨out.milestoneID, out.amount - receipt.sum⟩ }.sortFunds := by
    intro m milestoneID answer hSent
    obtain ⟨-, -, -, -, hEmbed⟩ := prepareMilestone_ok (prepareMilestone_of_sendBlock hSent)
    exact embedTreasury_ok hEmbed hMigrator hReceipt
  refine ⟨fun m milestoneID answer hSent => ?_, fun err hErr => ⟨?_, fun ⟨roots, hm⟩ hq hp => ?_⟩⟩
  · obtain ⟨out, hOut, hm⟩ := hHanded m milestoneID answer hSent
    refine ⟨out, hOut, hm, UInt64.toNat_sub_of_le _ _, fun hLess => ?_⟩
    -- the wrapped amount is 2^64 + A - S, and S < 2^64
    have hLess' : out.amount.toNat < receipt.sum.toNat := hLess
    have hSize := UInt64.toNat_lt_size receipt.sum
    show out.amount.toNat < (out.amount - receipt.sum).toNat
    rw [UInt64.toNat_sub, Nat.mod_eq_of_lt (by omega)]
    omega
  · rcases createAndSendMilestone_effects cfg ans parents newMilestoneIndex previousMilestoneID
      with hBefore | ⟨_, m, milestoneID, _, hEq, -⟩
    · exact hBefore
    · obtain ⟨out, hOut, -⟩ := hHanded m milestoneID ans.send (by simp [hEq])
      simp [hErr] at hOut
  · have hA : (askQuorum cfg ans).result = .ok () := askQuorum_result_ok.2 hq
    have hE : (embedTreasury cfg ans).result =
        .error (criticalWrap "unable to fetch unspent treasury output" err) := by
      simp [embedTreasury, hMigrator, hReceipt, hp, hErr]
    simp [createAndSendMilestone_eq, prepareMilestone, hm, Trace.bind_of_ok hA,
      Trace.bind_of_error hE]

theorem createAndSendMilestone_treasury_covered :
    ∃ (ans : MilestoneAnswers) (receipt : ReceiptMilestoneOpt),
      (⟨"coordinator.state", false, true⟩ : Config).migrator = true ∧ ans.receipt = some receipt ∧
      (∀ m milestoneID answer, .sendBlock (.milestone m milestoneID) answer ∈
          (createAndSendMilestone ⟨"coordinator.state", false, true⟩ ans [] 1 0).effects →
        ∃ out, ans.treasuryOutput = .ok out ∧ m.receipt = some { receipt with
            transaction := some ⟨out.milestoneID, out.amount - receipt.sum⟩ }.sortFunds ∧
          (receipt.sum ≤ out.amount →
            (out.amount - receipt.sum).toNat = out.amount.toNat - receipt.sum.toNat) ∧
          (out.amount < receipt.sum → out.amount < out.amount - receipt.sum)) ∧
      ∀ err, ans.treasuryOutput = .error err →
        (∀ x ∈ (createAndSendMilestone ⟨"coordinator.state", false, true⟩ ans [] 1 0).effects,
          x.BeforeRename) ∧
        ((∃ roots, ans.merkleRoots = .ok roots) →
          ((⟨"coordinator.state", false, true⟩ : Config).quorum = true → ans.quorum = none) →
          ans.persistBeforeSend = none →
          (createAndSendMilestone ⟨"coordinator.state", false, true⟩ ans [] 1 0).result =
            .error (criticalWrap "unable to fetch unspent treasury output" err)) :=
  ⟨{ now := 100, merkleRoots := .ok ⟨1, 2⟩, quorum := none, receipt := some ⟨[⟨3, 10⟩], none⟩,
      persistBeforeSend := none, treasuryOutput := .ok ⟨7, 15⟩, createMilestone := none,
      milestoneID := .ok 11, rename := none, send := .ok 13, persistAfterSend := none,
      write := .ok }, _, rfl, rfl, createAndSendMilestone_treasury rfl rfl⟩

/-- The migrator's receipt moves 10 tokens out of a treasury output that holds 5. The
milestone handed to `sendBlockFunc` carries a treasury output of `2^64 - 5`. -/
theorem createAndSendMilestone_treasury_wraps :
    ∃ m milestoneID answer tx,
      Effect.sendBlock (.milestone m milestoneID) answer ∈
        (createAndSendMilestone ⟨"coordinator.state", false, true⟩
          { now := 100, merkleRoots := .ok ⟨1, 2⟩, quorum := none,
            receipt := some ⟨[⟨3, 10⟩], none⟩, persistBeforeSend := none,
            treasuryOutput := .ok ⟨7, 5⟩, createMilestone := none, milestoneID := .ok 11,
            rename := none, send := .ok 13, persistAfterSend := none, write := .ok } [] 1 0).effects ∧
      m.receipt = some ⟨[⟨3, 10⟩], some tx⟩ ∧ tx.input = 7 ∧ tx.outputAmount.toNat = 2 ^ 64 - 5 :=
  ⟨_, _, _, _, .tail _ (.tail _ (.head _)), rfl, rfl, rfl⟩

/-- Retry safety of `IssueMilestone`'s errors. A soft error comes with no effect but the
`QuorumFinished` report: no block handed, no migrator state persisted, the state file neither
renamed nor written, `coo.state` unchanged. Every error after the rename is critical. The only
soft errors are `ErrNodeNotSynced`, `ErrNodeLoadTooHigh` and `ErrQuorumGroupNoAnswer`. -/
theorem issueMilestone_soft_error {coo : Coordinator} {isNodeSynced : Bool}
    {backPressure : List Bool}
    (h : (issueMilestone cfg coo parents isNodeSynced backPressure ans).result = .error e) :
    (e.kind = .soft →
      (∀ x ∈ (issueMilestone cfg coo parents isNodeSynced backPressure ans).effects,
        x = .quorumFinished (some e)) ∧
      (issueMilestone cfg coo parents isNodeSynced backPressure ans).effects.foldl
        Coordinator.apply coo = coo) ∧
    (.renameStateFile ∈ (issueMilestone cfg coo parents isNodeSynced backPressure ans).effects →
      e.kind = .critical) ∧
    (e.kind = .soft → e = .soft (.sentinel .nodeNotSynced) ∨
      e = .soft (.sentinel .nodeLoadTooHigh) ∨ e = .soft (.sentinel .quorumGroupNoAnswer)) := by
  unfold issueMilestone at h ⊢
  by_cases hSynced : isNodeSynced = true
  · by_cases hPressure : checkBackPressureFunctions backPressure = true
    · simp [hSynced, hPressure] at h ⊢; simp [← h]
    · simp only [hSynced, hPressure, Bool.not_true, Bool.false_eq_true, if_false] at h ⊢
      have hc : (createAndSendMilestone cfg ans parents (coo.state.latestMilestoneIndex + 1)
          coo.state.latestMilestoneID).result = .error e := by simpa using h
      rw [Trace.bind_of_error hc]
      rcases createAndSendMilestone_error hc with hCrit | ⟨-, f, -, rfl, hEff⟩
      · simp [hCrit]
      · rw [hEff]
        cases f <;> simp [QuorumFailure.toError, Coordinator.apply]
  · simp [hSynced] at h ⊢; simp [← h]

theorem issueMilestone_soft_error_noAnswer :
    ∃ (coo : Coordinator) (ans : MilestoneAnswers) (e : Error),
      (issueMilestone ⟨"coordinator.state", true, false⟩ coo [3] true [false] ans).result =
        .error e ∧
      (e.kind = .soft →
        (∀ x ∈ (issueMilestone ⟨"coordinator.state", true, false⟩ coo [3] true [false] ans).effects,
          x = .quorumFinished (some e)) ∧
        (issueMilestone ⟨"coordinator.state", true, false⟩ coo [3] true [false] ans).effects.foldl
          Coordinator.apply coo = coo) ∧
      (.renameStateFile ∈
          (issueMilestone ⟨"coordinator.state", true, false⟩ coo [3] true [false] ans).effects →
        e.kind = .critical) ∧
      (e.kind = .soft → e = .soft (.sentinel .nodeNotSynced) ∨
        e = .soft (.sentinel .nodeLoadTooHigh) ∨ e = .soft (.sentinel .quorumGroupNoAnswer)) :=
  ⟨⟨⟨5, 7, 9, 0⟩, true⟩,
    { now := 100, merkleRoots := .ok ⟨1, 2⟩, quorum := some .noAnswer, receipt := none,
      persistBeforeSend := none, treasuryOutput := .ok ⟨0, 0⟩, createMilestone := none,
      milestoneID := .ok 11, rename := none, send := .ok 13, persistAfterSend := none,
      write := .ok },
    _, rfl, issueMilestone_soft_error rfl⟩

end InxCoordinator
