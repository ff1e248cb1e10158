import InxCoordinator.Quorum.Round

/-! The coordinator: its state and state file, the milestone and checkpoint pipelines, and
what each operation does to the world, in order. `milestoneLock` makes each of `Bootstrap`,
`IssueMilestone` and `IssueCheckpoint` one atomic step; every callback (`merkleRootFunc`, the
quorum round, the migrator, `treasuryOutputFunc`, `createMilestone`, `sendBlockFunc`, the
clock, the sync and back-pressure predicates) is an answer the environment picks. Logging and
the signer are left out. -/
namespace InxCoordinator

/-- The fields of `State`. `LatestMilestoneTime` is a `time.Time`, kept in Unix seconds. -/
structure State where
  latestMilestoneIndex : MilestoneIndex
  latestMilestoneID : MilestoneID
  latestMilestoneBlockID : BlockID
  latestMilestoneTime : Nat
  deriving DecidableEq, Repr

/-- What a file holds: a state `ReadJSONFromFile` loads, or bytes it cannot parse, as a torn
write leaves them. -/
inductive StateFile where
  | valid (state : State)
  | corrupt
  deriving DecidableEq, Repr

/-- `LatestMilestoneInfo`, with the fields `InitState` reads; its timestamp is read by
nothing modelled. -/
structure LatestMilestoneInfo where
  index : MilestoneIndex
  milestoneID : MilestoneID
  deriving DecidableEq, Repr

structure LatestTreasuryOutput where
  milestoneID : MilestoneID
  amount : UInt64
  deriving DecidableEq, Repr

/-- `iotago.MigratedFundsEntry`, with the fields the coordinator reads; the 49-byte tail
transaction hash is read as a big-endian number. -/
structure MigratedFundsEntry where
  tailTransactionHash : Nat
  deposit : UInt64
  deriving DecidableEq, Repr

/-- `iotago.TreasuryTransaction`: the previous treasury output's milestone ID and the new
output's amount. -/
structure TreasuryTransaction where
  input : MilestoneID
  outputAmount : UInt64
  deriving DecidableEq, Repr

structure ReceiptMilestoneOpt where
  funds : List MigratedFundsEntry
  transaction : Option TreasuryTransaction
  deriving DecidableEq, Repr

/-- `ReceiptMilestoneOpt.Sum`: the deposits added up in `uint64`. -/
def ReceiptMilestoneOpt.sum (receipt : ReceiptMilestoneOpt) : UInt64 :=
  receipt.funds.foldl (fun sum fund => sum + fund.deposit) 0

/-- `ReceiptMilestoneOpt.SortFunds`: the funds by tail transaction hash. -/
def ReceiptMilestoneOpt.sortFunds (receipt : ReceiptMilestoneOpt) : ReceiptMilestoneOpt :=
  { receipt with
    funds := receipt.funds.insertionSort fun a b => a.tailTransactionHash ≤ b.tailTransactionHash }

/-- Modelled from the spec: the milestone payload `createMilestone` builds and signs from the
inputs `createAndSendMilestone` gives it. -/
structure Milestone where
  index : MilestoneIndex
  timestamp : UInt32
  parents : List BlockID
  receipt : Option ReceiptMilestoneOpt
  previousMilestoneID : MilestoneID
  merkleRoots : MilestoneMerkleRoots
  deriving DecidableEq, Repr

/-- A block handed to `sendBlockFunc`: a milestone, with the ID its payload hashes to, or a
checkpoint, with its parents. -/
inductive Block where
  | milestone (milestone : Milestone) (milestoneID : MilestoneID)
  | checkpoint (parents : List BlockID)
  deriving DecidableEq, Repr

/-- What the code does to the world. -/
inductive Effect where
  /-- `Events.QuorumFinished`, with the round's error. -/
  | quorumFinished (err : Option Error)
  /-- `migratorService.PersistState(sendingReceipt)`. -/
  | persistMigratorState (sendingReceipt : Bool)
  /-- `os.Rename(stateFilePath, stateFilePath + "_old")`. -/
  | renameStateFile
  /-- `sendBlockFunc(block)`, and what it answered. -/
  | sendBlock (block : Block) (answer : Except Error BlockID)
  /-- The four fields of `coo.state` set. -/
  | setState (state : State)
  /-- What `WriteJSONToFile` left at `stateFilePath`. -/
  | writeStateFile (file : StateFile)
  /-- `Events.IssuedMilestone`. -/
  | issuedMilestone (index : MilestoneIndex) (milestoneID : MilestoneID) (blockID : BlockID)
  /-- `coo.bootstrapped = true`. -/
  | setBootstrapped
  /-- `Events.IssuedCheckpointBlock`. -/
  | issuedCheckpointBlock (checkpointIndex i checkpointsNumber : Nat) (blockID : BlockID)

/-- What a piece of code did: its effects in order, then the value it returned or the error
it returned. -/
structure Trace (α : Type) where
  effects : List Effect
  result : Except Error α

namespace Trace

variable {α β : Type}

def bind (t : Trace α) (f : α → Trace β) : Trace β :=
  match t.result with
  | .error e => ⟨t.effects, .error e⟩
  | .ok a => ⟨t.effects ++ (f a).effects, (f a).result⟩

instance : Monad Trace where
  pure a := ⟨[], .ok a⟩
  bind := bind

def emit (e : Effect) : Trace Unit := ⟨[e], .ok ()⟩

def fail (e : Error) : Trace α := ⟨[], .error e⟩

/-- A callback's answer: its value, or its error as the code wraps it. -/
def check (answer : Except Error α) (wrap : Error → Error) : Trace α :=
  match answer with
  | .ok a => pure a
  | .error e => fail (wrap e)

/-- A callback that only answers an error, or `nil`. -/
def checkNil (answer : Option Error) (wrap : Error → Error) : Trace Unit :=
  match answer with
  | none => pure ()
  | some e => fail (wrap e)

/-- `common.CriticalError(err)` around the error a piece of code returns. -/
def mapError (t : Trace α) (wrap : Error → Error) : Trace α :=
  match t.result with
  | .error e => ⟨t.effects, .error (wrap e)⟩
  | .ok a => ⟨t.effects, .ok a⟩

/-- Whether an operation ended with a critical error, after which its caller stops. -/
def isCritical (t : Trace α) : Bool :=
  match t.result with
  | .error e => e.kind == .critical
  | .ok _ => false

end Trace

/-- `common.CriticalError(fmt.Errorf(text + ": %w", err))`. -/
def criticalWrap (text : String) (err : Error) : Error := .critical (.wrap text err)

/-- `common.SoftError(fmt.Errorf(text + ": %w", err))`. -/
def softWrap (text : String) (err : Error) : Error := .soft (.wrap text err)

/-- A Go slice expression `s[lo:hi]`; out of bounds it panics, and the process ends. -/
def goSlice {α : Type} (s : List α) (lo hi : Nat) : Trace (List α) :=
  if lo ≤ hi ∧ hi ≤ s.length then pure ((s.drop lo).take (hi - lo))
  else Trace.fail (.message "runtime error: slice bounds out of range")

/-- What `ioutils.WriteJSONToFile` leaves at the path when it fails. -/
inductive WriteLeftover where
  | nothing
  | truncated
  | whole
  deriving DecidableEq, Repr

inductive WriteResult where
  | ok
  | failed (leftover : WriteLeftover) (err : Error)
  deriving DecidableEq, Repr

/-- The answers of the callbacks of one `createAndSendMilestone`. -/
structure MilestoneAnswers where
  /-- `time.Now()`, in Unix seconds. -/
  now : Nat
  merkleRoots : Except Error MilestoneMerkleRoots
  /-- The verdict of the quorum round. -/
  quorum : Option QuorumFailure
  /-- `migratorService.Receipt()`. -/
  receipt : Option ReceiptMilestoneOpt
  persistBeforeSend : Option Error
  treasuryOutput : Except Error LatestTreasuryOutput
  createMilestone : Option Error
  milestoneID : Except Error MilestoneID
  /-- An error of `os.Rename` other than `IsNotExist`. -/
  rename : Option Error
  send : Except Error BlockID
  persistAfterSend : Option Error
  write : WriteResult

/-- The answers of `createCheckpoint` and `sendBlockFunc` in iteration `i` of the loop. -/
structure CheckpointAnswers where
  createCheckpoint : Nat → Option Error
  send : Nat → Except Error BlockID

/-- The options and collaborators that decide which branches run. -/
structure Config where
  stateFilePath : String
  /-- `coo.opts.quorum != nil`. -/
  quorum : Bool
  /-- `coo.migratorService != nil`; `New` then also has a `treasuryOutputFunc`. -/
  migrator : Bool
  deriving DecidableEq, Repr

/-- The coordinator's memory: `coo.state` and `coo.bootstrapped`. -/
structure Coordinator where
  state : State
  bootstrapped : Bool
  deriving DecidableEq, Repr

/-- `InitState`; `stateFile` is what is at `stateFilePath`, `now` the clock. All its errors
end the process. -/
def initState (cfg : Config) (stateFile : Option StateFile) (bootstrap : Bool)
    (startIndex : MilestoneIndex) (latestMilestone : LatestMilestoneInfo) (now : Nat) :
    Except Error Coordinator :=
  if bootstrap then do
    if stateFile.isSome then throw (.sentinel .networkBootstrapped)
    -- start with milestone 1 at least
    let startIndex : MilestoneIndex := if startIndex = 0 then 1 else startIndex
    if latestMilestone.index ≠ startIndex - 1 then
      throw (.message ("previous milestone does not match latest milestone in node! previous: " ++
        toString (startIndex - 1) ++ ", INX: " ++ toString latestMilestone.index))
    let latestMilestoneID ←
      if startIndex ≠ 1 then
        if latestMilestone.milestoneID = emptyMilestoneID then
          throw (.message "previous milestone milestoneID should not be genesis")
        else pure latestMilestone.milestoneID
      else pure emptyMilestoneID
    pure ⟨⟨startIndex - 1, latestMilestoneID, emptyBlockID, now⟩, false⟩
  else
    match stateFile with
    | none => .error (.message ("state file not found: " ++ cfg.stateFilePath))
    | some .corrupt => .error (.message "unexpected end of JSON input")
    | some (.valid state) =>
      if latestMilestone.index ≠ state.latestMilestoneIndex then
        .error (.message ("previous milestone does not match latest milestone in node. previous: " ++
          toString state.latestMilestoneIndex ++ ", INX: " ++ toString latestMilestone.index))
      else .ok ⟨state, true⟩

/-- The quorum's part of `createAndSendMilestone`: with a quorum, the round's verdict
reported by `QuorumFinished`, and returned unless it is `nil`. -/
def askQuorum (cfg : Config) (ans : MilestoneAnswers) : Trace Unit :=
  if cfg.quorum then do
    let err := ans.quorum.map QuorumFailure.toError
    Trace.emit (.quorumFinished err)
    if let some e := err then Trace.fail e
  else pure ()

/-- The migrator's part of `createAndSendMilestone`: with a migrator that has a receipt, the
migrator state persisted, then the treasury transaction embedded and the funds sorted. -/
def embedTreasury (cfg : Config) (ans : MilestoneAnswers) : Trace (Option ReceiptMilestoneOpt) :=
  if cfg.migrator then
    match ans.receipt with
    | none => pure none
    | some receipt => do
      Trace.emit (.persistMigratorState true)
      Trace.checkNil ans.persistBeforeSend
        (criticalWrap "unable to persist migrator state before send")
      let currentTreasuryOutput ← Trace.check ans.treasuryOutput
        (criticalWrap "unable to fetch unspent treasury output")
      let treasuryTx : TreasuryTransaction :=
        ⟨currentTreasuryOutput.milestoneID, currentTreasuryOutput.amount - receipt.sum⟩
      pure (some { receipt with transaction := some treasuryTx }.sortFunds)
  else pure none

/-- `createAndSendMilestone` up to the rename of the state file: the merkle roots, the quorum,
the receipt, the milestone and its ID. -/
def prepareMilestone (cfg : Config) (ans : MilestoneAnswers) (parents : List BlockID)
    (newMilestoneIndex : MilestoneIndex) (previousMilestoneID : MilestoneID) :
    Trace (Milestone × MilestoneID) := do
  let parents := removeDupsAndSort parents
  let timestamp := UInt32.ofNat ans.now
  let merkleProof ← Trace.check ans.merkleRoots (criticalWrap "failed to compute white flag mutations")
  askQuorum cfg ans
  let receipt ← embedTreasury cfg ans
  Trace.checkNil ans.createMilestone (criticalWrap "failed to create milestone")
  let milestone : Milestone :=
    ⟨newMilestoneIndex, timestamp, parents, receipt, previousMilestoneID, merkleProof⟩
  let milestoneID ← Trace.check ans.milestoneID (criticalWrap "failed to compute milestone ID")
  pure (milestone, milestoneID)

/-- `WriteJSONToFile(stateFilePath, coo.state)`: what it leaves, then its error. -/
def writeStateFile (write : WriteResult) (state : State) : Trace Unit :=
  match write with
  | .ok => Trace.emit (.writeStateFile (.valid state))
  | .failed leftover err => do
    match leftover with
    | .nothing => pure ()
    | .truncated => Trace.emit (.writeStateFile .corrupt)
    | .whole => Trace.emit (.writeStateFile (.valid state))
    Trace.fail (criticalWrap "failed to update coordinator state file" err)

/-- `createAndSendMilestone` from the rename of the state file on: the milestone is sent, the
new state set and written. -/
def commitMilestone (cfg : Config) (ans : MilestoneAnswers) (milestone : Milestone)
    (milestoneID : MilestoneID) : Trace State := do
  -- rename the coordinator state file to mark the state as invalid
  Trace.checkNil ans.rename (criticalWrap "unable to rename old coordinator state file")
  Trace.emit .renameStateFile
  Trace.emit (.sendBlock (.milestone milestone milestoneID) ans.send)
  let latestMilestoneBlockID ← Trace.check ans.send (criticalWrap "failed to send milestone")
  if cfg.migrator && milestone.receipt.isSome then
    Trace.emit (.persistMigratorState false)
    Trace.checkNil ans.persistAfterSend (criticalWrap "unable to persist migrator state after send")
  let state : State := ⟨milestone.index, milestoneID, latestMilestoneBlockID, ans.now⟩
  Trace.emit (.setState state)
  writeStateFile ans.write state
  Trace.emit (.issuedMilestone state.latestMilestoneIndex state.latestMilestoneID
    state.latestMilestoneBlockID)
  pure state

/-- `createAndSendMilestone`; its value is the new `coo.state`. -/
def createAndSendMilestone (cfg : Config) (ans : MilestoneAnswers) (parents : List BlockID)
    (newMilestoneIndex : MilestoneIndex) (previousMilestoneID : MilestoneID) : Trace State := do
  let (milestone, milestoneID) ←
    prepareMilestone cfg ans parents newMilestoneIndex previousMilestoneID
  commitMilestone cfg ans milestone milestoneID

/-- `checkBackPressureFunctions`, given each function's answer. -/
def checkBackPressureFunctions (answers : List Bool) : Bool := answers.any id

/-- `Bootstrap`. Every error it returns is critical. -/
def bootstrap (cfg : Config) (coo : Coordinator) (ans : MilestoneAnswers) : Trace BlockID :=
  if coo.bootstrapped then pure coo.state.latestMilestoneBlockID
  else do
    -- only one parent references the last known milestone
    let state ← (createAndSendMilestone cfg ans [coo.state.latestMilestoneBlockID]
      (coo.state.latestMilestoneIndex + 1) coo.state.latestMilestoneID).mapError .critical
    Trace.emit .setBootstrapped
    pure state.latestMilestoneBlockID

/-- `IssueMilestone`. -/
def issueMilestone (cfg : Config) (coo : Coordinator) (parents : List BlockID)
    (isNodeSynced : Bool) (backPressure : List Bool) (ans : MilestoneAnswers) : Trace BlockID :=
  if !isNodeSynced then Trace.fail (.soft (.sentinel .nodeNotSynced))
  else if checkBackPressureFunctions backPressure then Trace.fail (.soft (.sentinel .nodeLoadTooHigh))
  else do
    let state ← createAndSendMilestone cfg ans parents (coo.state.latestMilestoneIndex + 1)
      coo.state.latestMilestoneID
    pure state.latestMilestoneBlockID

/-- `int(math.Ceil(float64(n) / 7.0))`: the integer ceiling of `n / 7`, which the float
expression computes exactly for `n < 2^53`. -/
def checkpointsNumber (n : Nat) : Nat := (n + 6) / 7

/-- Iteration `i` of the loop of `IssueCheckpoint`: a block on `lastCheckpointBlockID` and
tips `7i` to `7i + 7`, created, sent and reported; its value is the new block's ID. -/
def issueCheckpointBlock (ans : CheckpointAnswers) (checkpointIndex : Nat) (tips : List BlockID)
    (checkpointsNumber i : Nat) (lastCheckpointBlockID : BlockID) : Trace BlockID := do
  let tipStart := i * 7
  let tipEnd := min (tipStart + 7) tips.length
  let chunk ← goSlice tips tipStart tipEnd
  let parents := removeDupsAndSort (lastCheckpointBlockID :: chunk)
  Trace.checkNil (ans.createCheckpoint i) (softWrap "failed to create checkPoint")
  Trace.emit (.sendBlock (.checkpoint parents) (ans.send i))
  let blockID ← Trace.check (ans.send i) (softWrap "failed to send checkPoint")
  Trace.emit (.issuedCheckpointBlock checkpointIndex i checkpointsNumber blockID)
  pure blockID

/-- The loop of `IssueCheckpoint` from iteration `i`, with `fuel` iterations left. -/
def issueCheckpointLoop (ans : CheckpointAnswers) (checkpointIndex : Nat) (tips : List BlockID)
    (checkpointsNumber : Nat) : Nat → Nat → BlockID → Trace BlockID
  | 0, _, lastCheckpointBlockID => pure lastCheckpointBlockID
  | fuel + 1, i, lastCheckpointBlockID => do
    let blockID ← issueCheckpointBlock ans checkpointIndex tips checkpointsNumber i
      lastCheckpointBlockID
    issueCheckpointLoop ans checkpointIndex tips checkpointsNumber fuel (i + 1) blockID

/-- `IssueCheckpoint`: chained blocks of at most 7 tips each, the first on
`lastCheckpointBlockID`. -/
def issueCheckpoint (isNodeSynced : Bool) (backPressure : List Bool) (ans : CheckpointAnswers)
    (checkpointIndex : Nat) (lastCheckpointBlockID : BlockID) (tips : List BlockID) :
    Trace BlockID :=
  if tips.isEmpty then Trace.fail (.sentinel .noTipsGiven)
  else if !isNodeSynced then Trace.fail (.soft (.sentinel .nodeNotSynced))
  else if checkBackPressureFunctions backPressure then Trace.fail (.soft (.sentinel .nodeLoadTooHigh))
  else
    let checkpointsNumber := checkpointsNumber tips.length
    issueCheckpointLoop ans checkpointIndex tips checkpointsNumber checkpointsNumber 0
      lastCheckpointBlockID

/-- A call of one of the coordinator's operations, with the environment's answers. -/
inductive Op where
  | bootstrap (ans : MilestoneAnswers)
  | issueMilestone (parents : List BlockID) (isNodeSynced : Bool) (backPressure : List Bool)
      (ans : MilestoneAnswers)
  | issueCheckpoint (checkpointIndex : Nat) (lastCheckpointBlockID : BlockID)
      (tips : List BlockID) (isNodeSynced : Bool) (backPressure : List Bool)
      (ans : CheckpointAnswers)

def Coordinator.perform (cfg : Config) (coo : Coordinator) : Op → Trace BlockID
  | .bootstrap ans => bootstrap cfg coo ans
  | .issueMilestone parents isNodeSynced backPressure ans =>
      issueMilestone cfg coo parents isNodeSynced backPressure ans
  | .issueCheckpoint checkpointIndex lastCheckpointBlockID tips isNodeSynced backPressure ans =>
      issueCheckpoint isNodeSynced backPressure ans checkpointIndex lastCheckpointBlockID tips

/-- What an effect does to the coordinator's memory. -/
def Coordinator.apply (coo : Coordinator) : Effect → Coordinator
  | .setState state => { coo with state }
  | .setBootstrapped => { coo with bootstrapped := true }
  | _ => coo

/-- Operations one after another, in the order `milestoneLock` lets them in, each with what it
did and returned. Each runs on the memory the one before left, whatever that one returned: a
critical error stops its own caller, but a caller already waiting on `milestoneLock` still
gets the lock. -/
def Coordinator.run (cfg : Config) (coo : Coordinator) : List Op → List (Op × Trace BlockID)
  | [] => []
  | o :: rest =>
    (o, coo.perform cfg o) :: ((coo.perform cfg o).effects.foldl Coordinator.apply coo).run cfg rest

/-- The process's memory (`none` while it is down), the files at `stateFilePath` and
`stateFilePath_old`, and every block handed to `sendBlockFunc` with its answer. -/
structure World where
  coo : Option Coordinator
  stateFile : Option StateFile
  oldStateFile : Option StateFile
  sent : List (Block × Except Error BlockID)

def World.apply (w : World) : Effect → World
  | .renameStateFile =>
    match w.stateFile with
    | some file => { w with stateFile := none, oldStateFile := some file }
    | none => w
  | .sendBlock block answer => { w with sent := w.sent ++ [(block, answer)] }
  | .writeStateFile file => { w with stateFile := some file }
  | e => { w with coo := w.coo.map (·.apply e) }

/-- One step of the world: the process starts and `InitState` succeeds, an operation runs to
its end, or the process crashes after the first `k` effects of an operation and loses its
memory. Operations may follow any error. -/
inductive World.Step (cfg : Config) : World → World → Prop where
  | initState {w : World} {coo : Coordinator} (bootstrap : Bool) (startIndex : MilestoneIndex)
      (latestMilestone : LatestMilestoneInfo) (now : Nat) : w.coo = none →
      initState cfg w.stateFile bootstrap startIndex latestMilestone now = .ok coo →
      World.Step cfg w { w with coo := some coo }
  | perform {w : World} {coo : Coordinator} (o : Op) : w.coo = some coo →
      World.Step cfg w ((coo.perform cfg o).effects.foldl World.apply w)
  | crash {w : World} {coo : Coordinator} (o : Op) (k : Nat) : w.coo = some coo →
      World.Step cfg w { ((coo.perform cfg o).effects.take k).foldl World.apply w with coo := none }

/-- The worlds reached from `w₀` by any sequence of steps. -/
inductive World.Reach (cfg : Config) (w₀ : World) : World → Prop where
  | refl : World.Reach cfg w₀ w₀
  | step {w w' : World} : World.Reach cfg w₀ w → World.Step cfg w w' → World.Reach cfg w₀ w'

end InxCoordinator
