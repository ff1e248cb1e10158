import Mathlib

/-! Identifiers, merkle roots and errors shared by the quorum and the coordinator.
`RemoveDupsAndSort` and the `common` error wrappers live outside this repository. -/
namespace InxCoordinator

/-- A 32-byte identifier or digest read as a big-endian number, so that the byte-wise
order `RemoveDupsAndSort` sorts by is the order of `Fin`. -/
abbrev Bytes32 := Fin (2 ^ 256)

abbrev BlockID := Bytes32

abbrev MilestoneID := Bytes32

abbrev MilestoneMerkleProof := Bytes32

/-- `iotago.MilestoneIndex` is a `uint32`; `+ 1` wraps. -/
abbrev MilestoneIndex := UInt32

/-- `iotago.MilestoneID{}`, the genesis milestone ID. -/
def emptyMilestoneID : MilestoneID := 0

/-- `iotago.EmptyBlockID()`. -/
def emptyBlockID : BlockID := 0

/-- The merkle roots computed by whiteflag confirmation. -/
structure MilestoneMerkleRoots where
  inclusionMerkleRoot : MilestoneMerkleProof
  appliedMerkleRoot : MilestoneMerkleProof
  deriving DecidableEq, Repr

/-- The sentinel errors the package declares with `errors.New`, and `common.ErrNodeNotSynced`. -/
inductive Sentinel where
  | quorumMerkleTreeHashMismatch
  | quorumGroupNoAnswer
  | noTipsGiven
  | networkBootstrapped
  | nodeLoadTooHigh
  | nodeNotSynced
  deriving DecidableEq, Repr

/-- An error value as the code builds it. A collaborator's own error is any value of
this type, wrappers included. -/
inductive Error where
  | sentinel (s : Sentinel)
  /-- `fmt.Errorf` without `%w`, or an error a collaborator made up. -/
  | message (text : String)
  /-- `fmt.Errorf("text: %w", cause)`. -/
  | wrap (text : String) (cause : Error)
  /-- `common.SoftError(cause)`. -/
  | soft (cause : Error)
  /-- `common.CriticalError(cause)`. -/
  | critical (cause : Error)
  deriving DecidableEq, Repr

/-- `common.IsCriticalError(err) != nil`: a `CriticalError` on the unwrap chain. -/
def Error.isCritical : Error → Bool
  | .critical _ => true
  | .soft cause | .wrap _ cause => cause.isCritical
  | _ => false

/-- `common.IsSoftError(err) != nil`: a `SoftError` on the unwrap chain. -/
def Error.isSoft : Error → Bool
  | .soft _ => true
  | .critical cause | .wrap _ cause => cause.isSoft
  | _ => false

/-- Modelled from the spec (section 7): a critical error halts issuance, a soft one is
reported and retried. An error on both chains is critical. -/
inductive ErrorKind where
  | critical
  | soft
  | plain
  deriving DecidableEq, Repr

def Error.kind (e : Error) : ErrorKind :=
  if e.isCritical then .critical else if e.isSoft then .soft else .plain

@[simp] theorem Error.kind_critical (e : Error) : (Error.critical e).kind = .critical := rfl

@[simp] theorem Error.kind_soft_sentinel (s : Sentinel) :
    (Error.soft (.sentinel s)).kind = .soft := rfl

/-- Modelled from the spec: `iotago.BlockIDs.RemoveDupsAndSort` (section 4.3, "dedup + sort")
sorts the identifiers byte-wise and keeps one copy of each. -/
def removeDupsAndSort (ids : List BlockID) : List BlockID :=
  (ids.insertionSort (· ≤ ·)).dedup

@[simp] theorem mem_removeDupsAndSort {ids : List BlockID} {x : BlockID} :
    x ∈ removeDupsAndSort ids ↔ x ∈ ids := by
  simp [removeDupsAndSort, List.mem_insertionSort]

theorem removeDupsAndSort_sorted (ids : List BlockID) :
    (removeDupsAndSort ids).Sorted (· < ·) :=
  List.Sorted.lt_of_le ((List.sorted_insertionSort _ ids).sublist (List.dedup_sublist _))
    (List.nodup_dedup _)

theorem removeDupsAndSort_length_le (ids : List BlockID) :
    (removeDupsAndSort ids).length ≤ ids.length :=
  (List.dedup_sublist _).length_le.trans (List.perm_insertionSort _ ids).length_eq.le

theorem removeDupsAndSort_ne_nil {x : BlockID} {ids : List BlockID} :
    removeDupsAndSort (x :: ids) ≠ [] :=
  List.ne_nil_of_mem (mem_removeDupsAndSort.2 (List.mem_cons_self x ids))

end InxCoordinator
