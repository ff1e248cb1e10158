import InxCoordinator.Basic

/-! One `checkMerkleTreeHash` round as a step function over all of its tasks: the outer
call, one task per group, one per client, the WaitGroup waiter, and the channels between
them. Time is not modelled; a group's deadline is a step that may come at any moment. -/
namespace InxCoordinator

/-- `QuorumClientConfig`, with the two fields `newQuorum` labels a client's statistics with;
the user name and password only go into the node client, which is not modelled. -/
structure QuorumClientConfig where
  aliasName : String
  baseURL : String
  deriving DecidableEq, Repr

structure QuorumClientStatistic where
  group : String
  aliasName : String
  baseURL : String
  /-- A `float64` number of seconds in the code; only ever written, never computed with. -/
  responseTimeSeconds : Nat
  error : Option Error
  deriving DecidableEq, Repr

/-- A quorum client: its statistics. The node API client it calls through is not modelled;
what its call answers is the environment's choice. -/
structure QuorumGroupEntry where
  stats : QuorumClientStatistic
  deriving DecidableEq, Repr

structure QuorumGroup where
  name : String
  entries : List QuorumGroupEntry
  deriving DecidableEq, Repr

/-- A quorum as `newQuorum` builds it: at least one group, and every group non-empty. -/
structure Quorum where
  groups : List QuorumGroup
  timeout : Nat
  groups_ne_nil : groups ≠ []
  entries_ne_nil : ∀ g ∈ groups, g.entries ≠ []

def newGroupEntry (groupName : String) (client : QuorumClientConfig) : QuorumGroupEntry :=
  { stats := { group := groupName, aliasName := client.aliasName, baseURL := client.baseURL,
               responseTimeSeconds := 0, error := none } }

/-- `newQuorum`; its two panics are the `error` results. `quorumGroups` lists the map in the
order this call's `range` walks it, which decides the panic's group name when several groups
are empty, and `q.Groups` keeps that list; every later `range` over `q.Groups` walks it in an
order of its own. -/
def newQuorum (quorumGroups : List (String × List QuorumClientConfig)) (timeout : Nat) :
    Except String Quorum :=
  if hGroups : quorumGroups = [] then .error "coordinator quorum groups not found"
  else match hEmpty : quorumGroups.find? (fun g => g.2.isEmpty) with
    | some g => .error ("invalid coo quorum group: " ++ g.1 ++ ", no nodes given")
    | none => .ok
      { groups := quorumGroups.map fun g => ⟨g.1, g.2.map (newGroupEntry g.1)⟩
        timeout
        groups_ne_nil := by simpa using hGroups
        entries_ne_nil := by
          intro g hg
          obtain ⟨⟨name, clients⟩, hMem, rfl⟩ := List.mem_map.1 hg
          simpa using List.find?_eq_none.1 hEmpty _ hMem }

/-- What a node's `ComputeWhiteFlagMutations` call gives back: an error, or a response, of
which the group reads the two roots. -/
inductive NodeAnswer where
  | error (e : Error)
  | response (roots : MilestoneMerkleRoots)
  deriving DecidableEq, Repr

def NodeAnswer.error? : NodeAnswer → Option Error
  | .error e => some e
  | .response _ => none

/-- The two values a group task sends on `quorumErrChan`. -/
inductive QuorumFailure where
  | mismatch
  | noAnswer
  deriving DecidableEq, Repr

def QuorumFailure.toError : QuorumFailure → Error
  | .mismatch => .critical (.sentinel .quorumMerkleTreeHashMismatch)
  | .noAnswer => .soft (.sentinel .quorumGroupNoAnswer)

inductive ClientPhase where
  | idle
  | calling
  /-- The call has returned and `ResponseTimeSeconds` is written. -/
  | timed (answer : NodeAnswer)
  /-- `Error` is written too; the send comes next. -/
  | recorded (answer : NodeAnswer)
  | sent
  deriving DecidableEq, Repr

structure ClientTask where
  entry : QuorumGroupEntry
  phase : ClientPhase
  deriving DecidableEq, Repr

inductive GroupPhase where
  | idle
  /-- At the `select` of `QuorumLoop` in iteration `i`. -/
  | collecting (i validResults : Nat)
  /-- Blocked on `quorumErrChan <- ...`, which has no buffer. -/
  | sending (failure : QuorumFailure)
  /-- Returned, `wg.Done()` included. -/
  | done
  deriving DecidableEq, Repr

/-- A group task with the channels it made. `consumed` is ghost state: the messages its loop
has taken, in order; no code reads it. -/
structure GroupTask where
  name : String
  phase : GroupPhase
  clients : List ClientTask
  nodeResultChan : List MilestoneMerkleRoots
  nodeErrorChan : List Error
  expired : Bool
  consumed : List NodeAnswer
  deriving DecidableEq, Repr

inductive OuterPhase where
  /-- Before `q.quorumStatsLock.Lock()`. -/
  | locking
  /-- Holding the lock, groups and waiter spawned, at the final `select`. -/
  | selecting
  /-- Returned `nil` or the error it received; the lock is released. -/
  | returned (verdict : Option QuorumFailure)
  deriving DecidableEq, Repr

structure Round where
  outer : OuterPhase
  groups : List GroupTask
  waitGroup : Nat
  quorumDoneClosed : Bool
  deriving DecidableEq, Repr

def GroupTask.init (g : QuorumGroup) : GroupTask :=
  { name := g.name, phase := .idle, clients := g.entries.map (⟨·, .idle⟩),
    nodeResultChan := [], nodeErrorChan := [], expired := false, consumed := [] }

def Round.init (q : Quorum) : Round :=
  { outer := .locking, groups := q.groups.map GroupTask.init, waitGroup := 0,
    quorumDoneClosed := false }

/-- A move of group `g`'s task or of one of its client tasks; `take...` are the cases of
the loop's `select`. -/
inductive Move where
  | start
  | answer (j : Nat) (a : NodeAnswer) (seconds : Nat)
  | record (j : Nat)
  | deliver (j : Nat)
  | expire
  | takeDone
  | takeError
  | takeResult
  | takeDeadline
  deriving DecidableEq, Repr

/-- The scheduler's choices: which task moves, and which ready `select` case it takes. -/
inductive Action where
  | lock
  | group (g : Nat) (m : Move)
  | handOver (g : Nat)
  | close
  | finish
  deriving DecidableEq, Repr

/-- The code after `QuorumLoop`. -/
def afterLoop (validResults : Nat) : GroupPhase :=
  if validResults = 0 then .sending .noAnswer else .done

/-- The loop's `i++` and test: iteration `i`, or the code after the loop. -/
def nextIteration (n i validResults : Nat) : GroupPhase :=
  if i < n then .collecting i validResults else afterLoop validResults

/-- The comparison of `checkMerkleTreeHashQuorumGroup`. -/
def differs (cooMerkleProof roots : MilestoneMerkleRoots) : Bool :=
  cooMerkleProof.appliedMerkleRoot != roots.appliedMerkleRoot ||
    cooMerkleProof.inclusionMerkleRoot != roots.inclusionMerkleRoot

namespace ClientTask

def answer (c : ClientTask) (a : NodeAnswer) (seconds : Nat) : Option ClientTask :=
  match c.phase with
  | .calling => some { entry := { c.entry with stats := { c.entry.stats with
      responseTimeSeconds := seconds } }, phase := .timed a }
  | _ => none

def record (c : ClientTask) : Option ClientTask :=
  match c.phase with
  | .timed a => some { entry := { c.entry with stats := { c.entry.stats with
      error := a.error? } }, phase := .recorded a }
  | _ => none

end ClientTask

namespace GroupTask

/-- The start of the group task: the deadline context and the two buffered channels of
capacity `len(quorumGroupEntries)` are made, and every client task is spawned. -/
def start (t : GroupTask) : Option GroupTask :=
  match t.phase with
  | .idle => some { t with phase := nextIteration t.clients.length 0 0,
                           clients := t.clients.map ({ · with phase := .calling }) }
  | _ => none

/-- A move of client `j` that touches only the client's own state. -/
def moveClient (t : GroupTask) (j : Nat) (move : ClientTask → Option ClientTask) :
    Option GroupTask :=
  match t.clients[j]? with
  | some c => (move c).map fun c' => { t with clients := t.clients.set j c' }
  | none => none

/-- Client `j` sends its one message; a full buffer would block it. -/
def deliver (t : GroupTask) (j : Nat) : Option GroupTask :=
  match t.clients[j]? with
  | some c =>
    match c.phase with
    | .recorded (.error e) =>
      if t.nodeErrorChan.length < t.clients.length then
        some { t with clients := t.clients.set j { c with phase := .sent },
                      nodeErrorChan := t.nodeErrorChan ++ [e] }
      else none
    | .recorded (.response r) =>
      if t.nodeResultChan.length < t.clients.length then
        some { t with clients := t.clients.set j { c with phase := .sent },
                      nodeResultChan := t.nodeResultChan ++ [r] }
      else none
    | _ => none
  | none => none

def expire (t : GroupTask) : Option GroupTask :=
  if t.phase ≠ .idle ∧ t.expired = false then some { t with expired := true } else none

/-- `case <-quorumDoneChan: return`. -/
def takeDone (t : GroupTask) (closed : Bool) : Option GroupTask :=
  match t.phase with
  | .collecting _ _ => if closed then some { t with phase := .done } else none
  | _ => none

/-- `case <-nodeErrorChan: continue`. -/
def takeError (t : GroupTask) : Option GroupTask :=
  match t.phase, t.nodeErrorChan with
  | .collecting i v, e :: rest =>
    some { t with phase := nextIteration t.clients.length (i + 1) v, nodeErrorChan := rest,
                  consumed := t.consumed ++ [.error e] }
  | _, _ => none

/-- `case nodeWhiteFlagResponse := <-nodeResultChan`: a differing reply ends the loop with
the critical error, a matching one counts. -/
def takeResult (cooMerkleProof : MilestoneMerkleRoots) (t : GroupTask) : Option GroupTask :=
  match t.phase, t.nodeResultChan with
  | .collecting i v, r :: rest =>
    some { t with
      phase := if differs cooMerkleProof r then .sending .mismatch
               else nextIteration t.clients.length (i + 1) (v + 1)
      nodeResultChan := rest, consumed := t.consumed ++ [.response r] }
  | _, _ => none

/-- `case <-ctx.Done(): break QuorumLoop`. -/
def takeDeadline (t : GroupTask) : Option GroupTask :=
  match t.phase with
  | .collecting _ v => if t.expired then some { t with phase := afterLoop v } else none
  | _ => none

/-- The moves of group `g`'s tasks. `closed`: whether `quorumDoneChan` is closed. -/
def move (cooMerkleProof : MilestoneMerkleRoots) (closed : Bool) (t : GroupTask) :
    Move → Option GroupTask
  | .start => t.start
  | .answer j a seconds => t.moveClient j (·.answer a seconds)
  | .record j => t.moveClient j ClientTask.record
  | .deliver j => t.deliver j
  | .expire => t.expire
  | .takeDone => t.takeDone closed
  | .takeError => t.takeError
  | .takeResult => t.takeResult cooMerkleProof
  | .takeDeadline => t.takeDeadline

end GroupTask

namespace Round

/-- Group `g` moves; `wg.Done()` runs when the move ends its task. -/
def moveGroup (s : Round) (g : Nat) (move : GroupTask → Option GroupTask) : Option Round :=
  match s.groups[g]? with
  | some t => (move t).map fun t' =>
      { s with groups := s.groups.set g t',
               waitGroup := if t.phase ≠ .done ∧ t'.phase = .done then s.waitGroup - 1
                            else s.waitGroup }
  | none => none

/-- Group `g`'s send on `quorumErrChan` meets the outer call's receive: the outer call
returns that error and releases the lock; the group returns. -/
def handOver (s : Round) (g : Nat) : Option Round :=
  match s.outer, s.groups[g]? with
  | .selecting, some t =>
    match t.phase with
    | .sending f => some { s with outer := .returned (some f),
                                  groups := s.groups.set g { t with phase := .done },
                                  waitGroup := s.waitGroup - 1 }
    | _ => none
  | _, _ => none

end Round

/-- One step of the round. `none`: the chosen task cannot make that move now. No group or
client task exists before the lock is taken. -/
def Round.step (cooMerkleProof : MilestoneMerkleRoots) (s : Round) : Action → Option Round
  | .lock => if s.outer = .locking then
      some { s with outer := .selecting, waitGroup := s.groups.length } else none
  | .group g m => if s.outer = .locking then none
      else s.moveGroup g (·.move cooMerkleProof s.quorumDoneClosed m)
  | .handOver g => s.handOver g
  | .close => if s.outer ≠ .locking ∧ s.quorumDoneClosed = false ∧ s.waitGroup = 0 then
      some { s with quorumDoneClosed := true } else none
  | .finish => if s.outer = .selecting ∧ s.quorumDoneClosed then
      some { s with outer := .returned none } else none

/-- `quorumStatsLock` is write-held from `Lock` until the outer call returns. -/
def OuterPhase.holdsStatsLock : OuterPhase → Bool
  | .selecting => true
  | _ => false

/-- `quorumStatsSnapshot`: a copy of every entry's statistic, group by group, the groups in
`order`, the indices in the order this call's `range` walks the map `q.Groups`: any order, and
maybe another one on the next call. It takes the read lock, so it runs only while no round
holds the write lock. -/
def Round.quorumStatsSnapshot (s : Round) (order : List Nat) : List QuorumClientStatistic :=
  order.flatMap fun g => ((s.groups[g]?).map fun t => t.clients.map (·.entry.stats)).getD []

/-- The states a round reaches from its start, over every interleaving. -/
inductive Round.Reach (cooMerkleProof : MilestoneMerkleRoots) (q : Quorum) : Round → Prop where
  | init : Round.Reach cooMerkleProof q (Round.init q)
  | step {s s' : Round} (a : Action) :
      Round.Reach cooMerkleProof q s → Round.step cooMerkleProof s a = some s' →
        Round.Reach cooMerkleProof q s'

/-- Run a schedule; `none` if one of its moves is not possible. -/
def Round.run (cooMerkleProof : MilestoneMerkleRoots) : Round → List Action → Option Round
  | s, [] => some s
  | s, a :: rest => (Round.step cooMerkleProof s a).bind (Round.run cooMerkleProof · rest)

theorem Round.Reach.run {cooMerkleProof : MilestoneMerkleRoots} {q : Quorum} {s s' : Round}
    (hs : Round.Reach cooMerkleProof q s) (acts : List Action)
    (hRun : Round.run cooMerkleProof s acts = some s') : Round.Reach cooMerkleProof q s' := by
  induction acts generalizing s with
  | nil => cases hRun; exact hs
  | cons a rest ih =>
      simp only [Round.run, Option.bind_eq_some] at hRun
      obtain ⟨mid, hStep, hRest⟩ := hRun
      exact ih (hs.step a hStep) hRest

/-- A schedule that runs from the start reaches its last state. -/
theorem Round.Reach.of_run {cooMerkleProof : MilestoneMerkleRoots} {q : Quorum} {s : Round}
    {P : Round → Prop} (acts : List Action)
    (hRun : Round.run cooMerkleProof (Round.init q) acts = some s)
    (hP : Round.Reach cooMerkleProof q s → P s) : ∃ s, Round.Reach cooMerkleProof q s ∧ P s :=
  ⟨s, Round.Reach.init.run acts hRun, hP (Round.Reach.init.run acts hRun)⟩

end InxCoordinator
