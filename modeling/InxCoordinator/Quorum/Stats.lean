import InxCoordinator.Quorum.Invariant

/-! The statistics a round keeps per client. `newQuorum` labels each client's
`QuorumClientStatistic` with its group's name, its alias and its base URL, and a client task
only ever writes `ResponseTimeSeconds` and `Error` of its own entry. So in every state of a
round, over every interleaving, `quorumStatsSnapshot` lists every configured client exactly
once under its own labels, group by group in the order the map is walked and each group's
clients in the order of the configuration. -/
namespace InxCoordinator

/-- The fields of a statistic that name the node it is about. -/
def QuorumClientStatistic.label (stats : QuorumClientStatistic) : String × String × String :=
  (stats.group, stats.aliasName, stats.baseURL)

/-- The labels of a group task's clients, in order. -/
def GroupTask.labels (t : GroupTask) : List (String × String × String) :=
  t.clients.map (·.entry.stats.label)

/-- Writing an element with the same image leaves the image of a list alone. -/
private theorem map_set_of_eq {α β : Type} {f : α → β} {l : List α} {i : Nat} {a b : α}
    (hb : l[i]? = some b) (h : f a = f b) : (l.set i a).map f = l.map f := by
  refine List.ext_getElem? fun j => ?_
  simp only [List.getElem?_map, List.getElem?_set]
  split_ifs with hij hi
  · subst hij; simp [hb, h]
  · simp [List.getElem?_eq_none (Nat.le_of_not_lt hi)] at hb
  · rfl

/-- Reading a list at each of its indices gives the list back. -/
private theorem filterMap_getElem?_range {α : Type} (l : List α) :
    (List.range l.length).filterMap (l[·]?) = l := by
  induction l with
  | nil => rfl
  | cons a l ih =>
      rw [List.length_cons, List.range_succ_eq_map, List.filterMap_cons, List.filterMap_map]
      simpa [Function.comp_def] using ih

private theorem flatMap_getD_map {α β γ : Type} (l : List α) (f : α → Option β)
    (F : β → List γ) : l.flatMap (fun a => ((f a).map F).getD []) = (l.filterMap f).flatMap F := by
  induction l with
  | nil => rfl
  | cons a l ih => cases h : f a <;> simp [List.filterMap_cons, h, ih]

theorem newQuorum_groups {quorumGroups : List (String × List QuorumClientConfig)} {timeout : Nat}
    {q : Quorum} (h : newQuorum quorumGroups timeout = .ok q) :
    q.groups = quorumGroups.map fun g => ⟨g.1, g.2.map (newGroupEntry g.1)⟩ := by
  unfold newQuorum at h
  split at h
  · cases h
  · split at h
    · cases h
    · cases h; rfl

namespace ClientTask

variable {c c' : ClientTask}

theorem answer_label {a : NodeAnswer} {seconds : Nat} (h : c.answer a seconds = some c') :
    c'.entry.stats.label = c.entry.stats.label := by
  unfold answer at h; split at h
  · cases h; rfl
  · cases h

theorem record_label (h : c.record = some c') : c'.entry.stats.label = c.entry.stats.label := by
  unfold record at h; split at h
  · cases h; rfl
  · cases h

end ClientTask

/-- No move of a group's tasks relabels a client. -/
theorem GroupTask.labels_move {cooMerkleProof : MilestoneMerkleRoots} {closed : Bool} {m : Move}
    {t t' : GroupTask} (h : t.move cooMerkleProof closed m = some t') : t'.labels = t.labels := by
  cases m with
  | start =>
      obtain ⟨-, rfl⟩ := start_eq h
      simp [labels]
  | answer j a seconds =>
      obtain ⟨c, c', hc, hc', rfl⟩ := moveClient_eq h
      exact map_set_of_eq hc (ClientTask.answer_label hc')
  | record j =>
      obtain ⟨c, c', hc, hc', rfl⟩ := moveClient_eq h
      exact map_set_of_eq hc (ClientTask.record_label hc')
  | deliver j =>
      obtain ⟨c, _, hc, -, -, -, hClients, -⟩ := deliver_eq h
      rw [labels, hClients]
      exact map_set_of_eq hc rfl
  | expire => obtain ⟨-, -, rfl⟩ := expire_eq h; rfl
  | takeDone => obtain ⟨-, -, rfl⟩ := takeDone_eq h; rfl
  | takeError => obtain ⟨_, _, _, _, -, -, rfl⟩ := takeError_eq h; rfl
  | takeResult => obtain ⟨_, _, _, _, -, -, rfl⟩ := takeResult_eq h; rfl
  | takeDeadline => obtain ⟨_, _, -, -, rfl⟩ := takeDeadline_eq h; rfl

namespace Round

variable {cooMerkleProof : MilestoneMerkleRoots} {q : Quorum} {s s' : Round}

theorem labels_step {a : Action} (h : Round.step cooMerkleProof s a = some s') :
    s'.groups.map GroupTask.labels = s.groups.map GroupTask.labels := by
  rcases step_cases h with ⟨-, -, rfl⟩ | ⟨g, m, -, -, hMove⟩ | ⟨g, -, hHandOver⟩ |
      ⟨-, -, -, -, rfl⟩ | ⟨-, -, -, rfl⟩
  · rfl
  · obtain ⟨t, t', ht, ht', rfl⟩ := moveGroup_eq hMove
    exact map_set_of_eq ht (GroupTask.labels_move ht')
  · obtain ⟨t, f, -, ht, -, rfl⟩ := handOver_eq hHandOver
    exact map_set_of_eq ht rfl
  · rfl
  · rfl

theorem Reach.labels (hs : Round.Reach cooMerkleProof q s) :
    s.groups.map GroupTask.labels = (Round.init q).groups.map GroupTask.labels := by
  induction hs with
  | init => rfl
  | step a _ hStep ih => exact (labels_step hStep).trans ih

end Round

/-- The labels of a snapshot: those of the round's group tasks, group by group in `order`. -/
theorem Round.quorumStatsSnapshot_map_label (s : Round) (order : List Nat) :
    (s.quorumStatsSnapshot order).map QuorumClientStatistic.label =
      order.flatMap fun g => ((s.groups.map GroupTask.labels)[g]?).getD [] := by
  simp only [Round.quorumStatsSnapshot, List.map_flatMap, List.getElem?_map]
  congr; funext g; cases s.groups[g]? <;> simp [GroupTask.labels]

/-- Every snapshot of a round's statistics, in every state of every interleaving and whatever
order the map's `range` takes, lists the configured clients group by group, the groups in some
order and each group's clients in the order of the configuration, each under its group's name,
its alias and its base URL: no statistic is lost, duplicated or attributed to another node. -/
theorem quorumStatsSnapshot_labels {quorumGroups : List (String × List QuorumClientConfig)}
    {timeout : Nat} {cooMerkleProof : MilestoneMerkleRoots} {q : Quorum} {s : Round}
    (hq : newQuorum quorumGroups timeout = .ok q) (hs : Round.Reach cooMerkleProof q s)
    {order : List Nat} (hOrder : order.Perm (List.range s.groups.length)) :
    ∃ groups : List (String × List QuorumClientConfig), groups.Perm quorumGroups ∧
      (s.quorumStatsSnapshot order).map QuorumClientStatistic.label =
        groups.flatMap fun g => g.2.map fun client => (g.1, client.aliasName, client.baseURL) := by
  have hInit : s.groups.map GroupTask.labels =
      quorumGroups.map fun g => g.2.map fun client => (g.1, client.aliasName, client.baseURL) := by
    rw [hs.labels]
    simp [Round.init, newQuorum_groups hq, GroupTask.labels, GroupTask.init, newGroupEntry,
      QuorumClientStatistic.label, Function.comp_def]
  have hLength : s.groups.length = quorumGroups.length := by
    simpa using congrArg List.length hInit
  refine ⟨order.filterMap (quorumGroups[·]?), ?_, ?_⟩
  · -- `range` visits each group once
    simpa [hLength, filterMap_getElem?_range] using hOrder.filterMap (quorumGroups[·]?)
  · rw [Round.quorumStatsSnapshot_map_label, hInit, ← flatMap_getD_map]
    simp only [List.getElem?_map]

/-- Two groups, the map walked second group first; a node of the second group has answered
with an error and recorded it. -/
theorem quorumStatsSnapshot_labels_afterRecord :
    ∃ q, newQuorum [("g1", [⟨"a", "http://node-1"⟩]),
        ("g2", [⟨"b", "http://node-2"⟩, ⟨"c", "http://node-3"⟩])] 1 = .ok q ∧
    ∃ s, Round.Reach ⟨1, 2⟩ q s ∧ ([1, 0] : List Nat).Perm (List.range s.groups.length) ∧
      ∃ groups : List (String × List QuorumClientConfig),
        groups.Perm [("g1", [⟨"a", "http://node-1"⟩]),
          ("g2", [⟨"b", "http://node-2"⟩, ⟨"c", "http://node-3"⟩])] ∧
        (s.quorumStatsSnapshot [1, 0]).map QuorumClientStatistic.label =
          groups.flatMap fun g => g.2.map fun client => (g.1, client.aliasName, client.baseURL) := by
  let acts : List Action := [.lock, .group 1 .start,
    .group 1 (.answer 1 (.error (.message "timeout")) 3), .group 1 (.record 1)]
  exact ⟨_, rfl, Round.Reach.of_run acts rfl fun hs =>
    ⟨by decide, quorumStatsSnapshot_labels (by rfl) hs (by decide)⟩⟩

end InxCoordinator
