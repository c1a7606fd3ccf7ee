import LlmqQuorums.RequestProtocol

/-! The quorum data recovery task of `StartQuorumDataRecoveryThread`. At its start it fixes the
sorted valid members other than this node and a start offset. Each pass of its loop drops the
data kinds the quorum already holds, moves to the next candidate in rotation once
`nRequestTimeout` seconds have passed since the last success, and asks the connections of the
current candidate through `RequestQuorumData`. The passes interleave with everything else the
node does, so the request table they read is whatever the node's run left.
-/

namespace Llmq

/-- `nRequestTimeout`: the seconds the task gives a candidate before moving on. -/
def nRequestTimeout : Int := 10

/-- `nDataMask &= ~flag` on the `uint16_t` mask. -/
def clearFlag (nDataMask flag : Nat) : Nat := nDataMask &&& (0xFFFF ^^^ flag)

/-- `GetQuorumRecoveryStartOffset`: this node's index among the sorted proTxHashes of the valid
masternodes at `pIndex` (`validMNs`), or 0 when it is not among them, reduced modulo the size of
the quorum's `validMembers`.
-/
def getQuorumRecoveryStartOffset (myProTxHash : Uint256) (pQuorum : CQuorum)
    (validMNs : List Uint256) : Nat :=
  let vecProTxHashes := validMNs.insertionSort (· ≤ ·)
  (vecProTxHashes.findIdx? (· == myProTxHash)).getD 0 % pQuorum.qc.validMembers.length

/-- `vecMemberHashes`: the quorum's valid members other than this node, sorted. -/
def recoveryCandidates (myProTxHash : Uint256) (pQuorum : CQuorum) : List Uint256 :=
  ((pQuorum.members.map (·.proTxHash)).filter fun proTxHash =>
    pQuorum.isValidMember proTxHash && proTxHash != myProTxHash).insertionSort (· ≤ ·)

/-- What the task fixes when it starts. -/
structure RecoveryPlan where
  pQuorum : CQuorum
  nMyStartOffset : Nat
  vecMemberHashes : List Uint256

/-- The start of `StartQuorumDataRecoveryThread(pQuorum, pIndex, nDataMaskIn)`, with
`validMNs` the valid masternodes of the list at `pIndex`.
-/
def startQuorumDataRecovery (myProTxHash : Uint256) (pQuorum : CQuorum)
    (validMNs : List Uint256) : RecoveryPlan :=
  ⟨pQuorum, getQuorumRecoveryStartOffset myProTxHash pQuorum validMNs,
    recoveryCandidates myProTxHash pQuorum⟩

/-- The task's loop variables over `n` candidates. `pCurrentMemberHash` points into the
candidate list, so it is an index of it, and `nTries` never passes `n`.
-/
structure RecoveryTask (n : Nat) where
  nTries : Nat
  nDataMask : Nat
  nTimeLastSuccess : Int
  pCurrentMemberHash : Option (Fin n)
  tries_le : nTries ≤ n

/-- The task before its first pass. -/
def RecoveryTask.start (n nDataMaskIn : Nat) : RecoveryTask n :=
  ⟨0, nDataMaskIn, 0, none, Nat.zero_le n⟩

/-- What one pass of the loop reads from outside: whether the quorum holds its verification vector
and a valid secret key share, `GetAdjustedTime()`, and the connections `ForEachNode` visits, in
order.
-/
structure RecoveryPass where
  hasVerificationVector : Bool
  skShareValid : Bool
  adjustedTime : Int
  nodes : List CNode
  deriving DecidableEq, Repr

/-- What a pass ends with: whether the loop goes on, the task, the node, the candidate it
selected, if any, and the QGETDATA it sent with their connections.
-/
structure RecoveryPassResult (n : Nat) where
  running : Bool
  task : RecoveryTask n
  node : NodeState
  selected : Option (Fin n)
  sent : List (CNode × CQuorumDataRequest)

section Pass

variable (env : NodeEnv) (plan : RecoveryPlan)

/-- The `ForEachNode` callback for one connection: a connection of the current candidate is
asked through `RequestQuorumData`; when that returns false and the candidate's outgoing entry
is missing or processed, the connection is dropped and so is the candidate.
-/
def requestFromNode (adjustedTime : Int)
    (acc : RecoveryTask plan.vecMemberHashes.length × NodeState × List (CNode × CQuorumDataRequest))
    (pNode : CNode)
    : RecoveryTask plan.vecMemberHashes.length × NodeState × List (CNode × CQuorumDataRequest) :=
  let (task, s, sent) := acc
  match task.pCurrentMemberHash with
  | none => acc
  | some current =>
    if pNode.verifiedProRegTxHash ≠ plan.vecMemberHashes.get current then acc
    else
      match requestQuorumData env s pNode plan.pQuorum.qc.llmqType
          (some plan.pQuorum.pindexQuorum) task.nDataMask env.myProTxHash with
      | (.sent request _, s') =>
          ({ task with nTimeLastSuccess := adjustedTime }, s', sent ++ [(pNode, request)])
      | (_, s') =>
          match s'.requests (pNode.verifiedProRegTxHash, true) with
          | some entry =>
              if entry.fProcessed then ({ task with pCurrentMemberHash := none }, s', sent)
              else (task, s', sent)
          | none => ({ task with pCurrentMemberHash := none }, s', sent)

/-- `ForEachNode` over the pass's connections. -/
def requestFromNodes (adjustedTime : Int) (nodes : List CNode)
    (task : RecoveryTask plan.vecMemberHashes.length) (s : NodeState)
    : RecoveryTask plan.vecMemberHashes.length × NodeState × List (CNode × CQuorumDataRequest) :=
  nodes.foldl (requestFromNode env plan adjustedTime) (task, s, [])

/-- The data kinds still missing: `nDataMask` without those the quorum now holds. -/
def remainingDataMask (nDataMask : Nat) (pass : RecoveryPass) : Nat :=
  let nDataMask :=
    if nDataMask &&& CQuorumDataRequest.quorumVerificationVector ≠ 0
        ∧ pass.hasVerificationVector then
      clearFlag nDataMask CQuorumDataRequest.quorumVerificationVector
    else nDataMask
  if nDataMask &&& CQuorumDataRequest.encryptedContributions ≠ 0 ∧ pass.skShareValid then
    clearFlag nDataMask CQuorumDataRequest.encryptedContributions
  else nDataMask

/-- The move to the next candidate, once the current one has had `nRequestTimeout` seconds.
With every candidate tried the loop ends ("All tried but failed"). Otherwise the candidate
`nTries` places after the start offset becomes current; an unexpired entry at its outgoing key
("Already asked") ends the pass at once, and else its connections are asked.
-/
def nextCandidate (task : RecoveryTask plan.vecMemberHashes.length) (s : NodeState)
    (pass : RecoveryPass) : RecoveryPassResult plan.vecMemberHashes.length :=
  if fresh : task.nTries < plan.vecMemberHashes.length then
    let current : Fin plan.vecMemberHashes.length :=
      ⟨(plan.nMyStartOffset + task.nTries) % plan.vecMemberHashes.length, Nat.mod_lt _ (by omega)⟩
    let task := { task with
      nTries := task.nTries + 1
      pCurrentMemberHash := some current
      tries_le := fresh }
    let alreadyAsked := match s.requests (plan.vecMemberHashes.get current, true) with
      | some entry => !entry.isExpired env.expirationTimeout s.now
      | none => false
    if alreadyAsked then ⟨true, task, s, some current, []⟩
    else
      let (task, s, sent) := requestFromNodes env plan pass.adjustedTime pass.nodes
        { task with nTimeLastSuccess := pass.adjustedTime } s
      ⟨true, task, s, some current, sent⟩
  else ⟨false, task, s, none, []⟩

/-- One pass of `while (nDataMask > 0 && !quorumThreadInterrupt)`: the loop ends when the
mask is empty or `quorumThreadInterrupt` is set, and with "Success" once nothing is missing. -/
def recoveryPass (task : RecoveryTask plan.vecMemberHashes.length) (s : NodeState)
    (quorumThreadInterrupt : Bool) (pass : RecoveryPass) : RecoveryPassResult plan.vecMemberHashes.length :=
  if task.nDataMask = 0 ∨ quorumThreadInterrupt then ⟨false, task, s, none, []⟩
  else
    let task := { task with nDataMask := remainingDataMask task.nDataMask pass }
    if task.nDataMask = 0 then ⟨false, task, s, none, []⟩
    else if pass.adjustedTime - task.nTimeLastSuccess > nRequestTimeout then
      nextCandidate env plan task s pass
    else
      let (task, s, sent) := requestFromNodes env plan pass.adjustedTime pass.nodes task s
      ⟨true, task, s, none, sent⟩

end Pass

-----------------------------------------------------------------------------------------
-- The task beside the node
-----------------------------------------------------------------------------------------

/-- What happens while the task runs: an event of the node, `CQuorumManager::Stop`, which sets
`quorumThreadInterrupt`, or a pass of the task's loop. -/
inductive RecoveryEvent
  | node (event : NodeEvent)
  | stop
  | pass (pass : RecoveryPass)

/-- The task, the node it runs on, and the manager's `quorumThreadInterrupt`. -/
structure RecoveryState (n : Nat) where
  running : Bool
  task : RecoveryTask n
  node : NodeState
  quorumThreadInterrupt : Bool

/-- The thread as `StartQuorumDataRecoveryThread` starts it beside a node in state `s`, before
any `Stop`. -/
def RecoveryState.start (plan : RecoveryPlan) (nDataMaskIn : Nat) (s : NodeState)
    : RecoveryState plan.vecMemberHashes.length :=
  ⟨true, .start _ nDataMaskIn, s, false⟩

/-- One event. A pass after the loop ended does nothing. Returns the candidate selected and the
QGETDATA sent by the task.
-/
def RecoveryEvent.step (env : NodeEnv) (plan : RecoveryPlan)
    (st : RecoveryState plan.vecMemberHashes.length)
    : RecoveryEvent
      → (Option (Fin plan.vecMemberHashes.length) × List (CNode × CQuorumDataRequest))
        × RecoveryState plan.vecMemberHashes.length
  | .node event => ((none, []), { st with node := (event.step env st.node).2 })
  | .stop => ((none, []), { st with quorumThreadInterrupt := true })
  | .pass inputs =>
      if st.running then
        let result := recoveryPass env plan st.task st.node st.quorumThreadInterrupt inputs
        ((result.selected, result.sent),
          ⟨result.running, result.task, result.node, st.quorumThreadInterrupt⟩)
      else ((none, []), st)

/-- A run of the task beside the node: what each event selected and sent, and the final
state.
-/
def runRecovery (env : NodeEnv) (plan : RecoveryPlan)
    : RecoveryState plan.vecMemberHashes.length → List RecoveryEvent
      → List (Option (Fin plan.vecMemberHashes.length) × List (CNode × CQuorumDataRequest))
        × RecoveryState plan.vecMemberHashes.length
  | st, [] => ([], st)
  | st, event :: rest =>
      let (output, st') := event.step env plan st
      let (outputs, final) := runRecovery env plan st' rest
      (output :: outputs, final)

/-- The candidates a run's outputs selected, in order, as indices of the candidate list. -/
def selectedIndices {n : Nat} (outputs : List (Option (Fin n) × List (CNode × CQuorumDataRequest)))
    : List Nat :=
  (outputs.filterMap (·.1)).map Fin.val

-----------------------------------------------------------------------------------------
-- Candidates are taken in rotation, each at most once
-----------------------------------------------------------------------------------------

section Selection

variable {env : NodeEnv} {plan : RecoveryPlan}

theorem requestFromNode_nTries (adjustedTime : Int)
    (acc : RecoveryTask plan.vecMemberHashes.length × NodeState × List (CNode × CQuorumDataRequest))
    (pNode : CNode)
    : (requestFromNode env plan adjustedTime acc pNode).1.nTries = acc.1.nTries := by
  obtain ⟨task, s, sent⟩ := acc
  simp only [requestFromNode]
  repeat' split
  all_goals rfl

/-- `ForEachNode` never moves to another candidate. -/
theorem requestFromNodes_nTries (adjustedTime : Int) (nodes : List CNode)
    (task : RecoveryTask plan.vecMemberHashes.length) (s : NodeState)
    : (requestFromNodes env plan adjustedTime nodes task s).1.nTries = task.nTries := by
  suffices folded : ∀ acc, (nodes.foldl (requestFromNode env plan adjustedTime) acc).1.nTries
      = acc.1.nTries from folded _
  induction nodes with
  | nil => exact fun _ => rfl
  | cons pNode rest ih => exact fun acc => (ih _).trans (requestFromNode_nTries _ _ _)

/-- The step lemma of the selection: a pass selects nothing and keeps `nTries`, or selects the
candidate at `nTries` places after the start offset and counts it.
-/
theorem nextCandidate_selected (task : RecoveryTask plan.vecMemberHashes.length)
    (s : NodeState) (pass : RecoveryPass)
    : let result := nextCandidate env plan task s pass
      (result.selected = none ∧ result.task.nTries = task.nTries)
        ∨ (result.selected.map Fin.val
              = some ((plan.nMyStartOffset + task.nTries) % plan.vecMemberHashes.length)
            ∧ result.task.nTries = task.nTries + 1) := by
  simp only [nextCandidate]
  split
  · split
    · exact .inr ⟨rfl, rfl⟩
    · exact .inr ⟨rfl, requestFromNodes_nTries _ _ _ _⟩
  · exact .inl ⟨rfl, rfl⟩

/-- The step lemma of the selection: a pass selects nothing and keeps `nTries`, or selects the
candidate `nTries` places after the start offset and counts it.
-/
theorem recoveryPass_selected (task : RecoveryTask plan.vecMemberHashes.length) (s : NodeState)
    (quorumThreadInterrupt : Bool) (pass : RecoveryPass)
    : let result := recoveryPass env plan task s quorumThreadInterrupt pass
      (result.selected = none ∧ result.task.nTries = task.nTries)
        ∨ (result.selected.map Fin.val
              = some ((plan.nMyStartOffset + task.nTries) % plan.vecMemberHashes.length)
            ∧ result.task.nTries = task.nTries + 1) := by
  simp only [recoveryPass]
  split
  · exact .inl ⟨rfl, rfl⟩
  · split
    · exact .inl ⟨rfl, rfl⟩
    · split
      · exact nextCandidate_selected _ _ _
      · exact .inl ⟨rfl, requestFromNodes_nTries _ _ _ _⟩

theorem RecoveryEvent.step_selected (st : RecoveryState plan.vecMemberHashes.length)
    (event : RecoveryEvent)
    : let result := event.step env plan st
      (result.1.1 = none ∧ result.2.task.nTries = st.task.nTries)
        ∨ (result.1.1.map Fin.val
              = some ((plan.nMyStartOffset + st.task.nTries) % plan.vecMemberHashes.length)
            ∧ result.2.task.nTries = st.task.nTries + 1) := by
  cases event with
  | node event => exact .inl ⟨rfl, rfl⟩
  | stop => exact .inl ⟨rfl, rfl⟩
  | pass inputs =>
      simp only [step]
      split
      · exact recoveryPass_selected _ _ _ _
      · exact .inl ⟨rfl, rfl⟩

/-- The run lemma of the selection: the candidates a run selects are those `nTries` counts
past its start, in rotation from the start offset; by induction over the events.
-/
theorem runRecovery_selected (st : RecoveryState plan.vecMemberHashes.length)
    (events : List RecoveryEvent)
    : let run := runRecovery env plan st events
      st.task.nTries ≤ run.2.task.nTries
        ∧ (run.1.filterMap (·.1)).map Fin.val
          = (List.range' st.task.nTries (run.2.task.nTries - st.task.nTries)).map
              fun i => (plan.nMyStartOffset + i) % plan.vecMemberHashes.length := by
  induction events generalizing st with
  | nil => simp [runRecovery]
  | cons event rest ih =>
      obtain ⟨grows, later⟩ := ih (event.step env plan st).2
      simp only [runRecovery] at grows later ⊢
      rcases @RecoveryEvent.step_selected env plan st event with ⟨none, same⟩ | ⟨picked, counted⟩
      · rw [List.filterMap_cons, none, ← same]
        exact ⟨same ▸ grows, later⟩
      · obtain ⟨current, selected, value⟩ := Option.map_eq_some'.mp picked
        rw [counted] at grows later
        have remaining : (runRecovery env plan (event.step env plan st).2 rest).2.task.nTries
            - st.task.nTries
            = (runRecovery env plan (event.step env plan st).2 rest).2.task.nTries
              - (st.task.nTries + 1) + 1 := by omega
        refine ⟨by omega, ?_⟩
        rw [List.filterMap_cons, selected, List.map_cons, later, remaining, List.range'_succ,
          List.map_cons, value]

/-- At most `n` steps of a rotation modulo `n` never revisit an index. -/
theorem rotation_nodup (offset : Nat) {n k : Nat} (fits : k ≤ n)
    : ((List.range k).map fun i => (offset + i) % n).Nodup := by
  have apart : ∀ {a b}, a < b → b < n → (offset + a) % n ≠ (offset + b) % n := by
    intro a b lt bound same
    have wrapped := Nat.sub_mod_eq_zero_of_mod_eq same.symm
    rw [Nat.add_sub_add_left, Nat.mod_eq_of_lt (by omega)] at wrapped
    omega
  refine List.Nodup.map_on (fun i hi j hj same => ?_) (List.nodup_range k)
  rw [List.mem_range] at hi hj
  rcases Nat.lt_trichotomy i j with lt | eq | gt
  · exact absurd same (apart lt (by omega))
  · exact eq
  · exact absurd same.symm (apart gt (by omega))

end Selection

/-- Over any run of the task from its start, beside any events of the node, the selected
candidates are the first `nTries` of the rotation from the start offset: pairwise distinct
indices of the candidate list, at most as many as there are candidates.
-/
theorem recovery_selects_each_candidate_once (env : NodeEnv) (plan : RecoveryPlan)
    (nDataMaskIn : Nat) (s : NodeState) (events : List RecoveryEvent)
    : selectedIndices (runRecovery env plan (.start plan nDataMaskIn s) events).1
        = (List.range (runRecovery env plan (.start plan nDataMaskIn s) events).2.task.nTries).map
            (fun i => (plan.nMyStartOffset + i) % plan.vecMemberHashes.length)
      ∧ (selectedIndices (runRecovery env plan (.start plan nDataMaskIn s) events).1).Nodup
      ∧ (selectedIndices (runRecovery env plan (.start plan nDataMaskIn s) events).1).length
        ≤ plan.vecMemberHashes.length := by
  obtain ⟨-, rotation⟩ := @runRecovery_selected env plan (.start plan nDataMaskIn s) events
  have fromZero : (RecoveryState.start plan nDataMaskIn s).task.nTries = 0 := rfl
  rw [fromZero, Nat.sub_zero, ← List.range_eq_range'] at rotation
  rw [selectedIndices, rotation]
  exact ⟨rfl, rotation_nodup _ (runRecovery env plan _ events).2.task.tries_le,
    by simpa using (runRecovery env plan _ events).2.task.tries_le⟩

/-- A node where the quorum of block 7 has two members, this node (5) and masternode 3. -/
def recoveryNodeEnv : NodeEnv :=
  { sampleNodeEnv with
    chain := ⟨fun h => some ⟨h, 0⟩, fun _ _ => none, fun _ _ => [⟨5, some 50⟩, ⟨3, some 30⟩]⟩ }

/-- The quorum of block 7 mined with both members valid. -/
def recoveryMined : MinedCommitments := fun t h =>
  if t = 1 ∧ h = 7 then some ⟨1, 1, 7, [true, true], [true, true], some 5, 9, some 1, some 2⟩
  else none

/-- The quorum the node builds for block 7 before any data arrived. -/
def recoveringQuorum : CQuorum :=
  ⟨⟨1, 2, 1, 1, 24, 2⟩, ⟨1, 1, 7, [true, true], [true, true], some 5, 9, some 1, some 2⟩, ⟨7, 0⟩,
    [⟨5, some 50⟩, ⟨3, some 30⟩], none, none⟩

/-- An earlier request to masternode 3 left to expire unswept, then two passes of the task one
second apart, each seeing the one connection to masternode 3.
-/
def expiredEntryRecovery : List RecoveryEvent :=
  [.node (.requestQuorumData samplePeer 1 (some ⟨7, 0⟩) 1 5), .node (.advanceClock 1000),
    .pass ⟨false, false, 1000, [samplePeer]⟩, .node (.advanceClock 1001),
    .pass ⟨false, false, 1001, [samplePeer]⟩]

theorem recovery_resends_to_same_candidate :
    (getQuorum recoveryNodeEnv.toManagerEnv (NodeState.initial recoveryMined 0).toManagerState 1
        ⟨7, 0⟩).1 = some recoveringQuorum
      ∧ (startQuorumDataRecovery 5 recoveringQuorum [3, 5]).vecMemberHashes = [3]
      ∧ (runRecovery recoveryNodeEnv (startQuorumDataRecovery 5 recoveringQuorum [3, 5])
          ⟨true, .start _ 1, NodeState.initial recoveryMined 0, false⟩ expiredEntryRecovery).1.map (·.2)
        = [[], [], [(samplePeer, .create 1 7 1 5 0)], [], [(samplePeer, .create 1 7 1 5 0)]] := by
  decide

end Llmq
