import LlmqQuorums.Recovery
import LlmqQuorums.Noninterference

/-! `TriggerQuorumDataRecoveryThreads` and the worker pool it feeds. At each synced block tip a
masternode scans the recent quorums of every type and, for each quorum object that lacks data
this node should hold, starts a recovery thread unless the object's
`fQuorumDataRecoveryThreadRunning` flag is set. A thread sets the flag when it is started, waits
for the chain to sync, runs the passes of `Recovery`, and clears the flag when its loop ends;
once `CQuorumManager::Stop` has set `quorumThreadInterrupt`, a thread still waiting returns with
the flag still set. The threads' passes interleave with one another and with everything else the
node does.
-/

namespace Llmq

/-- `QvvecSyncMode`, with `invalid` for a type without an entry. -/
inductive QvvecSyncMode
  | invalid
  | always
  | onlyIfTypeMember
  deriving DecidableEq, Repr

/-- What `CLLMQUtils` reads from the options: `QuorumDataRecoveryEnabled()` and the entries of
`GetEnabledQuorumVvecSyncEntries()`. -/
structure RecoveryConfig where
  quorumDataRecoveryEnabled : Bool
  vvecSync : LLMQType → Option QvvecSyncMode

/-- A `CQuorumCPtr`: the object, told apart from every other by `id`, and the state it holds. -/
structure QuorumObject where
  id : Nat
  quorum : CQuorum
  deriving DecidableEq, Repr

/-- What the trigger reads at a block: `pIndex` (`none` for a null pointer), what
`ScanQuorums(type, pIndex, signingActiveQuorumCount + 1)` returns for each type, and the valid
masternodes of the list at `pIndex`, which `GetQuorumRecoveryStartOffset` sorts.
-/
structure TriggerInput where
  pIndex : Option CBlockIndex
  scanned : LLMQType → List QuorumObject
  validMNs : List Uint256

/-- The keys of `Params().GetConsensus().llmqs` in the map's order; `LLMQType` is a `uint8_t`. -/
def configuredTypes (consensus : Consensus) : List LLMQType :=
  (List.range 256).filter fun llmqType => (consensus.llmqs llmqType).isSome

/-- The number of threads `CQuorumManager::Start` gives the worker pool that runs the cache
populators and the recovery threads: `hardware_concurrency() / 2` in an `int`, then
`std::max(std::min(1, workerCount), 4)`. -/
def workerCount (hardwareConcurrency : Nat) : Int :=
  max (min 1 ((hardwareConcurrency / 2 : Nat) : Int)) 4

/-- The data kinds the trigger asks a thread to recover: the verification vector when this node
is a valid member or the type's vector sync applies, and the quorum has none; the encrypted
contributions when this node is a valid member without a valid secret key share.
-/
def recoveryDataMask (config : RecoveryConfig) (proTxHash : Uint256) (fWeAreQuorumTypeMember : Bool)
    (pQuorum : CQuorum) : Nat :=
  let fWeAreQuorumMember := pQuorum.isValidMember proTxHash
  let fSyncForTypeEnabled := (config.vvecSync pQuorum.qc.llmqType).isSome
  let syncMode := (config.vvecSync pQuorum.qc.llmqType).getD .invalid
  let fSyncCurrent := syncMode == .always
    || (syncMode == .onlyIfTypeMember && fWeAreQuorumTypeMember)
  let nDataMask :=
    if (fWeAreQuorumMember || (fSyncForTypeEnabled && fSyncCurrent))
        && !pQuorum.hasVerificationVector then
      0 ||| CQuorumDataRequest.quorumVerificationVector
    else 0
  if fWeAreQuorumMember && !pQuorum.skShare.isSome then
    nDataMask ||| CQuorumDataRequest.encryptedContributions
  else nDataMask

/-- A thread of the worker pool recovering one quorum object: the object it captured, what the
task fixed at its start, the mask it was started with, whether its wait for the chain to sync is
over, and its loop variables.
-/
structure RecoveryThread where
  pQuorum : QuorumObject
  plan : RecoveryPlan
  nDataMaskIn : Nat
  started : Bool
  task : RecoveryTask plan.vecMemberHashes.length

/-- The node, the `fQuorumDataRecoveryThreadRunning` flag of every quorum object, the threads
of the pool, in the order they were pushed, and the manager's `quorumThreadInterrupt`. -/
structure RecoveryPool where
  node : NodeState
  running : Nat → Bool
  threads : List RecoveryThread
  quorumThreadInterrupt : Bool

/-- A pool beside a node before any thread was started, with `quorumThreadInterrupt` clear as the
constructor of `CQuorumManager` leaves it. -/
def RecoveryPool.initial (s : NodeState) : RecoveryPool := ⟨s, fun _ => false, [], false⟩

/-- The flags with the one of object `id` set to `flag`. -/
def setRunning (running : Nat → Bool) (id : Nat) (flag : Bool) : Nat → Bool :=
  fun other => if other = id then flag else running other

section Trigger

variable (env : NodeEnv) (config : RecoveryConfig)

/-- `StartQuorumDataRecoveryThread(pQuorum, pIndex, nDataMaskIn)`: nothing when the object's flag
is set ("Already running"); otherwise the flag is set and a thread is pushed to the pool. -/
def startQuorumDataRecoveryThread (pool : RecoveryPool) (pQuorum : QuorumObject)
    (validMNs : List Uint256) (nDataMaskIn : Nat) : RecoveryPool :=
  if pool.running pQuorum.id then pool
  else
    let plan := startQuorumDataRecovery env.myProTxHash pQuorum.quorum validMNs
    { pool with
      running := setRunning pool.running pQuorum.id true
      threads := pool.threads ++ [⟨pQuorum, plan, nDataMaskIn, false, .start _ nDataMaskIn⟩] }

/-- One turn of the trigger's loop over a type's quorums: a quorum whose thread runs, or that
needs no data ("No data needed"), is skipped; for any other a thread is started. -/
def triggerQuorum (validMNs : List Uint256) (fWeAreQuorumTypeMember : Bool) (pool : RecoveryPool)
    (pQuorum : QuorumObject) : RecoveryPool :=
  if pool.running pQuorum.id then pool
  else
    let nDataMask := recoveryDataMask config env.myProTxHash fWeAreQuorumTypeMember pQuorum.quorum
    if nDataMask = 0 then pool
    else startQuorumDataRecoveryThread env pool pQuorum validMNs nDataMask

/-- The trigger for one type: whether this node is a valid member of any of its scanned quorums,
then the loop over them. -/
def triggerQuorumType (validMNs : List Uint256) (pool : RecoveryPool)
    (vecQuorums : List QuorumObject) : RecoveryPool :=
  vecQuorums.foldl (triggerQuorum env config validMNs
    (vecQuorums.any (·.quorum.isValidMember env.myProTxHash))) pool

/-- `TriggerQuorumDataRecoveryThreads(pIndex)`: nothing outside masternode mode, with recovery
disabled or without a block; otherwise the loop over the configured types. -/
def triggerQuorumDataRecoveryThreads (input : TriggerInput) (pool : RecoveryPool) : RecoveryPool :=
  if !env.fMasternodeMode || !config.quorumDataRecoveryEnabled || input.pIndex.isNone then pool
  else (configuredTypes env.consensus).foldl
    (fun pool llmqType => triggerQuorumType env config input.validMNs pool (input.scanned llmqType))
    pool

end Trigger

/-- A QGETDATA a thread sent: the quorum object it recovers, the connection, the request,
`GetTime()` when it went out, and the entry that stood at the connection's outgoing key when the
pass that sent it began. -/
structure ThreadRequest where
  pQuorum : QuorumObject
  pNode : CNode
  request : CQuorumDataRequest
  now : Nat
  stored : Option CQuorumDataRequest
  deriving DecidableEq, Repr

namespace RecoveryPool

/-- The wait of thread `i` before its loop, `while (!IsBlockchainSynced() && !quorumThreadInterrupt)`:
still unsynced it waits on; interrupted it returns ("Aborted") with its flag still set; synced it
enters its loop. -/
def wait (pool : RecoveryPool) (i : Nat) (synced : Bool) : RecoveryPool :=
  match pool.threads[i]? with
  | none => pool
  | some thread =>
      if thread.started || (!synced && !pool.quorumThreadInterrupt) then pool
      else if pool.quorumThreadInterrupt then { pool with threads := pool.threads.eraseIdx i }
      else { pool with threads := pool.threads.set i { thread with started := true } }

/-- A pass of the loop of thread `i` beside the node. When the loop ends the thread clears its
object's flag ("Done") and leaves the pool. -/
def pass (env : NodeEnv) (pool : RecoveryPool) (i : Nat) (inputs : RecoveryPass) :
    List ThreadRequest × RecoveryPool :=
  match pool.threads[i]? with
  | none => ([], pool)
  | some thread =>
      if !thread.started then ([], pool)
      else
        let result := recoveryPass env thread.plan thread.task pool.node pool.quorumThreadInterrupt inputs
        let sent := result.sent.map fun (pNode, request) =>
          ⟨thread.pQuorum, pNode, request, pool.node.now,
            pool.node.requests (pNode.verifiedProRegTxHash, true)⟩
        if result.running then
          (sent, { pool with
            node := result.node
            threads := pool.threads.set i { thread with task := result.task } })
        else
          (sent, { pool with
            node := result.node
            running := setRunning pool.running thread.pQuorum.id false
            threads := pool.threads.eraseIdx i })

end RecoveryPool

/-- What happens beside the pool: an event of the node, a new tip (`UpdatedBlockTip`, whose sweep
and trigger run only on a synced chain), `CQuorumManager::Stop`, the wait of a thread, or a pass
of a thread's loop. -/
inductive PoolEvent
  | node (event : NodeEvent)
  | updatedBlockTip (synced : Bool) (input : TriggerInput)
  | stop
  | wait (thread : Nat) (synced : Bool)
  | pass (thread : Nat) (inputs : RecoveryPass)

/-- One event, with the QGETDATA the threads sent. -/
def PoolEvent.step (env : NodeEnv) (config : RecoveryConfig) (pool : RecoveryPool) :
    PoolEvent → List ThreadRequest × RecoveryPool
  | .node event => ([], { pool with node := (event.step env pool.node).2 })
  | .updatedBlockTip synced input =>
      let pool := { pool with node := Llmq.updatedBlockTip env pool.node synced }
      ([], if synced then triggerQuorumDataRecoveryThreads env config input pool else pool)
  | .stop => ([], { pool with quorumThreadInterrupt := true })
  | .wait i synced => ([], pool.wait i synced)
  | .pass i inputs => pool.pass env i inputs

/-- A run of the pool: every QGETDATA the threads sent, in order, and the final pool. -/
def runPool (env : NodeEnv) (config : RecoveryConfig) :
    RecoveryPool → List PoolEvent → List ThreadRequest × RecoveryPool
  | pool, [] => ([], pool)
  | pool, event :: rest =>
      let (sent, pool') := event.step env config pool
      let (more, final) := runPool env config pool' rest
      (sent ++ more, final)

-----------------------------------------------------------------------------------------
-- Data masks
-----------------------------------------------------------------------------------------

section Masks

/-- Asking for no more than `b` is transitive, written `a &&& b = a`. -/
theorem and_eq_self_trans {a b c : Nat} (ab : a &&& b = a) (bc : b &&& c = b) : a &&& c = a := by
  rw [← ab, Nat.and_assoc, bc]

/-- A mask that asks for no more than `b` asks for a kind only if `b` does. -/
theorem and_ne_zero_of_and_eq_self {a b flag : Nat} (ab : a &&& b = a) (wanted : a &&& flag ≠ 0) :
    b &&& flag ≠ 0 := fun unwanted =>
  wanted (by rw [← ab, Nat.and_assoc, unwanted, Nat.and_zero])

theorem clearFlag_and_self (nDataMask flag : Nat) :
    clearFlag nDataMask flag &&& nDataMask = clearFlag nDataMask flag := by
  unfold clearFlag
  rw [Nat.and_assoc, Nat.and_comm _ nDataMask, ← Nat.and_assoc, Nat.and_self]

/-- A pass only drops data kinds from the mask. -/
theorem remainingDataMask_and_self (nDataMask : Nat) (pass : RecoveryPass) :
    remainingDataMask nDataMask pass &&& nDataMask = remainingDataMask nDataMask pass := by
  unfold remainingDataMask
  dsimp only
  split_ifs
  · exact and_eq_self_trans (clearFlag_and_self _ _) (clearFlag_and_self _ _)
  · exact clearFlag_and_self _ _
  · exact clearFlag_and_self _ _
  · exact Nat.and_self _

variable {config : RecoveryConfig} {proTxHash : Uint256} {fWeAreQuorumTypeMember : Bool}
  {pQuorum : CQuorum}

/-- The trigger asks for the verification vector only of a quorum this node is a valid member of
or whose type's vector sync is on. -/
theorem recoveryDataMask_vector
    (wanted : recoveryDataMask config proTxHash fWeAreQuorumTypeMember pQuorum
      &&& CQuorumDataRequest.quorumVerificationVector ≠ 0) :
    pQuorum.isValidMember proTxHash = true ∨ (config.vvecSync pQuorum.qc.llmqType).isSome = true := by
  cases member : pQuorum.isValidMember proTxHash
  · cases sync : (config.vvecSync pQuorum.qc.llmqType).isSome
    · simp [recoveryDataMask, member, sync] at wanted
    · exact .inr rfl
  · exact .inl rfl

/-- The trigger asks for the encrypted contributions only of a quorum this node is a valid member
of. -/
theorem recoveryDataMask_contributions
    (wanted : recoveryDataMask config proTxHash fWeAreQuorumTypeMember pQuorum
      &&& CQuorumDataRequest.encryptedContributions ≠ 0) :
    pQuorum.isValidMember proTxHash = true := by
  cases member : pQuorum.isValidMember proTxHash
  · simp only [recoveryDataMask, member, Bool.false_and, Bool.false_or, Bool.false_eq_true,
      ↓reduceIte] at wanted
    split_ifs at wanted <;> exact absurd (by decide) wanted
  · rfl

end Masks

-----------------------------------------------------------------------------------------
-- What a pass sends
-----------------------------------------------------------------------------------------

/-- A request a pass of `plan`'s task, begun on the node state `s`, sends to `pNode` while it asks
for `nDataMask`: a new request for the plan's quorum from this node with that mask, or the expired
request that stood at the connection's outgoing key when the pass began, sent again unchanged. -/
def RecoveryPlan.Sends (env : NodeEnv) (plan : RecoveryPlan) (nDataMask : Nat) (s : NodeState)
    (pNode : CNode) (request : CQuorumDataRequest) : Prop :=
  request = .create plan.pQuorum.qc.llmqType plan.pQuorum.pindexQuorum.hash nDataMask
      env.myProTxHash s.now
    ∨ (s.requests (pNode.verifiedProRegTxHash, true) = some request
      ∧ request.isExpired env.expirationTimeout s.now = true)

/-- `s'` came from `s` with no new expired entry: the same clock, and every expired entry of `s'`
already in `s`. A pass's `RequestQuorumData` calls keep this, since `emplace` only fills a free
key, with a request created now. -/
structure NodeState.KeepsExpired (env : NodeEnv) (s s' : NodeState) : Prop where
  now : s'.now = s.now
  expired : ∀ key request, s'.requests key = some request →
    request.isExpired env.expirationTimeout s.now = true → s.requests key = some request

theorem NodeState.KeepsExpired.refl (env : NodeEnv) (s : NodeState) : s.KeepsExpired env s :=
  ⟨rfl, fun _ _ found _ => found⟩

/-- A request created now has not expired. -/
theorem CQuorumDataRequest.create_not_expired (expirationTimeout now : Nat) (llmqType : LLMQType)
    (quorumHash : Uint256) (nDataMask : Nat) (proTxHash : Uint256) :
    (CQuorumDataRequest.create llmqType quorumHash nDataMask proTxHash now).isExpired
      expirationTimeout now = false := by
  simp [CQuorumDataRequest.isExpired, CQuorumDataRequest.create]

/-- `RequestQuorumData` adds no expired entry: it fills a free outgoing key with a request created
now, or leaves the table. -/
theorem NodeState.KeepsExpired.requestQuorumData {env : NodeEnv} {s s₁ : NodeState}
    (kept : s.KeepsExpired env s₁) (pFrom : CNode) (llmqType : LLMQType)
    (pQuorumIndex : Option CBlockIndex) (nDataMask : Nat) (proTxHash : Uint256) :
    s.KeepsExpired env
      (Llmq.requestQuorumData env s₁ pFrom llmqType pQuorumIndex nDataMask proTxHash).2 := by
  refine ⟨(requestQuorumData_now ..).trans kept.now, fun key request found expired =>
    kept.expired key request ?_ expired⟩
  by_cases mine : key = (pFrom.verifiedProRegTxHash, true)
  · subst mine
    have table := congrArg Prod.snd (@requestQuorumData_outcome_requests env s₁ pFrom llmqType
      pQuorumIndex nDataMask proTxHash)
    dsimp only at table
    rw [table] at found
    split at found
    · exact found
    · unfold emplaceRequest at found
      split at found
      · simp only [RequestTable.set_same, Option.some.injEq] at found
        rw [← found, ← kept.now, CQuorumDataRequest.create_not_expired] at expired
        cases expired
      · split_ifs at found <;> exact found
  · rwa [requestQuorumData_other mine] at found

section Sends

variable {env : NodeEnv} {plan : RecoveryPlan}

/-- The step lemma of a pass's requests: one connection keeps the mask and adds no expired entry
to the node, and what it sends is the plan's own request or an expired entry the pass began with.
-/
theorem requestFromNode_sends (adjustedTime : Int) (s₀ : NodeState)
    (acc : RecoveryTask plan.vecMemberHashes.length × NodeState × List (CNode × CQuorumDataRequest))
    (pNode : CNode) (kept : s₀.KeepsExpired env acc.2.1)
    (sends : ∀ sent ∈ acc.2.2, plan.Sends env acc.1.nDataMask s₀ sent.1 sent.2) :
    (requestFromNode env plan adjustedTime acc pNode).1.nDataMask = acc.1.nDataMask
      ∧ s₀.KeepsExpired env (requestFromNode env plan adjustedTime acc pNode).2.1
      ∧ ∀ sent ∈ (requestFromNode env plan adjustedTime acc pNode).2.2,
        plan.Sends env acc.1.nDataMask s₀ sent.1 sent.2 := by
  obtain ⟨task, s, sent⟩ := acc
  simp only [requestFromNode]
  split
  · exact ⟨rfl, kept, sends⟩
  split
  · exact ⟨rfl, kept, sends⟩
  split
  · rename_i request inserted s' requested
    have kept' := kept.requestQuorumData pNode plan.pQuorum.qc.llmqType (some plan.pQuorum.pindexQuorum)
      task.nDataMask env.myProTxHash
    rw [requested] at kept'
    refine ⟨rfl, kept', fun item mem => ?_⟩
    rcases List.mem_append.mp mem with old | new
    · exact sends item old
    rw [List.mem_singleton.mp new]
    obtain ⟨-, created, resent⟩ := requestQuorumData_sent (congrArg Prod.fst requested)
    cases inserted with
    | true =>
        obtain ⟨-, pindex, same, rfl⟩ := created rfl
        cases same
        exact .inl (by rw [kept.now])
    | false =>
        obtain ⟨stored, expired⟩ := resent rfl
        rw [kept.now] at expired
        exact .inr ⟨kept.expired _ _ stored expired, expired⟩
  all_goals
    rename_i s' notSent requested
    have kept' := kept.requestQuorumData pNode plan.pQuorum.qc.llmqType (some plan.pQuorum.pindexQuorum)
      task.nDataMask env.myProTxHash
    rw [requested] at kept'
    repeat' split
    all_goals exact ⟨rfl, kept', sends⟩

/-- `ForEachNode` keeps the mask and sends the plan's own request or an expired entry the node
held when it began; by induction over the connections. -/
theorem requestFromNodes_sends (adjustedTime : Int) (nodes : List CNode)
    (task : RecoveryTask plan.vecMemberHashes.length) (s : NodeState) :
    (requestFromNodes env plan adjustedTime nodes task s).1.nDataMask = task.nDataMask
      ∧ ∀ sent ∈ (requestFromNodes env plan adjustedTime nodes task s).2.2,
        plan.Sends env task.nDataMask s sent.1 sent.2 := by
  suffices folded : ∀ acc : RecoveryTask plan.vecMemberHashes.length × NodeState
      × List (CNode × CQuorumDataRequest), s.KeepsExpired env acc.2.1 →
      (∀ sent ∈ acc.2.2, plan.Sends env acc.1.nDataMask s sent.1 sent.2) →
      (nodes.foldl (requestFromNode env plan adjustedTime) acc).1.nDataMask = acc.1.nDataMask
        ∧ ∀ sent ∈ (nodes.foldl (requestFromNode env plan adjustedTime) acc).2.2,
          plan.Sends env acc.1.nDataMask s sent.1 sent.2 from
    folded (task, s, []) (.refl env s) (List.forall_mem_nil _)
  induction nodes with
  | nil => exact fun _ _ sends => ⟨rfl, sends⟩
  | cons pNode rest ih =>
      intro acc kept sends
      obtain ⟨mask, kept', sent⟩ := requestFromNode_sends adjustedTime s acc pNode kept sends
      obtain ⟨mask', sent'⟩ := ih _ kept' (mask ▸ sent)
      exact ⟨mask'.trans mask, mask ▸ sent'⟩

/-- The move to the next candidate keeps the mask and sends what `ForEachNode` sends. -/
theorem nextCandidate_sends (task : RecoveryTask plan.vecMemberHashes.length) (s : NodeState)
    (pass : RecoveryPass) :
    (nextCandidate env plan task s pass).task.nDataMask = task.nDataMask
      ∧ ∀ sent ∈ (nextCandidate env plan task s pass).sent,
        plan.Sends env task.nDataMask s sent.1 sent.2 := by
  simp only [nextCandidate]
  split
  · split
    · exact ⟨rfl, List.forall_mem_nil _⟩
    · exact requestFromNodes_sends _ _ _ _
  · exact ⟨rfl, List.forall_mem_nil _⟩

/-- The step lemma of a pass: it only drops data kinds from the mask, and everything it sends is
the plan's own request with the mask it ends with, or an expired one. -/
theorem recoveryPass_sends (task : RecoveryTask plan.vecMemberHashes.length) (s : NodeState)
    (quorumThreadInterrupt : Bool) (pass : RecoveryPass) :
    let result := recoveryPass env plan task s quorumThreadInterrupt pass
    result.task.nDataMask &&& task.nDataMask = result.task.nDataMask
      ∧ ∀ sent ∈ result.sent, plan.Sends env result.task.nDataMask s sent.1 sent.2 := by
  simp only [recoveryPass]
  split
  · exact ⟨Nat.and_self _, List.forall_mem_nil _⟩
  split
  · exact ⟨remainingDataMask_and_self _ _, List.forall_mem_nil _⟩
  split
  · obtain ⟨mask, sends⟩ := @nextCandidate_sends env plan
      { task with nDataMask := remainingDataMask task.nDataMask pass } s pass
    rw [mask]
    exact ⟨remainingDataMask_and_self _ _, sends⟩
  · obtain ⟨mask, sends⟩ := @requestFromNodes_sends env plan pass.adjustedTime pass.nodes
      { task with nDataMask := remainingDataMask task.nDataMask pass } s
    rw [mask]
    exact ⟨remainingDataMask_and_self _ _, sends⟩

end Sends

-----------------------------------------------------------------------------------------
-- One thread for each quorum object, asking only for what it may
-----------------------------------------------------------------------------------------

/-- A thread as the trigger starts it and its passes keep it: its plan is its object's quorum, it
asks for no more than its start mask, and the start mask asks for the verification vector only of
a quorum this node is a valid member of or whose type's vector sync is on, and for the encrypted
contributions only of a quorum this node is a valid member of.
-/
structure RecoveryThread.Sound (env : NodeEnv) (config : RecoveryConfig) (thread : RecoveryThread) :
    Prop where
  quorum : thread.plan.pQuorum = thread.pQuorum.quorum
  within : thread.task.nDataMask &&& thread.nDataMaskIn = thread.task.nDataMask
  vector : thread.nDataMaskIn &&& CQuorumDataRequest.quorumVerificationVector ≠ 0 →
    thread.pQuorum.quorum.isValidMember env.myProTxHash = true
      ∨ (config.vvecSync thread.pQuorum.quorum.qc.llmqType).isSome = true
  contributions : thread.nDataMaskIn &&& CQuorumDataRequest.encryptedContributions ≠ 0 →
    thread.pQuorum.quorum.isValidMember env.myProTxHash = true

/-- What every run keeps: no two threads recover one quorum object, the flag of each thread's
object is set, and every thread is sound. -/
structure RecoveryPool.Safe (env : NodeEnv) (config : RecoveryConfig) (pool : RecoveryPool) :
    Prop where
  distinct : (pool.threads.map (·.pQuorum.id)).Nodup
  flagged : ∀ thread ∈ pool.threads, pool.running thread.pQuorum.id = true
  sound : ∀ thread ∈ pool.threads, thread.Sound env config

/-- What a thread may send: a request from this node for its own quorum, asking for the
verification vector only if this node is a valid member or the type's vector sync is on, and for
the encrypted contributions only if this node is a valid member; or the expired request that
stood at the connection's outgoing key when the pass began, sent again unchanged.
-/
def ThreadRequest.Entitled (env : NodeEnv) (config : RecoveryConfig) (sent : ThreadRequest) : Prop :=
  (sent.request.llmqType = sent.pQuorum.quorum.qc.llmqType
      ∧ sent.request.quorumHash = sent.pQuorum.quorum.pindexQuorum.hash
      ∧ sent.request.proTxHash = env.myProTxHash
      ∧ (sent.request.wants CQuorumDataRequest.quorumVerificationVector = true →
          sent.pQuorum.quorum.isValidMember env.myProTxHash = true
            ∨ (config.vvecSync sent.pQuorum.quorum.qc.llmqType).isSome = true)
      ∧ (sent.request.wants CQuorumDataRequest.encryptedContributions = true →
          sent.pQuorum.quorum.isValidMember env.myProTxHash = true))
    ∨ (sent.stored = some sent.request
      ∧ sent.request.isExpired env.expirationTimeout sent.now = true)

section Lists

variable {α β : Type} {f : α → β} {l : List α} {i : Nat} {a b : α}

/-- In a list whose keys do not repeat, what stays after dropping entry `i` has another key. -/
theorem map_ne_of_mem_eraseIdx (distinct : (l.map f).Nodup) (found : l[i]? = some a)
    (mem : b ∈ l.eraseIdx i) : f b ≠ f a := by
  obtain ⟨j, apart, foundj⟩ := List.mem_eraseIdx_iff_getElem?.mp mem
  intro same
  have keys : (l.map f)[j]? = (l.map f)[i]? := by
    simp [List.getElem?_map, found, foundj, same]
  have unequal := List.nodup_iff_getElem?_ne_getElem?.mp distinct
  rcases Nat.lt_or_gt_of_ne apart with lt | gt
  · exact unequal j i lt (by simpa using (List.getElem?_eq_some_iff.mp found).1) keys
  · exact unequal i j gt (by simpa using (List.getElem?_eq_some_iff.mp foundj).1) keys.symm

/-- Replacing entry `i` by one of the same key keeps the keys apart. -/
theorem nodup_map_set (distinct : (l.map f).Nodup) (found : l[i]? = some a) (same : f b = f a) :
    ((l.set i b).map f).Nodup := by
  have unchanged : (l.map f).set i (f a) = l.map f := by
    apply List.ext_getElem?
    intro j
    rw [List.getElem?_set]
    split_ifs with here bound
    · subst here
      simp [found]
    · simp only [List.length_map] at bound
      exact absurd (List.getElem?_eq_some_iff.mp found).1 bound
    · rfl
  rw [List.map_set, same, unchanged]
  exact distinct

end Lists

section Invariant

variable {env : NodeEnv} {config : RecoveryConfig} {pool : RecoveryPool}

theorem RecoveryPool.Safe.initial (s : NodeState) : (RecoveryPool.initial s).Safe env config := by
  constructor <;> simp [RecoveryPool.initial]

/-- Thread `i` leaves the pool, and no flag but its own changes. -/
theorem RecoveryPool.Safe.eraseIdx (safe : pool.Safe env config) {i : Nat} {thread : RecoveryThread}
    (found : pool.threads[i]? = some thread) {running : Nat → Bool}
    (kept : ∀ id, id ≠ thread.pQuorum.id → running id = pool.running id) (node : NodeState) :
    ({ pool with node, running, threads := pool.threads.eraseIdx i } : RecoveryPool).Safe env config := by
  have sub := List.eraseIdx_sublist pool.threads i
  refine ⟨safe.distinct.sublist (sub.map _), fun other mem => ?_, fun other mem =>
    safe.sound other (sub.subset mem)⟩
  show running other.pQuorum.id = true
  rw [kept _ (map_ne_of_mem_eraseIdx (f := (·.pQuorum.id)) safe.distinct found mem)]
  exact safe.flagged other (sub.subset mem)

/-- Thread `i` is replaced by a sound thread of the same object. -/
theorem RecoveryPool.Safe.set (safe : pool.Safe env config) {i : Nat} {thread : RecoveryThread}
    (found : pool.threads[i]? = some thread) (thread' : RecoveryThread)
    (same : thread'.pQuorum.id = thread.pQuorum.id)
    (sound : thread'.Sound env config) (node : NodeState) :
    ({ pool with node, threads := pool.threads.set i thread' } : RecoveryPool).Safe env config := by
  refine ⟨nodup_map_set safe.distinct found same, fun other mem => ?_, fun other mem => ?_⟩
  · rcases List.mem_or_eq_of_mem_set mem with old | rfl
    · exact safe.flagged other old
    · rw [same]
      exact safe.flagged thread (List.getElem?_mem found)
  · rcases List.mem_or_eq_of_mem_set mem with old | rfl
    · exact safe.sound other old
    · exact sound

/-- A thread is started only for an object whose flag is clear, with a mask the trigger may ask
for. -/
theorem startQuorumDataRecoveryThread_safe (safe : pool.Safe env config) {pQuorum : QuorumObject}
    {validMNs : List Uint256} {nDataMaskIn : Nat}
    (vector : nDataMaskIn &&& CQuorumDataRequest.quorumVerificationVector ≠ 0 →
      pQuorum.quorum.isValidMember env.myProTxHash = true
        ∨ (config.vvecSync pQuorum.quorum.qc.llmqType).isSome = true)
    (contributions : nDataMaskIn &&& CQuorumDataRequest.encryptedContributions ≠ 0 →
      pQuorum.quorum.isValidMember env.myProTxHash = true) :
    (startQuorumDataRecoveryThread env pool pQuorum validMNs nDataMaskIn).Safe env config := by
  unfold startQuorumDataRecoveryThread
  split_ifs with flagged
  · exact safe
  refine ⟨?_, fun thread mem => ?_, fun thread mem => ?_⟩
  · rw [List.map_append, List.nodup_append]
    refine ⟨safe.distinct, List.nodup_singleton _, fun id old new => ?_⟩
    obtain ⟨thread, mem, rfl⟩ := List.mem_map.mp old
    rw [List.map_singleton, List.mem_singleton] at new
    exact flagged (new ▸ safe.flagged thread mem)
  · rcases List.mem_append.mp mem with old | new
    · simp only [setRunning]
      split
      · rfl
      · exact safe.flagged thread old
    · rw [List.mem_singleton.mp new]
      simp [setRunning]
  · rcases List.mem_append.mp mem with old | new
    · exact safe.sound thread old
    · rw [List.mem_singleton.mp new]
      exact ⟨rfl, Nat.and_self _, vector, contributions⟩

/-- The step lemma of the trigger's loop. -/
theorem triggerQuorum_safe (validMNs : List Uint256) (fWeAreQuorumTypeMember : Bool)
    (pQuorum : QuorumObject) (safe : pool.Safe env config) :
    (triggerQuorum env config validMNs fWeAreQuorumTypeMember pool pQuorum).Safe env config := by
  unfold triggerQuorum
  dsimp only
  split_ifs
  · exact safe
  · exact safe
  · exact startQuorumDataRecoveryThread_safe safe recoveryDataMask_vector
      recoveryDataMask_contributions

theorem triggerQuorumType_safe (validMNs : List Uint256) (vecQuorums : List QuorumObject)
    (safe : pool.Safe env config) :
    (triggerQuorumType env config validMNs pool vecQuorums).Safe env config := by
  unfold triggerQuorumType
  exact List.foldlRecOn (motive := fun pool : RecoveryPool => pool.Safe env config) _ _ _ safe
    fun _ safe pQuorum _ => triggerQuorum_safe _ _ pQuorum safe

/-- The trigger keeps the pool safe, type after type. -/
theorem triggerQuorumDataRecoveryThreads_safe (input : TriggerInput) (safe : pool.Safe env config) :
    (triggerQuorumDataRecoveryThreads env config input pool).Safe env config := by
  unfold triggerQuorumDataRecoveryThreads
  split_ifs
  · exact safe
  · exact List.foldlRecOn (motive := fun pool : RecoveryPool => pool.Safe env config) _ _ _ safe
      fun _ safe llmqType _ => triggerQuorumType_safe _ _ safe

theorem RecoveryPool.wait_safe (safe : pool.Safe env config) (i : Nat) (synced : Bool) :
    (pool.wait i synced).Safe env config := by
  unfold RecoveryPool.wait
  split
  · exact safe
  rename_i thread found
  split_ifs
  · exact safe
  · exact safe.eraseIdx found (fun _ _ => rfl) pool.node
  · have sound := safe.sound thread (List.getElem?_mem found)
    exact safe.set found { thread with started := true } rfl
      ⟨sound.quorum, sound.within, sound.vector, sound.contributions⟩ pool.node

/-- The step lemma of a pass: the pool stays safe, and every request the thread sends is its own,
within its start mask, or an expired one sent again. -/
theorem RecoveryPool.pass_safe (safe : pool.Safe env config) (i : Nat) (inputs : RecoveryPass) :
    (pool.pass env i inputs).2.Safe env config
      ∧ ∀ sent ∈ (pool.pass env i inputs).1, sent.Entitled env config := by
  unfold RecoveryPool.pass
  split
  · exact ⟨safe, List.forall_mem_nil _⟩
  rename_i thread found
  have sound := safe.sound thread (List.getElem?_mem found)
  obtain ⟨within, sends⟩ :=
    @recoveryPass_sends env thread.plan thread.task pool.node pool.quorumThreadInterrupt inputs
  have asked := and_eq_self_trans within sound.within
  have entitled : ∀ sent ∈
      (recoveryPass env thread.plan thread.task pool.node pool.quorumThreadInterrupt inputs).sent.map
      (fun (pNode, request) => ThreadRequest.mk thread.pQuorum pNode request pool.node.now
        (pool.node.requests (pNode.verifiedProRegTxHash, true))),
      sent.Entitled env config := by
    intro sent mem
    obtain ⟨⟨pNode, request⟩, sentMem, rfl⟩ := List.mem_map.mp mem
    rcases sends _ sentMem with own | stale
    · dsimp only at own
      subst own
      refine .inl ?_
      simp only [CQuorumDataRequest.create, CQuorumDataRequest.wants, sound.quorum, bne_iff_ne,
        ne_eq, true_and]
      exact ⟨fun vector => sound.vector (and_ne_zero_of_and_eq_self asked vector),
        fun contributions => sound.contributions (and_ne_zero_of_and_eq_self asked contributions)⟩
    · exact .inr stale
  dsimp only
  split_ifs
  · exact ⟨safe, List.forall_mem_nil _⟩
  · exact ⟨safe.set found
      { thread with
        task := (recoveryPass env thread.plan thread.task pool.node pool.quorumThreadInterrupt inputs).task }
      rfl
      ⟨sound.quorum, asked, sound.vector, sound.contributions⟩ _, entitled⟩
  · exact ⟨safe.eraseIdx found (fun _ apart => if_neg apart) _, entitled⟩

theorem PoolEvent.step_safe (safe : pool.Safe env config) (event : PoolEvent) :
    (event.step env config pool).2.Safe env config
      ∧ ∀ sent ∈ (event.step env config pool).1, sent.Entitled env config := by
  cases event with
  | node event => exact ⟨⟨safe.distinct, safe.flagged, safe.sound⟩, List.forall_mem_nil _⟩
  | updatedBlockTip synced input =>
      refine ⟨?_, List.forall_mem_nil _⟩
      simp only [step]
      split
      · exact triggerQuorumDataRecoveryThreads_safe input ⟨safe.distinct, safe.flagged, safe.sound⟩
      · exact ⟨safe.distinct, safe.flagged, safe.sound⟩
  | stop => exact ⟨⟨safe.distinct, safe.flagged, safe.sound⟩, List.forall_mem_nil _⟩
  | wait i synced => exact ⟨pool.wait_safe safe i synced, List.forall_mem_nil _⟩
  | pass i inputs => exact pool.pass_safe safe i inputs

/-- The run lemma: from a safe pool, every run stays safe and every request a thread sends is
entitled; by induction over the events. -/
theorem runPool_safe (safe : pool.Safe env config) (events : List PoolEvent) :
    (runPool env config pool events).2.Safe env config
      ∧ ∀ sent ∈ (runPool env config pool events).1, sent.Entitled env config := by
  induction events generalizing pool with
  | nil => exact ⟨safe, List.forall_mem_nil _⟩
  | cons event rest ih =>
      obtain ⟨stepSafe, stepSent⟩ := PoolEvent.step_safe safe event
      obtain ⟨runSafe, runSent⟩ := ih stepSafe
      refine ⟨runSafe, fun sent mem => ?_⟩
      rcases List.mem_append.mp mem with first | later
      · exact stepSent sent first
      · exact runSent sent later

end Invariant

/-- Over every run of the pool from startup, interleaving block tips, the threads' waits and
passes, and anything else the node does, no two threads recover the same quorum object at once,
and each running thread's object has its flag set.
-/
theorem recovery_threads_one_per_quorum_object (env : NodeEnv) (config : RecoveryConfig)
    (s : NodeState) (events : List PoolEvent) :
    ((runPool env config (.initial s) events).2.threads.map (·.pQuorum.id)).Nodup
      ∧ ∀ thread ∈ (runPool env config (.initial s) events).2.threads,
        (runPool env config (.initial s) events).2.running thread.pQuorum.id = true :=
  have safe := (runPool_safe (RecoveryPool.Safe.initial s) events).1
  ⟨safe.distinct, safe.flagged⟩

/-- Over every run of the pool from startup, every QGETDATA a recovery thread sends is a request
from this node for the thread's own quorum that asks for the encrypted contributions only if this
node is a valid member, and for the verification vector only if it is a valid member or the type's
vector sync is on; or it is the expired request that stood at the candidate's outgoing key.
-/
theorem recovery_threads_request_entitled_data (env : NodeEnv) (config : RecoveryConfig)
    (s : NodeState) (events : List PoolEvent) :
    ∀ sent ∈ (runPool env config (.initial s) events).1, sent.Entitled env config :=
  (runPool_safe (RecoveryPool.Safe.initial s) events).2

/-- Recovery switched on, with no vector sync entries. -/
def recoveryConfig : RecoveryConfig := ⟨true, fun _ => none⟩

/-- A block at which the scan of type 1 returns object 0, the quorum of block 7 before any data
arrived, with masternodes 3 and 5 valid. -/
def recoveryTrigger : TriggerInput :=
  ⟨some ⟨7, 0⟩, fun t => if t = 1 then [⟨0, recoveringQuorum⟩] else [], [3, 5]⟩

/-- The pool after that block, with this node a member that holds nothing of the quorum yet. -/
def triggeredPool : RecoveryPool :=
  triggerQuorumDataRecoveryThreads recoveryNodeEnv recoveryConfig recoveryTrigger
    (.initial (.initial recoveryMined 0))

/-- From startup: the block of `recoveryTrigger`, then the thread it starts ends its wait and
makes a pass at time 1000, seeing the one connection to masternode 3. -/
def recoveryRunEvents : List PoolEvent :=
  [.updatedBlockTip true recoveryTrigger, .wait 0 true, .pass 0 ⟨false, false, 1000, [samplePeer]⟩]

theorem recovery_request_entitled_sample :
    ∃ sent ∈ (runPool recoveryNodeEnv recoveryConfig (.initial (.initial recoveryMined 0))
        recoveryRunEvents).1,
      sent.request.wants CQuorumDataRequest.encryptedContributions = true
        ∧ sent.Entitled recoveryNodeEnv recoveryConfig := by
  have sent : (runPool recoveryNodeEnv recoveryConfig (.initial (.initial recoveryMined 0))
      recoveryRunEvents).1 = [⟨⟨0, recoveringQuorum⟩, samplePeer, .create 1 7 3 5 0, 0, none⟩] := by
    decide
  have mem : (⟨⟨0, recoveringQuorum⟩, samplePeer, .create 1 7 3 5 0, 0, none⟩ : ThreadRequest)
      ∈ (runPool recoveryNodeEnv recoveryConfig (.initial (.initial recoveryMined 0))
        recoveryRunEvents).1 := by
    rw [sent]
    exact List.mem_singleton_self _
  exact ⟨_, mem, by decide,
    recovery_threads_request_entitled_data recoveryNodeEnv recoveryConfig _ _ _ mem⟩

-----------------------------------------------------------------------------------------
-- What the trigger starts
-----------------------------------------------------------------------------------------

/-- How the trigger changes the pool: threads are only added, each for an object whose flag was
clear; flags are only set, and a flag set anew belongs to an object a thread was started for. -/
structure RecoveryPool.Grows (pool pool' : RecoveryPool) : Prop where
  threads : ∀ thread ∈ pool.threads, thread ∈ pool'.threads
  fresh : ∀ thread ∈ pool'.threads, thread ∈ pool.threads ∨ pool.running thread.pQuorum.id = false
  running : ∀ id, pool.running id = true → pool'.running id = true
  started : ∀ id, pool'.running id = true →
    pool.running id = true ∨ ∃ thread ∈ pool'.threads, thread.pQuorum.id = id

namespace RecoveryPool.Grows

variable {a b c : RecoveryPool}

theorem refl (pool : RecoveryPool) : pool.Grows pool :=
  ⟨fun _ => id, fun _ => .inl, fun _ => id, fun _ => .inl⟩

theorem trans (first : a.Grows b) (second : b.Grows c) : a.Grows c where
  threads thread mem := second.threads thread (first.threads thread mem)
  fresh thread mem := by
    rcases second.fresh thread mem with old | clear
    · exact first.fresh thread old
    · cases flag : a.running thread.pQuorum.id
      · exact .inr rfl
      · exact absurd (first.running _ flag) (by simp [clear])
  running id flag := second.running id (first.running id flag)
  started id flag := by
    rcases second.started id flag with earlier | ⟨thread, mem, rfl⟩
    · rcases first.started id earlier with initial | ⟨thread, mem, rfl⟩
      · exact .inl initial
      · exact .inr ⟨thread, second.threads thread mem, rfl⟩
    · exact .inr ⟨thread, mem, rfl⟩

end RecoveryPool.Grows

section Starts

variable {env : NodeEnv} {config : RecoveryConfig} {pool : RecoveryPool}

/-- Starting a thread grows the pool, and with the object's flag clear puts a thread for it in. -/
theorem startQuorumDataRecoveryThread_grows (pQuorum : QuorumObject) (validMNs : List Uint256)
    (nDataMaskIn : Nat) :
    pool.Grows (startQuorumDataRecoveryThread env pool pQuorum validMNs nDataMaskIn)
      ∧ (pool.running pQuorum.id = false →
        ∃ thread ∈ (startQuorumDataRecoveryThread env pool pQuorum validMNs nDataMaskIn).threads,
          thread.pQuorum.id = pQuorum.id) := by
  unfold startQuorumDataRecoveryThread
  split_ifs with flagged
  · exact ⟨.refl pool, fun clear => absurd flagged (by simp [clear])⟩
  have clear : pool.running pQuorum.id = false := by simpa using flagged
  refine ⟨⟨fun thread mem => List.mem_append_left _ mem, fun thread mem => ?_, fun id flag => ?_,
    fun id flag => ?_⟩, fun _ => ⟨_, List.mem_append_right _ (List.mem_singleton_self _), rfl⟩⟩
  · rcases List.mem_append.mp mem with old | new
    · exact .inl old
    · rw [List.mem_singleton.mp new]
      exact .inr clear
  · simp only [setRunning]
    split <;> simp [flag]
  · simp only [setRunning] at flag
    split at flag
    · rename_i same
      exact .inr ⟨_, List.mem_append_right _ (List.mem_singleton_self _), same.symm⟩
    · exact .inl flag

theorem triggerQuorum_grows (validMNs : List Uint256) (fWeAreQuorumTypeMember : Bool)
    (pQuorum : QuorumObject) :
    pool.Grows (triggerQuorum env config validMNs fWeAreQuorumTypeMember pool pQuorum) := by
  unfold triggerQuorum
  dsimp only
  split_ifs
  · exact .refl pool
  · exact .refl pool
  · exact (startQuorumDataRecoveryThread_grows _ _ _).1

theorem triggerQuorumType_grows (validMNs : List Uint256) (vecQuorums : List QuorumObject) :
    pool.Grows (triggerQuorumType env config validMNs pool vecQuorums) := by
  unfold triggerQuorumType
  exact List.foldlRecOn (motive := pool.Grows) _ _ _ (.refl pool)
    fun _ grows pQuorum _ => grows.trans (triggerQuorum_grows _ _ pQuorum)

theorem triggerQuorumDataRecoveryThreads_grows (input : TriggerInput) :
    pool.Grows (triggerQuorumDataRecoveryThreads env config input pool) := by
  unfold triggerQuorumDataRecoveryThreads
  split_ifs
  · exact .refl pool
  · exact List.foldlRecOn (motive := pool.Grows) _ _ _ (.refl pool)
      fun _ grows llmqType _ => grows.trans (triggerQuorumType_grows _ _)

/-- In masternode mode with recovery enabled and a block, the trigger is its loop over the
configured types. -/
theorem triggerQuorumDataRecoveryThreads_active (input : TriggerInput)
    (masternode : env.fMasternodeMode = true) (enabled : config.quorumDataRecoveryEnabled = true)
    (block : input.pIndex.isSome = true) :
    triggerQuorumDataRecoveryThreads env config input pool = (configuredTypes env.consensus).foldl
      (fun pool llmqType => triggerQuorumType env config input.validMNs pool (input.scanned llmqType))
      pool := by
  obtain ⟨pIndex, present⟩ := Option.isSome_iff_exists.mp block
  unfold triggerQuorumDataRecoveryThreads
  simp only [masternode, enabled, present, Option.isNone_some, Bool.not_true, Bool.or_false,
    Bool.false_eq_true, ↓reduceIte]

/-- A loop whose every turn grows the pool keeps a thread for object `id` once the turn of `a`
puts one in, from whatever the earlier turns left, as long as the flag was clear at the start. -/
theorem foldl_grows_present {α : Type} {step : RecoveryPool → α → RecoveryPool}
    (grows : ∀ (start : RecoveryPool) (a : α), start.Grows (step start a)) {l : List α} {a : α}
    (mem : a ∈ l) {id : Nat}
    (idle : pool.running id = false)
    (turn : ∀ middle, pool.Grows middle → middle.running id = false →
      ∃ thread ∈ (step middle a).threads, thread.pQuorum.id = id) :
    ∃ thread ∈ (l.foldl step pool).threads, thread.pQuorum.id = id := by
  obtain ⟨before, after, rfl⟩ := List.append_of_mem mem
  rw [List.foldl_append, List.foldl_cons]
  have earlier : pool.Grows (before.foldl step pool) :=
    List.foldlRecOn (motive := pool.Grows) _ _ _ (.refl pool)
      fun _ grown a _ => grown.trans (grows _ a)
  have later : ∀ start : RecoveryPool, start.Grows (after.foldl step start) := fun start =>
    List.foldlRecOn (motive := start.Grows) _ _ _ (.refl start)
      fun _ grown a _ => grown.trans (grows _ a)
  suffices present : ∃ thread ∈ (step (before.foldl step pool) a).threads, thread.pQuorum.id = id by
    obtain ⟨thread, mem, same⟩ := present
    exact ⟨thread, (later _).threads thread mem, same⟩
  cases flag : (before.foldl step pool).running id
  · exact turn _ earlier flag
  · rcases earlier.started _ flag with initial | ⟨thread, mem, same⟩
    · exact absurd initial (by simp [idle])
    · exact ⟨thread, (grows _ a).threads thread mem, same⟩

/-- At its turn in a type's loop, a quorum that needs data and whose flag was clear at the start
gets a thread. -/
theorem triggerQuorumType_starts (validMNs : List Uint256) {vecQuorums : List QuorumObject}
    {pQuorum : QuorumObject} (scanned : pQuorum ∈ vecQuorums) (idle : pool.running pQuorum.id = false)
    (needed : recoveryDataMask config env.myProTxHash
      (vecQuorums.any (·.quorum.isValidMember env.myProTxHash)) pQuorum.quorum ≠ 0) :
    ∃ thread ∈ (triggerQuorumType env config validMNs pool vecQuorums).threads,
      thread.pQuorum.id = pQuorum.id :=
  foldl_grows_present (fun _ pQuorum => triggerQuorum_grows _ _ pQuorum) scanned idle
    fun middle _ flag => by
      unfold triggerQuorum
      simp only [flag, Bool.false_eq_true, ↓reduceIte, needed]
      exact (startQuorumDataRecoveryThread_grows _ _ _).2 flag

/-- Every thread a turn of the loop adds is for the turn's object. -/
theorem triggerQuorum_origin (validMNs : List Uint256) (fWeAreQuorumTypeMember : Bool)
    (pQuorum : QuorumObject) :
    ∀ thread ∈ (triggerQuorum env config validMNs fWeAreQuorumTypeMember pool pQuorum).threads,
      thread ∈ pool.threads ∨ thread.pQuorum = pQuorum := by
  intro thread mem
  unfold triggerQuorum startQuorumDataRecoveryThread at mem
  dsimp only at mem
  split_ifs at mem
  · exact .inl mem
  · exact .inl mem
  · rcases List.mem_append.mp mem with old | new
    · exact .inl old
    · exact .inr (by rw [List.mem_singleton.mp new])

/-- A loop whose every turn adds threads only for objects related to the turn's element adds
threads only for objects related to some element of the list. -/
theorem foldl_origin {α : Type} {step : RecoveryPool → α → RecoveryPool}
    {P : α → QuorumObject → Prop} (origin : ∀ (start : RecoveryPool) (a : α),
      ∀ thread ∈ (step start a).threads, thread ∈ start.threads ∨ P a thread.pQuorum)
    (l : List α) :
    ∀ thread ∈ (l.foldl step pool).threads, thread ∈ pool.threads ∨ ∃ a ∈ l, P a thread.pQuorum :=
  List.foldlRecOn (motive := fun middle : RecoveryPool => ∀ thread ∈ middle.threads,
      thread ∈ pool.threads ∨ ∃ a ∈ l, P a thread.pQuorum) _ _ _ (fun _ => .inl)
    fun middle earlier a mem thread added =>
      (origin middle a thread added).elim (earlier thread) fun related => .inr ⟨a, mem, related⟩

theorem triggerQuorumType_origin (validMNs : List Uint256) (vecQuorums : List QuorumObject) :
    ∀ thread ∈ (triggerQuorumType env config validMNs pool vecQuorums).threads,
      thread ∈ pool.threads ∨ thread.pQuorum ∈ vecQuorums := fun thread mem =>
  (foldl_origin (P := fun pQuorum object => object = pQuorum)
    (fun _ pQuorum => triggerQuorum_origin _ _ pQuorum) vecQuorums thread mem).imp_right
    fun ⟨_, scanned, same⟩ => same ▸ scanned

/-- The trigger starts threads only for objects its scans of the configured types returned. -/
theorem triggerQuorumDataRecoveryThreads_origin (input : TriggerInput) :
    ∀ thread ∈ (triggerQuorumDataRecoveryThreads env config input pool).threads,
      thread ∈ pool.threads ∨
        ∃ llmqType ∈ configuredTypes env.consensus, thread.pQuorum ∈ input.scanned llmqType := by
  unfold triggerQuorumDataRecoveryThreads
  split_ifs
  · exact fun _ => .inl
  · exact foldl_origin (fun _ llmqType => triggerQuorumType_origin _ (input.scanned llmqType)) _

end Starts

/-- In masternode mode with recovery enabled, the trigger at a block starts a thread for every
scanned quorum of a configured type that needs data this node should hold and whose object's flag
is clear.
-/
theorem triggerQuorumDataRecoveryThreads_starts_needed (env : NodeEnv) (config : RecoveryConfig)
    {input : TriggerInput} {pool : RecoveryPool} (masternode : env.fMasternodeMode = true)
    (enabled : config.quorumDataRecoveryEnabled = true) (block : input.pIndex.isSome = true)
    {llmqType : LLMQType} (configured : llmqType ∈ configuredTypes env.consensus)
    {pQuorum : QuorumObject} (scanned : pQuorum ∈ input.scanned llmqType)
    (idle : pool.running pQuorum.id = false)
    (needed : recoveryDataMask config env.myProTxHash
      ((input.scanned llmqType).any (·.quorum.isValidMember env.myProTxHash)) pQuorum.quorum ≠ 0) :
    ∃ thread ∈ (triggerQuorumDataRecoveryThreads env config input pool).threads,
      thread.pQuorum.id = pQuorum.id := by
  rw [triggerQuorumDataRecoveryThreads_active input masternode enabled block]
  exact foldl_grows_present (fun _ _ => triggerQuorumType_grows _ _) configured idle
    fun _ _ flag => triggerQuorumType_starts _ scanned flag needed

theorem trigger_starts_recovery_sample :
    ∃ thread ∈ triggeredPool.threads, thread.pQuorum.id = 0 :=
  @triggerQuorumDataRecoveryThreads_starts_needed recoveryNodeEnv recoveryConfig recoveryTrigger
    (.initial (.initial recoveryMined 0)) rfl rfl rfl 1
    (by simp [configuredTypes, recoveryNodeEnv, sampleNodeEnv, pairConsensus])
    ⟨0, recoveringQuorum⟩ (List.mem_singleton_self _) rfl (by decide)

/-- The flag is the object's and not the quorum's. While a thread recovers one object of a quorum,
a block whose scan returns a new object of the same quorum (one that no thread of the pool has
held, as after the first was evicted from `mapQuorumsCache` and the quorum built again) starts a
second thread, and the pool then runs two threads for the one quorum. Object ids stand for the
objects' addresses, so a scan returns one object under each id.
-/
theorem recovery_threads_two_for_one_quorum (env : NodeEnv) (config : RecoveryConfig)
    {input : TriggerInput} {pool : RecoveryPool} (masternode : env.fMasternodeMode = true)
    (enabled : config.quorumDataRecoveryEnabled = true) (block : input.pIndex.isSome = true)
    {llmqType : LLMQType} (configured : llmqType ∈ configuredTypes env.consensus)
    {thread : RecoveryThread} (running : thread ∈ pool.threads)
    {pQuorum : QuorumObject} (scanned : pQuorum ∈ input.scanned llmqType)
    (rebuilt : pQuorum.quorum.qc.quorumHash = thread.pQuorum.quorum.qc.quorumHash)
    (unseen : ∀ old ∈ pool.threads, old.pQuorum.id ≠ pQuorum.id)
    (identified : ∀ other ∈ configuredTypes env.consensus, ∀ object ∈ input.scanned other,
      object.id = pQuorum.id → object = pQuorum)
    (idle : pool.running pQuorum.id = false)
    (needed : recoveryDataMask config env.myProTxHash
      ((input.scanned llmqType).any (·.quorum.isValidMember env.myProTxHash)) pQuorum.quorum ≠ 0) :
    ∃ first ∈ (triggerQuorumDataRecoveryThreads env config input pool).threads,
      ∃ second ∈ (triggerQuorumDataRecoveryThreads env config input pool).threads,
        first.pQuorum.id ≠ second.pQuorum.id
          ∧ first.pQuorum.quorum.qc.quorumHash = second.pQuorum.quorum.qc.quorumHash := by
  have kept := (@triggerQuorumDataRecoveryThreads_grows env config pool input).threads thread running
  obtain ⟨started, mem, same⟩ : ∃ started ∈ (triggerQuorumDataRecoveryThreads env config input
      pool).threads, started.pQuorum.id = pQuorum.id := by
    rw [triggerQuorumDataRecoveryThreads_active input masternode enabled block]
    exact foldl_grows_present (fun _ _ => triggerQuorumType_grows _ _) configured idle
      fun _ _ flag => triggerQuorumType_starts _ scanned flag needed
  have object : started.pQuorum = pQuorum := by
    rcases triggerQuorumDataRecoveryThreads_origin input started mem with old | ⟨other, listed, held⟩
    · exact absurd same (unseen started old)
    · exact identified other listed _ held same
  refine ⟨started, mem, thread, kept, ?_, ?_⟩
  · rw [object]
    exact (unseen thread running).symm
  · rw [object, rebuilt]

/-- The scan at the next block returns object 1, a rebuilt copy of the quorum of object 0, whose
thread `triggeredPool` runs. -/
def rebuiltTrigger : TriggerInput :=
  { recoveryTrigger with scanned := fun t => if t = 1 then [⟨1, recoveringQuorum⟩] else [] }

theorem recovery_two_threads_sample :
    ∃ first ∈ (triggerQuorumDataRecoveryThreads recoveryNodeEnv recoveryConfig rebuiltTrigger
        triggeredPool).threads,
      ∃ second ∈ (triggerQuorumDataRecoveryThreads recoveryNodeEnv recoveryConfig rebuiltTrigger
        triggeredPool).threads,
        first.pQuorum.id ≠ second.pQuorum.id
          ∧ first.pQuorum.quorum.qc.quorumHash = second.pQuorum.quorum.qc.quorumHash :=
  @recovery_threads_two_for_one_quorum recoveryNodeEnv recoveryConfig rebuiltTrigger triggeredPool
    rfl rfl rfl 1 (by simp [configuredTypes, recoveryNodeEnv, sampleNodeEnv, pairConsensus]) _
    (List.get_mem triggeredPool.threads 0 (by decide)) ⟨1, recoveringQuorum⟩
    (List.mem_singleton_self _) rfl (by decide) (by decide) (by decide) (by decide)

-----------------------------------------------------------------------------------------
-- A flag left set
-----------------------------------------------------------------------------------------

/-- Object `id`'s flag is set and no thread recovers it. -/
structure RecoveryPool.Blocked (id : Nat) (pool : RecoveryPool) : Prop where
  flagged : pool.running id = true
  idle : ∀ thread ∈ pool.threads, thread.pQuorum.id ≠ id

section Blocked

variable {env : NodeEnv} {config : RecoveryConfig} {pool pool' : RecoveryPool} {id : Nat}

/-- The trigger starts threads only for objects whose flag is clear. -/
theorem RecoveryPool.Grows.blocked (grows : pool.Grows pool') (blocked : pool.Blocked id) :
    pool'.Blocked id :=
  ⟨grows.running id blocked.flagged, fun thread mem same => by
    rcases grows.fresh thread mem with old | clear
    · exact blocked.idle thread old same
    · rw [same, blocked.flagged] at clear
      cases clear⟩

theorem RecoveryPool.wait_blocked (blocked : pool.Blocked id) (i : Nat) (synced : Bool) :
    (pool.wait i synced).Blocked id := by
  unfold RecoveryPool.wait
  split
  · exact blocked
  rename_i thread found
  split_ifs
  · exact blocked
  · exact ⟨blocked.flagged, fun other mem =>
      blocked.idle other ((List.eraseIdx_sublist _ _).subset mem)⟩
  · refine ⟨blocked.flagged, fun other mem => ?_⟩
    rcases List.mem_or_eq_of_mem_set mem with old | rfl
    · exact blocked.idle other old
    · exact blocked.idle thread (List.getElem?_mem found)

/-- A loop that ends clears only its own object's flag, and that object is another one. -/
theorem RecoveryPool.pass_blocked (blocked : pool.Blocked id) (i : Nat) (inputs : RecoveryPass) :
    (pool.pass env i inputs).2.Blocked id := by
  unfold RecoveryPool.pass
  split
  · exact blocked
  rename_i thread found
  have apart := blocked.idle thread (List.getElem?_mem found)
  dsimp only
  split_ifs
  · exact blocked
  · refine ⟨blocked.flagged, fun other mem => ?_⟩
    rcases List.mem_or_eq_of_mem_set mem with old | rfl
    · exact blocked.idle other old
    · exact apart
  · refine ⟨?_, fun other mem => blocked.idle other ((List.eraseIdx_sublist _ _).subset mem)⟩
    show setRunning pool.running thread.pQuorum.id false id = true
    rw [setRunning, if_neg (Ne.symm apart)]
    exact blocked.flagged

theorem PoolEvent.step_blocked (blocked : pool.Blocked id) (event : PoolEvent) :
    (event.step env config pool).2.Blocked id := by
  cases event with
  | node event => exact ⟨blocked.flagged, blocked.idle⟩
  | updatedBlockTip synced input =>
      simp only [step]
      split
      · exact triggerQuorumDataRecoveryThreads_grows input |>.blocked
          ⟨blocked.flagged, blocked.idle⟩
      · exact ⟨blocked.flagged, blocked.idle⟩
  | stop => exact ⟨blocked.flagged, blocked.idle⟩
  | wait i synced => exact pool.wait_blocked blocked i synced
  | pass i inputs => exact pool.pass_blocked blocked i inputs

/-- The run lemma: a blocked object stays blocked. -/
theorem runPool_blocked (blocked : pool.Blocked id) (events : List PoolEvent) :
    (runPool env config pool events).2.Blocked id := by
  induction events generalizing pool with
  | nil => exact blocked
  | cons event rest ih => exact ih (PoolEvent.step_blocked blocked event)

end Blocked

/-- Once `Stop` has set `quorumThreadInterrupt`, a thread still waiting for the chain to sync
returns ("Aborted") without clearing its object's flag: from then on, in every run, the flag
stays set and no recovery thread for that object is started again.
-/
theorem recovery_aborted_in_wait_never_restarts (env : NodeEnv) (config : RecoveryConfig)
    {pool : RecoveryPool} (safe : pool.Safe env config) (stopped : pool.quorumThreadInterrupt = true)
    {i : Nat} {thread : RecoveryThread} (found : pool.threads[i]? = some thread)
    (waiting : thread.started = false) (synced : Bool) (events : List PoolEvent) :
    (runPool env config pool (.wait i synced :: events)).2.running thread.pQuorum.id = true
      ∧ ∀ other ∈ (runPool env config pool (.wait i synced :: events)).2.threads,
        other.pQuorum.id ≠ thread.pQuorum.id := by
  have aborted : (PoolEvent.wait i synced).step env config pool
      = ([], { pool with threads := pool.threads.eraseIdx i }) := by
    simp [PoolEvent.step, RecoveryPool.wait, found, waiting, stopped]
  have blocked : RecoveryPool.Blocked thread.pQuorum.id { pool with threads := pool.threads.eraseIdx i } :=
    ⟨safe.flagged thread (List.getElem?_mem found), fun other mem =>
      map_ne_of_mem_eraseIdx (f := (·.pQuorum.id)) safe.distinct found mem⟩
  have run := @runPool_blocked env config _ _ blocked events
  simp only [runPool, aborted]
  exact ⟨run.flagged, run.idle⟩

/-- `triggeredPool` after `Stop`, its thread still waiting. -/
def stoppedPool : RecoveryPool :=
  (PoolEvent.stop.step recoveryNodeEnv recoveryConfig triggeredPool).2

/-- The thread of `stoppedPool` ends its wait on an unsynced chain; the next block's trigger,
which started it before, starts none. -/
theorem aborted_recovery_sample :
    stoppedPool.quorumThreadInterrupt = true
      ∧ ∃ thread, stoppedPool.threads[0]? = some thread ∧ thread.started = false
      ∧ (runPool recoveryNodeEnv recoveryConfig stoppedPool
          [.wait 0 false, .updatedBlockTip true recoveryTrigger]).2.running thread.pQuorum.id = true
      ∧ ∀ other ∈ (runPool recoveryNodeEnv recoveryConfig stoppedPool
          [.wait 0 false, .updatedBlockTip true recoveryTrigger]).2.threads,
        other.pQuorum.id ≠ thread.pQuorum.id :=
  ⟨rfl, _, rfl, rfl, recovery_aborted_in_wait_never_restarts recoveryNodeEnv recoveryConfig
    (PoolEvent.step_safe (triggerQuorumDataRecoveryThreads_safe _ (.initial _)) .stop).1 rfl rfl rfl
    false [.updatedBlockTip true recoveryTrigger]⟩

end Llmq
