import LlmqQuorums.Node

/-! The request table across whole runs. Each handler reads and writes the table only at one
key of its peer, and a QDATA gets past the table checks only by using up an unprocessed entry
like it, so responses are absorbed at most once per inserted request. `RequestQuorumData`
does not replace an expired entry: it sends the stale one again.
-/

namespace Llmq

-----------------------------------------------------------------------------------------
-- What each handler does to the clock, the mined store and the table
-----------------------------------------------------------------------------------------

section Handlers

variable {env : NodeEnv} {s s' : NodeState} {pFrom : CNode}

theorem requestChecks_mined (llmqType : LLMQType) (pQuorumIndex : Option CBlockIndex)
    : (requestChecks env s pFrom llmqType pQuorumIndex).2.mined = s.mined := by
  unfold requestChecks
  split_ifs <;> try rfl
  split
  · rfl
  · rename_i pindex
    have kept := getQuorum_mined env.toManagerEnv s.toManagerState llmqType pindex
    split <;> simp_all

/-- The checks pass exactly when the peer, the type and the block pass and a commitment is
mined for the block: `GetQuorum` is null only then.
-/
theorem requestChecks_fst (llmqType : LLMQType) (pQuorumIndex : Option CBlockIndex)
    : (requestChecks env s pFrom llmqType pQuorumIndex).1
      = if pFrom.nVersion < env.llmqDataMessagesVersion
          ∨ (pFrom.verifiedProRegTxHash = 0 ∧ pFrom.qwatch = false)
          ∨ (env.consensus.llmqs llmqType).isNone then none
        else pQuorumIndex.filter fun pindex => (s.mined llmqType pindex.hash).isSome := by
  unfold requestChecks
  by_cases failed : pFrom.nVersion < env.llmqDataMessagesVersion
      ∨ (pFrom.verifiedProRegTxHash = 0 ∧ pFrom.qwatch = false)
      ∨ (env.consensus.llmqs llmqType).isNone
  · rw [if_pos failed]
    rcases failed with c | c | c <;> simp [c]
  · rw [if_neg failed]
    obtain ⟨c1, c2, c3⟩ := not_or.mp failed |>.imp_right not_or.mp
    rw [if_neg c1, if_neg c2, if_neg c3]
    cases pQuorumIndex with
    | none => rfl
    | some pindex =>
        have nullness := getQuorum_eq_none_iff env.toManagerEnv s.toManagerState llmqType pindex
        dsimp only
        split <;> simp_all [Option.filter, Option.isSome_iff_ne_none]

/-- Whether the checks pass depends on the mined store, not on the caches. -/
theorem requestChecks_congr (mined : s.mined = s'.mined) (llmqType : LLMQType)
    (pQuorumIndex : Option CBlockIndex)
    : (requestChecks env s pFrom llmqType pQuorumIndex).1
      = (requestChecks env s' pFrom llmqType pQuorumIndex).1 := by
  rw [requestChecks_fst, requestChecks_fst, mined]

/-- The checks pass only with the block they were given. -/
theorem requestChecks_index {llmqType : LLMQType} {pQuorumIndex : Option CBlockIndex}
    {pindex : CBlockIndex} (passed : (requestChecks env s pFrom llmqType pQuorumIndex).1 = some pindex)
    : pQuorumIndex = some pindex := by
  rw [requestChecks_fst] at passed
  split_ifs at passed
  exact (Option.filter_eq_some.mp passed).1

section Request

variable {llmqType : LLMQType} {pQuorumIndex : Option CBlockIndex} {nDataMask : Nat}
  {proTxHash : Uint256}

theorem requestQuorumData_eq
    : requestQuorumData env s pFrom llmqType pQuorumIndex nDataMask proTxHash
      = match requestChecks env s pFrom llmqType pQuorumIndex with
        | (none, manager) => (.refused, s.withManager manager)
        | (some pindex, manager) =>
          let result := emplaceRequest env.expirationTimeout s.now s.requests
            (pFrom.verifiedProRegTxHash, true)
            (CQuorumDataRequest.create llmqType pindex.hash nDataMask proTxHash s.now)
          (result.1, { s.withManager manager with requests := result.2 }) := rfl

@[simp] theorem requestQuorumData_now
    : (requestQuorumData env s pFrom llmqType pQuorumIndex nDataMask proTxHash).2.now = s.now := by
  rw [requestQuorumData_eq]
  split <;> rfl

@[simp] theorem requestQuorumData_mined
    : (requestQuorumData env s pFrom llmqType pQuorumIndex nDataMask proTxHash).2.mined
      = s.mined := by
  have kept := @requestChecks_mined env s pFrom llmqType pQuorumIndex
  rw [requestQuorumData_eq]
  split <;> simp_all

/-- The outcome and the table after `RequestQuorumData`: refused by the checks with the table
unchanged, or the table step at the peer's outgoing key.
-/
theorem requestQuorumData_outcome_requests
    : let result := requestQuorumData env s pFrom llmqType pQuorumIndex nDataMask proTxHash
      (result.1, result.2.requests)
        = match (requestChecks env s pFrom llmqType pQuorumIndex).1 with
          | none => (.refused, s.requests)
          | some pindex => emplaceRequest env.expirationTimeout s.now s.requests
              (pFrom.verifiedProRegTxHash, true)
              (CQuorumDataRequest.create llmqType pindex.hash nDataMask proTxHash s.now) := by
  rw [requestQuorumData_eq]
  cases requestChecks env s pFrom llmqType pQuorumIndex with
  | mk passed manager => cases passed <;> rfl

/-- What a `RequestQuorumData` that sends leaves at its key: the sent entry. That entry is the
requested one when `emplace` inserted, which it does exactly when the key was free; otherwise it
is the expired entry that was there, sent again.
-/
theorem requestQuorumData_sent {request : CQuorumDataRequest} {inserted : Bool}
    (sent : (requestQuorumData env s pFrom llmqType pQuorumIndex nDataMask proTxHash).1
      = .sent request inserted)
    : (requestQuorumData env s pFrom llmqType pQuorumIndex nDataMask proTxHash).2.requests
        (pFrom.verifiedProRegTxHash, true) = some request
      ∧ (inserted = true → s.requests (pFrom.verifiedProRegTxHash, true) = none
          ∧ ∃ pindex, pQuorumIndex = some pindex
            ∧ request = .create llmqType pindex.hash nDataMask proTxHash s.now)
      ∧ (inserted = false → s.requests (pFrom.verifiedProRegTxHash, true) = some request
          ∧ request.isExpired env.expirationTimeout s.now = true) := by
  have table := @requestQuorumData_outcome_requests env s pFrom llmqType pQuorumIndex nDataMask
    proTxHash
  generalize requestQuorumData env s pFrom llmqType pQuorumIndex nDataMask proTxHash = result
    at table sent ⊢
  obtain ⟨outcome, s'⟩ := result
  subst sent
  split at table
  · cases table
  · rename_i pindex passed
    have index : pQuorumIndex = some pindex := requestChecks_index passed
    unfold emplaceRequest at table
    split at table
    · rename_i free
      simp only [Prod.mk.injEq, RequestOutcome.sent.injEq] at table
      obtain ⟨⟨rfl, rfl⟩, stored⟩ := table
      simp [stored, free, index]
    · rename_i existing found
      split_ifs at table with expired
      · simp only [Prod.mk.injEq, RequestOutcome.sent.injEq] at table
        obtain ⟨⟨rfl, rfl⟩, stored⟩ := table
        simp [stored, found, expired]
      · simp at table

end Request

/-- A masternode with the one quorum type of `pairConsensus`, every block known and a request
timeout of 300 seconds.
-/
def sampleNodeEnv : NodeEnv :=
  { consensus := pairConsensus
    bls := acceptingBls
    chain := ⟨fun h => some ⟨h, 0⟩, fun _ _ => none, fun _ _ => [⟨5, some 50⟩]⟩
    getVerifiedContributions := fun _ _ _ => none
    fMasternodeMode := true
    watchQuorumsEnabled := false
    llmqDataMessagesVersion := 0
    expirationTimeout := 300
    myProTxHash := 5
    blsKeyOperator := none
    getEncryptedContributions := fun _ _ _ _ => none }

/-- Quorums of type 1 mined for the blocks 7 and 8. -/
def sampleMined : MinedCommitments := fun t h =>
  if t = 1 ∧ (h = 7 ∨ h = 8) then
    some ⟨1, 1, h, [true, false], [true, false], some 5, 9, some 1, some 2⟩
  else none

/-- A masternode connection verified as proRegTxHash 3. -/
def samplePeer : CNode := ⟨1, 0, 3, false⟩

/-- Two requests to `samplePeer`, for the quorums of blocks 7 and 8, with the first one expired
in between and no sweep.
-/
def staleRequestEvents : List NodeEvent :=
  [.requestQuorumData samplePeer 1 (some ⟨7, 0⟩) 1 5, .advanceClock 1000,
    .requestQuorumData samplePeer 1 (some ⟨8, 0⟩) 1 5]

theorem requestQuorumData_resends_expired_entry :
    (runNode sampleNodeEnv (NodeState.initial sampleMined 0) staleRequestEvents).1
        = [.request (.sent (.create 1 7 1 5 0) true), .quiet,
            .request (.sent (.create 1 7 1 5 0) false)]
      ∧ (runNode sampleNodeEnv (NodeState.initial sampleMined 0) staleRequestEvents).2.requests
          (3, true) = some (.create 1 7 1 5 0)
      ∧ (CQuorumDataRequest.create 1 7 1 5 0).isExpired 300
          (runNode sampleNodeEnv (NodeState.initial sampleMined 0) staleRequestEvents).2.now
        = true := by
  decide


section Messages

variable {msg : DataRequestWire} {body : QDataBody}

/-- The charges of a QGETDATA and the clock, store and table after it: the peer check, then the
table step at the peer's incoming key; serving the data changes none of them.
-/
theorem processQGetData_table
    : let result := processQGetData env s pFrom msg
      (result.1.charges, result.2.requests, result.2.now, result.2.mined)
        = if !env.fMasternodeMode || (pFrom.verifiedProRegTxHash == 0 && !pFrom.qwatch) then
            ([("Not a verified masternode or a qwatch connection", 10)], s.requests, s.now,
              s.mined)
          else
            let stored := storeIncoming env.expirationTimeout s.now s.requests
              (pFrom.verifiedProRegTxHash, false) (CQuorumDataRequest.received msg s.now)
            (stored.1.toList, stored.2, s.now, s.mined) := by
  unfold processQGetData
  split_ifs
  · rfl
  · dsimp only
    split_ifs
    · rfl
    · split
      · rfl
      · split <;> rename_i found <;> simpa using (congrArg (·.2.mined) found).symm

@[simp] theorem processQGetData_now : (processQGetData env s pFrom msg).2.now = s.now := by
  have table := congrArg (·.2.2.1) (@processQGetData_table env s pFrom msg)
  dsimp only at table
  rw [table]
  split <;> rfl

@[simp] theorem processQGetData_mined : (processQGetData env s pFrom msg).2.mined = s.mined := by
  have table := congrArg (·.2.2.2) (@processQGetData_table env s pFrom msg)
  dsimp only at table
  rw [table]
  split <;> rfl

theorem absorbVerificationVector_gateVerdict {request : CQuorumDataRequest} {q : CQuorum}
    {outcome : QDataOutcome} (failed : absorbVerificationVector env request body q = .error outcome)
    : outcome.gateVerdict = none := by
  unfold absorbVerificationVector at failed
  repeat' split at failed
  all_goals cases failed <;> rfl

theorem absorbContributions_gateVerdict {request : CQuorumDataRequest} {q : CQuorum}
    {outcome : QDataOutcome} (failed : absorbContributions env request body q = .error outcome)
    : outcome.gateVerdict = none := by
  unfold absorbContributions at failed
  repeat' (first | split at failed | dsimp only at failed)
  all_goals cases failed <;> rfl

/-- Absorbing changes the cache and evoDb only, and never ends as a table rejection. -/
theorem absorbQData_table {request : CQuorumDataRequest} {q : CQuorum}
    : let result := absorbQData env s request q body
      (result.1.gateVerdict, result.2.requests, result.2.now, result.2.mined)
        = (none, s.requests, s.now, s.mined) := by
  unfold absorbQData
  split
  · rename_i failed
    simp [absorbVerificationVector_gateVerdict failed]
  · split
    · rename_i failed
      simp [absorbContributions_gateVerdict failed]
    · rfl

theorem qdataGate_ok {pFrom : CNode} {msg : DataRequestWire} {request : CQuorumDataRequest}
    {requests : RequestTable} (passed : qdataGate env s pFrom msg = .ok (request, requests))
    : request = .received msg s.now
      ∧ matchResponse s.requests (pFrom.verifiedProRegTxHash, true) request = .ok requests := by
  unfold qdataGate at passed
  split_ifs at passed
  dsimp only at passed
  split at passed
  · cases passed
  · rename_i found
    cases passed
    exact ⟨rfl, found⟩

/-- The table verdict of a QDATA and the clock, store and table after it: only the peer and
table checks reject it as unmatched, and only they touch the table.
-/
theorem processQData_table
    : let result := processQData env s pFrom msg body
      (result.1.gateVerdict, result.2.requests, result.2.now, result.2.mined)
        = match qdataGate env s pFrom msg with
          | .error verdict => (some verdict, s.requests, s.now, s.mined)
          | .ok (_, requests) => (none, requests, s.now, s.mined) := by
  unfold processQData
  cases gate : qdataGate env s pFrom msg with
  | error verdict => rfl
  | ok passed =>
      dsimp only
      split_ifs
      · rfl
      · split
        · rfl
        · exact absorbQData_table

@[simp] theorem processQData_now : (processQData env s pFrom msg body).2.now = s.now := by
  have table := congrArg (·.2.2.1) (@processQData_table env s pFrom msg body)
  dsimp only at table
  rw [table]
  split <;> rfl

@[simp] theorem processQData_mined : (processQData env s pFrom msg body).2.mined = s.mined := by
  have table := congrArg (·.2.2.2) (@processQData_table env s pFrom msg body)
  dsimp only at table
  rw [table]
  split <;> rfl

end Messages

end Handlers

-----------------------------------------------------------------------------------------
-- Responses absorbed against requests inserted
-----------------------------------------------------------------------------------------

/-- One while the entry at `key` waits for its response: present and unprocessed. -/
def RequestTable.awaiting (table : RequestTable) (key : Uint256 × Bool) : Nat :=
  match table key with
  | some entry => if entry.fProcessed then 0 else 1
  | none => 0

/-- One when `emplace` inserted the request. -/
def RequestOutcome.inserted : RequestOutcome → Nat
  | .sent _ true => 1
  | _ => 0

section Awaiting

variable {expirationTimeout now : Nat} {table table' : RequestTable}
  {key k : Uint256 × Bool} {request : CQuorumDataRequest}

theorem RequestTable.awaiting_congr (same : table k = table' k)
    : table.awaiting k = table'.awaiting k := by
  simp only [RequestTable.awaiting, same]

/-- `emplace` raises the count only where it inserts, and only from zero. -/
theorem emplaceRequest_awaiting (fresh : request.fProcessed = false)
    : let result := emplaceRequest expirationTimeout now table key request
      result.2.awaiting k ≤ (if k = key then result.1.inserted else 0) + table.awaiting k := by
  unfold emplaceRequest
  split
  · by_cases same : k = key
    · simp [same, RequestTable.awaiting, RequestOutcome.inserted, fresh]
    · simp [same, RequestTable.awaiting]
  · split <;> simp

/-- Passing the table checks turns the waiting entry at `key` into a processed one. -/
theorem matchResponse_awaiting (passed : matchResponse table key request = .ok table')
    : table'.awaiting k + (if k = key then 1 else 0) = table.awaiting k := by
  obtain ⟨entry, found, waiting, -, rfl⟩ := matchResponse_ok passed
  by_cases same : k = key
  · simp [same, RequestTable.awaiting, found, waiting]
  · simp [same, RequestTable.awaiting]

theorem sweep_awaiting : (table.sweep expirationTimeout now).awaiting k ≤ table.awaiting k := by
  simp only [RequestTable.awaiting, RequestTable.sweep]
  cases table k with
  | none => rfl
  | some entry =>
      by_cases expired : entry.isExpired expirationTimeout now <;> simp [Option.filter, expired]

end Awaiting


/-- One when the event is a `RequestQuorumData` to a peer verified as `proRegTxHash` and its
`emplace` inserted.
-/
def NodeEvent.insertedFor (proRegTxHash : Uint256) : NodeEvent → NodeOutput → Nat
  | .requestQuorumData pFrom .., .request outcome =>
      if pFrom.verifiedProRegTxHash = proRegTxHash then outcome.inserted else 0
  | _, _ => 0

/-- One when the event is a QDATA from a peer verified as `proRegTxHash` that got past the
request-table checks.
-/
def NodeEvent.absorbedFrom (proRegTxHash : Uint256) : NodeEvent → NodeOutput → Nat
  | .qdata pFrom .., .answered outcome =>
      if pFrom.verifiedProRegTxHash = proRegTxHash ∧ outcome.gateVerdict = none then 1 else 0
  | _, _ => 0

/-- The step lemma of the count: a QDATA getting past the checks at the key uses up the waiting
entry there, and only an inserting `RequestQuorumData` makes a new one.
-/
theorem NodeEvent.step_awaiting (env : NodeEnv) (s : NodeState) (event : NodeEvent)
    (proRegTxHash : Uint256)
    : let result := event.step env s
      result.2.requests.awaiting (proRegTxHash, true) + event.absorbedFrom proRegTxHash result.1
        ≤ event.insertedFor proRegTxHash result.1 + s.requests.awaiting (proRegTxHash, true) := by
  cases event with
  | requestQuorumData pFrom llmqType pQuorumIndex nDataMask proTxHash =>
      have table := @requestQuorumData_outcome_requests env s pFrom llmqType pQuorumIndex
        nDataMask proTxHash
      simp only [step_requestQuorumData, absorbedFrom, insertedFor] at table ⊢
      generalize Llmq.requestQuorumData env s pFrom llmqType pQuorumIndex nDataMask proTxHash
        = result
        at table ⊢
      split at table
      · simp_all [RequestOutcome.inserted]
      · rename_i pindex _
        have counted := @emplaceRequest_awaiting env.expirationTimeout s.now s.requests
          (pFrom.verifiedProRegTxHash, true) (proRegTxHash, true)
          (.create llmqType pindex.hash nDataMask proTxHash s.now) rfl
        rw [← table] at counted
        by_cases same : pFrom.verifiedProRegTxHash = proRegTxHash
        · simpa [same] using counted
        · simpa [same, Ne.symm same] using counted
  | qgetdata pFrom msg =>
      have table := congrArg (·.2.1) (@processQGetData_table env s pFrom msg)
      simp only [step_qgetdata, absorbedFrom, insertedFor] at table ⊢
      apply le_of_eq
      rw [Nat.add_zero, Nat.zero_add]
      apply RequestTable.awaiting_congr
      rw [table]
      split
      · rfl
      · exact storeIncoming_other _ (by simp)
  | qdata pFrom msg body =>
      have table := @processQData_table env s pFrom msg body
      simp only [step_qdata, absorbedFrom, insertedFor] at table ⊢
      generalize processQData env s pFrom msg body = result at table ⊢
      cases gate : qdataGate env s pFrom msg with
      | error verdict =>
          simp_all
      | ok passed =>
          obtain ⟨request, requests⟩ := passed
          have matched := @matchResponse_awaiting _ _ _ (proRegTxHash, true) _ (qdataGate_ok gate).2
          simp only [gate, Prod.mk.injEq] at table
          rw [table.2.1]
          by_cases same : pFrom.verifiedProRegTxHash = proRegTxHash
          · simp_all
          · simp_all [Ne.symm same]
  | updatedBlockTip synced =>
      simp only [step, Llmq.updatedBlockTip, absorbedFrom, insertedFor]
      split
      · simpa using sweep_awaiting
      · simp
  | reorg | getQuorum | evictQuorum | advanceClock =>
      simp [step, absorbedFrom, insertedFor]

/-- The run lemma of the count, from any state, by induction over the events. -/
theorem runNode_absorbed_le (env : NodeEnv) (s : NodeState) (events : List NodeEvent)
    (proRegTxHash : Uint256)
    : let run := runNode env s events
      run.2.requests.awaiting (proRegTxHash, true)
          + (List.zipWith (NodeEvent.absorbedFrom proRegTxHash) events run.1).sum
        ≤ (List.zipWith (NodeEvent.insertedFor proRegTxHash) events run.1).sum
          + s.requests.awaiting (proRegTxHash, true) := by
  induction events generalizing s with
  | nil => simp
  | cons event rest ih =>
      have stepped := event.step_awaiting env s proRegTxHash
      have later := ih (event.step env s).2
      simp only [runNode_cons, List.zipWith_cons_cons, List.sum_cons] at later ⊢
      omega

/-- A QDATA that gets past the peer and request-table checks had an unprocessed entry like it
at its peer's outgoing key, now processed, and one that does not leaves the node as it was;
over any run from startup, QDATA messages from a peer get past the checks no more often than
`RequestQuorumData` inserted an entry for it.
-/
theorem qdata_absorbed_only_when_matched_and_once (env : NodeEnv)
    : (∀ s pFrom msg body,
        let result := processQData env s pFrom msg body
        (result.1.gateVerdict = none →
          ∃ entry, s.requests (pFrom.verifiedProRegTxHash, true) = some entry
            ∧ entry.fProcessed = false
            ∧ msg.llmqType = entry.llmqType ∧ msg.quorumHash = entry.quorumHash
            ∧ msg.nDataMask = entry.nDataMask ∧ msg.proTxHash = entry.proTxHash
            ∧ result.2.requests
              = s.requests.set (pFrom.verifiedProRegTxHash, true) { entry with fProcessed := true })
        ∧ (result.1.gateVerdict ≠ none → result.2 = s))
      ∧ ∀ mined now events proRegTxHash,
        let run := runNode env (NodeState.initial mined now) events
        (List.zipWith (NodeEvent.absorbedFrom proRegTxHash) events run.1).sum
          ≤ (List.zipWith (NodeEvent.insertedFor proRegTxHash) events run.1).sum := by
  refine ⟨fun s pFrom msg body => ⟨fun passed => ?_, fun rejected => ?_⟩,
    fun mined now events proRegTxHash => ?_⟩
  · have table := @processQData_table env s pFrom msg body
    cases gate : qdataGate env s pFrom msg with
    | error verdict => simp_all
    | ok passedGate =>
        obtain ⟨request, requests⟩ := passedGate
        obtain ⟨rfl, matched⟩ := qdataGate_ok gate
        obtain ⟨entry, found, waiting, like, rfl⟩ := matchResponse_ok matched
        simp only [gate, Prod.mk.injEq] at table
        simp only [CQuorumDataRequest.sameAs, CQuorumDataRequest.received, Bool.and_eq_true,
          beq_iff_eq] at like
        exact ⟨entry, found, waiting, like.1.1.1, like.1.1.2, like.1.2, like.2, table.2.1⟩
  · have table := @processQData_table env s pFrom msg body
    cases gate : qdataGate env s pFrom msg with
    | error verdict => simp [processQData, gate]
    | ok passedGate =>
        simp only [gate] at table
        exact absurd (Prod.mk.inj table).1 rejected
  · have bound := runNode_absorbed_le env (NodeState.initial mined now) events proRegTxHash
    have startEmpty : (NodeState.initial mined now).requests.awaiting (proRegTxHash, true) = 0 :=
      rfl
    dsimp only at bound
    omega

end Llmq
