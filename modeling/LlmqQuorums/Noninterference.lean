import LlmqQuorums.RequestProtocol

/-! Peers and the request table. Every handler reads and writes only the two keys of its peer's
verified proRegTxHash, so the table decisions on a peer's traffic are the same whether or not
another peer with a different verified hash is active. Connections without a verified hash
(qwatch) all share the null hash, and through it they interfere.
-/

namespace Llmq

/-- What the request table decided for an event: the outcome of `RequestQuorumData`, the
charges of a QGETDATA, or the verdict of a QDATA's peer and table checks.
-/
inductive TableVerdict
  | request (outcome : RequestOutcome)
  | served (charges : List (String × Nat))
  | answered (verdict : Option (String × Nat))
  | other
  deriving DecidableEq, Repr

/-- The table decision an output reports. -/
def NodeOutput.tableVerdict : NodeOutput → TableVerdict
  | .request outcome => .request outcome
  | .served outcome => .served outcome.charges
  | .answered outcome => .answered outcome.gateVerdict
  | _ => .other

/-- The table decisions on the events of peer `p`, in order. -/
def verdictsOf (p : CNode) (events : List NodeEvent) (outputs : List NodeOutput)
    : List TableVerdict :=
  ((events.zip outputs).filter fun eo => eo.1.peer == some p).map fun eo => eo.2.tableVerdict

/-- Two node states that a peer verified as `proRegTxHash` cannot tell apart through the
request table: the same clock, the same mined store and the same entries at its two keys.
-/
structure SameFor (proRegTxHash : Uint256) (s s' : NodeState) : Prop where
  now : s.now = s'.now
  mined : s.mined = s'.mined
  requests : ∀ outgoing, s.requests (proRegTxHash, outgoing) = s'.requests (proRegTxHash, outgoing)

namespace SameFor

variable {h : Uint256} {s s' s'' : NodeState}

theorem refl (s : NodeState) : SameFor h s s := ⟨rfl, rfl, fun _ => rfl⟩

theorem symm (same : SameFor h s s') : SameFor h s' s :=
  ⟨same.now.symm, same.mined.symm, fun d => (same.requests d).symm⟩

theorem trans (left : SameFor h s s') (right : SameFor h s' s'') : SameFor h s s'' :=
  ⟨left.now.trans right.now, left.mined.trans right.mined,
    fun d => (left.requests d).trans (right.requests d)⟩

end SameFor

-----------------------------------------------------------------------------------------
-- Each handler touches only its peer's keys
-----------------------------------------------------------------------------------------

section Handlers

variable {env : NodeEnv} {s s₁ s₂ : NodeState} {pFrom : CNode} {k : Uint256 × Bool}

section Request

variable {llmqType : LLMQType} {pQuorumIndex : Option CBlockIndex} {nDataMask : Nat}
  {proTxHash : Uint256}

theorem requestQuorumData_other (other : k ≠ (pFrom.verifiedProRegTxHash, true))
    : (requestQuorumData env s pFrom llmqType pQuorumIndex nDataMask proTxHash).2.requests k
      = s.requests k := by
  have table := congrArg (·.2) (@requestQuorumData_outcome_requests env s pFrom llmqType
    pQuorumIndex nDataMask proTxHash)
  dsimp only at table
  rw [table]
  split
  · rfl
  · exact emplaceRequest_other _ other

theorem requestQuorumData_congr (now : s₁.now = s₂.now) (mined : s₁.mined = s₂.mined)
    (same : s₁.requests (pFrom.verifiedProRegTxHash, true)
      = s₂.requests (pFrom.verifiedProRegTxHash, true))
    : let result₁ := requestQuorumData env s₁ pFrom llmqType pQuorumIndex nDataMask proTxHash
      let result₂ := requestQuorumData env s₂ pFrom llmqType pQuorumIndex nDataMask proTxHash
      result₁.1 = result₂.1
        ∧ result₁.2.requests (pFrom.verifiedProRegTxHash, true)
          = result₂.2.requests (pFrom.verifiedProRegTxHash, true) := by
  have table₁ := @requestQuorumData_outcome_requests env s₁ pFrom llmqType pQuorumIndex
    nDataMask proTxHash
  have table₂ := @requestQuorumData_outcome_requests env s₂ pFrom llmqType pQuorumIndex
    nDataMask proTxHash
  rw [requestChecks_congr mined, now] at table₁
  simp only [Prod.ext_iff] at table₁ table₂
  dsimp only
  rw [table₁.1, table₁.2, table₂.1, table₂.2]
  split
  · exact ⟨rfl, same⟩
  · exact emplaceRequest_congr same

end Request

section Messages

variable {msg : DataRequestWire} {body : QDataBody}

theorem processQGetData_other (other : k ≠ (pFrom.verifiedProRegTxHash, false))
    : (processQGetData env s pFrom msg).2.requests k = s.requests k := by
  have table := congrArg (·.2.1) (@processQGetData_table env s pFrom msg)
  dsimp only at table
  rw [table]
  split
  · rfl
  · exact storeIncoming_other _ other

theorem processQGetData_congr (now : s₁.now = s₂.now)
    (same : s₁.requests (pFrom.verifiedProRegTxHash, false)
      = s₂.requests (pFrom.verifiedProRegTxHash, false))
    : let result₁ := processQGetData env s₁ pFrom msg
      let result₂ := processQGetData env s₂ pFrom msg
      result₁.1.charges = result₂.1.charges
        ∧ result₁.2.requests (pFrom.verifiedProRegTxHash, false)
          = result₂.2.requests (pFrom.verifiedProRegTxHash, false) := by
  have table₁ := @processQGetData_table env s₁ pFrom msg
  have table₂ := @processQGetData_table env s₂ pFrom msg
  rw [now] at table₁
  simp only [Prod.ext_iff] at table₁ table₂
  dsimp only
  rw [table₁.1, table₁.2.1, table₂.1, table₂.2.1]
  split
  · exact ⟨rfl, same⟩
  · have stored := @storeIncoming_congr env.expirationTimeout s₂.now
      (pFrom.verifiedProRegTxHash, false) (.received msg s₂.now) _ _ same
    exact ⟨congrArg Option.toList stored.1, stored.2⟩

theorem processQData_other (other : k ≠ (pFrom.verifiedProRegTxHash, true))
    : (processQData env s pFrom msg body).2.requests k = s.requests k := by
  have table := congrArg (·.2.1) (@processQData_table env s pFrom msg body)
  dsimp only at table
  rw [table]
  split
  · rfl
  · rename_i gate
    exact matchResponse_other other (qdataGate_ok gate).2

theorem qdataGate_congr (now : s₁.now = s₂.now)
    (same : s₁.requests (pFrom.verifiedProRegTxHash, true)
      = s₂.requests (pFrom.verifiedProRegTxHash, true))
    : (qdataGate env s₁ pFrom msg).map (fun passed => passed.2 (pFrom.verifiedProRegTxHash, true))
      = (qdataGate env s₂ pFrom msg).map
          (fun passed => passed.2 (pFrom.verifiedProRegTxHash, true)) := by
  have matched := @matchResponse_congr _ (.received msg s₂.now) _ _ same
  unfold qdataGate
  rw [now]
  split
  · rfl
  · dsimp only
    revert matched
    cases matchResponse s₁.requests (pFrom.verifiedProRegTxHash, true) (.received msg s₂.now)
      <;> cases matchResponse s₂.requests (pFrom.verifiedProRegTxHash, true) (.received msg s₂.now)
      <;> simp [Except.map]

theorem processQData_congr (now : s₁.now = s₂.now)
    (same : s₁.requests (pFrom.verifiedProRegTxHash, true)
      = s₂.requests (pFrom.verifiedProRegTxHash, true))
    : let result₁ := processQData env s₁ pFrom msg body
      let result₂ := processQData env s₂ pFrom msg body
      result₁.1.gateVerdict = result₂.1.gateVerdict
        ∧ result₁.2.requests (pFrom.verifiedProRegTxHash, true)
          = result₂.2.requests (pFrom.verifiedProRegTxHash, true) := by
  have gate := @qdataGate_congr env s₁ s₂ pFrom msg now same
  have table₁ := @processQData_table env s₁ pFrom msg body
  have table₂ := @processQData_table env s₂ pFrom msg body
  simp only [Prod.ext_iff] at table₁ table₂
  dsimp only
  rw [table₁.1, table₁.2.1, table₂.1, table₂.2.1]
  revert gate
  cases qdataGate env s₁ pFrom msg <;> cases qdataGate env s₂ pFrom msg
    <;> simp [Except.map, same]

end Messages

end Handlers

-----------------------------------------------------------------------------------------
-- Events and runs
-----------------------------------------------------------------------------------------

@[simp] theorem verdictsOf_cons (p : CNode) (event : NodeEvent) (output : NodeOutput)
    (events : List NodeEvent) (outputs : List NodeOutput)
    : verdictsOf p (event :: events) (output :: outputs)
      = if event.peer = some p then output.tableVerdict :: verdictsOf p events outputs
        else verdictsOf p events outputs := by
  by_cases mine : event.peer = some p <;> simp [verdictsOf, List.filter_cons, mine]

section Events

variable {env : NodeEnv} {h : Uint256} {s s₁ s₂ : NodeState}

theorem key_ne_of_hash_ne {a : Uint256} (away : a ≠ h) (d d' : Bool) : (h, d) ≠ (a, d') :=
  fun same => away (Prod.mk.inj same).1.symm

/-- The frame lemma: an event of a peer verified under another hash leaves the clock, the
store and the keys of `h` as they were.
-/
theorem NodeEvent.step_sameFor_away (event : NodeEvent) {pFrom : CNode}
    (peer : event.peer = some pFrom) (away : pFrom.verifiedProRegTxHash ≠ h)
    : SameFor h (event.step env s).2 s := by
  cases event with
  | requestQuorumData pFrom' =>
      cases peer
      exact ⟨by simp, by simp, fun d => requestQuorumData_other (key_ne_of_hash_ne away d true)⟩
  | qgetdata pFrom' =>
      cases peer
      exact ⟨by simp, by simp, fun d => processQGetData_other (key_ne_of_hash_ne away d false)⟩
  | qdata pFrom' =>
      cases peer
      exact ⟨by simp, by simp, fun d => processQData_other (key_ne_of_hash_ne away d true)⟩
  | reorg | getQuorum | evictQuorum | advanceClock | updatedBlockTip => cases peer

/-- The congruence lemma: from states that `h` cannot tell apart, any event leads to such states
again, and an event of a peer verified as `h` gets the same table decision in both.
-/
theorem NodeEvent.step_sameFor (same : SameFor h s₁ s₂) (event : NodeEvent)
    : SameFor h (event.step env s₁).2 (event.step env s₂).2
      ∧ ∀ pFrom, event.peer = some pFrom → pFrom.verifiedProRegTxHash = h →
        (event.step env s₁).1.tableVerdict = (event.step env s₂).1.tableVerdict := by
  by_cases away : ∃ pFrom, event.peer = some pFrom ∧ pFrom.verifiedProRegTxHash ≠ h
  · obtain ⟨pFrom, peer, ne⟩ := away
    refine ⟨((event.step_sameFor_away peer ne).trans same).trans
      (event.step_sameFor_away peer ne).symm, fun pFrom' peer' hash => ?_⟩
    rw [peer, Option.some.injEq] at peer'
    exact absurd (peer' ▸ hash) ne
  · push_neg at away
    cases event with
    | requestQuorumData pFrom llmqType pQuorumIndex nDataMask proTxHash =>
        obtain rfl := away pFrom rfl
        simp only [NodeEvent.step_requestQuorumData]
        have decided := @requestQuorumData_congr env s₁ s₂ pFrom llmqType pQuorumIndex nDataMask
          proTxHash same.now same.mined (same.requests true)
        refine ⟨⟨by simp [same.now], by simp [same.mined], fun d => ?_⟩,
          fun _ _ _ => by simp [NodeOutput.tableVerdict, decided.1]⟩
        cases d
        · rw [requestQuorumData_other (by simp), requestQuorumData_other (by simp)]
          exact same.requests false
        · exact decided.2
    | qgetdata pFrom msg =>
        obtain rfl := away pFrom rfl
        simp only [NodeEvent.step_qgetdata]
        have decided := @processQGetData_congr env s₁ s₂ pFrom msg same.now (same.requests false)
        refine ⟨⟨by simp [same.now], by simp [same.mined], fun d => ?_⟩,
          fun _ _ _ => by simp [NodeOutput.tableVerdict, decided.1]⟩
        cases d
        · exact decided.2
        · rw [processQGetData_other (by simp), processQGetData_other (by simp)]
          exact same.requests true
    | qdata pFrom msg body =>
        obtain rfl := away pFrom rfl
        simp only [NodeEvent.step_qdata]
        have decided := @processQData_congr env s₁ s₂ pFrom msg body same.now (same.requests true)
        refine ⟨⟨by simp [same.now], by simp [same.mined], fun d => ?_⟩,
          fun _ _ _ => by simp [NodeOutput.tableVerdict, decided.1]⟩
        cases d
        · rw [processQData_other (by simp), processQData_other (by simp)]
          exact same.requests false
        · exact decided.2
    | reorg mined =>
        exact ⟨⟨same.now, rfl, same.requests⟩, by simp [NodeEvent.peer]⟩
    | getQuorum llmqType pindexQuorum =>
        exact ⟨⟨same.now, by simp [same.mined], same.requests⟩, by simp [NodeEvent.peer]⟩
    | evictQuorum llmqType quorumHash =>
        exact ⟨⟨same.now, same.mined, same.requests⟩, by simp [NodeEvent.peer]⟩
    | advanceClock now =>
        exact ⟨⟨by simp [NodeEvent.step, same.now], same.mined, same.requests⟩,
          by simp [NodeEvent.peer]⟩
    | updatedBlockTip synced =>
        refine ⟨?_, by simp [NodeEvent.peer]⟩
        simp only [NodeEvent.step]
        unfold Llmq.updatedBlockTip
        split
        · exact ⟨same.now, same.mined, fun d => by simp [RequestTable.sweep, same.now, same.requests d]⟩
        · exact same

/-- The table decisions on `p`'s events are the same in a run and in the run without `q`'s
events, from states `p`'s verified hash cannot tell apart, when `p` and `q` are verified under
different hashes: by induction over the events, with the frame lemma for `q`'s events and the
congruence lemma for the others.
-/
theorem runNode_verdictsOf_without (env : NodeEnv) {p q : CNode}
    (apart : p.verifiedProRegTxHash ≠ q.verifiedProRegTxHash) (events : List NodeEvent)
    (same : SameFor p.verifiedProRegTxHash s₁ s₂)
    : verdictsOf p events (runNode env s₁ events).1
      = verdictsOf p (events.filter fun event => event.peer != some q)
          (runNode env s₂ (events.filter fun event => event.peer != some q)).1 := by
  induction events generalizing s₁ s₂ with
  | nil => rfl
  | cons event rest ih =>
      by_cases fromQ : event.peer = some q
      · have notP : q ≠ p := fun eq => apart (eq ▸ rfl)
        have skipped := (@NodeEvent.step_sameFor_away env _ s₁ event q fromQ (Ne.symm apart)).trans
          same
        simpa [List.filter_cons, fromQ, notP] using ih skipped
      · have stepped := @NodeEvent.step_sameFor env _ s₁ s₂ same event
        simp only [List.filter_cons, fromQ, bne_iff_ne, ne_eq, not_false_eq_true, ↓reduceIte,
          runNode_cons, verdictsOf_cons]
        split
        · rename_i mine
          rw [stepped.2 p mine rfl, ih stepped.1]
        · exact ih stepped.1

end Events

/-- A qwatch connection to a node that is not a verified masternode. -/
def qwatchPeer (id : Nat) : CNode := ⟨id, 0, 0, true⟩

theorem qwatch_peers_share_request_entries :
    let asked : CQuorumDataRequest := .create 1 7 1 5 0
    let reply : DataRequestWire := { asked.toWire with nError := .none }
    let events : List NodeEvent :=
      [.requestQuorumData (qwatchPeer 1) 1 (some ⟨7, 0⟩) 1 5,
        .qgetdata (qwatchPeer 2) asked.toWire, .qdata (qwatchPeer 2) reply .empty,
        .qgetdata (qwatchPeer 1) asked.toWire, .qdata (qwatchPeer 1) reply .empty]
    let alone := events.filter fun event => event.peer != some (qwatchPeer 2)
    let start := NodeState.initial sampleMined 0
    verdictsOf (qwatchPeer 1) events (runNode sampleNodeEnv start events).1
        = [.request (.sent asked true), .served [("Request limit exceeded", 25)],
            .answered (some ("Already received", 10))]
      ∧ verdictsOf (qwatchPeer 1) alone (runNode sampleNodeEnv start alone).1
        = [.request (.sent asked true), .served [], .answered none] := by
  decide

end Llmq
