import LlmqQuorums.Basic

/-! The two-level quorum scan of `CQuorumManager::ScanQuorums`: a per-type `scanQuorumsCache`
keyed by start block in front of the mined-commitment history. Blocks of the active chain are
named by their heights, and a quorum by its anchor block, so a scan answers with anchors.
-/

namespace Llmq

/-- A commitment of one quorum type in the mined-commitment store of the active chain: the
height of its anchor block (`pindexQuorum`) and of the block that mined it.
-/
structure MinedCommitment where
  anchor : Nat
  minedHeight : Nat
  deriving DecidableEq, Repr

/-- The store's commitments of one type, newest first. Each is mined after its own anchor
block and before the anchor block of the next quorum of the type.
-/
structure MinedHistory where
  commitments : List MinedCommitment
  minedAfterAnchor : ∀ c ∈ commitments, c.anchor < c.minedHeight
  minedBeforeNext : commitments.Chain' fun newer older => older.minedHeight < newer.anchor

namespace MinedHistory

/-- The commitments mined at or below the block at height `start`, newest first. -/
def minedUntil (history : MinedHistory) (start : Nat) : List MinedCommitment :=
  history.commitments.filter (·.minedHeight ≤ start)

/-- The anchors of `minedUntil`: what a scan from `start` walks through. -/
def anchorsUntil (history : MinedHistory) (start : Nat) : List Nat :=
  (history.minedUntil start).map (·.anchor)

end MinedHistory

/-- `CBlockIndex::pprev` on the active chain; the genesis block has none. -/
def pprev : Nat → Option Nat
  | 0 => none
  | height + 1 => some height

/-- Modelled from the spec: `CQuorumBlockProcessor::GetMinedCommitmentsUntilBlock` is not in
src. It lists the anchor blocks of the commitments mined at or below `pindex`, newest first, at
most `maxCount` of them; below a null block there is nothing.
-/
def getMinedCommitmentsUntilBlock (history : MinedHistory) (pindex : Option Nat)
    (maxCount : Nat) : List Nat :=
  match pindex with
  | none => []
  | some height => ((history.minedUntil height).take maxCount).map (·.anchor)

/-- One type's `scanQuorumsCache`: start block to the quorums cached for it. Evictions of the
LRU policy are arbitrary removals.
-/
def ScanCache := Nat → Option (List Nat)

namespace ScanCache

/-- `unordered_lru_cache::emplace`: insert, or overwrite an existing entry. -/
def emplace (cache : ScanCache) (key : Nat) (value : List Nat) : ScanCache :=
  fun k => if k = key then some value else cache k

/-- An eviction of the entry at `key`. -/
def erase (cache : ScanCache) (key : Nat) : ScanCache :=
  fun k => if k = key then none else cache k

end ScanCache

/-- `CQuorumManager::ScanQuorums` for one quorum type, returning the anchors of the quorums and
the type's cache after the call. An exact hit is returned as is, a longer entry is cut, a
shorter one is extended by scanning `n - k` more from the parent of its oldest anchor, and only
a miss writes the cache, at most `maxSize` entries of a scan of `max n maxSize`.
-/
def scanQuorums (history : MinedHistory) (maxSize : Nat) (cache : ScanCache)
    (pindexStart : Option Nat) (nCountRequested : Nat) : List Nat × ScanCache :=
  match pindexStart with
  | none => ([], cache)
  | some start =>
    if nCountRequested = 0 then ([], cache)
    else
      match cache start with
      | some cached =>
        if cached.length = nCountRequested then (cached, cache)
        else if nCountRequested < cached.length then (cached.take nCountRequested, cache)
        else
          let scanFrom : Option Nat × Nat :=
            match cached.getLast? with
            | some oldest => (pprev oldest, nCountRequested - cached.length)
            | none => (some start, nCountRequested)
          let result := cached ++ getMinedCommitmentsUntilBlock history scanFrom.1 scanFrom.2
          (result.take (min result.length nCountRequested), cache)
      | none =>
        let result := getMinedCommitmentsUntilBlock history (some start) (max nCountRequested maxSize)
        let cache' :=
          if 0 < result.length then cache.emplace start (result.take (min result.length maxSize))
          else cache
        (result.take (min result.length nCountRequested), cache')

-----------------------------------------------------------------------------------------
-- The history below the oldest cached anchor
-----------------------------------------------------------------------------------------

/-- The history's ordering in pairwise form: every commitment is mined before the anchor of
every newer quorum, by induction along the chain of neighbours.
-/
theorem MinedHistory.pairwise (history : MinedHistory)
    : history.commitments.Pairwise fun newer older => older.minedHeight < newer.anchor := by
  obtain ⟨commitments, anchored, chain⟩ := history
  induction commitments with
  | nil => exact .nil
  | cons newest rest ih =>
      have restPairwise := ih (fun c mem => anchored c (.tail _ mem)) chain.tail
      refine List.pairwise_cons.mpr ⟨fun older mem => ?_, restPairwise⟩
      cases rest with
      | nil => cases mem
      | cons next rest =>
          have step : next.minedHeight < newest.anchor := (List.chain'_cons.mp chain).1
          rcases List.mem_cons.mp mem with rfl | later
          · exact step
          · have below := (List.pairwise_cons.mp restPairwise).1 older later
            have mined := anchored next (by simp)
            omega

/-- Below the anchor of the `k`-th commitment mined until `start` lies exactly the rest of
that list, by induction over the history: once one commitment is mined at or below `start`, so
is every older one, and all of them lie below its anchor.
-/
theorem filter_below_anchor {commitments : List MinedCommitment}
    (anchored : ∀ c ∈ commitments, c.anchor < c.minedHeight)
    (ordered : commitments.Pairwise fun newer older => older.minedHeight < newer.anchor)
    {start k : Nat} {oldest : MinedCommitment}
    (found : (commitments.filter (·.minedHeight ≤ start))[k]? = some oldest)
    : commitments.filter (·.minedHeight < oldest.anchor)
      = (commitments.filter (·.minedHeight ≤ start)).drop (k + 1) := by
  induction commitments generalizing k with
  | nil => simp at found
  | cons newest rest ih =>
      obtain ⟨olderBelow, restOrdered⟩ := List.pairwise_cons.mp ordered
      have restAnchored := fun c mem => anchored c (.tail _ mem)
      have newestAnchored := anchored newest (.head _)
      have newestAbove : ∀ c ∈ rest, ¬ newest.minedHeight < c.anchor := fun c mem => by
        have := olderBelow c mem
        have := restAnchored c mem
        omega
      by_cases newestIn : newest.minedHeight ≤ start
      · have restIn : rest.filter (·.minedHeight ≤ start) = rest :=
          List.filter_eq_self.mpr fun c mem => by
            have := olderBelow c mem
            simp only [decide_eq_true_eq]
            omega
        simp only [List.filter_cons, newestIn, decide_True, ↓reduceIte, restIn] at found ⊢
        cases k with
        | zero =>
            obtain rfl : newest = oldest := by simpa using found
            rw [if_neg (by simpa using newestAnchored.le)]
            exact List.filter_eq_self.mpr fun c mem => by simpa using olderBelow c mem
        | succ k =>
            have mem : oldest ∈ rest := List.getElem?_mem (by simpa using found)
            rw [if_neg (by simpa using newestAbove oldest mem)]
            simpa [restIn] using ih restAnchored restOrdered (by simpa [restIn] using found)
      · simp only [List.filter_cons, newestIn, decide_False, Bool.false_eq_true, ↓reduceIte]
          at found ⊢
        have mem : oldest ∈ rest := List.mem_of_mem_filter (List.getElem?_mem found)
        rw [if_neg (by simpa using newestAbove oldest mem)]
        exact ih restAnchored restOrdered found

/-- The continuation scan of `ScanQuorums`: from the parent of the `k`-th anchor mined until
`start`, the history lists exactly the anchors after it, also when that anchor is the genesis
block and its parent is null.
-/
theorem getMinedCommitmentsUntilBlock_pprev (history : MinedHistory) {start k m oldest : Nat}
    (found : (history.anchorsUntil start)[k]? = some oldest)
    : getMinedCommitmentsUntilBlock history (pprev oldest) m
      = ((history.anchorsUntil start).drop (k + 1)).take m := by
  obtain ⟨c, foundC, rfl⟩ : ∃ c, (history.minedUntil start)[k]? = some c ∧ c.anchor = oldest := by
    simpa [MinedHistory.anchorsUntil] using found
  have parent : getMinedCommitmentsUntilBlock history (pprev c.anchor) m
      = ((history.commitments.filter (·.minedHeight < c.anchor)).take m).map (·.anchor) := by
    cases c.anchor with
    | zero => simp [pprev, getMinedCommitmentsUntilBlock]
    | succ a => simp [pprev, getMinedCommitmentsUntilBlock, MinedHistory.minedUntil, Nat.lt_succ_iff]
  rw [parent, filter_below_anchor history.minedAfterAnchor history.pairwise foundC]
  simp [MinedHistory.anchorsUntil, MinedHistory.minedUntil, List.map_drop]

-----------------------------------------------------------------------------------------
-- One call keeps the cache coherent and answers like the uncached scan
-----------------------------------------------------------------------------------------

/-- Every entry of a type's scan cache is a prefix of the anchors below its start block. -/
def ScanCache.Coherent (history : MinedHistory) (cache : ScanCache) : Prop :=
  ∀ start cached, cache start = some cached
    → cached = (history.anchorsUntil start).take cached.length

/-- A cut of a list is the cut at its own length. -/
theorem take_eq_take_length_take (anchors : List Nat) (j : Nat)
    : anchors.take j = anchors.take (anchors.take j).length :=
  List.take_eq_take.mpr (by simp)

/-- The empty caches that `InitQuorumsCache` creates are coherent. -/
theorem ScanCache.coherent_empty (history : MinedHistory)
    : ScanCache.Coherent history fun _ => none := by
  intro start cached hit
  cases hit

/-- An eviction keeps a cache coherent. -/
theorem ScanCache.Coherent.erase {history : MinedHistory} {cache : ScanCache}
    (coherent : cache.Coherent history) (key : Nat) : (cache.erase key).Coherent history := by
  intro start cached hit
  by_cases same : start = key
  · simp [ScanCache.erase, same] at hit
  · exact coherent start cached (by simpa [ScanCache.erase, same] using hit)

section Call

variable {history : MinedHistory} {maxSize : Nat} {cache : ScanCache}

/-- A scan that misses the cache answers with the first `n` anchors below its start block. -/
theorem scanQuorums_miss_answer (start n : Nat)
    : let result := getMinedCommitmentsUntilBlock history (some start) (max n maxSize)
      result.take (min result.length n) = (history.anchorsUntil start).take n := by
  simp only [getMinedCommitmentsUntilBlock, MinedHistory.anchorsUntil, List.map_take,
    List.take_take, List.take_eq_take, List.length_map, List.length_take]
  omega

/-- A scan that finds a shorter entry extends it from the parent of its oldest anchor to the
first `n` anchors below its start block. Witness: the entry is a prefix of the anchors, and the
continuation scan lists the anchors after it.
-/
theorem scanQuorums_extend_answer {start n : Nat} {cached : List Nat}
    (cut : cached = (history.anchorsUntil start).take cached.length)
    (shorter : cached.length < n)
    : let scanFrom : Option Nat × Nat :=
        match cached.getLast? with
        | some oldest => (pprev oldest, n - cached.length)
        | none => (some start, n)
      let result := cached ++ getMinedCommitmentsUntilBlock history scanFrom.1 scanFrom.2
      result.take (min result.length n) = (history.anchorsUntil start).take n := by
  have extended : cached ++ (match cached.getLast? with
        | some oldest => getMinedCommitmentsUntilBlock history (pprev oldest) (n - cached.length)
        | none => getMinedCommitmentsUntilBlock history (some start) n)
      = (history.anchorsUntil start).take n := by
    cases last : cached.getLast? with
    | none =>
        simp only [List.getLast?_eq_none_iff.mp last, List.nil_append]
        simp [getMinedCommitmentsUntilBlock, MinedHistory.anchorsUntil]
    | some oldest =>
        obtain ⟨c, counted⟩ : ∃ c, cached.length = c := ⟨_, rfl⟩
        rw [counted] at cut shorter ⊢
        have nonempty : 0 < c := counted ▸ List.length_pos.mpr (by rintro rfl; cases last)
        have found : (history.anchorsUntil start)[c - 1]? = some oldest := by
          rw [List.getLast?_eq_getElem?, counted, cut,
            List.getElem?_take_of_lt (by omega)] at last
          exact last
        dsimp only
        rw [getMinedCommitmentsUntilBlock_pprev history found, Nat.sub_add_cancel nonempty, cut,
          ← List.take_add, Nat.add_sub_cancel' shorter.le]
  have short : ((history.anchorsUntil start).take n).length ≤ n := List.length_take_le _ _
  cases last : cached.getLast? <;> simp only [last] at extended ⊢ <;>
    rw [extended, Nat.min_eq_left short, List.take_length]

/-- One call of `ScanQuorums` from a coherent cache answers with the first `n` anchors below its
start block, whichever of exact hit, cut, extension or miss it takes.
-/
theorem scanQuorums_answer (coherent : cache.Coherent history) (start n : Nat)
    : (scanQuorums history maxSize cache (some start) n).1
      = (history.anchorsUntil start).take n := by
  by_cases zero : n = 0
  · simp [scanQuorums, zero]
  · simp only [scanQuorums, zero, ↓reduceIte]
    cases hit : cache start with
    | none => exact scanQuorums_miss_answer start n
    | some cached =>
        have cut := coherent start cached hit
        dsimp only
        split_ifs with exact longer
        · rw [cut, exact]
        · rw [cut, List.take_take, Nat.min_eq_left longer.le]
        · exact scanQuorums_extend_answer cut (by omega)

/-- One call of `ScanQuorums` keeps the cache coherent: only a miss writes, and it writes a cut
of the anchors below the start block.
-/
theorem scanQuorums_coherent (coherent : cache.Coherent history) (start n : Nat)
    : (scanQuorums history maxSize cache (some start) n).2.Coherent history := by
  by_cases zero : n = 0
  · simpa [scanQuorums, zero] using coherent
  · simp only [scanQuorums, zero, ↓reduceIte]
    cases hit : cache start with
    | some cached =>
        dsimp only
        split_ifs <;> exact coherent
    | none =>
        dsimp only
        split_ifs
        · intro key cached found
          by_cases same : key = start
          · simp only [ScanCache.emplace, same, ↓reduceIte, Option.some.injEq] at found
            subst found
            simp only [getMinedCommitmentsUntilBlock, List.map_take, List.take_take, same]
            exact take_eq_take_length_take _ _
          · exact coherent key cached (by simpa [ScanCache.emplace, same] using found)
        · exact coherent

end Call

-----------------------------------------------------------------------------------------
-- Every sequence of calls and evictions
-----------------------------------------------------------------------------------------

/-- What happens to the scan caches: a `ScanQuorums(type, start, n)` call from a block of the
active chain, or the LRU policy evicting the entry of a start block.
-/
inductive ScanEvent
  | scan (llmqType : LLMQType) (start nCountRequested : Nat)
  | evict (llmqType : LLMQType) (start : Nat)

/-- `scanQuorumsCache`: one scan cache per quorum type. -/
def ScanCaches := LLMQType → ScanCache

/-- Replace the cache of one type. -/
def ScanCaches.set (caches : ScanCaches) (llmqType : LLMQType) (cache : ScanCache)
    : ScanCaches :=
  fun t => if t = llmqType then cache else caches t

/-- The answers of the calls of an event sequence, in order, over a store that does not change
during the sequence.
-/
def runScans (history : LLMQType → MinedHistory) (maxSize : LLMQType → Nat)
    : ScanCaches → List ScanEvent → List (List Nat)
  | _, [] => []
  | caches, .scan t start n :: rest =>
      let call := scanQuorums (history t) (maxSize t) (caches t) (some start) n
      call.1 :: runScans history maxSize (caches.set t call.2) rest
  | caches, .evict t start :: rest =>
      runScans history maxSize (caches.set t ((caches t).erase start)) rest

/-- A scan that bypasses `scanQuorumsCache`: `GetMinedCommitmentsUntilBlock(type, start, n)`. -/
def scanUncached (history : LLMQType → MinedHistory) : ScanEvent → Option (List Nat)
  | .scan t start n => some (getMinedCommitmentsUntilBlock (history t) (some start) n)
  | .evict _ _ => none

/-- Replacing one type's cache by a coherent one keeps every type coherent. -/
theorem ScanCaches.coherent_set {history : LLMQType → MinedHistory} {caches : ScanCaches}
    (coherent : ∀ t, (caches t).Coherent (history t)) {llmqType : LLMQType} {cache : ScanCache}
    (fresh : cache.Coherent (history llmqType))
    : ∀ t, ((caches.set llmqType cache) t).Coherent (history t) := by
  intro t
  by_cases same : t = llmqType
  · subst same
    simpa [ScanCaches.set] using fresh
  · simpa [ScanCaches.set, same] using coherent t

/-- From coherent caches, every run answers like the uncached scans, by induction over the
events with the one-call lemmas as the step.
-/
theorem runScans_eq_uncached {history : LLMQType → MinedHistory} {maxSize : LLMQType → Nat}
    {caches : ScanCaches} (coherent : ∀ t, (caches t).Coherent (history t))
    (events : List ScanEvent)
    : runScans history maxSize caches events = events.filterMap (scanUncached history) := by
  induction events generalizing caches with
  | nil => rfl
  | cons event rest ih =>
      cases event with
      | scan t start n =>
          simp only [runScans, List.filterMap_cons, scanUncached,
            scanQuorums_answer (coherent t), getMinedCommitmentsUntilBlock, List.map_take]
          exact congrArg _
            (ih (ScanCaches.coherent_set coherent (scanQuorums_coherent (coherent t) start n)))
      | evict t start =>
          exact ih (ScanCaches.coherent_set coherent ((coherent t).erase start))

/-- `ScanQuorums`' two-level cache never changes its answer. Over any sequence of calls, for
any types, start blocks and counts, and any evictions between them, started from the empty
caches, each call returns what the scan that bypasses the cache returns, and that is the first
`n` anchors (all of them if fewer) of the type's commitments mined at or below the start block,
newest first.
-/
theorem scanQuorums_cache_never_changes_answer (history : LLMQType → MinedHistory)
    (maxSize : LLMQType → Nat) (events : List ScanEvent)
    : runScans history maxSize (fun _ _ => none) events = events.filterMap (scanUncached history)
      ∧ ∀ t start n, scanUncached history (.scan t start n)
          = some (((history t).anchorsUntil start).take n) := by
  refine ⟨runScans_eq_uncached (fun t => ScanCache.coherent_empty (history t)) events, ?_⟩
  intro t start n
  simp [scanUncached, getMinedCommitmentsUntilBlock, MinedHistory.anchorsUntil]

/-- The second call extends the one-entry cache from the parent of anchor `90`, the third cuts
nothing and scans afresh from block `80`. -/
example : runScans (fun _ => ⟨[⟨90, 95⟩, ⟨60, 70⟩, ⟨30, 40⟩], by decide, by simp⟩) (fun _ => 1)
    (fun _ _ => none) [.scan 1 100 1, .scan 1 100 3, .scan 1 80 2, .evict 1 100, .scan 1 100 2]
    = [[90], [90, 60, 30], [60, 30], [90, 60]] := by
  decide

end Llmq
