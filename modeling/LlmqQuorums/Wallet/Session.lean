import LlmqQuorums.Wallet.Electrum

/-! A wallet serving the RPCs of `wallet/rpcdump.cpp` one after another, each run to its end under
the wallet's lock: any sequence of imports (`importprivkey`, `importaddress`, `importpubkey`,
`importmulti`, `importwallet`, `importelectrumwallet`) and `dumpprivkey`. Each write of each of
these RPCs is one that an order admitting the writes of `ProcessImport` relates, so over every run
the wallet keeps each private key and redeem script it holds and its private-keys flag, and a filed
wallet stays filed. `dumpprivkey` therefore keeps answering what it answered, and answers only the
key of the address it is given.
-/

namespace Wallet

/-- A call of a wallet RPC, with its parameters; `importwallet` and `importelectrumwallet` with the
bytes of the file their name opens, `none` when it does not open. -/
inductive WalletCall
  | importprivkey (params : List UniValue)
  | importaddress (params : List UniValue)
  | importpubkey (params : List UniValue)
  | importmulti (requests : List UniValue) (now : Int)
  | importwallet (file : Option (List UInt8))
  | importelectrumwallet (params : List UniValue) (file : Option (List UInt8))
  | dumpprivkey (params : List UniValue)

/-- What a call answers. -/
inductive WalletReply
  | done (result : Except ImportError Unit)
  | imported (results : Except ImportError (List ImportResult))
  | secret (result : Except ImportError (List UInt8))

/-- One call, run to its end; `none` when its run is undefined. -/
def WalletCall.step (env : ElectrumEnv) (w : WalletState) :
    WalletCall → Option (WalletReply × WalletState)
  | .importprivkey params =>
      some (Prod.map .done id (runImport (Wallet.importprivkey env.toBackupEnv params) w))
  | .importaddress params =>
      some (Prod.map .done id (runImport (Wallet.importaddress env.toBackupEnv params) w))
  | .importpubkey params =>
      some (Prod.map .done id (runImport (Wallet.importpubkey env.toBackupEnv params) w))
  | .importmulti requests now =>
      some (Prod.map .imported id (runImport (importMulti env.toImportEnv requests now) w))
  | .importwallet file => (importWallet env.toBackupEnv file w).map (Prod.map .done id)
  | .importelectrumwallet params file =>
      (Wallet.importelectrumwallet env params file w).map (Prod.map .done id)
  | .dumpprivkey params => some (.secret (Wallet.dumpprivkey env.toBackupEnv params w), w)

/-- The replies to a sequence of calls and the wallet it leaves; `none` when a call's run is
undefined. -/
def runWallet (env : ElectrumEnv) (w : WalletState) :
    List WalletCall → Option (List WalletReply × WalletState)
  | [] => some ([], w)
  | call :: rest => (call.step env w).bind fun (reply, w) =>
      (runWallet env w rest).map fun (replies, w) => (reply :: replies, w)

-----------------------------------------------------------------------------------------
-- importwallet's writes
-----------------------------------------------------------------------------------------

section Backup

variable (env : BackupEnv) {R : WalletOrder} (admits : R.Admits env.toImportEnv)
include admits

theorem importDumpKey_keeps (entry : DumpKey) (fGood : Bool) (nTimeBegin : Int) (w : WalletState) :
    R.rel w (importDumpKey env entry fGood nTimeBegin w).2.2 := by
  unfold importDumpKey
  dsimp only
  split
  · exact R.refl w
  · have added := admits.addKey w entry.key (Bool.eq_false_iff.mpr ‹_›)
    split
    · exact added
    · refine R.trans (R.trans added (admits.setKeyCreateTime _ (env.keyID entry.key) entry.time)) ?_
      split
      · exact admits.setAddressBook _ _ _ _
      · exact R.refl _

theorem importDumpKeys_keeps :
    ∀ entries fGood nTimeBegin w, R.rel w (importDumpKeys env entries fGood nTimeBegin w).2.2
  | [], _, _, w => R.refl w
  | entry :: rest, fGood, nTimeBegin, w =>
      R.trans (importDumpKey_keeps env admits entry fGood nTimeBegin w)
        (importDumpKeys_keeps rest _ _ _)

theorem importDumpScript_keeps (entry : DumpScript) (fGood : Bool) (nTimeBegin : Int)
    (w : WalletState) : R.rel w (importDumpScript env entry fGood nTimeBegin w).2.2 := by
  unfold importDumpScript
  dsimp only
  split
  · exact R.refl w
  · have added := admits.addCScript w entry.script (Bool.eq_false_iff.mpr ‹_›)
    split
    · exact added
    · split <;> exact added

theorem importDumpScripts_keeps :
    ∀ entries fGood nTimeBegin w, R.rel w (importDumpScripts env entries fGood nTimeBegin w).2.2
  | [], _, _, w => R.refl w
  | entry :: rest, fGood, nTimeBegin, w =>
      R.trans (importDumpScript_keeps env admits entry fGood nTimeBegin w)
        (importDumpScripts_keeps rest _ _ _)

theorem importDumpEntries_keeps (keys : List DumpKey) (scripts : List DumpScript) :
    Keeps R (importDumpEntries env keys scripts) :=
  Keeps.read.bind fun _ => (Keeps.throwIf _ _).bind fun _ =>
    Keeps.bind (fun w => R.trans (importDumpKeys_keeps env admits keys true env.tipTime w)
      (importDumpScripts_keeps env admits scripts _ _ _)) fun _ w => by
    rw [(runImport_rescanChecks env _ _ w).1]
    exact R.refl w

/-- Whatever it answers, a defined run of `importwallet` keeps every order its writes keep. -/
theorem importWallet_keeps {file : Option (List UInt8)} {w w' : WalletState}
    {result : Except ImportError Unit} (ran : importWallet env file w = some (result, w')) :
    R.rel w w' := by
  unfold importWallet at ran
  split_ifs at ran
  -- pruned, rescanning or locked: nothing is written
  iterate 3
    · cases ran
      exact R.refl w
  split at ran
  · cases ran
    exact R.refl w
  · simp only [Option.map_eq_some'] at ran
    obtain ⟨⟨keys, scripts⟩, _, ran⟩ := ran
    have wallet : (runImport (importDumpEntries env keys scripts) w).2 = w' := congrArg Prod.snd ran
    rw [← wallet]
    exact importDumpEntries_keeps env admits keys scripts w

end Backup

-----------------------------------------------------------------------------------------
-- Runs
-----------------------------------------------------------------------------------------

section Runs

variable {env : ElectrumEnv} {R : WalletOrder}

/-- The wallet an import leaves is the second part of its reply. -/
theorem wallet_of_step {α : Type} {f : α → WalletReply} {r : α × WalletState} {reply : WalletReply}
    {w' : WalletState} (stepped : some (Prod.map f id r) = some (reply, w')) : r.2 = w' :=
  congrArg Prod.snd (Option.some.inj stepped)

/-- The step lemma: each call keeps every order the writes of an import keep. -/
theorem WalletCall.step_keeps (admits : R.Admits env.toImportEnv) {call : WalletCall}
    {w w' : WalletState} {reply : WalletReply} (stepped : call.step env w = some (reply, w')) :
    R.rel w w' := by
  cases call with
  | importprivkey params =>
      rw [← wallet_of_step stepped]
      exact importprivkey_keeps env.toBackupEnv admits params w
  | importaddress params =>
      rw [← wallet_of_step stepped]
      exact importaddress_keeps env.toBackupEnv admits.toAdmitsWatching params w
  | importpubkey params =>
      rw [← wallet_of_step stepped]
      exact importpubkey_keeps env.toBackupEnv admits.toAdmitsWatching params w
  | importmulti requests now =>
      rw [← wallet_of_step stepped]
      exact importMulti_admitted env.toImportEnv admits requests now w
  | importwallet file =>
      obtain ⟨⟨result, w₁⟩, ran, stepped⟩ := Option.map_eq_some'.mp stepped
      rw [← wallet_of_step (congrArg some stepped)]
      exact importWallet_keeps env.toBackupEnv admits ran
  | importelectrumwallet params file =>
      obtain ⟨⟨result, w₁⟩, ran, stepped⟩ := Option.map_eq_some'.mp stepped
      rw [← wallet_of_step (congrArg some stepped)]
      exact importelectrumwallet_keeps admits ran
  | dumpprivkey params =>
      cases stepped
      exact R.refl w

/-- A run is a first call and the run of the rest from the wallet it leaves. -/
theorem runWallet_cons {call : WalletCall} {rest : List WalletCall} {w w' : WalletState}
    {replies : List WalletReply} (run : runWallet env w (call :: rest) = some (replies, w')) :
    ∃ reply w₁ replies', call.step env w = some (reply, w₁)
      ∧ runWallet env w₁ rest = some (replies', w') ∧ replies = reply :: replies' := by
  simp only [runWallet, Option.bind_eq_some, Option.map_eq_some', Prod.mk.injEq] at run
  obtain ⟨⟨reply, w₁⟩, stepped, ⟨replies', w₂⟩, ran, rfl, rfl⟩ := run
  exact ⟨reply, w₁, replies', stepped, ran, rfl⟩

/-- The run lemma: every defined run keeps every order the writes of an import keep. -/
theorem runWallet_keeps (admits : R.Admits env.toImportEnv) :
    ∀ {calls : List WalletCall} {w w' : WalletState} {replies : List WalletReply},
      runWallet env w calls = some (replies, w') → R.rel w w'
  | [], w, _, _, run => by
      cases run
      exact R.refl w
  | _ :: _, _, _, _, run =>
      have ⟨_, _, _, stepped, rest, _⟩ := runWallet_cons run
      R.trans (WalletCall.step_keeps admits stepped) (runWallet_keeps admits rest)

end Runs

/-- Whatever a sequence of wallet RPCs answers, a defined run never removes or replaces a private
key or a redeem script, never changes the private-keys flag, and leaves a filed wallet filed. -/
theorem runWallet_keeps_keys_filed {env : ElectrumEnv} {calls : List WalletCall}
    {w w' : WalletState} {replies : List WalletReply}
    (run : runWallet env w calls = some (replies, w')) :
    (∀ keyid key, w.mapKeys keyid = some key → w'.mapKeys keyid = some key)
      ∧ (∀ scriptid script, w.mapScripts scriptid = some script → w'.mapScripts scriptid = some script)
      ∧ w'.disablePrivateKeys = w.disablePrivateKeys
      ∧ (w.Filed env.toImportEnv → w'.Filed env.toImportEnv) :=
  have kept := runWallet_keeps ((WalletOrder.extension_admits _).both (WalletOrder.filing_admits _)) run
  ⟨kept.1.keys, kept.1.scripts, kept.1.flag, kept.2⟩

/-- Key 7 imported, its address imported as watch-only, and the key dumped. -/
def sampleWalletCalls : List WalletCall :=
  [.importprivkey [.str "k7"], .importaddress [.str "a7", .str "main"], .dumpprivkey [.str "a7"]]

theorem sample_session_keeps_keys :
    ∃ replies w', runWallet sampleElectrumEnv WalletState.empty sampleWalletCalls = some (replies, w')
      ∧ (∀ keyid key, WalletState.empty.mapKeys keyid = some key → w'.mapKeys keyid = some key)
      ∧ (∀ scriptid script, WalletState.empty.mapScripts scriptid = some script →
          w'.mapScripts scriptid = some script)
      ∧ w'.disablePrivateKeys = WalletState.empty.disablePrivateKeys
      ∧ (WalletState.empty.Filed sampleElectrumEnv.toImportEnv → w'.Filed sampleElectrumEnv.toImportEnv) := by
  obtain ⟨⟨replies, w'⟩, run⟩ : ∃ r, runWallet sampleElectrumEnv WalletState.empty sampleWalletCalls
      = some r := ⟨_, rfl⟩
  exact ⟨replies, w', run, runWallet_keeps_keys_filed run⟩

/-- `dumpprivkey` keeps answering what it answered: every defined run of wallet RPCs after it, whatever
they answer, leaves a wallet where it answers the same. -/
theorem runWallet_dumpprivkey_stable {env : ElectrumEnv} {calls : List WalletCall}
    {w w' : WalletState} {replies : List WalletReply} {params : List UniValue} {secret : List UInt8}
    (run : runWallet env w calls = some (replies, w'))
    (dumped : dumpprivkey env.toBackupEnv params w = .ok secret) :
    dumpprivkey env.toBackupEnv params w' = .ok secret :=
  dumpprivkey_kept (runWallet_keeps (WalletOrder.extension_admits _) run) dumped

/-- A wallet holding key 7. -/
def sampleKeyWallet : WalletState := WalletState.empty.addKey 7 7

theorem sample_session_dumpprivkey_stable :
    ∃ replies w', runWallet sampleElectrumEnv sampleKeyWallet sampleWalletCalls = some (replies, w')
      ∧ dumpprivkey sampleElectrumEnv.toBackupEnv [.str "a7"] sampleKeyWallet
        = .ok (sampleElectrumEnv.formats.encodeSecret 7)
      ∧ dumpprivkey sampleElectrumEnv.toBackupEnv [.str "a7"] w'
        = .ok (sampleElectrumEnv.formats.encodeSecret 7) := by
  obtain ⟨⟨replies, w'⟩, run⟩ : ∃ r, runWallet sampleElectrumEnv sampleKeyWallet sampleWalletCalls
      = some r := ⟨_, rfl⟩
  have dumped : dumpprivkey sampleElectrumEnv.toBackupEnv [.str "a7"] sampleKeyWallet
      = .ok (sampleElectrumEnv.formats.encodeSecret 7) := rfl
  exact ⟨replies, w', run, dumped, runWallet_dumpprivkey_stable run dumped⟩

/-- The empty wallet files nothing wrongly. -/
theorem WalletState.empty_filed (env : ImportEnv) : WalletState.empty.Filed env :=
  ⟨fun _ _ held => (nomatch held), fun _ _ held => (nomatch held)⟩

/-- In every defined run from a filed wallet, each secret `dumpprivkey` answers is `EncodeSecret`
of a key whose public key has the id of the address it was given. -/
theorem runWallet_dumpprivkey_owned {env : ElectrumEnv} :
    ∀ {calls : List WalletCall} {w w' : WalletState} {replies : List WalletReply}
      {params : List UniValue} {secret : List UInt8}, w.Filed env.toImportEnv →
      runWallet env w calls = some (replies, w') →
      (WalletCall.dumpprivkey params, WalletReply.secret (.ok secret)) ∈ calls.zip replies →
      ∃ strAddress key, params = [.str strAddress]
        ∧ env.decodeDestination strAddress = .keyID (env.keyID key)
        ∧ secret = env.formats.encodeSecret key
  | [], _, _, _, _, _, _, _, answered => absurd answered (List.not_mem_nil _)
  | call :: rest, w, _, _, _, _, filed, run, answered => by
      obtain ⟨reply, w₁, replies', stepped, ran, rfl⟩ := runWallet_cons run
      rcases List.mem_cons.mp answered with same | later
      · obtain ⟨rfl, rfl⟩ := Prod.mk.inj same
        obtain ⟨strAddress, key, given, decoded, -, encoded⟩ :=
          dumpprivkey_filed filed (WalletReply.secret.inj (Prod.mk.inj (Option.some.inj stepped)).1)
        exact ⟨strAddress, key, given, decoded, encoded⟩
      · exact runWallet_dumpprivkey_owned
          (WalletCall.step_keeps (WalletOrder.filing_admits _) stepped filed) ran later

theorem sample_session_dumpprivkey_owned :
    ∃ w', runWallet sampleElectrumEnv WalletState.empty sampleWalletCalls
        = some ([.done (.ok ()), .done (.ok ()), .secret (.ok (sampleElectrumEnv.formats.encodeSecret 7))], w')
      ∧ ∃ strAddress key, [UniValue.str "a7"] = [.str strAddress]
        ∧ sampleElectrumEnv.decodeDestination strAddress = .keyID (sampleElectrumEnv.keyID key)
        ∧ sampleElectrumEnv.formats.encodeSecret 7 = sampleElectrumEnv.formats.encodeSecret key := by
  obtain ⟨w', run⟩ : ∃ w', runWallet sampleElectrumEnv WalletState.empty sampleWalletCalls
      = some ([.done (.ok ()), .done (.ok ()),
        .secret (.ok (sampleElectrumEnv.formats.encodeSecret 7))], w') := ⟨_, rfl⟩
  exact ⟨w', run, runWallet_dumpprivkey_owned (WalletState.empty_filed _) run
    (.tail _ (.tail _ (.head _)))⟩

end Wallet
