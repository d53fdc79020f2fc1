import Mathlib.Logic.Function.Basic

/-!
# The indexer's message handlers

The darkpool indexer learns what happened on chain, and which accounts to follow, from messages
on a queue. A handler turns one message into one database transaction. What a reader needs to
know about a handler is small: whether its transaction was committed, and what it returned. The
two need not agree, since the answer to a commit can be lost.

A handler ends in one of three ways: it returns, it returns an error, or it panics. Parts of the
handler of nullifier spends are still `todo!()`, and a `todo!()` that is reached panics. They
are fields of `Unwritten`, so that results hold for the handler as it is (`todoParts`) and for
however those parts will be filled in.
-/

namespace RelayerExtensions.Indexer

abbrev Scalar := Nat
abbrev AccountId := Nat
abbrev Address := BitVec 160
abbrev TxHash := BitVec 256

/-! ## Messages -/

structure MasterViewSeedMessage where
  accountId : AccountId
  ownerAddress : Address
  seed : Scalar

structure NullifierSpendMessage where
  nullifier : Scalar
  txHash : TxHash

inductive SqsMessage where
  | registerMasterViewSeed (message : MasterViewSeedMessage)
  | nullifierSpend (message : NullifierSpendMessage)

/-! ## Errors -/

inductive DbError where
  | poolConnection (e : String)
  | query (e : String)
  | diesel (e : String)

inductive HandlerError where
  | db (e : DbError)
  | sqs (e : String)
  | rpc (e : String)
  | serde (e : String)

/-- How a piece of a handler ends if it does not return a value. -/
inductive Fault where
  | error (e : HandlerError)
  | panic (message : String)

/-! ## The database -/

inductive StateObjectType where
  | intent
  | balance
  deriving DecidableEq

structure MasterViewSeed where
  accountId : AccountId
  ownerAddress : Address
  seed : Scalar
  recoverySeedCsprngIndex : Nat
  shareSeedCsprngIndex : Nat
  deriving DecidableEq

structure ExpectedStateObject where
  nullifier : Scalar
  accountId : AccountId
  ownerAddress : Address
  recoveryStreamSeed : Scalar
  shareStreamSeed : Scalar
  deriving DecidableEq

structure GenericStateObject where
  recoveryStreamSeed : Scalar
  accountId : AccountId
  active : Bool
  objectType : StateObjectType
  nullifier : Scalar
  version : Nat
  shareStreamSeed : Scalar
  shareStreamIndex : Nat
  ownerAddress : Address
  publicShares : List Scalar
  privateShares : List Scalar
  deriving DecidableEq

structure ProcessedNullifier where
  nullifier : Scalar
  blockNumber : Nat
  deriving DecidableEq

structure Database where
  masterViewSeeds : List MasterViewSeed
  expectedStateObjects : List ExpectedStateObject
  genericStateObjects : List GenericStateObject
  processedNullifiers : List ProcessedNullifier
  deriving DecidableEq

/-- An `INSERT` into a table with a primary key. -/
def insertRow {α κ : Type} [DecidableEq κ] (key : α → κ) (row : α) (rows : List α) :
    Except Fault (List α) :=
  if rows.any fun r => key r = key row then
    .error (.error (.db (.query "duplicate key value violates unique constraint")))
  else .ok (rows ++ [row])

def Database.insertMasterViewSeed (row : MasterViewSeed) (db : Database) :
    Except Fault Database := do
  let rows ← insertRow MasterViewSeed.accountId row db.masterViewSeeds
  return { db with masterViewSeeds := rows }

def Database.insertExpectedStateObject (row : ExpectedStateObject) (db : Database) :
    Except Fault Database := do
  let rows ← insertRow ExpectedStateObject.nullifier row db.expectedStateObjects
  return { db with expectedStateObjects := rows }

def Database.createGenericStateObject (row : GenericStateObject) (db : Database) :
    Except Fault Database := do
  let rows ← insertRow GenericStateObject.recoveryStreamSeed row db.genericStateObjects
  return { db with genericStateObjects := rows }

def Database.markNullifierProcessed (row : ProcessedNullifier) (db : Database) :
    Except Fault Database := do
  let rows ← insertRow ProcessedNullifier.nullifier row db.processedNullifiers
  return { db with processedNullifiers := rows }

def Database.checkNullifierProcessed (nullifier : Scalar) (db : Database) : Bool :=
  db.processedNullifiers.any fun r => r.nullifier = nullifier

def Database.getExpectedStateObject (nullifier : Scalar) (db : Database) :
    Option ExpectedStateObject :=
  db.expectedStateObjects.find? fun r => r.nullifier = nullifier

/-! ## What the environment answers -/

structure TransactionReceipt where
  blockNumber : Option Nat

/-- How a `COMMIT` can end. -/
inductive CommitReply where
  | done
  | failed (e : String)
  /-- Committed, but the answer did not arrive. -/
  | lost (e : String)
  deriving DecidableEq

/-- What a handler is answered: the connection pool, each statement in turn, the commit, and the
RPC node. -/
structure HandlerReplies where
  connection : Option String
  statement : Nat → Option String
  commit : CommitReply
  receipt : Except String (Option TransactionReceipt)

/-- The `n`-th statement reaches the database, or fails on the way. -/
def HandlerReplies.query {α : Type} (r : HandlerReplies) (n : Nat) (answer : Except Fault α) :
    Except Fault α :=
  match r.statement n with
  | none => answer
  | some e => .error (.error (.db (.query e)))

/-- What the handlers take from libraries: the JSON reader, the random streams (the `i`-th value
of the stream with a seed, and the streams of a master view seed), the hash, and how a transaction
hash is written. -/
structure IndexerLib where
  parse : String → Except String SqsMessage
  getIth : Scalar → Nat → Scalar
  recoverySeedCsprng : Scalar → Scalar
  shareSeedCsprng : Scalar → Scalar
  poseidonHash : List Scalar → Scalar
  formatHash : TxHash → String

/-- The parts of the nullifier spend handler that are `todo!()`. -/
structure Unwritten where
  updatedStateObjectType : Scalar → TransactionReceipt → Except Fault StateObjectType
  updatedPublicShares : Scalar → TransactionReceipt → Except Fault (List Scalar × Nat)
  createTypedStateObject : GenericStateObject → Database → Except Fault Database

/-- The source as it stands. -/
def todoParts : Unwritten where
  updatedStateObjectType _ _ := .error (.panic "not yet implemented")
  updatedPublicShares _ _ := .error (.panic "not yet implemented")
  createTypedStateObject _ _ := .error (.panic "not yet implemented")

/-! ## Transactions -/

/-- What handling a message came to. -/
structure Handled where
  db : Database
  committed : Bool
  result : Except Fault Unit

def Handled.fault (db : Database) (f : Fault) : Handled := ⟨db, false, .error f⟩

/-- `conn.transaction`: an error or a panic in the body rolls back. -/
def transaction (r : HandlerReplies) (db : Database) (body : Database → Except Fault Database) :
    Handled :=
  match r.connection with
  | some e => .fault db (.error (.db (.poolConnection e)))
  | none =>
      match body db with
      | .error f => .fault db f
      | .ok db' =>
          match r.commit with
          | .done => ⟨db', true, .ok ()⟩
          | .failed e => .fault db (.error (.db (.diesel e)))
          | .lost e => ⟨db', true, .error (.error (.db (.diesel e)))⟩

/-- A handler that returns has committed, and one that has not committed has changed nothing. -/
structure Handled.Sound (before : Database) (h : Handled) : Prop where
  committed_of_ok : h.result = .ok () → h.committed = true
  unchanged : h.committed = false → h.db = before

theorem Handled.sound_fault (db : Database) (f : Fault) : (Handled.fault db f).Sound db :=
  ⟨(fun h => nomatch h), fun _ => rfl⟩

theorem sound_transaction (r : HandlerReplies) (db : Database)
    (body : Database → Except Fault Database) : (transaction r db body).Sound db := by
  unfold transaction
  split
  · exact Handled.sound_fault ..
  · split
    · exact Handled.sound_fault ..
    · split
      · exact ⟨fun _ => rfl, fun h => nomatch h⟩
      · exact Handled.sound_fault ..
      · exact ⟨(fun h => nomatch h), fun h => nomatch h⟩

/-! ## The handlers -/

section Handlers

variable (lib : IndexerLib) (unwritten : Unwritten)

def firstObjectIdx : Nat := 0

def MasterViewSeed.new (accountId : AccountId) (ownerAddress : Address) (seed : Scalar) :
    MasterViewSeed := ⟨accountId, ownerAddress, seed, 0, 0⟩

def ExpectedStateObject.new (accountId : AccountId) (ownerAddress : Address)
    (recoveryStreamSeed shareStreamSeed : Scalar) : ExpectedStateObject :=
  let expectedRecoveryId := lib.getIth recoveryStreamSeed 0
  ⟨lib.poseidonHash [expectedRecoveryId, recoveryStreamSeed], accountId, ownerAddress,
    recoveryStreamSeed, shareStreamSeed⟩

/-- New objects are created at version 1. -/
def GenericStateObject.new (expected : ExpectedStateObject) (objectType : StateObjectType)
    (publicShares privateShares : List Scalar) : GenericStateObject where
  recoveryStreamSeed := expected.recoveryStreamSeed
  accountId := expected.accountId
  active := true
  objectType := objectType
  nullifier := expected.nullifier
  version := 1
  shareStreamSeed := expected.shareStreamSeed
  shareStreamIndex := 0
  ownerAddress := expected.ownerAddress
  publicShares := publicShares
  privateShares := privateShares

def handleMasterViewSeedMessage (r : HandlerReplies) (message : MasterViewSeedMessage)
    (db : Database) : Handled :=
  let recoverySeed := lib.getIth (lib.recoverySeedCsprng message.seed) firstObjectIdx
  let shareSeed := lib.getIth (lib.shareSeedCsprng message.seed) firstObjectIdx
  transaction r db fun db => do
    let db ← r.query 0 (db.insertMasterViewSeed
      (.new message.accountId message.ownerAddress message.seed))
    r.query 1 (db.insertExpectedStateObject
      (.new lib message.accountId message.ownerAddress recoverySeed shareSeed))

structure NullifierSpendData where
  nullifier : Scalar
  blockNumber : Nat
  stateObjectType : StateObjectType
  updatedPublicShares : List Scalar
  updatedSharesIndex : Nat

def fetchNullifierSpendData (r : HandlerReplies) (message : NullifierSpendMessage) :
    Except Fault NullifierSpendData :=
  match r.receipt with
  | .error e => .error (.error (.rpc e))
  | .ok none =>
      .error (.error (.rpc
        s!"Transaction receipt not found for tx {lib.formatHash message.txHash}"))
  | .ok (some receipt) =>
      match receipt.blockNumber with
      -- the source's text is a plain literal: the hash is not filled in
      | none => .error (.error (.rpc "Block number not found in tx \x7btx_hash:#x\x7d receipt"))
      | some blockNumber => do
          let stateObjectType ← unwritten.updatedStateObjectType message.nullifier receipt
          let (shares, index) ← unwritten.updatedPublicShares message.nullifier receipt
          return ⟨message.nullifier, blockNumber, stateObjectType, shares, index⟩

def handleFirstObjectNullifierSpend (r : HandlerReplies) (data : NullifierSpendData)
    (expected : ExpectedStateObject) (db : Database) : Except Fault Database := do
  let privateShares :=
    (List.range data.updatedPublicShares.length).map (lib.getIth expected.shareStreamSeed)
  let object :=
    GenericStateObject.new expected data.stateObjectType data.updatedPublicShares privateShares
  let db ← r.query 2 (db.createGenericStateObject object)
  unwritten.createTypedStateObject object db

def handleNullifierSpendMessage (r : HandlerReplies) (message : NullifierSpendMessage)
    (db : Database) : Handled :=
  match fetchNullifierSpendData lib unwritten r message with
  | .error f => .fault db f
  | .ok data =>
      transaction r db fun db => do
        let processed ← r.query 0 (.ok (db.checkNullifierProcessed data.nullifier))
        if processed then return db
        let expected ← r.query 1 (.ok (db.getExpectedStateObject data.nullifier))
        let db ←
          match expected with
          | some expected => handleFirstObjectNullifierSpend lib unwritten r data expected db
          | none => .ok db
        r.query 3 (db.markNullifierProcessed ⟨data.nullifier, data.blockNumber⟩)

/-- `handle_sqs_message` up to the deletion of the message. A message without a body asks for
nothing, and nothing is what is committed. -/
def handleBody (r : HandlerReplies) (body : Option String) (db : Database) : Handled :=
  match body with
  | none => ⟨db, true, .ok ()⟩
  | some body =>
      match lib.parse body with
      | .error e => .fault db (.error (.serde e))
      | .ok (.registerMasterViewSeed message) => handleMasterViewSeedMessage lib r message db
      | .ok (.nullifierSpend message) => handleNullifierSpendMessage lib unwritten r message db

theorem sound_handleBody (r : HandlerReplies) (body : Option String) (db : Database) :
    (handleBody lib unwritten r body db).Sound db := by
  unfold handleBody
  split
  · exact ⟨fun _ => rfl, fun h => nomatch h⟩
  · split
    · exact Handled.sound_fault ..
    · unfold handleMasterViewSeedMessage
      exact sound_transaction ..
    · unfold handleNullifierSpendMessage
      split
      · exact Handled.sound_fault ..
      · exact sound_transaction ..

end Handlers

/-! ## When a handler fails -/

/-- The handler returns an error and has applied nothing. -/
def Handled.failed (h : Handled) : Bool :=
  match h.result with
  | .error (.error _) => !h.committed
  | _ => false

/-- It ends in an error that is no panic, or it returns and then `after` holds. -/
def Stops {α : Type} (after : α → Prop) : Except Fault α → Prop
  | .ok a => after a
  | .error (.error _) => True
  | .error (.panic _) => False

theorem Handled.of_failed {h : Handled} (hf : h.failed = true) :
    h.committed = false ∧ ∃ e, h.result = .error (.error e) := by
  unfold Handled.failed at hf
  split at hf
  · next e he => exact ⟨by simpa using hf, e, he⟩
  · cases hf

def CommitReply.Fails : CommitReply → Prop
  | .failed _ => True
  | .done | .lost _ => False

section Failures

variable (lib : IndexerLib) (unwritten : Unwritten) (r : HandlerReplies) (db : Database)

/-- A call of the registration fails, or one of its keys is taken. -/
def RegistrationFails (message : MasterViewSeedMessage) : Prop :=
  let recoverySeed := lib.getIth (lib.recoverySeedCsprng message.seed) firstObjectIdx
  r.connection ≠ none ∨
    r.statement 0 ≠ none ∨ (∃ row ∈ db.masterViewSeeds, row.accountId = message.accountId) ∨
    r.statement 1 ≠ none ∨ (∃ row ∈ db.expectedStateObjects, row.nullifier =
      lib.poseidonHash [lib.getIth recoverySeed 0, recoverySeed]) ∨ r.commit.Fails

/-- A call of the transaction for a nullifier spend fails, or a key is taken, or what is unwritten
fails. A nullifier that has been processed needs one statement only. -/
def SpendFails (data : NullifierSpendData) : Prop :=
  let processed (db : Database) :=
    ∃ row ∈ db.processedNullifiers, row.nullifier = data.nullifier
  let mark (db : Database) := r.statement 3 ≠ none ∨ processed db ∨ r.commit.Fails
  r.connection ≠ none ∨ r.statement 0 ≠ none ∨
    if processed db then r.commit.Fails
    else r.statement 1 ≠ none ∨
      match db.getExpectedStateObject data.nullifier with
      | none => mark db
      | some expected =>
          let object := GenericStateObject.new expected data.stateObjectType
            data.updatedPublicShares ((List.range data.updatedPublicShares.length).map
              (lib.getIth expected.shareStreamSeed))
          r.statement 2 ≠ none ∨ (∃ row ∈ db.genericStateObjects,
              row.recoveryStreamSeed = expected.recoveryStreamSeed) ∨
            Stops mark (unwritten.createTypedStateObject object
              { db with genericStateObjects := db.genericStateObjects ++ [object] })

/-- The message cannot be read, or a call of its handler fails, or a key is taken. -/
def BodyFails : Option String → Prop
  | none => False
  | some body =>
      match lib.parse body with
      | .error _ => True
      | .ok (.registerMasterViewSeed message) => RegistrationFails lib r db message
      | .ok (.nullifierSpend ⟨nullifier, _⟩) =>
          match r.receipt with
          | .ok (some ⟨some block⟩) =>
              Stops (fun type => Stops (fun shares => SpendFails lib unwritten r db
                  ⟨nullifier, block, type, shares.1, shares.2⟩)
                (unwritten.updatedPublicShares nullifier ⟨some block⟩))
                (unwritten.updatedStateObjectType nullifier ⟨some block⟩)
          | _ => True

variable {lib unwritten r db} {α β : Type} {P : α → Prop}

theorem stops_ok {a : α} : Stops P (.ok a) ↔ P a := Iff.rfl

theorem stops_bind {x : Except Fault β} {f : β → Except Fault α} :
    Stops P (x >>= f) ↔ Stops (fun b => Stops P (f b)) x := by
  rcases x with (e | m) | a <;> rfl

theorem stops_query {n : Nat} {answer : Except Fault α} :
    Stops P (r.query n answer) ↔ r.statement n ≠ none ∨ Stops P answer := by
  unfold HandlerReplies.query
  cases r.statement n <;> simp [Stops]

theorem stops_insertRow {κ : Type} [DecidableEq κ] {key : α → κ} {row : α} {rows : List α}
    {table : List α → Database} {P : Database → Prop} :
    Stops P (insertRow key row rows >>= fun rows => pure (table rows)) ↔
      (∃ r ∈ rows, key r = key row) ∨ P (table (rows ++ [row])) := by
  rw [stops_bind]
  unfold insertRow
  by_cases h : ∃ r ∈ rows, key r = key row
  · rw [if_pos (by simpa using h)]
    exact iff_of_true trivial (.inl h)
  · rw [if_neg (by simpa using h)]
    exact (or_iff_right h).symm

theorem failed_transaction {body : Database → Except Fault Database} :
    (transaction r db body).failed = true ↔
      r.connection ≠ none ∨ Stops (fun _ => r.commit.Fails) (body db) := by
  unfold transaction
  cases r.connection with
  | some e => exact iff_of_true rfl (.inl (Option.some_ne_none e))
  | none =>
      rcases body db with (e | m) | db'
      · exact iff_of_true rfl (.inr trivial)
      · simp [Handled.failed, Handled.fault, Stops]
      · cases r.commit <;> simp [Handled.failed, Handled.fault, Stops, CommitReply.Fails]

theorem registration_failed_iff {message : MasterViewSeedMessage} :
    (handleMasterViewSeedMessage lib r message db).failed = true ↔
      RegistrationFails lib r db message := by
  unfold handleMasterViewSeedMessage
  rw [failed_transaction, stops_bind, stops_query, Database.insertMasterViewSeed,
    stops_insertRow, stops_query, Database.insertExpectedStateObject, stops_insertRow]
  rfl

theorem stops_mark {row : ProcessedNullifier} {db' : Database} {P : Database → Prop} :
    Stops P (r.query 3 (db'.markNullifierProcessed row)) ↔ r.statement 3 ≠ none ∨
      (∃ r ∈ db'.processedNullifiers, r.nullifier = row.nullifier) ∨
        P { db' with processedNullifiers := db'.processedNullifiers ++ [row] } := by
  rw [stops_query, Database.markNullifierProcessed, stops_insertRow]

theorem spend_failed_iff {message : NullifierSpendMessage} :
    (handleNullifierSpendMessage lib unwritten r message db).failed = true ↔
      Stops (SpendFails lib unwritten r db) (fetchNullifierSpendData lib unwritten r message) := by
  unfold handleNullifierSpendMessage
  rcases fetchNullifierSpendData lib unwritten r message with (e | m) | data
  · exact iff_of_true rfl trivial
  · exact iff_of_false Bool.false_ne_true id
  · rw [stops_ok, SpendFails, failed_transaction, stops_bind, stops_query, stops_ok]
    refine or_congr_right (or_congr_right ?_)
    by_cases hp : ∃ row ∈ db.processedNullifiers, row.nullifier = data.nullifier
    · have hcheck : db.checkNullifierProcessed data.nullifier = true := by
        simpa [Database.checkNullifierProcessed] using hp
      rw [if_pos hp, if_pos hcheck]
      rfl
    · have hcheck : ¬ db.checkNullifierProcessed data.nullifier = true := by
        simpa [Database.checkNullifierProcessed] using hp
      rw [if_neg hp, if_neg hcheck, stops_bind, stops_query, stops_ok]
      refine or_congr_right ?_
      cases db.getExpectedStateObject data.nullifier with
      | none => exact stops_mark
      | some expected =>
          dsimp only
          rw [stops_bind, handleFirstObjectNullifierSpend, stops_bind, stops_query,
            Database.createGenericStateObject, stops_insertRow]
          simp only [stops_mark]
          rfl

/-- **The handler of a message fails exactly if one of its calls does, or it cannot use what it
finds.** -/
theorem handleBody_failed_iff {body : Option String} :
    (handleBody lib unwritten r body db).failed = true ↔ BodyFails lib unwritten r db body := by
  cases body with
  | none => exact iff_of_false Bool.false_ne_true id
  | some body =>
      unfold handleBody BodyFails
      dsimp only
      rcases lib.parse body with e | (message | message)
      · exact iff_of_true rfl trivial
      · exact registration_failed_iff
      · refine spend_failed_iff.trans ?_
        unfold fetchNullifierSpendData
        rcases r.receipt with e | _ | ⟨_ | block⟩
        · exact Iff.rfl
        · exact Iff.rfl
        · exact Iff.rfl
        · dsimp only
          simp only [stops_bind]
          rfl

instance (body : Option String) : Decidable (BodyFails lib unwritten r db body) :=
  decidable_of_iff _ handleBody_failed_iff

end Failures

end RelayerExtensions.Indexer
