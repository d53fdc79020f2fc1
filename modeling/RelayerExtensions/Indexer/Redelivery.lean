import RelayerExtensions.Lib.Effect
import RelayerExtensions.Indexer.Consumer

/-!
# Messages that are delivered again

A message is handled first and deleted afterwards, so a message whose handler has committed is
delivered again whenever the deletion does not arrive: the answer to the commit was lost, the
indexer went down in between, the call failed, or the visibility timeout passed first. The second
delivery finds what the first one has written.

The handler of nullifier spends would find its nullifier among the processed ones and return
early. But it does not get that far: what it fetches before its transaction is `todo!()`, so that
as the source stands no nullifier spend is ever committed. What is committed are registrations.
The second registration of a master view seed inserts a row whose key is there already, and fails;
a handler that fails does not get to the deletion, so the message comes back for as long as the
queue keeps it.

What is on record of a message stays on record (`Database.Grows`), so "has committed before" is a
fact about the database alone (`Database.Records`), whatever has happened since. In no case does a
second delivery change the database; that it ends in the deletion of the message holds only where
there was nothing to handle, for messages without a body (`redelivery_harmless_iff`).
-/

namespace RelayerExtensions.Indexer

open Procs (Pid World)

/-! ## What stays on record -/

/-- Master view seeds are kept. -/
def Database.Grows (db db' : Database) : Prop := db.masterViewSeeds ⊆ db'.masterViewSeeds

theorem Database.Grows.refl (db : Database) : db.Grows db := List.Subset.refl _

/-- The account has a master view seed. -/
def Database.Registered (db : Database) (message : MasterViewSeedMessage) : Prop :=
  ∃ row ∈ db.masterViewSeeds, row.accountId = message.accountId

/-- What the database shows once the handler of a message has committed: the message is a
registration, of an account that has a seed now. -/
def Database.Records (lib : IndexerLib) (db : Database) (body : Option String) : Prop :=
  ∀ text, body = some text → ∃ message, lib.parse text = .ok (.registerMasterViewSeed message) ∧
    db.Registered message

theorem Database.Records.mono {lib : IndexerLib} {db db' : Database} (hgrows : db.Grows db')
    {body : Option String} (h : db.Records lib body) : db'.Records lib body := by
  intro text htext
  obtain ⟨message, hparse, row, hrow, hkey⟩ := h text htext
  exact ⟨message, hparse, row, hgrows hrow, hkey⟩

/-! ## Statements and transactions -/

theorem insertRow_ok {α κ : Type} [DecidableEq κ] {key : α → κ} {row : α} {rows rows' : List α}
    (h : insertRow key row rows = .ok rows') : rows' = rows ++ [row] := by
  unfold insertRow at h
  split at h
  · cases h
  · injection h with h
    exact h.symm

/-- An insertion into one of the tables of a database. -/
theorem inserted_ok {α κ : Type} [DecidableEq κ] {key : α → κ} {row : α} {rows : List α}
    {table : List α → Database} {db' : Database}
    (h : (insertRow key row rows >>= fun rows => pure (table rows)) = .ok db') :
    db' = table (rows ++ [row]) := by
  obtain ⟨rows', hrows, h⟩ := Effect.bind_ok.mp h
  cases h
  rw [insertRow_ok hrows]

theorem HandlerReplies.query_ok {α : Type} {r : HandlerReplies} {n : Nat} {answer : Except Fault α}
    {x : α} (h : r.query n answer = .ok x) : answer = .ok x := by
  unfold HandlerReplies.query at h
  split at h
  · exact h
  · cases h

theorem transaction_committed {r : HandlerReplies} {db : Database}
    {body : Database → Except Fault Database} (h : (transaction r db body).committed = true) :
    body db = .ok (transaction r db body).db := by
  unfold transaction at h ⊢
  split at h
  · cases h
  · rename_i hconn
    cases hbody : body db with
    | error f =>
        simp only [hbody] at h
        cases h
    | ok db' =>
        simp only [hbody] at h ⊢
        cases hcommit : r.commit with
        | done | lost e => rfl
        | failed e =>
            rw [hcommit] at h
            cases h

/-! ## The first delivery -/

section Deliveries

variable {lib : IndexerLib} {r : HandlerReplies} {db : Database}

/-- **A registration that has committed** has put the account on record. -/
theorem handleMasterViewSeedMessage_committed {message : MasterViewSeedMessage}
    (h : (handleMasterViewSeedMessage lib r message db).committed = true) :
    db.Grows (handleMasterViewSeedMessage lib r message db).db ∧
      (handleMasterViewSeedMessage lib r message db).db.Registered message := by
  have hbody := transaction_committed h
  obtain ⟨db₁, hseed, hobject⟩ := Effect.bind_ok.mp hbody
  have hdb := inserted_ok (HandlerReplies.query_ok hobject)
  rw [inserted_ok (HandlerReplies.query_ok hseed)] at hdb
  change (handleMasterViewSeedMessage lib r message db).db = _ at hdb
  rw [hdb]
  refine ⟨List.subset_append_left .., ?_⟩
  exact ⟨_, List.mem_append_right _ List.mem_cons_self, rfl⟩

/-- **A nullifier spend never commits**: the node does not answer, or the handler panics. -/
theorem handleNullifierSpendMessage_todo (lib : IndexerLib) (r : HandlerReplies)
    (message : NullifierSpendMessage) (db : Database) :
    ∃ f, handleNullifierSpendMessage lib todoParts r message db = .fault db f := by
  have hfetch : ∃ f, fetchNullifierSpendData lib todoParts r message = .error f := by
    unfold fetchNullifierSpendData
    split
    · exact ⟨_, rfl⟩
    · exact ⟨_, rfl⟩
    · split <;> exact ⟨_, rfl⟩
  obtain ⟨f, hfetch⟩ := hfetch
  refine ⟨f, ?_⟩
  unfold handleNullifierSpendMessage
  rw [hfetch]

/-- **What every delivery leaves behind.** -/
theorem handleBody_committed {body : Option String}
    (h : (handleBody lib todoParts r body db).committed = true) :
    db.Grows (handleBody lib todoParts r body db).db ∧
      (handleBody lib todoParts r body db).db.Records lib body := by
  cases body with
  | none =>
      refine ⟨.refl _, fun text htext => ?_⟩
      cases htext
  | some text =>
      unfold handleBody at h ⊢
      rcases hparse : lib.parse text with e | (message | message)
      · simp only [hparse] at h
        cases h
      · simp only [hparse] at h ⊢
        obtain ⟨hgrows, hregistered⟩ := handleMasterViewSeedMessage_committed h
        refine ⟨hgrows, ?_⟩
        rintro _ ⟨⟩
        exact ⟨_, hparse, hregistered⟩
      · obtain ⟨f, hfault⟩ := handleNullifierSpendMessage_todo lib r message db
        simp only [hparse, hfault] at h
        cases h

theorem handleBody_grows (lib : IndexerLib) (r : HandlerReplies) (body : Option String)
    (db : Database) : db.Grows (handleBody lib todoParts r body db).db := by
  cases hc : (handleBody lib todoParts r body db).committed with
  | true => exact (handleBody_committed hc).1
  | false =>
      rw [(sound_handleBody lib todoParts r body db).unchanged hc]
      exact .refl _

/-! ## The second delivery -/

/-- The key is taken, so the first statement fails, if it gets through at all. -/
theorem handleMasterViewSeedMessage_again {message : MasterViewSeedMessage}
    (h : db.Registered message) :
    (handleMasterViewSeedMessage lib r message db).db = db ∧
      ∃ e, (handleMasterViewSeedMessage lib r message db).result = .error (.error e) := by
  have hfails : RegistrationFails lib r db message := .inr (.inr (.inl h))
  obtain ⟨hno, herror⟩ := Handled.of_failed (registration_failed_iff.mpr hfails)
  exact ⟨(sound_transaction ..).unchanged hno, herror⟩

/-- **A second delivery changes nothing**, whatever the outside answers, and it fails if there is
a body. -/
theorem handleBody_again {body : Option String} (h : db.Records lib body) :
    (handleBody lib todoParts r body db).db = db ∧ (body ≠ none →
      ∃ e, (handleBody lib todoParts r body db).result = .error (.error e)) := by
  cases body with
  | none => exact ⟨rfl, fun hbody => absurd rfl hbody⟩
  | some text =>
      obtain ⟨message, hparse, hregistered⟩ := h text rfl
      unfold handleBody
      simp only [hparse]
      obtain ⟨hdb, hfails⟩ := handleMasterViewSeedMessage_again hregistered
      exact ⟨hdb, fun _ => hfails⟩

end Deliveries

/-! ## Every message that has been applied is on record -/

/-- A message is what was sent at its place. -/
def AsSent (s : ConsumerShared) (g : GroupId) (m : Message) : Prop :=
  (s.queue.sent g)[m.sequence]? = some m.body

/-- So are all messages a task still has to do with. -/
def TaskAsSent (s : ConsumerShared) : ConsumerTask → Prop
  | .handle g m rest | .delete g m rest => ∀ m' ∈ m :: rest, AsSent s g m'

def OnRecord (lib : IndexerLib) (s : ConsumerShared) : Prop :=
  ∀ g, ∀ i ∈ s.applied g, ∃ body, (s.queue.sent g)[i]? = some body ∧ s.db.Records lib body

abbrev RecordInv (lib : IndexerLib) (w : ConsumerWorld) : Prop :=
  Procs.Inv (OnRecord lib) TaskAsSent w

/-- What was sent stays where it was sent. -/
def ConsumerShared.Sends (s s' : ConsumerShared) : Prop :=
  ∀ g, ∀ (i : Nat) body, (s.queue.sent g)[i]? = some body → (s'.queue.sent g)[i]? = some body

theorem TaskAsSent.mono {s s' : ConsumerShared} (hs : s.Sends s') {t : ConsumerTask}
    (h : TaskAsSent s t) : TaskAsSent s' t := by
  cases t with
  | handle g m rest | delete g m rest => exact fun m' hm' => hs g _ _ (h m' hm')

theorem taskAsSent_forEach {s : ConsumerShared} {g : GroupId} {ms : List Message}
    (h : ∀ m ∈ ms, AsSent s g m) : ∀ t, forEach g ms = some t → TaskAsSent s t := by
  intro t ht
  cases ms with
  | nil => cases ht
  | cons m rest =>
      cases ht
      exact h

theorem Queue.sent_send (q : Queue) (g g' : GroupId) (body body' : Option String) (i : Nat)
    (h : (q.sent g')[i]? = some body') : ((q.send g body).sent g')[i]? = some body' := by
  unfold Queue.send
  dsimp only
  by_cases hg : g' = g
  · subst hg
    rw [Function.update_self, List.getElem?_append_left (List.getElem?_eq_some_iff.mp h).1]
    exact h
  · rw [Function.update_of_ne hg]
    exact h

section Steps

variable {lib : IndexerLib} {w w' : ConsumerWorld}

theorem RecordInv.queue (h : RecordInv lib w) {q : Queue}
    (hq : w.shared.Sends (w.shared.setQueue q)) : RecordInv lib (w.setQueue q) := by
  refine ⟨fun g i hi => ?_, fun p t ht => (h.2 p t ht).mono hq⟩
  obtain ⟨body, hsent, hrecords⟩ := h.1 g i hi
  exact ⟨body, hq g i body hsent, hrecords⟩

theorem RecordInv.spawn (h : RecordInv lib w) {group : GroupId × List Message}
    (hsent : ∀ m ∈ group.2, AsSent w.shared group.1 m) : RecordInv lib (spawnGroup w group) := by
  refine Procs.inv_put h.1 ?_ ?_
  · exact taskAsSent_forEach hsent
  · exact fun q t _ ht => (h.2 q t ht).mono fun _ _ _ hi => hi

theorem RecordInv.spawns : ∀ {groups : List (GroupId × List Message)} {w : ConsumerWorld},
    RecordInv lib w → (∀ g ∈ groups, ∀ m ∈ g.2, AsSent w.shared g.1 m) →
    RecordInv lib (groups.foldl spawnGroup w)
  | [], _, h, _ => h
  | group :: groups, w, h, hsent => by
      obtain ⟨hfirst, hrest⟩ := List.forall_mem_cons.mp hsent
      rw [List.foldl_cons]
      exact RecordInv.spawns (h.spawn hfirst) hrest

theorem RecordInv.receive (h : RecordInv lib w) {batch : List Message}
    (hb : w.shared.queue.Receivable batch) :
    RecordInv lib (consumeBatch (w.setQueue (w.shared.queue.receive batch)) batch) := by
  refine RecordInv.spawns (h.queue fun _ _ _ hi => hi) fun group hgroup m hm => ?_
  rw [Rows.mem_collect hgroup] at hm
  obtain ⟨hmb, hmg⟩ := List.mem_filter.mp hm
  have hserves := hb.2 m hmb
  rw [Queue.Serves, of_decide_eq_true hmg] at hserves
  exact hserves.2.2

/-- A handler has run on a message that is what was sent. -/
theorem OnRecord.record {s : ConsumerShared} (h : OnRecord lib s) {g : GroupId} {m : Message}
    (hm : AsSent s g m) (r : HandlerReplies) :
    OnRecord lib (s.record g m.sequence (handleBody lib todoParts r m.body s.db)) := by
  have hgrows : s.db.Grows (handleBody lib todoParts r m.body s.db).db :=
    handleBody_grows lib r m.body s.db
  intro g' i hi
  have hold : i ∈ s.applied g' → ∃ body, (s.queue.sent g')[i]? = some body ∧
      (handleBody lib todoParts r m.body s.db).db.Records lib body := fun hi => by
    obtain ⟨body, hsent, hrecords⟩ := h g' i hi
    exact ⟨body, hsent, hrecords.mono hgrows⟩
  unfold ConsumerShared.record at hi
  dsimp only at hi
  split at hi
  · rename_i hc
    by_cases hg : g' = g
    · subst hg
      rw [Function.update_self] at hi
      rcases List.mem_cons.mp hi with rfl | hi
      · exact ⟨m.body, hm, (handleBody_committed hc).2⟩
      · exact hold hi
    · rw [Function.update_of_ne hg] at hi
      exact hold hi
  · exact hold hi

theorem RecordInv.next (h : RecordInv lib w) {p : Pid} {t : ConsumerTask} (hp : w.ops p = some t)
    (r : ConsumerReplies) :
    RecordInv lib (w.put p (nextConsumer lib todoParts w.shared r t).1
      (nextConsumer lib todoParts w.shared r t).2) := by
  have ht := h.2 p t hp
  cases t with
  | handle g m rest =>
      have hrecord : OnRecord lib (w.shared.record g m.sequence
          (handleBody lib todoParts r.toHandlerReplies m.body w.shared.db)) :=
        h.1.record (ht m List.mem_cons_self) r.toHandlerReplies
      generalize hhandled : handleBody lib todoParts r.toHandlerReplies m.body w.shared.db =
        handled at hrecord
      have hothers : ∀ q u, q ≠ p → w.ops q = some u →
          TaskAsSent (w.shared.record g m.sequence handled) u :=
        fun q u _ hu => (h.2 q u hu).mono fun _ _ _ hi => hi
      -- an error is followed by the next message, a panic by nothing, success by the deletion
      rcases hres : handled.result with (e | msg) | u
      · simp only [nextConsumer, hhandled, hres]
        refine Procs.inv_put hrecord (taskAsSent_forEach fun m' hm' => ?_) hothers
        exact ht m' (List.mem_cons_of_mem _ hm')
      · simp only [nextConsumer, hhandled, hres]
        exact Procs.inv_put hrecord (by simp) hothers
      · simp only [nextConsumer, hhandled, hres]
        refine Procs.inv_put hrecord ?_ hothers
        rintro t' ⟨⟩
        exact ht
  | delete g m rest =>
      have hloop : ∀ t', forEach g rest = some t' → TaskAsSent w.shared t' :=
        taskAsSent_forEach fun m' hm' => ht m' (List.mem_cons_of_mem _ hm')
      cases hh : m.receiptHandle with
      | none =>
          simp only [nextConsumer, hh]
          exact Procs.inv_put h.1 hloop fun q u _ hu => h.2 q u hu
      | some handle =>
          simp only [nextConsumer, hh]
          split
          · refine Procs.inv_put h.1 ?_ fun q u _ hu => (h.2 q u hu).mono fun _ _ _ hi => hi
            exact fun t' ht' => (hloop t' ht').mono fun _ _ _ hi => hi
          · exact Procs.inv_put h.1 hloop fun q u _ hu => h.2 q u hu

theorem RecordInv.step {e : ConsumerEvent} (h : RecordInv lib w)
    (hw : consumerStep lib todoParts w e = some w') : RecordInv lib w' := by
  cases e with
  | send g body =>
      cases hw
      exact h.queue fun g' i body' hi => Queue.sent_send _ g g' body body' i hi
  | receive batch =>
      obtain ⟨hb, hw⟩ := Option.ite_none_right_eq_some.mp hw
      cases hw
      exact h.receive hb
  | expire g =>
      cases hw
      exact h.queue fun _ _ _ hi => hi
  | advance task replies =>
      obtain ⟨t, ht, rfl⟩ := Option.map_eq_some_iff.mp hw
      exact h.next ht replies

end Steps

theorem recordInv_started (lib : IndexerLib) (db : Database) :
    RecordInv lib (startedConsumer db) := by
  constructor <;> simp [OnRecord, startedConsumer]

/-- **A message that has been applied is on record when it is handled again**, in every run. -/
theorem records_of_applied {lib : IndexerLib} {db : Database} {es : List ConsumerEvent}
    {w : ConsumerWorld}
    (hr : Runs.run (consumerStep lib todoParts) (startedConsumer db) es = some w) {p : Pid}
    {g : GroupId} {m : Message} {rest : List Message} (hp : w.ops p = some (.handle g m rest))
    (happlied : m.sequence ∈ w.shared.applied g) : w.shared.db.Records lib m.body := by
  have hinv : RecordInv lib w :=
    Runs.run_preserves (fun _ _ _ h hw => h.step hw) es (recordInv_started lib db) hr
  obtain ⟨body, hsent, hrecords⟩ := hinv.1 g _ happlied
  have hbody : some body = some m.body :=
    hsent.symm.trans (hinv.2 p _ hp m List.mem_cons_self)
  exact Option.some.inj hbody ▸ hrecords

/-! ## Which redeliveries end in a deletion -/

/-- Nothing outside fails while a message is handled and deleted: neither the database nor the
queue nor the node. -/
structure ConsumerReplies.Answers (r : ConsumerReplies) : Prop where
  connection : r.connection = none
  statement : ∀ n, r.statement n = none
  commit : r.commit = .done
  receipt : ∃ block, r.receipt = .ok (some ⟨some block⟩)
  delete : r.delete = .done

/-- Handling a message once more leaves the database as it is and, if nothing outside fails, is
followed by the deletion of the message, whatever happens in between. -/
structure RedeliveryHarmless (lib : IndexerLib) (s : ConsumerShared) (g : GroupId) (m : Message)
    (rest : List Message) : Prop where
  unchanged : ∀ r, (nextConsumer lib todoParts s r (.handle g m rest)).1.db = s.db
  deleted : ∀ r : ConsumerReplies, r.Answers →
    (nextConsumer lib todoParts s r (.handle g m rest)).2 = some (.delete g m rest) ∧
      ∀ s', m.sequence ∈ (nextConsumer lib todoParts s' r (.delete g m rest)).1.queue.deleted g

/-- The receipt is there, and so is all else. -/
def withReceipt : ConsumerReplies := ⟨⟨none, fun _ => none, .done, .ok (some ⟨some 5⟩)⟩, .done⟩

theorem answers_withReceipt : withReceipt.Answers := ⟨rfl, fun _ => rfl, rfl, ⟨5, rfl⟩, rfl⟩

/-- **Redelivery.** In every run of senders, batches, timeouts and tasks, whatever was lost on the
way: handling a message again that has been applied leaves the database as it is, and is harmless
exactly if the message has no body. -/
theorem redelivery_harmless_iff (lib : IndexerLib) (db : Database) (es : List ConsumerEvent)
    (w : ConsumerWorld)
    (hr : Runs.run (consumerStep lib todoParts) (startedConsumer db) es = some w) (p : Pid)
    (g : GroupId) (m : Message) (rest : List Message) (hp : w.ops p = some (.handle g m rest))
    (happlied : m.sequence ∈ w.shared.applied g) (hhandle : m.receiptHandle.isSome = true) :
    (∀ r, (nextConsumer lib todoParts w.shared r (.handle g m rest)).1.db = w.shared.db) ∧
      (RedeliveryHarmless lib w.shared g m rest ↔ m.body = none) := by
  have hrecords := records_of_applied hr hp happlied
  have hunchanged : ∀ r, (nextConsumer lib todoParts w.shared r (.handle g m rest)).1.db =
      w.shared.db := by
    intro r
    have hdb : (handleBody lib todoParts r.toHandlerReplies m.body w.shared.db).db =
        w.shared.db := (handleBody_again hrecords).1
    simp only [nextConsumer]
    split <;> exact hdb
  refine ⟨hunchanged, fun hharmless => ?_, fun hbody => ⟨hunchanged, fun r hanswers => ?_⟩⟩
  · by_contra hbody
    obtain ⟨hnext, -⟩ := hharmless.deleted withReceipt answers_withReceipt
    -- the handler fails, so the loop goes on without a deletion
    obtain ⟨e, hresult⟩ : ∃ e, (handleBody lib todoParts withReceipt.toHandlerReplies m.body
        w.shared.db).result = .error (.error e) := (handleBody_again hrecords).2 hbody
    simp only [nextConsumer, hresult] at hnext
    cases rest with
    | nil | cons m' rest => cases hnext
  · constructor
    · simp only [nextConsumer, handleBody, hbody]
    · intro s'
      obtain ⟨handle, hhandle⟩ := Option.isSome_iff_exists.mp hhandle
      simp [nextConsumer, hhandle, hanswers.delete, DeleteReply.applied,
        ConsumerShared.setQueue, Queue.delete]

/-! ## One message, delivered twice -/

def messageWith (body : Option String) : Message := ⟨some "g", 0, body, some "handle"⟩

/-- The message is handled; its deletion does not get through, and it comes back. -/
def lostDelete (body : Option String) : List ConsumerEvent :=
  [.send "g" body, .receive [messageWith body], .advance 0 withReceipt,
    .advance 0 { withReceipt with delete := .failed "timed out" }, .expire "g",
    .receive [messageWith body]]

theorem redelivery_harmless_bodiless :
    ∃ w, sampleRun (lostDelete none) = some w ∧ w.ops 1 = some (.handle "g" (messageWith none) []) ∧
      RedeliveryHarmless sampleIndexerLib w.shared "g" (messageWith none) [] := by
  obtain ⟨w, hw, hproj⟩ := Option.map_eq_some_iff.mp
    (show (sampleRun (lostDelete none)).map (fun w => (w.ops 1, w.shared.applied "g")) =
        some (some (.handle "g" (messageWith none) []), [0]) by decide +kernel)
  simp only [Prod.mk.injEq] at hproj
  exact ⟨w, hw, hproj.1, (redelivery_harmless_iff _ _ _ _ hw 1 "g" _ _ hproj.1
    (by rw [hproj.2]; exact List.mem_cons_self) rfl).2.mpr rfl⟩

/-- A registration commits, nothing fails the second time, and still the message is not deleted. -/
theorem registration_not_deleted :
    ∃ w, sampleRun (lostDelete (some "one") ++ [.advance 1 withReceipt]) = some w ∧ w.ops 1 = none ∧
      w.shared.applied "g" = [0] ∧ w.shared.queue.deleted "g" = [] := by
  obtain ⟨w, hw, hproj⟩ := Option.map_eq_some_iff.mp
    (show (sampleRun (lostDelete (some "one") ++ [.advance 1 withReceipt])).map (fun w => (w.ops 1,
        w.shared.applied "g", w.shared.queue.deleted "g")) = some (none, [0], []) by
      decide +kernel)
  simp only [Prod.mk.injEq] at hproj
  exact ⟨w, hw, hproj⟩

end RelayerExtensions.Indexer
