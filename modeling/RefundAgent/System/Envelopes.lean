import RefundAgent.Integrations.EnvelopeRow
import RefundAgent.System.Reach

/-!
# Envelopes over a run

A dozen statements rewrite a row of the outbox while its command is claimed,
retried, recovered, finalized and redriven.  None of them touches a column from
which the envelope is rebuilt, so every attempt sends the same request.
-/

namespace RefundAgent

open Foundation

/-- The part of a row from which its envelope is rebuilt. -/
def OutboxMessage.dated (m : OutboxMessage) : DatedEnvelope :=
  { m.toProviderCommandEnvelope with createdAt := m.createdAt }

/-- The request of one attempt; connection settings other than its id are left out. -/
structure ProviderRequest where
  connectionId : CleanText
  idempotencyKey : String
  commandIdHeader : String
  body : DatedEnvelope
deriving DecidableEq

/-- `_headers_for` and the JSON body of `send_command`. -/
def providerRequest (command : DatedEnvelope) : ProviderRequest :=
  { connectionId := command.connectionId
    idempotencyKey := command.idempotencyKey
    commandIdHeader := toString command.commandId
    body := command }

/-- What `_process` sends for a claimed command. -/
def ClaimedOutboxMessage.request (c : ClaimedOutboxMessage) :
    Except Failure ProviderRequest :=
  c.toOutboxMessage.toEnvelope.map providerRequest

/-!
## Moves
-/

/-- Every row is still there with the envelope it had. -/
def DatedKept (db db' : Database) : Prop :=
  forall id m, db.outbox.messages.get id = some m ->
    exists m', db'.outbox.messages.get id = some m' ∧ m'.dated = m.dated

theorem DatedKept.refl (db : Database) : DatedKept db db :=
  fun _ m h => ⟨m, h, rfl⟩

theorem DatedKept.trans {a b c : Database} (h : DatedKept a b) (h' : DatedKept b c) :
    DatedKept a c := by
  intro id m hm
  rcases h id m hm with ⟨m₁, hm₁, hdated₁⟩
  rcases h' id m₁ hm₁ with ⟨m₂, hm₂, hdated₂⟩
  exact ⟨m₂, hm₂, hdated₂.trans hdated₁⟩

theorem Ending.message_dated (e : Ending) (m : OutboxMessage) :
    (e.message m).dated = m.dated := by
  cases e <;> rfl

theorem OutboxStep.dated {l : OutboxLabel} {t u : OutboxTables} (h : OutboxStep l t u) :
    forall id m, t.messages.get id = some m ->
      exists m', u.messages.get id = some m' ∧ m'.dated = m.dated := by
  cases h with
  | keep => exact fun _ m h => ⟨m, h, rfl⟩
  | queue valid free insert => exact get_insert_related insert (fun _ => rfl)
  | claim get due worker insert =>
      exact get_put_related t.messages get rfl (fun _ => rfl) rfl
  | renew get held =>
      exact get_put_related t.messages get rfl (fun _ => rfl) rfl
  | @finish _ e m a get held getAttempt ofCommand isOpen allowed checks =>
      exact get_put_related t.messages get
        (congrArg ProviderCommandEnvelope.commandId (e.message_envelope m))
        (fun _ => rfl) (e.message_dated m)
  | redrive get dead insert audit =>
      exact get_put_related t.messages get rfl (fun _ => rfl) rfl

theorem Moves.datedKept {P : Label -> Prop} {db db' : Database} (h : Moves P db db') :
    DatedKept db db' := by
  induction h with
  | refl => exact DatedKept.refl db
  | tail _ hlast ih =>
      rcases hlast with ⟨l, _, hmove⟩
      exact ih.trans hmove.outbox.dated

/-!
## Claims
-/

/-- A handle carries the envelope of its row. -/
def ClaimedOutboxMessage.Dated (c : ClaimedOutboxMessage) (db : Database) : Prop :=
  exists m, db.outbox.messages.get c.commandId = some m ∧
    c.toOutboxMessage.dated = m.dated

theorem ClaimedOutboxMessage.Dated.later {c : ClaimedOutboxMessage} {db db' : Database}
    (h : c.Dated db) (hkept : DatedKept db db') : c.Dated db' := by
  rcases h with ⟨m, hm, hdated⟩
  rcases hkept _ m hm with ⟨m', hm', hdated'⟩
  exact ⟨m', hm', hdated.trans hdated'.symm⟩

theorem claimOutboxRow_dated {workerId : String} {leaseSeconds : Rat}
    {clock : UUID -> Nat -> Time} {row : OutboxMessage} {db db' : Database}
    {claimed : ClaimedOutboxMessage}
    (h : claimOutboxRow workerId leaseSeconds clock row db = Except.ok (claimed, db')) :
    claimed.Dated db' := by
  simp only [claimOutboxRow, Transaction.bind_eq_ok, Transaction.fetch_eq_ok,
    Transaction.require_eq_ok, Transaction.pure_eq_ok, Prod.mk.injEq] at h
  rcases h with ⟨_, _, _, _, _, _, _, db₃, hup, _, _, ⟨rfl, _, rfl⟩, updated, _,
    ⟨hupdated, rfl⟩, _, db₄, hins, _, _, ⟨_, _, rfl⟩, rfl, rfl⟩
  rcases insertDeliveryAttempt_spec hins with ⟨t, _, hout, _⟩
  have hid := Table.get_key hupdated
  refine ⟨updated, ?_, rfl⟩
  rw [hout]
  show db₃.outbox.messages.get updated.commandId = some updated
  rw [hid]
  exact hupdated

theorem claimDueOutbox_dated {workerId : String} {batchSize : Int}
    {leaseSeconds : Rat} {scan : List UUID} {clock : UUID -> Nat -> Time}
    {db db' : Database} {claimed : List ClaimedOutboxMessage}
    (h : claimDueOutbox workerId batchSize leaseSeconds scan clock db =
      Except.ok (claimed, db')) : forall c, c ∈ claimed -> c.Dated db' := by
  simp only [claimDueOutbox, Transaction.bind_eq_ok, validateClaimParameters_eq_ok,
    Transaction.translate_eq_ok, Transaction.read_eq_ok, Prod.mk.injEq] at h
  rcases h with ⟨_, _, ⟨hworker, _, _, rfl⟩, rows, _, ⟨rfl, rfl⟩, hloop⟩
  refine (Transaction.forEach_relates (R := DatedKept)
    (P := fun m db => db.outbox.messages.get m.commandId = some m ∧ m.claimable)
    (Q := fun c db => ClaimedOutboxMessage.Dated c db)
    (D := fun a b => a.commandId ≠ b.commandId)
    DatedKept.refl (fun h h' => h.trans h') (fun h hc => hc.later h) ?_
    (dueOutbox_pairwise _ _ _ _) (fun m hm => dueOutbox_claimable hm) hloop).right
  intro m db c db' hm hbody
  rcases claimOutboxRow_move hbody hworker hm.left hm.right with
    ⟨⟨m', a, hmove, hput, hid⟩, _⟩
  refine ⟨hmove.outbox.dated, claimOutboxRow_dated hbody, ?_⟩
  intro d hne hd
  refine ⟨?_, hd.right⟩
  rw [hput, Table.get_put_ne]
  · exact hd.left
  · rw [hid]
    exact Ne.symm hne

theorem Job.claimed_dated {j : Job} {claimed : List ClaimedOutboxMessage}
    {db db' : Database} (h : j.transaction db = Except.ok (claimed, db')) :
    forall c, c ∈ claimed -> c.Dated db' := by
  cases j with
  | claimOutbox workerId batchSize leaseSeconds scan clock =>
      exact claimDueOutbox_dated h
  | _ =>
      simp only [transaction, Transaction.map_eq_ok, Prod.mk.injEq] at h
      rcases h with ⟨_, _, _, rfl, _⟩
      simp

/-!
## Runs
-/

/-- Every handle carries the envelope of its row. -/
def World.HandlesDated (w : World) : Prop :=
  forall c, c ∈ w.handles -> c.Dated w.db

theorem World.Step.datedKept {w w' : World} {e : Event} (h : World.Step w e w')
    (hgood : w.Good) : DatedKept w.db w'.db :=
  (h.spec hgood).left.moves.datedKept

theorem World.Step.handlesDated {w w' : World} {e : Event} (h : World.Step w e w')
    (hgood : w.Good) (hw : w.HandlesDated) : w'.HandlesDated := by
  have hkept := h.datedKept hgood
  cases h with
  | @job j hadmissible =>
      unfold World.perform at hkept ⊢
      cases htx : j.transaction w.db with
      | error f => exact hw
      | ok r =>
          rw [htx] at hkept
          intro c hc
          rcases List.mem_append.mp hc with hc | hc
          · exact (hw c hc).later hkept
          · exact Job.claimed_dated htx c hc
  | start hmethod => exact hw
  | advance hcalls hstep => exact fun c hc => (hw c hc).later hkept

theorem World.Reachable.handlesDated {w : World} (h : w.Reachable) :
    w.Good ∧ w.HandlesDated := by
  rcases h with ⟨stages, ids, hrun⟩
  exact (hrun.invariant (I := fun w => w.Good ∧ w.HandlesDated) (C := fun _ => True)
    (fun x _ hstep hx => ⟨(hstep.spec hx.left).right, hstep.handlesDated hx.left hx.right⟩)
    ⟨World.initial_good ids, fun c hc => (by cases hc)⟩ (fun _ _ => trivial)).left

theorem World.Reachable.continued {w w' : World} {stages : List (Stage World Event)}
    (h : w.Reachable) (hrun : Run World.Step w stages w') :
    w'.Reachable ∧ DatedKept w.db w'.db := by
  have hgood := h.handlesDated.left
  have hstages := (hrun.invariant (I := World.Good) (C := fun _ => True)
    (fun x _ hstep hx => (hstep.spec hx).right) hgood (fun _ _ => trivial)).right
  have htrans : forall {a b c : World}, DatedKept a.db b.db -> DatedKept b.db c.db ->
      DatedKept a.db c.db := fun h h' => h.trans h'
  have hkept := hrun.relates (R := fun w w' => DatedKept w.db w'.db)
    (fun w => DatedKept.refl w.db) htrans
    (fun x hx => (hstages x hx).left.datedKept (hstages x hx).right.left)
  rcases h with ⟨past, ids, hpast⟩
  exact ⟨⟨past ++ stages, ids, hpast.append hrun⟩, hkept.left⟩

theorem Sound.rebuiltEnvelope {db : Database} (h : Sound db)
    {jsonb : JsonObject -> JsonObject} (hjsonb : forall o, (jsonb o).Perm o)
    {m : OutboxMessage} (hm : m ∈ db.outbox.messages.rows) :
    rebuiltEnvelope (m.columns jsonb) = Except.ok m.dated := by
  have hcommand := h.outbox.commands m hm
  exact OutboxMessage.rebuiltEnvelope_columns hjsonb
    (hcommand.marked.valid hcommand.numbered.positive) hcommand.marked.envelope

/--
What has been stored is read back, and it stays what was stored: a row inserted
for a valid command is rebuilt to that command, dated by the insertion; and over
every run each row, and each handle a worker gets for it, is rebuilt to the
envelope it had at any earlier moment, so all attempts send one request.
-/
theorem envelope_round_trip_stable (jsonb : JsonObject -> JsonObject)
    (hjsonb : forall o, (jsonb o).Perm o) :
    (forall (command : DatedEnvelope) (status : OutboxDeliveryStatus)
      (availableAt now : Time) (capability : ProviderCapability),
      command.toProviderCommandEnvelope.valid = true ->
      (insertedColumns jsonb command status availableAt now capability).checks = true ->
      rebuiltEnvelope (insertedColumns jsonb command status availableAt now capability) =
        Except.ok { command with createdAt := now }) ∧
    (forall (command : DatedEnvelope) (status : OutboxDeliveryStatus)
      (availableAt now : Time) (capability : ProviderCapability),
      command.toProviderCommandEnvelope.valid = true ->
      status = OutboxDeliveryStatus.pending ∨ status = OutboxDeliveryStatus.retryScheduled ->
      (forall v, command.expectedOrderVersion = some v -> v < 2 ^ 31) ->
      (insertedColumns jsonb command status availableAt now capability).checks = true) ∧
    (forall (command : ProviderCommandEnvelope) (now : Time) (db db' : Database),
      insertOutboxMessage command now db = Except.ok ((), db') ->
      exists m, db'.outbox.messages.get command.commandId = some m ∧
        m.columns jsonb = insertedColumns jsonb { command with createdAt := now }
          OutboxDeliveryStatus.pending now now ProviderCapability.orderOperation) ∧
    (forall (w w' : World) (stages : List (Stage World Event)) (m : OutboxMessage),
      w.Reachable -> Run World.Step w stages w' -> m ∈ w.db.outbox.messages.rows ->
      (exists m', w'.db.outbox.messages.get m.commandId = some m' ∧
        rebuiltEnvelope (m.columns jsonb) = Except.ok m.dated ∧
        rebuiltEnvelope (m'.columns jsonb) = Except.ok m.dated) ∧
      forall c, c ∈ w'.handles -> c.commandId = m.commandId ->
        c.toOutboxMessage.toEnvelope = Except.ok m.dated ∧
        c.request = Except.ok (providerRequest m.dated)) := by
  refine ⟨?_, ?_, ?_, ?_⟩
  · intro command status availableAt now capability hcommand hchecks
    exact rebuiltEnvelope_inserted hjsonb hcommand hchecks
  · intro command status availableAt now capability hcommand hstatus hversion
    exact insertedColumns_checks jsonb availableAt now capability hcommand hstatus hversion
  · intro command now db db' h
    rcases insertOutboxRow_eq_ok h with ⟨t, ht, rfl⟩
    refine ⟨outboxRow command now, ?_, rfl⟩
    exact Table.get_of_mem (by
      rw [(Table.insert?_eq_some.mp ht).right]
      exact List.mem_append_right _ (List.mem_singleton.mpr rfl))
  · intro w w' stages m hreachable hrun hm
    have hsound := hreachable.sound
    rcases hreachable.continued hrun with ⟨hreachable', hkept⟩
    rcases hkept _ m (Table.get_of_mem hm) with ⟨m', hm', hdated⟩
    refine ⟨⟨m', hm', hsound.rebuiltEnvelope hjsonb hm, ?_⟩, ?_⟩
    · rw [hreachable'.sound.rebuiltEnvelope hjsonb (Table.mem_of_get hm'), hdated]
    · intro c hc hid
      rcases hreachable'.handlesDated.right c hc with ⟨m'', hm'', hcdated⟩
      rw [hid, hm'] at hm''
      cases hm''
      have hvalid := (hreachable'.sound.outbox.commands m'
        (Table.mem_of_get hm')).marked.envelope
      have hsame : c.toProviderCommandEnvelope = m'.toProviderCommandEnvelope :=
        congrArg DatedEnvelope.toProviderCommandEnvelope hcdated
      have henvelope : c.toOutboxMessage.toEnvelope = Except.ok m.dated := by
        rw [OutboxMessage.toEnvelope_eq (by rw [hsame]; exact hvalid)]
        exact congrArg Except.ok (hcdated.trans hdated)
      refine ⟨henvelope, ?_⟩
      unfold ClaimedOutboxMessage.request
      rw [henvelope]
      rfl

/-- The first lease expires, and another worker claims the command. -/
def sampleClaimedAgain : World :=
  ((sampleQueued.perform sampleClaim).perform
    (Job.recoverOutbox 1 [4] (fun _ _ => 40000000))).perform
      (Job.claimOutbox "other" 1 30 [4] (fun _ _ => 100000000))

theorem sampleClaimedAgain_run : exists stages,
    Run World.Step sampleQueued stages sampleClaimedAgain :=
  ⟨_, Run.cons (World.Step.job (j := sampleClaim) trivial)
    (Run.cons (World.Step.job (j := Job.recoverOutbox 1 [4] (fun _ _ => 40000000)) trivial)
      (Run.cons (World.Step.job
        (j := Job.claimOutbox "other" 1 30 [4] (fun _ _ => 100000000)) trivial)
        (Run.nil _)))⟩

/-- Both attempts send the cancellation as it was queued. -/
theorem envelope_round_trip_stable_claimed :
    exists m, sampleQueued.db.outbox.messages.get 4 = some m ∧
      sampleClaimedAgain.handles.map (fun c => c.attempt.attemptNumber) = [1, 2] ∧
      forall c, c ∈ sampleClaimedAgain.handles ->
        c.request = Except.ok (providerRequest m.dated) := by
  have hqueued : (sampleQueued.db.outbox.messages.get 4).isSome = true := by
    decide +kernel
  have hattempts : sampleClaimedAgain.handles.map (fun c => c.attempt.attemptNumber) =
      [1, 2] := by
    decide +kernel
  have hids : (sampleClaimedAgain.handles.all fun c => decide (c.commandId = 4)) = true := by
    decide +kernel
  rcases Option.isSome_iff_exists.mp hqueued with ⟨m, hm⟩
  rcases sampleQueued_runs with ⟨stages, hrun, _⟩
  rcases sampleClaimedAgain_run with ⟨more, hmore⟩
  have hstable := (envelope_round_trip_stable List.reverse
    (fun o => List.reverse_perm o)).right.right.right sampleQueued
    sampleClaimedAgain more m ⟨stages, hrun⟩ hmore (Table.mem_of_get hm)
  refine ⟨m, hm, hattempts, fun c hc => (hstable.right c hc ?_).right⟩
  have hid := of_decide_eq_true (List.all_eq_true.mp hids c hc)
  exact hid.trans (Table.get_key hm).symm

end RefundAgent
