import RefundAgent.System.Reach

/-!
# Lease fencing

A worker calls with the lease it was given at the claim.  By the time of the
call the lease may have expired, the command may have been claimed by somebody
else, or it may have been redriven into a new cycle.  The call then changes
nothing; and since only the holder of the lease can end an attempt, no attempt
is ended twice.
-/

namespace RefundAgent

open Foundation

/-!
## Calls with a lease
-/

/-- The command and the lease that a call is made with. -/
def Job.lease? : Job -> Option (UUID × Option UUID)
  | renewOutbox commandId leaseId _ _ _ => some (commandId, some leaseId)
  | retryOutbox retry _ => some (retry.commandId, some retry.leaseId)
  | finalizeOutbox claimed _ _ => some (claimed.commandId, claimed.leaseId)
  | _ => none

/-- The lease is the current lease of the command. -/
def CurrentLease (db : Database) (commandId : UUID) (lease : Option UUID) : Prop :=
  exists m leaseId, db.outbox.messages.get commandId = some m ∧
    m.leaseId = some leaseId ∧ lease = some leaseId

theorem Job.current_of_change {j : Job} {handles claimed : List ClaimedOutboxMessage}
    {db db' : Database} {commandId : UUID} {lease : Option UUID}
    (hlease : j.lease? = some (commandId, lease)) (hsound : Sound db)
    (hadmissible : j.Admissible handles)
    (hgenuine : forall c, c ∈ handles -> c.Genuine db)
    (h : j.transaction db = Except.ok (claimed, db')) :
    db' = db ∨ CurrentLease db commandId lease := by
  cases j with
  | renewOutbox id leaseId leaseOwner leaseSeconds clock =>
      cases hlease
      simp only [transaction, Transaction.map_eq_ok, Prod.mk.injEq] at h
      rcases h with ⟨_, _, h, rfl, rfl⟩
      rcases renewOutboxLease_move h with hsame | ⟨m, m', hmove, hid, hm⟩
      · exact Or.inl hsame
      · rcases hmove.outbox.mem_source rfl with hmem
        refine Or.inr ⟨m, leaseId, ?_, hm, rfl⟩
        rw [← hid]
        exact Table.get_of_mem hmem
  | retryOutbox retry now =>
      cases hlease
      simp only [transaction, Transaction.map_eq_ok, Prod.mk.injEq] at h
      rcases h with ⟨_, _, h, rfl, rfl⟩
      rcases scheduleOutboxRetry_move h hadmissible with ⟨m, a, hmove, hid, hm⟩
      refine Or.inr ⟨m, retry.leaseId, ?_, hm, rfl⟩
      rw [← hid]
      exact Table.get_of_mem (hmove.outbox.mem_source rfl)
  | finalizeOutbox c verdict now =>
      cases hlease
      simp only [transaction, Transaction.map_eq_ok, Prod.mk.injEq] at h
      rcases h with ⟨_, _, h, rfl, rfl⟩
      rcases finalize_move h (hgenuine c hadmissible) with
        ⟨lo, lc, now', m, a, hmove, hid, hm⟩
      have hmem := hmove.outbox.mem_source rfl
      -- a command that is being finalized is processing, so it has a lease
      have hsome := ((hsound.outbox.commands m hmem).marked.leaseId).mp
        hmove.outbox.held
      rcases Option.isSome_iff_exists.mp hsome with ⟨leaseId, hleaseId⟩
      refine Or.inr ⟨m, leaseId, ?_, hleaseId, hm.symm.trans hleaseId⟩
      rw [← hid]
      exact Table.get_of_mem hmem
  | _ => cases hlease

theorem GoodStage.fenced {x : Stage World Event} (h : GoodStage x) {j : Job}
    {commandId : UUID} {lease : Option UUID} (hevent : x.event = Event.job j)
    (hlease : j.lease? = some (commandId, lease))
    (hstale : ¬CurrentLease x.before.db commandId lease) :
    x.after.db = x.before.db := by
  have hstep := h.step
  rw [hevent] at hstep
  rcases hstep.after_job with ⟨hafter, hadmissible⟩
  rw [hafter]
  unfold World.perform
  cases htx : j.transaction x.before.db with
  | error e => rfl
  | ok r =>
      rcases Job.current_of_change hlease h.before.sound hadmissible h.before.genuine
        htx with hsame | hcurrent
      · exact hsame
      · exact absurd hcurrent hstale

/-!
## Finished attempts
-/

/-- The attempt has been finished. -/
def attemptFinished (db : Database) (attemptId : UUID) : Bool :=
  (db.outbox.attempts.get attemptId).any fun a => !a.isOpen

/-- How often a stage finishes the attempt. -/
def finishes (attemptId : UUID) (x : Stage World Event) : Nat :=
  if attemptFinished x.before.db attemptId = false ∧
      attemptFinished x.after.db attemptId = true then 1 else 0

/-- Finished attempts are left as they are. -/
def FinishedKept (db db' : Database) : Prop :=
  forall a : OutboxDeliveryAttempt, db.outbox.attempts.get a.attemptId = some a ->
    a.isOpen = false -> db'.outbox.attempts.get a.attemptId = some a

theorem FinishedKept.refl (db : Database) : FinishedKept db db :=
  fun _ ha _ => ha

theorem FinishedKept.trans {a b c : Database} (h : FinishedKept a b)
    (h' : FinishedKept b c) : FinishedKept a c :=
  fun x hx hclosed => h' x (h x hx hclosed) hclosed

theorem FinishedKept.finished {db db' : Database} (h : FinishedKept db db')
    {attemptId : UUID} (hdb : attemptFinished db attemptId = true) :
    attemptFinished db' attemptId = true := by
  unfold attemptFinished at hdb ⊢
  rw [Option.any_eq_true] at hdb ⊢
  rcases hdb with ⟨a, ha, hclosed⟩
  have hid := Table.get_key ha
  refine ⟨a, ?_, hclosed⟩
  rw [← hid] at ha ⊢
  exact h a ha (by simpa using hclosed)

theorem Moves.finished_kept {P : Label -> Prop} {db db' : Database}
    (h : Moves P db db') : FinishedKept db db' := by
  refine h.preserves (I := FinishedKept db) ?_ (FinishedKept.refl db)
  intro l d d' _ hmove hd
  exact hd.trans fun a ha hclosed => hmove.outbox.finished_kept ha hclosed

theorem GoodStage.finished_kept {x : Stage World Event} (h : GoodStage x) :
    FinishedKept x.before.db x.after.db :=
  h.did.moves.finished_kept

theorem World.Runs.finishes_sum {stages : List (Stage World Event)} {w : World}
    (h : World.Runs stages w) (attemptId : UUID) :
    (stages.map (finishes attemptId)).sum ≤ 1 := by
  have hgood := h.good.right
  rcases h with ⟨ids, hrun⟩
  have htrans : forall {a b c : World}, FinishedKept a.db b.db ->
      FinishedKept b.db c.db -> FinishedKept a.db c.db := fun h h' => h.trans h'
  have hordered := hrun.ordered (R := fun w w' => FinishedKept w.db w'.db)
    (fun w => FinishedKept.refl w.db) htrans (fun x hx => (hgood x hx).finished_kept)
  refine sum_le_one_of_pairwise (E := fun x => attemptFinished x.before.db attemptId =
    false ∧ attemptFinished x.after.db attemptId = true) ?_ ?_ ?_
  · intro x _ hx
    exact if_neg hx
  · intro x _
    unfold finishes
    split
    · exact Nat.le_refl 1
    · exact Nat.zero_le 1
  · refine hordered.imp ?_
    rintro x y hkept ⟨_, hx⟩ ⟨hy, _⟩
    rw [hkept.finished hx] at hy
    cases hy

theorem World.Runs.finished_kept {stages : List (Stage World Event)} {w : World}
    (h : World.Runs stages w) {x : Stage World Event} (hx : x ∈ stages) :
    FinishedKept x.after.db w.db := by
  have hgood := h.good.right
  rcases h with ⟨ids, hrun⟩
  have htrans : forall {a b c : World}, FinishedKept a.db b.db ->
      FinishedKept b.db c.db -> FinishedKept a.db c.db := fun h h' => h.trans h'
  exact ((hrun.relates (R := fun w w' => FinishedKept w.db w'.db)
    (fun w => FinishedKept.refl w.db) htrans
    (fun y hy => (hgood y hy).finished_kept)).right x hx).right

/-- The attempts by which the provider took the command. -/
def acceptedAttempts (db : Database) (commandId : UUID) : List OutboxDeliveryAttempt :=
  (db.outbox.attemptsOf commandId).filter fun a =>
    decide (a.outcome = some DeliveryAttemptOutcome.accepted)

theorem Sound.accepted_once {db : Database} (h : Sound db) (commandId : UUID) :
    (acceptedAttempts db commandId).length ≤ 1 := by
  unfold acceptedAttempts
  cases hattempts : db.outbox.attemptsOf commandId with
  | nil => simp
  | cons a rest =>
      have ha : a ∈ db.outbox.attemptsOf commandId := by
        rw [hattempts]
        exact List.mem_cons_self
      rcases Table.mem_select.mp ha with ⟨hmem, hcommand⟩
      rcases (h.outbox.attempts a hmem).right with ⟨m, hm⟩
      have honce := (h.outbox.commands m (Table.mem_of_get hm)).evident.once
      have hid := Table.get_key hm
      rw [decide_eq_true_eq] at hcommand
      rw [hid, hcommand, hattempts] at honce
      exact honce

/-!
## The fence
-/

/--
Lease fencing.  In every run, a renewal, a retry or a finalizer call made with a
lease that is not the current lease of its command changes no row; every attempt
is finished at most once and stays as it was finished; a command has at most one
accepted attempt; and a retry or a finalizer call that raises changes no row.
-/
theorem lease_fencing {stages : List (Stage World Event)} {w : World}
    (h : World.Runs stages w) :
    (forall x j commandId lease, x ∈ stages -> x.event = Event.job j ->
      j.lease? = some (commandId, lease) ->
      ¬CurrentLease x.before.db commandId lease -> x.after.db = x.before.db) ∧
    (forall attemptId, (stages.map (finishes attemptId)).sum ≤ 1) ∧
    (forall x, x ∈ stages -> FinishedKept x.after.db w.db) ∧
    (forall commandId, (acceptedAttempts w.db commandId).length ≤ 1) ∧
    (forall x j e, x ∈ stages -> x.event = Event.job j ->
      j.transaction x.before.db = Except.error e -> x.after.db = x.before.db) := by
  have hgood := h.good
  refine ⟨?_, fun id => h.finishes_sum id, fun x hx => h.finished_kept hx,
    fun id => hgood.left.sound.accepted_once id, ?_⟩
  · intro x j commandId lease hx hevent hlease hstale
    exact (hgood.right x hx).fenced hevent hlease hstale
  · intro x j e hx hevent herror
    have hstep := (hgood.right x hx).step
    rw [hevent] at hstep
    rw [hstep.after_job.left]
    unfold World.perform
    rw [herror]

/-- A worker that reports twice: the second report finds the lease gone. -/
theorem lease_fencing_sample : exists stages x,
    World.Runs stages ((sampleFinalized sampleAccepted).perform
      (Job.finalizeOutbox sampleHandle sampleAccepted 0)) ∧
    x ∈ stages ∧ x.event = Event.job (Job.finalizeOutbox sampleHandle sampleAccepted 0) ∧
    x.before.db.outbox.messages.rows.map (fun m => m.status) =
      [OutboxDeliveryStatus.published] ∧
    x.after.db = x.before.db := by
  rcases sampleFinalized_runs sampleAccepted with ⟨stages, hrun, _⟩
  have hstatus : (sampleFinalized sampleAccepted).db.outbox.messages.rows.map
      (fun m => m.status) = [OutboxDeliveryStatus.published] := by decide +kernel
  have hlease : ((sampleFinalized sampleAccepted).db.outbox.messages.get
      sampleHandle.commandId).bind (fun m => m.leaseId) = none := by decide +kernel
  have hadmissible : (Job.finalizeOutbox sampleHandle sampleAccepted 0).Admissible
      (sampleFinalized sampleAccepted).handles := by
    show sampleHandle ∈ _
    rw [show (sampleFinalized sampleAccepted).handles = [sampleHandle] by
      decide +kernel]
    exact List.mem_cons_self
  generalize sampleFinalized sampleAccepted = w at hrun hstatus hlease hadmissible ⊢
  have hmore := hrun.job hadmissible
  refine ⟨_, ⟨w, Event.job (Job.finalizeOutbox sampleHandle sampleAccepted 0), _⟩, hmore,
    List.mem_append_right _ List.mem_cons_self, rfl, hstatus, ?_⟩
  refine (lease_fencing hmore).left _ _ _ _
    (List.mem_append_right _ List.mem_cons_self) rfl rfl ?_
  rintro ⟨m, leaseId, hm, hid, _⟩
  rw [hm] at hlease
  rw [Option.bind_some, hid] at hlease
  cases hlease

end RefundAgent
