import RefundAgent.System.Move

/-!
# The operation invariant

The status changes recorded for an operation lead from its creation to its
current status, one after the other.  What a transaction does to the operations
is stated once, so that a batch of moves can be read as a single advance.
-/

namespace RefundAgent

open Foundation

abbrev RecordedChange := Option OperationRecordStatus × Option OperationRecordStatus

/-- The status changes recorded for one operation, in commit order. -/
def statusChanges (events : List OrderOperationEvent) (operationId : UUID) :
    List RecordedChange :=
  (events.filter fun e =>
    decide (e.operationId = operationId) && e.isStatusChange).map
      fun e => (e.previousStatus, e.currentStatus)

theorem statusChanges_append (xs ys : List OrderOperationEvent) (id : UUID) :
    statusChanges (xs ++ ys) id = statusChanges xs id ++ statusChanges ys id := by
  simp [statusChanges]

/-- Changes that link two statuses, each one starting where the last one ended. -/
def Linked : OperationRecordStatus -> List RecordedChange ->
    OperationRecordStatus -> Prop
  | first, [], last => first = last
  | first, (previous, current) :: rest, last => previous = some first ∧
      exists next, current = some next ∧ Linked next rest last

theorem Linked.concat {s t u : OperationRecordStatus} :
    forall {changes : List RecordedChange} {first : OperationRecordStatus},
      Linked first changes s -> t = s ->
      Linked first (changes ++ [(some t, some u)]) u := by
  intro changes
  induction changes with
  | nil =>
      intro first h ht
      exact ⟨congrArg some (ht.trans h.symm), u, rfl, rfl⟩
  | cons change rest ih =>
      intro first h ht
      rcases h with ⟨hprevious, next, hnext, hrest⟩
      exact ⟨hprevious, next, hnext, ih hrest ht⟩

/-!
## What a transaction does to the operations
-/

theorem not_transition_self (s : OperationRecordStatus) : ¬Transition s s := by
  cases s <;> simp [Transition, allowedStatusTransitions, redriveTransition]

structure OneChange (o o' : OrderOperation) (recorded : List RecordedChange) :
    Prop where
  version : o' = o ∨ o'.version = o.version + 1
  status : (o'.status = o.status ∧ recorded = []) ∨
    (Transition o.status o'.status ∧
      recorded = [(some o.status, some o'.status)])

theorem OneChange.refl (o : OrderOperation) : OneChange o o [] :=
  ⟨Or.inl rfl, Or.inl ⟨rfl, rfl⟩⟩

/-- Every operation changes at most once, and the change is on record. -/
def OperationAdvance (t u : OperationTables) : Prop :=
  exists es, u.events.rows = t.events.rows ++ es ∧
    forall id o, t.rows.get id = some o ->
      exists o', u.rows.get id = some o' ∧ OneChange o o' (statusChanges es id)

theorem OperationAdvance.refl (t : OperationTables) : OperationAdvance t t :=
  ⟨[], by simp, fun _ o h => ⟨o, h, OneChange.refl o⟩⟩

theorem OperationAdvance.trans {t u v : OperationTables}
    (h : OperationAdvance t u) (h' : OperationAdvance u v)
    (hdisjoint : forall id o o' o'', t.rows.get id = some o ->
      u.rows.get id = some o' -> v.rows.get id = some o'' -> o' = o ∨ o'' = o') :
    OperationAdvance t v := by
  rcases h with ⟨es, hes, hrows⟩
  rcases h' with ⟨es', hes', hrows'⟩
  refine ⟨es ++ es', by rw [hes', hes, List.append_assoc], ?_⟩
  intro id o ho
  rcases hrows id o ho with ⟨o₁, ho₁, h₁⟩
  rcases hrows' id o₁ ho₁ with ⟨o₂, ho₂, h₂⟩
  refine ⟨o₂, ho₂, ?_⟩
  rw [statusChanges_append]
  rcases hdisjoint id o o₁ o₂ ho ho₁ ho₂ with heq | heq
  · subst heq
    have hnone : statusChanges es id = [] := by
      rcases h₁.status with hs | hs
      · exact hs.right
      · exact absurd hs.left (not_transition_self _)
    rw [hnone, List.nil_append]
    exact h₂
  · subst heq
    have hnone : statusChanges es' id = [] := by
      rcases h₂.status with hs | hs
      · exact hs.right
      · exact absurd hs.left (not_transition_self _)
    rw [hnone, List.append_nil]
    exact h₁

theorem statusChanges_own {es : List OrderOperationEvent} {id : UUID}
    (h : forall e, e ∈ es -> e.operationId = id) :
    statusChanges es id = (es.filter OrderOperationEvent.isStatusChange).map
      fun e => (e.previousStatus, e.currentStatus) := by
  unfold statusChanges
  congr 1
  apply List.filter_congr
  intro e he
  simp [h e he]

theorem statusChanges_other {es : List OrderOperationEvent} {id id' : UUID}
    (h : forall e, e ∈ es -> e.operationId = id') (hne : id' ≠ id) :
    statusChanges es id = [] := by
  unfold statusChanges
  rw [List.map_eq_nil_iff, List.filter_eq_nil_iff]
  intro e he
  simp [h e he, hne]

theorem Recorded.oneChange {o o' : OrderOperation} {es : List OrderOperationEvent}
    (h : Recorded o o' es) (hversion : o'.version = o.version + 1)
    (howner : forall e, e ∈ es -> e.operationId = o.operationId) :
    OneChange o o' (statusChanges es o.operationId) := by
  rw [statusChanges_own howner]
  refine ⟨Or.inr hversion, ?_⟩
  rcases h with ⟨hs, hes⟩ | ⟨hs, e, hes, hprevious, hcurrent⟩
  · rw [hes]
    exact Or.inl ⟨hs, rfl⟩
  · rw [hes]
    refine Or.inr ⟨hs, ?_⟩
    rw [List.map_singleton, hprevious, hcurrent]

theorem OperationStep.advance {l : OperationLabel} {t u : OperationTables}
    (h : OperationStep l t u) : OperationAdvance t u := by
  cases h with
  | keep => exact OperationAdvance.refl t
  | @create _ rows events o e insert free appended unused new =>
      refine ⟨[e], appended, ?_⟩
      intro id r hr
      have hrows := (Table.insert?_eq_some.mp insert).right
      refine ⟨r, Table.get_of_rows_append hrows hr, ?_⟩
      have hnone : statusChanges [e] id = [] := by
        simp [statusChanges, OrderOperationEvent.isStatusChange, new.created]
      rw [hnone]
      exact OneChange.refl r
  | @update _ events w o o' es get free appended unused change =>
      refine ⟨es, appended, ?_⟩
      intro id r hr
      have hid := operationId_of_frozen change.frozen
      have hput : t.rows.get o'.operationId = some o := by
        rw [hid]
        exact get
      show exists r', (t.rows.put o').get id = some r' ∧ _
      rw [Table.get_put id hput]
      by_cases hkey : id = o'.operationId
      · rw [if_pos hkey]
        rw [hkey, hput] at hr
        cases hr
        refine ⟨o', rfl, ?_⟩
        rw [hkey, hid]
        exact change.recorded.oneChange change.version change.owner
      · rw [if_neg hkey]
        refine ⟨r, hr, ?_⟩
        rw [statusChanges_other change.owner (by rw [← hid]; exact Ne.symm hkey)]
        exact OneChange.refl r

/-!
## The invariant
-/

structure OperationSound (t : OperationTables) : Prop where
  chain : forall o, o ∈ t.rows.rows ->
    Linked OperationRecordStatus.pendingConfirmation
      (statusChanges t.events.rows o.operationId) o.status
  owned : forall e, e ∈ t.events.rows -> exists o, t.rows.get e.operationId = some o
  checked : forall o, o ∈ t.rows.rows -> o.checks = true
  free : forall o, o ∈ t.rows.rows -> ¬OrderTaken t o
  keyed : forall e, e ∈ t.events.rows -> exists w, KeyUnder (Writer.head w)
    e.idempotencyKey
  valid : forall o, o ∈ t.rows.rows -> o.valid = true
  legible : forall o, o ∈ t.rows.rows -> o.legible

theorem OperationUpdated.valid {w : Writer} {o o' : OrderOperation}
    {es : List OrderOperationEvent} (h : OperationUpdated w o o' es)
    (hvalid : o.valid = true) : o'.valid = true := by
  have hfields : operationSpecificFieldsValid o'.operationType o'.requestReasonCode
      o'.replacementVariantId = operationSpecificFieldsValid o.operationType
        o.requestReasonCode o.replacementVariantId := by
    show operationSpecificFieldsValid o'.frozen.operationType
      o'.frozen.requestReasonCode o'.frozen.replacementVariantId = _
    rw [h.frozen]
    rfl
  have hexcerpt : o'.requestExcerpt = o.requestExcerpt := by
    show o'.frozen.requestExcerpt = _
    rw [h.frozen]
    rfl
  have horder : o'.orderVersion = o.orderVersion := by
    show o'.frozen.orderVersion = _
    rw [h.frozen]
    rfl
  have hchecks := h.checks
  simp only [OrderOperation.checks, Bool.and_eq_true] at hchecks
  simp only [OrderOperation.valid, Bool.and_eq_true] at hvalid ⊢
  rw [hfields, hexcerpt, horder, h.policy, h.version]
  exact ⟨⟨⟨⟨⟨⟨⟨hvalid.left.left.left.left.left.left.left, hchecks.left.left⟩,
    hchecks.left.right⟩, hchecks.right⟩, hvalid.left.left.left.right⟩,
    hvalid.left.left.right⟩, hvalid.left.right⟩, by simp⟩

theorem supportCaseId_eq_none {o : OrderOperation} (h : o.checks = true)
    (hreview : o.requiresManualReview = false) : o.supportCaseId = none := by
  unfold OrderOperation.checks at h
  simp only [Bool.and_eq_true, Bool.or_eq_true, hreview, Bool.false_eq_true,
    or_false] at h
  exact Option.isNone_iff_eq_none.mp h.left.right

theorem OperationStep.sound {l : OperationLabel} {t u : OperationTables}
    (hstep : OperationStep l t u) (h : OperationSound t) : OperationSound u := by
  have hlater := hstep.later
  have howned : forall {e : OrderOperationEvent}, e ∈ t.events.rows ->
      exists o, u.rows.get e.operationId = some o := by
    intro e he
    rcases h.owned e he with ⟨o, ho⟩
    rcases hlater _ o ho with ⟨o', ho', _⟩
    exact ⟨o', ho'⟩
  cases hstep with
  | keep => exact h
  | @create _ rows events o e insert free appended unused new =>
      have hins := Table.insert?_eq_some.mp insert
      have hnone : statusChanges t.events.rows o.operationId = [] := by
        unfold statusChanges
        rw [List.map_eq_nil_iff, List.filter_eq_nil_iff]
        intro x hx hc
        rw [Bool.and_eq_true, decide_eq_true_eq] at hc
        rcases h.owned x hx with ⟨r, hr⟩
        rw [hc.left, hins.left] at hr
        cases hr
      have hquiet : forall id, statusChanges [e] id = [] := by
        intro id
        simp [statusChanges, OrderOperationEvent.isStatusChange, new.created]
      constructor
      · intro r hr
        rw [hins.right] at hr
        show Linked _ (statusChanges events.rows r.operationId) r.status
        rw [appended, statusChanges_append, hquiet, List.append_nil]
        rcases List.mem_append.mp hr with hr | hr
        · exact h.chain r hr
        · rw [List.mem_singleton.mp hr, hnone]
          exact new.status.symm
      · intro x hx
        rw [appended] at hx
        rcases List.mem_append.mp hx with hx | hx
        · exact howned hx
        · rw [List.mem_singleton.mp hx, new.event]
          refine ⟨o, Table.get_of_mem ?_⟩
          rw [hins.right]
          simp
      · intro r hr
        rw [hins.right] at hr
        rcases List.mem_append.mp hr with hr | hr
        · exact h.checked r hr
        · rw [List.mem_singleton.mp hr]
          exact new.checks
      · rintro r hr ⟨s, hs, hsa, hra, hne, htenant, horder⟩
        rw [hins.right] at hr hs
        rcases List.mem_append.mp hr with hr | hr
        · rcases List.mem_append.mp hs with hs | hs
          · exact h.free r hr ⟨s, hs, hsa, hra, hne, htenant, horder⟩
          · rw [List.mem_singleton.mp hs] at hsa hne htenant horder
            exact free ⟨r, hr, hra, hsa, Ne.symm hne, htenant.symm, horder.symm⟩
        · rw [List.mem_singleton.mp hr] at hra hne htenant horder
          rcases List.mem_append.mp hs with hs | hs
          · exact free ⟨s, hs, hsa, hra, hne, htenant, horder⟩
          · rw [List.mem_singleton.mp hs] at hne
            exact hne rfl
      · intro x hx
        rw [appended] at hx
        rcases List.mem_append.mp hx with hx | hx
        · exact h.keyed x hx
        · rw [List.mem_singleton.mp hx]
          exact ⟨Writer.service, new.key⟩
      · intro r hr
        rw [hins.right] at hr
        rcases List.mem_append.mp hr with hr | hr
        · exact h.valid r hr
        · rw [List.mem_singleton.mp hr]
          exact new.valid
      · intro r hr
        rw [hins.right] at hr
        rcases List.mem_append.mp hr with hr | hr
        · exact h.legible r hr
        · rw [List.mem_singleton.mp hr]
          unfold OrderOperation.legible
          rw [new.reference]
          exact Option.some_ne_none _ ∘ Eq.symm
  | @update _ events w o o' es get free appended unused change =>
      have hid := operationId_of_frozen change.frozen
      have hmem := Table.mem_of_get get
      constructor
      · intro r hr
        show Linked _ (statusChanges events.rows r.operationId) r.status
        rw [appended, statusChanges_append]
        rcases Table.mem_put hr with rfl | ⟨hr, hne⟩
        · rw [hid]
          rcases (change.recorded.oneChange change.version change.owner).status with
            ⟨hs, hes⟩ | ⟨_, hes⟩
          · rw [hes, List.append_nil, hs]
            exact h.chain o hmem
          · rw [hes]
            exact (h.chain o hmem).concat rfl
        · rw [statusChanges_other change.owner (by rw [← hid]; exact Ne.symm hne),
            List.append_nil]
          exact h.chain r hr
      · intro x hx
        have hx : x ∈ t.events.rows ++ es := by
          rw [← appended]
          exact hx
        rcases List.mem_append.mp hx with hx | hx
        · exact howned hx
        · rw [change.owner x hx]
          exact (hlater _ o get).imp fun _ h => h.left
      · intro r hr
        rcases Table.mem_put hr with rfl | ⟨hr, _⟩
        · exact change.checks
        · exact h.checked r hr
      · rintro r hr ⟨s, hs, hsa, hra, hne, htenant, horder⟩
        rcases Table.mem_put hr with rfl | ⟨hold, _⟩
        · rcases Table.mem_put hs with rfl | ⟨hs, _⟩
          · exact hne rfl
          · exact free ⟨s, hs, hsa, hra, hne, htenant, horder⟩
        · rcases Table.mem_put hs with rfl | ⟨hs, _⟩
          · exact free ⟨r, hold, hra, hsa, Ne.symm hne, htenant.symm, horder.symm⟩
          · exact h.free r hold ⟨s, hs, hsa, hra, hne, htenant, horder⟩
      · intro x hx
        have hx : x ∈ t.events.rows ++ es := by
          rw [← appended]
          exact hx
        rcases List.mem_append.mp hx with hx | hx
        · exact h.keyed x hx
        · exact ⟨w, change.keys x hx⟩
      · intro r hr
        rcases Table.mem_put hr with rfl | ⟨hr, _⟩
        · exact change.valid (h.valid o hmem)
        · exact h.valid r hr
      · intro r hr
        rcases Table.mem_put hr with rfl | ⟨hr, _⟩
        · exact change.reference.legible (h.legible o hmem)
        · exact h.legible r hr

theorem OperationSound.initial (ids : Supply) :
    OperationSound (Database.initial ids).operations where
  chain := fun o ho => (by cases ho)
  owned := fun e he => (by cases he)
  checked := fun o ho => (by cases ho)
  free := fun o ho => (by cases ho)
  keyed := fun e he => (by cases he)
  valid := fun o ho => (by cases ho)
  legible := fun o ho => (by cases ho)

end RefundAgent
