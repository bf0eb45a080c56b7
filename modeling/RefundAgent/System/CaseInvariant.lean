import RefundAgent.System.Move

/-!
# Support-case invariant

Every stored case passes the validation of the model and the checks of the
table, no two unresolved cases share a place in the active indexes, and every
event belongs to a stored case of its own tenant and customer.
-/

namespace RefundAgent

open Foundation

structure CaseSound (t : CaseTables) : Prop where
  valid : forall c, c ∈ t.rows.rows -> c.valid = true
  checked : forall c, c ∈ t.rows.rows -> c.checks = true
  free : forall c, c ∈ t.rows.rows -> ¬CaseTaken t c
  owned : forall e, e ∈ t.events.rows ->
    exists c, t.rows.get e.caseId = some c ∧ OfCase c e

theorem CaseSound.initial (ids : Supply) : CaseSound (Database.initial ids).cases where
  valid := fun c hc => (by cases hc)
  checked := fun c hc => (by cases hc)
  free := fun c hc => (by cases hc)
  owned := fun e he => (by cases he)

theorem SupportCase.valid_of_checks {c : SupportCase} (h : c.checks = true)
    (hlength : c.triggeringMessageExcerpt.text.length ≤ 500) (hversion : 1 ≤ c.version) :
    c.valid = true := by
  simp only [SupportCase.checks, Bool.and_eq_true, Bool.or_eq_true,
    decide_eq_true_eq] at h
  simp only [SupportCase.valid, Bool.and_eq_true, Bool.or_eq_true, decide_eq_true_eq]
  refine ⟨⟨⟨⟨⟨h.left.left.left.left, h.left.left.left.right⟩, ?_⟩, h.left.right⟩,
    hlength⟩, hversion⟩
  rcases h.left.left.right with hkind | horder
  · exact Or.inl hkind
  · refine Or.inr ?_
    cases hsome : c.orderId with
    | none => simp [hsome] at horder
    | some o => rfl

theorem SupportCase.excerpt_of_valid {c : SupportCase} (h : c.valid = true) :
    c.triggeringMessageExcerpt.text.length ≤ 500 := by
  simp only [SupportCase.valid, Bool.and_eq_true, decide_eq_true_eq] at h
  exact h.left.right

theorem CaseUpdated.valid {c c' : SupportCase} (h : CaseUpdated c c')
    (hchecks : c'.checks = true) (hvalid : c.valid = true) : c'.valid = true := by
  refine SupportCase.valid_of_checks hchecks ?_ ?_
  · have hexcerpt : c'.frozen.triggeringMessageExcerpt =
        c.frozen.triggeringMessageExcerpt := by rw [h.frozen]
    have hsame : c'.triggeringMessageExcerpt = c.triggeringMessageExcerpt := hexcerpt
    rw [hsame]
    exact SupportCase.excerpt_of_valid hvalid
  · rw [h.version]
    omega

theorem CaseUpdated.ofCase {c c' : SupportCase} (h : CaseUpdated c c')
    {e : SupportCaseEvent} (he : OfCase c e) : OfCase c' e where
  id := he.id.trans (congrArg SupportCase.caseId h.frozen).symm
  tenant := he.tenant.trans (congrArg SupportCase.tenantId h.frozen).symm
  customer := he.customer.trans (congrArg SupportCase.customerId h.frozen).symm

theorem CaseTaken.of_row {t u : CaseTables} {c c' : SupportCase}
    (hrows : forall r, r ∈ u.rows.rows -> r = c' ∨ r ∈ t.rows.rows)
    (hc : c ∈ t.rows.rows) (hfree : ¬CaseTaken t c) (hnew : ¬CaseTaken t c')
    (h : CaseTaken u c) : False := by
  rcases h with ⟨r, hr, hopen, hactive, hne, htenant, hthread, htype, horder⟩
  rcases hrows r hr with rfl | hold
  · refine hnew ⟨c, hc, hactive, hopen, hne.symm, htenant.symm, hthread.symm,
      htype.symm, ?_⟩
    intro hkind
    exact (horder (htype.symm.trans hkind)).symm
  · exact hfree ⟨r, hold, hopen, hactive, hne, htenant, hthread, htype, horder⟩

theorem CaseTaken.of_written {t u : CaseTables} {c : SupportCase}
    (hrows : forall r, r ∈ u.rows.rows -> r = c ∨ r ∈ t.rows.rows)
    (hfree : ¬CaseTaken t c) (h : CaseTaken u c) : False := by
  rcases h with ⟨r, hr, hopen, hactive, hne, hrest⟩
  rcases hrows r hr with rfl | hold
  · exact hne rfl
  · exact hfree ⟨r, hold, hopen, hactive, hne, hrest⟩

theorem CaseStep.sound {l : CaseLabel} {t u : CaseTables} (hstep : CaseStep l t u)
    (h : CaseSound t) : CaseSound u := by
  cases hstep with
  | keep => exact h
  | @create _ _ c e insert valid checks free owner events keys =>
      have hrow := Table.insert?_eq_some.mp insert
      have hrows : forall r, r ∈ u.rows.rows -> r = c ∨ r ∈ t.rows.rows := by
        intro r hr
        rw [hrow.right] at hr
        rcases List.mem_append.mp hr with hr | hr
        · exact Or.inr hr
        · exact Or.inl (List.mem_singleton.mp hr)
      have hget : u.rows.get c.caseId = some c := by
        refine Table.get_of_mem ?_
        rw [hrow.right]
        exact List.mem_append_right _ (List.mem_singleton.mpr rfl)
      constructor
      · intro r hr
        rcases hrows r hr with rfl | hr
        · exact valid
        · exact h.valid r hr
      · intro r hr
        rcases hrows r hr with rfl | hr
        · exact checks
        · exact h.checked r hr
      · intro r hr
        rcases hrows r hr with rfl | hr
        · exact CaseTaken.of_written hrows free
        · exact CaseTaken.of_row hrows hr (h.free r hr) free
      · intro d hd
        rw [events.appended] at hd
        rcases List.mem_append.mp hd with hd | hd
        · rcases h.owned d hd with ⟨r, hr, hof⟩
          refine ⟨r, ?_, hof⟩
          have hmem : r ∈ u.rows.rows := by
            rw [hrow.right]
            exact List.mem_append_left _ (Table.mem_of_get hr)
          have hkey := Table.get_of_mem hmem
          rw [Table.get_key hr] at hkey
          exact hkey
        · rw [List.mem_singleton.mp hd]
          exact ⟨c, by rw [owner.id]; exact hget, owner⟩
  | @update _ _ c c' es get change checks free owner rows events keys =>
      have hc := Table.mem_of_get get
      have hrows : forall r, r ∈ u.rows.rows -> r = c' ∨ r ∈ t.rows.rows := by
        intro r hr
        rw [rows] at hr
        rcases Table.mem_put hr with rfl | ⟨hr, _⟩
        · exact Or.inl rfl
        · exact Or.inr hr
      have hid : c'.caseId = c.caseId := caseId_of_frozen change.frozen
      have hlater : forall {r : SupportCase} {id : UUID}, t.rows.get id = some r ->
          exists r', u.rows.get id = some r' ∧ (r' = r ∨ (r = c ∧ r' = c')) := by
        intro r id hr
        rw [rows]
        by_cases hsame : id = c.caseId
        · rw [hsame] at hr ⊢
          rw [get] at hr
          cases hr
          refine ⟨c', ?_, Or.inr ⟨rfl, rfl⟩⟩
          rw [← hid]
          exact Table.get_put_self (by rw [hid]; exact get)
        · refine ⟨r, ?_, Or.inl rfl⟩
          rw [Table.get_put_ne (by rw [hid]; exact hsame)]
          exact hr
      constructor
      · intro r hr
        rcases hrows r hr with rfl | hr
        · exact change.valid checks (h.valid c hc)
        · exact h.valid r hr
      · intro r hr
        rcases hrows r hr with rfl | hr
        · exact checks
        · exact h.checked r hr
      · intro r hr
        rcases hrows r hr with rfl | hr
        · exact CaseTaken.of_written hrows free
        · exact CaseTaken.of_row hrows hr (h.free r hr) free
      · intro d hd
        rw [events.appended] at hd
        have hrow : exists r, t.rows.get d.caseId = some r ∧ OfCase r d := by
          rcases List.mem_append.mp hd with hd | hd
          · exact h.owned d hd
          · exact ⟨c, by rw [(owner d hd).id]; exact get, owner d hd⟩
        rcases hrow with ⟨r, hr, hof⟩
        rcases hlater hr with ⟨r', hr', rfl | ⟨rfl, rfl⟩⟩
        · exact ⟨r', hr', hof⟩
        · exact ⟨r', hr', change.ofCase hof⟩
  | @record _ _ c e get owner rows events keys =>
      refine ⟨by rw [rows]; exact h.valid, by rw [rows]; exact h.checked, ?_, ?_⟩
      · intro r hr hex
        unfold CaseTaken at hex
        rw [rows] at hr hex
        exact h.free r hr hex
      · intro d hd
        rw [rows]
        rw [events.appended] at hd
        rcases List.mem_append.mp hd with hd | hd
        · exact h.owned d hd
        · rw [List.mem_singleton.mp hd]
          exact ⟨c, by rw [owner.id]; exact get, owner⟩
  | @redrive _ _ c e get owner rows events =>
      refine ⟨by rw [rows]; exact h.valid, by rw [rows]; exact h.checked, ?_, ?_⟩
      · intro r hr hex
        unfold CaseTaken at hex
        rw [rows] at hr hex
        exact h.free r hr hex
      · intro d hd
        rw [rows]
        rw [events.appended] at hd
        rcases List.mem_append.mp hd with hd | hd
        · exact h.owned d hd
        · rw [List.mem_singleton.mp hd]
          exact ⟨c, by rw [owner.id]; exact get, owner⟩

end RefundAgent
