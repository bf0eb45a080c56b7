import RefundAgent.Graph.Handoff

/-!
# The reasons of a turn

Which case type a decision has.  The type is the most preferred one over all
reasons, so a turn whose domain policy asks for one kind of case is diverted to
another whenever it also carries a reason of a preferred kind: a hard-critical
rule, a risk of at least medium level, a complaint about staff, or a refund that
needs review.
-/

namespace RefundAgent

open Foundation

/-!
## The least rank
-/

theorem minBy_mem {α : Type} (rank : α -> Nat) :
    forall (rest : List α) (first : α), minBy rank first rest ∈ first :: rest := by
  intro rest
  induction rest with
  | nil => exact fun first => List.mem_cons_self
  | cons a rest ih =>
      intro first
      show minBy rank (if rank a < rank first then a else first) rest ∈ first :: a :: rest
      have hmem := ih (if rank a < rank first then a else first)
      rcases List.mem_cons.mp hmem with hbest | hrest
      · rw [hbest]
        by_cases h : rank a < rank first
        · rw [if_pos h]
          exact List.mem_cons_of_mem first List.mem_cons_self
        · rw [if_neg h]
          exact List.mem_cons_self
      · exact List.mem_cons_of_mem first (List.mem_cons_of_mem a hrest)

theorem minBy_le {α : Type} (rank : α -> Nat) :
    forall (rest : List α) (first : α), forall a, a ∈ first :: rest ->
      rank (minBy rank first rest) ≤ rank a := by
  intro rest
  induction rest with
  | nil =>
      intro first a ha
      rw [List.mem_singleton.mp ha]
      exact Nat.le_refl _
  | cons b rest ih =>
      intro first a ha
      show rank (minBy rank (if rank b < rank first then b else first) rest) ≤ rank a
      have hbest := ih (if rank b < rank first then b else first) _ List.mem_cons_self
      have hpick : rank (if rank b < rank first then b else first) ≤ rank first ∧
          rank (if rank b < rank first then b else first) ≤ rank b := by
        by_cases h : rank b < rank first
        · rw [if_pos h]
          exact ⟨Nat.le_of_lt h, Nat.le_refl _⟩
        · rw [if_neg h]
          exact ⟨Nat.le_refl _, Nat.le_of_not_lt h⟩
      rcases List.mem_cons.mp ha with rfl | ha
      · exact Nat.le_trans hbest hpick.left
      · rcases List.mem_cons.mp ha with rfl | ha
        · exact Nat.le_trans hbest hpick.right
        · exact ih _ a (List.mem_cons_of_mem _ ha)

/-!
## Decisions
-/

theorem determineHandoffPolicy_positive {input : HandoffPolicyInput} :
    (determineHandoffPolicy input).shouldCreateCase = true ↔ handoffReasons input ≠ [] := by
  unfold determineHandoffPolicy
  cases hkeys : fromKeys (handoffReasons input) with
  | nil =>
      have hnone : handoffReasons input = [] := by
        cases hreasons : handoffReasons input with
        | nil => rfl
        | cons r rest =>
            have hr : r ∈ fromKeys (handoffReasons input) := by
              rw [mem_fromKeys, hreasons]
              exact List.mem_cons_self
            rw [hkeys] at hr
            cases hr
      simp [hnone]
  | cons r rest =>
      have hr : r ∈ handoffReasons input := by
        rw [← mem_fromKeys, hkeys]
        exact List.mem_cons_self
      simp only [positiveDecision, true_iff]
      exact List.ne_nil_of_mem hr

theorem mem_reasonCodes {input : HandoffPolicyInput} {r : HandoffReason} :
    r ∈ (determineHandoffPolicy input).reasonCodes ↔ r ∈ handoffReasons input := by
  have hmem : r ∈ handoffReasons input ↔ r ∈ fromKeys (handoffReasons input) :=
    mem_fromKeys.symm
  unfold determineHandoffPolicy
  rw [hmem]
  cases fromKeys (handoffReasons input) with
  | nil => exact Iff.rfl
  | cons first rest => exact Iff.rfl

theorem minBy_fromKeys {α β : Type} [DecidableEq α] {f : α -> β} {rank : β -> Nat}
    {reasons rest : List α} {first : α} {best : β}
    (hkeys : fromKeys reasons = first :: rest)
    (h : minBy rank (f first) (rest.map f) = best) :
    (exists r, r ∈ reasons ∧ f r = best) ∧
      forall r, r ∈ reasons -> rank best ≤ rank (f r) := by
  have hmem := minBy_mem rank (rest.map f) (f first)
  have hle := minBy_le rank (rest.map f) (f first)
  rw [h, ← List.map_cons, ← hkeys] at hmem
  rw [h, ← List.map_cons, ← hkeys] at hle
  constructor
  · rcases List.mem_map.mp hmem with ⟨r, hr, hvalue⟩
    exact ⟨r, mem_fromKeys.mp hr, hvalue⟩
  · intro r hr
    exact hle _ (List.mem_map_of_mem (mem_fromKeys.mpr hr))

theorem determineHandoffPolicy_type {input : HandoffPolicyInput} {caseType : CaseType}
    (h : (determineHandoffPolicy input).caseType = some caseType) :
    (exists r, r ∈ handoffReasons input ∧ r.caseType = caseType) ∧
      forall r, r ∈ handoffReasons input ->
        caseTypeRank caseType ≤ caseTypeRank r.caseType := by
  unfold determineHandoffPolicy at h
  cases hkeys : fromKeys (handoffReasons input) with
  | nil =>
      rw [hkeys] at h
      cases h
  | cons first rest =>
      simp only [hkeys, positiveDecision, Option.some.injEq] at h
      exact minBy_fromKeys hkeys h

theorem determineHandoffPolicy_priority {input : HandoffPolicyInput}
    {priority : CasePriority}
    (h : (determineHandoffPolicy input).priority = some priority) :
    (exists r, r ∈ handoffReasons input ∧ r.priority = priority) ∧
      forall r, r ∈ handoffReasons input ->
        priorityRank priority ≤ priorityRank r.priority := by
  unfold determineHandoffPolicy at h
  cases hkeys : fromKeys (handoffReasons input) with
  | nil =>
      rw [hkeys] at h
      cases h
  | cons first rest =>
      simp only [hkeys, positiveDecision, Option.some.injEq] at h
      exact minBy_fromKeys hkeys h

theorem caseTypeRank_inj {t u : CaseType} (h : caseTypeRank t = caseTypeRank u) : t = u := by
  cases t <;> cases u <;> first | rfl | (exact absurd h (by decide))

/-- A turn with a reason of a type has that type unless a reason outranks it. -/
theorem determineHandoffPolicy_type_iff {input : HandoffPolicyInput} {t : CaseType}
    {r : HandoffReason} (hr : r ∈ handoffReasons input) (hkind : r.caseType = t) :
    (determineHandoffPolicy input).caseType = some t ↔
      forall r, r ∈ handoffReasons input -> caseTypeRank t ≤ caseTypeRank r.caseType := by
  constructor
  · exact fun h => (determineHandoffPolicy_type h).right
  · intro hleast
    have hpositive := determineHandoffPolicy_positive.mpr (List.ne_nil_of_mem hr)
    have hvalid := (determineHandoffPolicy input).decisionValid
    rw [if_pos hpositive] at hvalid
    rcases Option.isSome_iff_exists.mp hvalid.left with ⟨t', ht'⟩
    rcases determineHandoffPolicy_type ht' with ⟨⟨r', hr', hkind'⟩, hle⟩
    have hfirst : caseTypeRank t' ≤ caseTypeRank t := by
      rw [← hkind]
      exact hle r hr
    have hsecond : caseTypeRank t ≤ caseTypeRank t' := by
      rw [← hkind']
      exact hleast r' hr'
    rw [ht', caseTypeRank_inj (Nat.le_antisymm hfirst hsecond)]

/-!
## Diversions
-/

theorem mem_categoryReasons {reason : SemanticRiskCategory -> HandoffReason}
    {categories : List SemanticRiskCategory} {r : HandoffReason} :
    r ∈ categoryReasons reason categories ↔ exists c, c ∈ categories ∧ reason c = r := by
  have hall : forall c : SemanticRiskCategory, c ∈ riskCategoryOrder := by
    intro c
    cases c <;> simp [riskCategoryOrder]
  unfold categoryReasons
  rw [List.mem_map]
  constructor
  · rintro ⟨c, hc, hr⟩
    exact ⟨c, of_decide_eq_true (List.mem_filter.mp hc).right, hr⟩
  · rintro ⟨c, hc, hr⟩
    exact ⟨c, List.mem_filter.mpr ⟨hall c, decide_eq_true hc⟩, hr⟩

theorem mem_semanticReasons {input : HandoffPolicyInput} {r : HandoffReason} :
    r ∈ semanticReasons input ↔ exists reason c,
      input.semanticRiskLevel.bind semanticReason = some reason ∧
        c ∈ input.semanticRiskCategories ∧ reason c = r := by
  unfold semanticReasons
  cases h : input.semanticRiskLevel.bind semanticReason with
  | none => simp
  | some reason =>
      rw [mem_categoryReasons]
      constructor
      · rintro ⟨c, hc, hr⟩
        exact ⟨reason, c, rfl, hc, hr⟩
      · rintro ⟨reason', c, hreason, hc, hr⟩
        cases hreason
        exact ⟨c, hc, hr⟩

theorem mem_handoffReasons {input : HandoffPolicyInput} {r : HandoffReason} :
    r ∈ handoffReasons input ↔
      (exists c, c ∈ input.hardCriticalCategories ∧ HandoffReason.hardCritical c = r) ∨
      (exists reason c, input.semanticRiskLevel.bind semanticReason = some reason ∧
        c ∈ input.semanticRiskCategories ∧ reason c = r) ∨
      (exists severity, input.staffComplaintSeverity = some severity ∧
        staffReason severity = r) ∨
      (input.refundRequiresManualReview = true ∧ HandoffReason.refundManualReview = r) ∨
      (input.humanHandoffConfirmed = true ∧ HandoffReason.confirmedHumanRequest = r) ∨
      (input.explicitOtherComplaint = true ∧ HandoffReason.explicitOtherComplaint = r) ∨
      r ∈ input.domainCaseReasonCodes := by
  unfold handoffReasons
  simp only [List.mem_append, mem_categoryReasons, mem_semanticReasons, or_assoc]
  refine or_congr Iff.rfl (or_congr Iff.rfl (or_congr ?_ (or_congr ?_ (or_congr ?_
    (or_congr ?_ Iff.rfl)))))
  · cases input.staffComplaintSeverity with
    | none => simp
    | some severity => simp [eq_comm]
  · cases input.refundRequiresManualReview <;> simp [eq_comm]
  · cases input.humanHandoffConfirmed <;> simp [eq_comm]
  · cases input.explicitOtherComplaint <;> simp [eq_comm]

/-- The turn has no reason of a kind that every domain case yields to. -/
structure RefundState.Undiverted (s : RefundState) : Prop where
  hard : forall m, m ∈ s.riskRuleMatches -> m.ruleType ≠ RiskRuleType.hardCritical
  semantic : s.semanticRiskLevel.bind semanticReason = none
  staff : s.staffComplaintSeverity = none
  refund : s.requiresManualReview = false

/-- The facts of the state, as the policy input carries them. -/
structure InputOf (s : RefundState) (input : HandoffPolicyInput) : Prop where
  hard : input.hardCriticalCategories = extractHardCriticalCategories s
  level : input.semanticRiskLevel = s.semanticRiskLevel
  categories : input.semanticRiskCategories = s.semanticRiskCategories
  refund : input.refundRequiresManualReview = s.requiresManualReview
  human : input.humanHandoffConfirmed = s.humanHandoffConfirmed
  staff : input.staffComplaintSeverity = s.staffComplaintSeverity
  other : input.explicitOtherComplaint = s.explicitOtherComplaint
  domain : parseReasons s.domainCaseReasonCodes = Except.ok input.domainCaseReasonCodes

theorem buildHandoffPolicyInput_ok {s : RefundState} {input : HandoffPolicyInput}
    (h : buildHandoffPolicyInput s = Except.ok input) : InputOf s input := by
  unfold buildHandoffPolicyInput at h
  cases hcodes : parseReasons s.domainCaseReasonCodes with
  | error e =>
      rw [hcodes] at h
      cases h
  | ok codes =>
      simp only [hcodes, Bind.bind, Except.bind] at h
      by_cases hvalid : (s.semanticRiskLevel = none ∨
          s.semanticRiskLevel = some SemanticRiskLevel.none) ↔ s.semanticRiskCategories = []
      · rw [dif_pos hvalid] at h
        cases h
        exact ⟨rfl, rfl, rfl, rfl, rfl, rfl, rfl, hcodes⟩
      · rw [dif_neg hvalid] at h
        cases h

theorem mem_parseReasons {codes : List String} :
    forall {reasons : List HandoffReason}, parseReasons codes = Except.ok reasons ->
      forall r, r ∈ reasons ↔ exists code, code ∈ codes ∧ HandoffReason.parse? code = some r := by
  induction codes with
  | nil =>
      intro reasons h r
      cases h
      simp
  | cons code rest ih =>
      intro reasons h r
      simp only [parseReasons] at h
      cases hcode : HandoffReason.parse? code with
      | none =>
          simp only [hcode] at h
          cases h
      | some reason =>
          simp only [hcode] at h
          cases hrest : parseReasons rest with
          | error e =>
              rw [hrest] at h
              cases h
          | ok more =>
              rw [hrest] at h
              cases h
              rw [List.mem_cons, ih hrest r]
              constructor
              · rintro (rfl | ⟨code', hmem, hparse⟩)
                · exact ⟨code, List.mem_cons_self, hcode⟩
                · exact ⟨code', List.mem_cons_of_mem code hmem, hparse⟩
              · rintro ⟨code', hmem, hparse⟩
                rcases List.mem_cons.mp hmem with rfl | hmem
                · rw [hcode] at hparse
                  exact Or.inl (Option.some.inj hparse).symm
                · exact Or.inr ⟨code', hmem, hparse⟩

theorem mem_extractHardCriticalCategories {s : RefundState} {c : SemanticRiskCategory} :
    c ∈ extractHardCriticalCategories s ↔ exists m, m ∈ s.riskRuleMatches ∧
      m.ruleType = RiskRuleType.hardCritical ∧ m.category.semantic = c := by
  unfold extractHardCriticalCategories
  rw [mem_fromKeys, List.mem_map]
  simp [and_assoc]

theorem riskCaseType_rank (c : SemanticRiskCategory) : caseTypeRank (riskCaseType c) ≤ 2 := by
  cases c <;> decide

theorem semanticReason_rank {level : SemanticRiskLevel}
    {reason : SemanticRiskCategory -> HandoffReason} (h : semanticReason level = some reason)
    (c : SemanticRiskCategory) : caseTypeRank (reason c).caseType ≤ 2 := by
  cases level with
  | critical =>
      cases h
      exact riskCaseType_rank c
  | high =>
      cases h
      exact riskCaseType_rank c
  | medium =>
      cases h
      exact riskCaseType_rank c
  | low => cases h
  | none => cases h

theorem HandoffPolicyInput.category_of_semantic {input : HandoffPolicyInput}
    {reason : SemanticRiskCategory -> HandoffReason}
    (h : input.semanticRiskLevel.bind semanticReason = some reason) :
    input.semanticRiskCategories ≠ [] := by
  intro hnone
  rcases input.riskValid.mpr hnone with hlevel | hlevel
  · rw [hlevel] at h
    cases h
  · rw [hlevel] at h
    cases h

/--
For a case type between the diverting ones and the two that yield to every domain
case, a turn is outranked by a diversion or by its own domain reasons only.
-/
theorem outranked_iff {s : RefundState} {input : HandoffPolicyInput} (h : InputOf s input)
    {k : Nat} (hlow : 4 ≤ k) (hhigh : k ≤ 6) :
    (forall r, r ∈ handoffReasons input -> k ≤ caseTypeRank r.caseType) ↔
      s.Undiverted ∧ forall r, r ∈ input.domainCaseReasonCodes ->
        k ≤ caseTypeRank r.caseType := by
  constructor
  · intro hall
    refine ⟨⟨?_, ?_, ?_, ?_⟩, ?_⟩
    · intro m hm hrule
      have hmem : m.category.semantic ∈ input.hardCriticalCategories := by
        rw [h.hard, mem_extractHardCriticalCategories]
        exact ⟨m, hm, hrule, rfl⟩
      have hrank := hall _ (mem_handoffReasons.mpr (Or.inl ⟨_, hmem, rfl⟩))
      have hsmall := riskCaseType_rank m.category.semantic
      have hsame : (HandoffReason.hardCritical m.category.semantic).caseType =
        riskCaseType m.category.semantic := rfl
      rw [hsame] at hrank
      omega
    · cases hlevel : s.semanticRiskLevel.bind semanticReason with
      | none => rfl
      | some reason =>
          rw [← h.level] at hlevel
          have hsome := input.category_of_semantic hlevel
          cases hcategories : input.semanticRiskCategories with
          | nil => exact absurd hcategories hsome
          | cons c rest =>
              have hc : c ∈ input.semanticRiskCategories := by
                rw [hcategories]
                exact List.mem_cons_self
              have hrank := hall _ (mem_handoffReasons.mpr
                (Or.inr (Or.inl ⟨reason, c, hlevel, hc, rfl⟩)))
              rcases Option.bind_eq_some_iff.mp hlevel with ⟨level, _, hreason⟩
              have hsmall := semanticReason_rank hreason c
              omega
    · cases hstaff : s.staffComplaintSeverity with
      | none => rfl
      | some severity =>
          rw [← h.staff] at hstaff
          have hrank := hall _ (mem_handoffReasons.mpr
            (Or.inr (Or.inr (Or.inl ⟨severity, hstaff, rfl⟩))))
          have hone : caseTypeRank (staffReason severity).caseType = 1 := by
            cases severity <;> rfl
          omega
    · cases hrefund : s.requiresManualReview with
      | false => rfl
      | true =>
          rw [← h.refund] at hrefund
          have hrank := hall _ (mem_handoffReasons.mpr
            (Or.inr (Or.inr (Or.inr (Or.inl ⟨hrefund, rfl⟩)))))
          have hthree : caseTypeRank HandoffReason.refundManualReview.caseType = 3 := rfl
          omega
    · intro r hr
      exact hall r (mem_handoffReasons.mpr
        (Or.inr (Or.inr (Or.inr (Or.inr (Or.inr (Or.inr hr)))))))
  · rintro ⟨hplain, hdomain⟩ r hr
    rcases mem_handoffReasons.mp hr with ⟨c, hc, _⟩ | ⟨reason, c, hlevel, _⟩ |
      ⟨severity, hstaff, _⟩ | ⟨hrefund, _⟩ | ⟨_, rfl⟩ | ⟨_, rfl⟩ | hcode
    · rw [h.hard, mem_extractHardCriticalCategories] at hc
      rcases hc with ⟨m, hm, hrule, _⟩
      exact absurd hrule (hplain.hard m hm)
    · rw [h.level, hplain.semantic] at hlevel
      cases hlevel
    · rw [h.staff, hplain.staff] at hstaff
      cases hstaff
    · rw [h.refund, hplain.refund] at hrefund
      cases hrefund
    · exact hhigh
    · have hseven : caseTypeRank HandoffReason.explicitOtherComplaint.caseType = 7 := rfl
      omega
    · exact hdomain r hcode

end RefundAgent
