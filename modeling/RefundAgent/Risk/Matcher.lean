import RefundAgent.Foundation.Pattern
import RefundAgent.Risk.RuleFile

/-!
# The risk rule matcher

`risk_matcher.py`: every rule is compiled to a pattern for its normalised text, and the
normalised input is searched for each of them.  Normalisation and the word characters
are given from outside.
-/

namespace RefundAgent

open Foundation

namespace Risk

/-!
## Normalisation
-/

structure UnicodeTables where
  normalize : UnicodeForm -> String -> String
  casefold : String -> String
  /-- The class of `\w`. -/
  isWord : Char -> Bool

/-- `_APOSTROPHE_TRANSLATION`: the two curly and the full-width apostrophe. -/
def translateApostrophe (c : Char) : Char :=
  if c.toNat = 0x2019 ∨ c.toNat = 0x2018 ∨ c.toNat = 0xFF07 then Char.ofNat 0x27 else c

/-- `normalize_text`. -/
def normalizeText (tables : UnicodeTables) (settings : NormalizationConfig)
    (text : String) : String :=
  let unified := tables.normalize settings.unicodeForm text
  let translated :=
    if settings.normalizeApostrophes then
      String.ofList (unified.toList.map translateApostrophe)
    else unified
  let folded := if settings.casefold then tables.casefold translated else translated
  if settings.collapseWhitespace then
    String.ofList (List.intercalate [' '] (Text.wordsFrom [] folded.toList))
  else folded

/-!
## Matching
-/

/-- A match, with the fields that the graph does not read. -/
structure RiskMatch extends RefundAgent.RiskMatch where
  pattern : String
  start : Nat
  stop : Nat
  language : RiskLanguage
  severity : RiskSeverity

structure RiskMatchResult where
  normalizedText : String
  hardCritical : Bool
  hasRiskSignals : Bool
  hardCriticalMatches : List RiskMatch
  riskSignalMatches : List RiskMatch

def RiskMatchResult.allMatches (r : RiskMatchResult) : List RiskMatch :=
  r.hardCriticalMatches ++ r.riskSignalMatches

/-- The characters that may not stand next to an occurrence of the rule. -/
def RiskRule.boundary (isWord : Char -> Bool) (rule : RiskRule) :
    Option (Char -> Bool) :=
  if rule.language = RiskLanguage.en ∨ rule.matchType = MatchType.word then some isWord
  else none

/-- `text[start:stop]`. -/
def slice (text : String) (start stop : Nat) : String :=
  String.ofList ((text.toList.drop start).take (stop - start))

/-- The match that is recorded for an occurrence. -/
def RiskRule.matched (rule : RiskRule) (text : String) (occurrence : Span) : RiskMatch where
  ruleId := rule.id
  matchedText := slice text occurrence.start occurrence.stop
  category := rule.category
  ruleType := rule.ruleType
  pattern := rule.pattern
  start := occurrence.start
  stop := occurrence.stop
  language := rule.language
  severity := rule.severity

section Matcher

variable (normalize : NormalizationConfig -> String -> String) (isWord : Char -> Bool)

/-- The pattern that `_compile_rules` makes of a rule. -/
def compileRule (settings : NormalizationConfig) (rule : RiskRule) : Pattern Char :=
  Pattern.literal (rule.boundary isWord) (normalize settings rule.pattern).toList

/-- `_compile_rules`. -/
def compileRules (settings : NormalizationConfig) (rules : List RiskRule) :
    List (RiskRule × Pattern Char) :=
  rules.map fun rule => (rule, compileRule normalize isWord settings rule)

/-- `_find_matches`. -/
def findMatches (normalizedText : String) (compiled : List (RiskRule × Pattern Char)) :
    List RiskMatch :=
  compiled.flatMap fun x =>
    (x.2.finditer normalizedText.toList).map fun occurrence =>
      x.1.matched normalizedText occurrence

/-- `RiskRuleMatcher(rules).match(text)`. -/
def matchRules (rules : RiskRuleSet) (text : String) : RiskMatchResult :=
  let normalizedText := normalize rules.normalization text
  let hardMatches := findMatches normalizedText
    (compileRules normalize isWord rules.normalization rules.hardCritical)
  let signalMatches := findMatches normalizedText
    (compileRules normalize isWord rules.normalization rules.riskSignals)
  { normalizedText := normalizedText
    hardCritical := !hardMatches.isEmpty
    hasRiskSignals := !signalMatches.isEmpty
    hardCriticalMatches := hardMatches
    riskSignalMatches := signalMatches }

/-!
## What a match means
-/

/--
The normalised pattern of the rule occurs in the normalised text at the position, for
English and word rules next to no word character.
-/
def Qualifies (rules : RiskRuleSet) (rule : RiskRule) (text : String) (i : Nat) : Prop :=
  OccursAt (rule.boundary isWord) (normalize rules.normalization rule.pattern).toList
    (normalize rules.normalization text).toList i

/--
The matches are the leftmost occurrences of the rule that qualify and do not overlap,
in order, each with its text.
-/
structure Reported (rules : RiskRuleSet) (rule : RiskRule) (text : String)
    (found : List RiskMatch) : Prop where
  starts : forall starts : List Nat,
    LeftmostFrom (Qualifies normalize isWord rules rule text)
      (normalize rules.normalization rule.pattern).toList.length 0 starts ↔
    starts = found.map RiskMatch.start
  stop : forall m, m ∈ found ->
    m.stop = m.start + (normalize rules.normalization rule.pattern).toList.length
  matchedText : forall m, m ∈ found ->
    m.matchedText = slice (normalize rules.normalization text) m.start m.stop ∧
    m.matchedText = normalize rules.normalization rule.pattern
  ofRule : forall m, m ∈ found -> m.ruleId = rule.id ∧ m.pattern = rule.pattern ∧
    m.category = rule.category ∧ m.ruleType = rule.ruleType ∧
    m.language = rule.language ∧ m.severity = rule.severity

/-- The result of a match says exactly which rules occur, and where. -/
structure Exact (rules : RiskRuleSet) (text : String) (result : RiskMatchResult) :
    Prop where
  hardCritical : result.hardCritical = true ↔
    exists rule, rule ∈ rules.hardCritical ∧
      exists i, Qualifies normalize isWord rules rule text i
  hasRiskSignals : result.hasRiskSignals = true ↔
    exists rule, rule ∈ rules.riskSignals ∧
      exists i, Qualifies normalize isWord rules rule text i
  hardMatches : exists found : List (List RiskMatch),
    List.Forall₂ (fun rule => Reported normalize isWord rules rule text)
      rules.hardCritical found ∧ result.hardCriticalMatches = found.flatten
  signalMatches : exists found : List (List RiskMatch),
    List.Forall₂ (fun rule => Reported normalize isWord rules rule text)
      rules.riskSignals found ∧ result.riskSignalMatches = found.flatten
  ordered : result.allMatches = result.hardCriticalMatches ++ result.riskSignalMatches

section Rule

variable (rules : RiskRuleSet) (text : String)

/-- The matches of one rule. -/
def ruleMatches (rule : RiskRule) : List RiskMatch :=
  ((compileRule normalize isWord rules.normalization rule).finditer
    (normalize rules.normalization text).toList).map fun occurrence =>
      rule.matched (normalize rules.normalization text) occurrence

theorem ruleMatches_reported (rule : RiskRule) :
    Reported normalize isWord rules rule text
      (ruleMatches normalize isWord rules text rule) := by
  have hleftmost := Pattern.finditer_leftmost (rule.boundary isWord)
    (normalize rules.normalization rule.pattern).toList
    (normalize rules.normalization text).toList
  have hstarts : (ruleMatches normalize isWord rules text rule).map RiskMatch.start =
      ((compileRule normalize isWord rules.normalization rule).finditer
        (normalize rules.normalization text).toList).map Span.start := by
    unfold ruleMatches
    rw [List.map_map]
    rfl
  constructor
  · intro starts
    rw [hstarts]
    constructor
    · exact fun h => h.unique hleftmost
    · rintro rfl
      exact hleftmost
  · intro m hm
    rcases List.mem_map.mp hm with ⟨occurrence, hoccurrence, rfl⟩
    exact Pattern.finditer_stop _ _ hoccurrence
  · intro m hm
    rcases List.mem_map.mp hm with ⟨occurrence, hoccurrence, rfl⟩
    have hstop := Pattern.finditer_stop _ _ hoccurrence
    have hocc := (hleftmost.occurs _ (List.mem_map_of_mem hoccurrence)).right
    refine ⟨rfl, ?_⟩
    show slice _ occurrence.start occurrence.stop = _
    unfold slice
    rw [hstop, Nat.add_sub_cancel_left, hocc.slice, String.ofList_toList]
  · intro m hm
    rcases List.mem_map.mp hm with ⟨occurrence, _, rfl⟩
    exact ⟨rfl, rfl, rfl, rfl, rfl, rfl⟩

theorem ruleMatches_ne_nil {rule : RiskRule} :
    ruleMatches normalize isWord rules text rule ≠ [] ↔
      exists i, Qualifies normalize isWord rules rule text i := by
  unfold ruleMatches Qualifies
  rw [ne_eq, List.map_eq_nil_iff]
  exact Pattern.finditer_ne_nil _ _

theorem findMatches_eq (section_ : List RiskRule) :
    findMatches (normalize rules.normalization text)
      (compileRules normalize isWord rules.normalization section_) =
    section_.flatMap (ruleMatches normalize isWord rules text) := by
  unfold findMatches compileRules
  rw [List.flatMap_map]
  rfl

/-- A section reports a match if and only if one of its rules occurs. -/
theorem section_matches (section_ : List RiskRule) :
    (!(section_.flatMap (ruleMatches normalize isWord rules text)).isEmpty) = true ↔
      exists rule, rule ∈ section_ ∧
        exists i, Qualifies normalize isWord rules rule text i := by
  rw [Bool.not_eq_true', List.isEmpty_eq_false_iff]
  constructor
  · intro h
    rcases List.exists_mem_of_ne_nil _ h with ⟨m, hm⟩
    rcases List.mem_flatMap.mp hm with ⟨rule, hrule, hmem⟩
    exact ⟨rule, hrule,
      (ruleMatches_ne_nil normalize isWord rules text).mp (List.ne_nil_of_mem hmem)⟩
  · rintro ⟨rule, hrule, hocc⟩ hnil
    have hne := (ruleMatches_ne_nil normalize isWord rules text).mpr hocc
    exact hne (List.flatMap_eq_nil_iff.mp hnil rule hrule)

theorem section_reported (section_ : List RiskRule) :
    List.Forall₂ (fun rule => Reported normalize isWord rules rule text) section_
      (section_.map (ruleMatches normalize isWord rules text)) := by
  rw [List.forall₂_map_right_iff, List.forall₂_same]
  exact fun rule _ => ruleMatches_reported normalize isWord rules text rule

end Rule

/-- Matching reports every occurrence that it should, and nothing else. -/
theorem risk_matching_exact (rules : RiskRuleSet) (text : String) :
    Exact normalize isWord rules text (matchRules normalize isWord rules text) := by
  unfold matchRules
  dsimp only
  rw [findMatches_eq, findMatches_eq]
  constructor
  · exact section_matches normalize isWord rules text rules.hardCritical
  · exact section_matches normalize isWord rules text rules.riskSignals
  · exact ⟨_, section_reported normalize isWord rules text rules.hardCritical,
      List.flatMap_def⟩
  · exact ⟨_, section_reported normalize isWord rules text rules.riskSignals,
      List.flatMap_def⟩
  · rfl

/-!
## The matcher of the graph
-/

/--
The matcher that the graph is given: a rule of the graph is found again by its
identifier, which no other rule of the set has.
-/
def RiskRuleSet.matcher (rules : RiskRuleSet) : RiskRuleMatcher where
  hardCritical := rules.hardCritical.map RiskRule.toRiskRule
  riskSignals := rules.riskSignals.map RiskRule.toRiskRule
  finditer := fun r text =>
    match (rules.hardCritical ++ rules.riskSignals).find? fun rule => rule.id = r.id with
    | some rule =>
        (ruleMatches normalize isWord rules text rule).map fun m => m.matchedText
    | none => []
  hardTyped := by
    intro r hr
    rcases List.mem_map.mp hr with ⟨rule, hrule, rfl⟩
    exact rules.hardTyped rule hrule
  signalsTyped := by
    intro r hr
    rcases List.mem_map.mp hr with ⟨rule, hrule, rfl⟩
    exact rules.signalsTyped rule hrule

theorem find?_id {rules : List RiskRule} (hids : (rules.map fun r => r.id).Nodup)
    {rule : RiskRule} (h : rule ∈ rules) :
    (rules.find? fun r => r.id = rule.id) = some rule := by
  induction rules with
  | nil => cases h
  | cons r rest ih =>
      rw [List.map_cons, List.nodup_cons] at hids
      rcases List.mem_cons.mp h with rfl | h
      · exact List.find?_cons_of_pos (decide_eq_true rfl)
      · have hne : ¬r.id = rule.id := fun hsame =>
          hids.left (by rw [hsame]; exact List.mem_map_of_mem h)
        rw [List.find?_cons_of_neg (by rw [decide_eq_true_eq]; exact hne)]
        exact ih hids.right h

theorem findMatches_matcher (rules : RiskRuleSet) (text : String)
    (section_ : List RiskRule)
    (h : forall r, r ∈ section_ -> r ∈ rules.hardCritical ++ rules.riskSignals) :
    (rules.matcher normalize isWord).findMatches (section_.map RiskRule.toRiskRule) text =
      (section_.flatMap (ruleMatches normalize isWord rules text)).map
        RiskMatch.toRiskMatch := by
  unfold RiskRuleMatcher.findMatches
  rw [List.flatMap_map, List.map_flatMap]
  apply List.flatMap_congr
  intro rule hrule
  have hfind := find?_id rules.idsUnique (h rule hrule)
  unfold RiskRuleSet.matcher
  dsimp only
  rw [hfind]
  dsimp only
  unfold ruleMatches
  rw [List.map_map, List.map_map, List.map_map]
  rfl

/-- The graph sees the result of the matcher, without the fields that it does not read. -/
theorem matchText_matcher (rules : RiskRuleSet) (text : String) :
    (rules.matcher normalize isWord).matchText text =
      { hardCritical := (matchRules normalize isWord rules text).hardCritical
        hasRiskSignals := (matchRules normalize isWord rules text).hasRiskSignals
        matches_ := (matchRules normalize isWord rules text).allMatches.map
          RiskMatch.toRiskMatch } := by
  have hhard := findMatches_matcher normalize isWord rules text rules.hardCritical
    fun r hr => List.mem_append_left _ hr
  have hsignals := findMatches_matcher normalize isWord rules text rules.riskSignals
    fun r hr => List.mem_append_right _ hr
  unfold RiskRuleMatcher.matchText matchRules RiskMatchResult.allMatches
  dsimp only
  rw [findMatches_eq, findMatches_eq, List.map_append]
  unfold RiskRuleSet.matcher at hhard hsignals ⊢
  dsimp only at hhard hsignals ⊢
  rw [hhard, hsignals, List.isEmpty_map, List.isEmpty_map]

end Matcher

end Risk

end RefundAgent
