import RefundAgent.Foundation.Json
import RefundAgent.Foundation.JsonTree
import RefundAgent.Graph.State

/-!
# The file of risk rules

`load_risk_rules` on the parsed document.  A rule set carries what the loader has
checked: no pattern is blank, the rules of a section have its type and a severity that
fits, and no identifier occurs twice.
-/

namespace RefundAgent

open Foundation

namespace Risk

inductive RiskSeverity where
  | critical
  | high
  | medium
  | low
deriving DecidableEq, Repr

inductive RiskLanguage where
  | en
  | zh
deriving DecidableEq, Repr

inductive MatchType where
  | phrase
  | word
deriving DecidableEq, Repr

inductive UnicodeForm where
  | nfc
  | nfkc
  | nfd
  | nfkd
deriving DecidableEq, Repr

structure NormalizationConfig where
  unicodeForm : UnicodeForm
  casefold : Bool
  collapseWhitespace : Bool
  normalizeApostrophes : Bool
deriving DecidableEq, Repr

/-- A rule of the file; the graph reads the fields of the structure that it extends. -/
structure RiskRule extends RefundAgent.RiskRule where
  matchType : MatchType
  language : RiskLanguage
  severity : RiskSeverity
  notBlank : Text.strip pattern ≠ ""
  severityFits : ruleType = RiskRuleType.hardCritical ↔ severity = RiskSeverity.critical

structure RiskRuleSet where
  normalization : NormalizationConfig
  hardCritical : List RiskRule
  riskSignals : List RiskRule
  hardTyped : forall r, r ∈ hardCritical -> r.ruleType = RiskRuleType.hardCritical
  signalsTyped : forall r, r ∈ riskSignals -> r.ruleType = RiskRuleType.riskSignal
  idsUnique : ((hardCritical ++ riskSignals).map fun r => r.id).Nodup

/-!
## Spellings
-/

namespace RiskCategory

def text : RiskCategory -> String
  | RefundAgent.RiskCategory.selfHarm => "self_harm"
  | RefundAgent.RiskCategory.violence => "violence"
  | RefundAgent.RiskCategory.legal => "legal"
  | RefundAgent.RiskCategory.regulatory => "regulatory"
  | RefundAgent.RiskCategory.reputation => "reputation"

def literals : List RiskCategory :=
  [RefundAgent.RiskCategory.selfHarm, RefundAgent.RiskCategory.violence,
    RefundAgent.RiskCategory.legal, RefundAgent.RiskCategory.regulatory,
    RefundAgent.RiskCategory.reputation]

end RiskCategory

namespace RiskSeverity

def text : RiskSeverity -> String
  | critical => "critical"
  | high => "high"
  | medium => "medium"
  | low => "low"

def literals : List RiskSeverity :=
  [critical, high, medium, low]

end RiskSeverity

namespace RiskLanguage

def text : RiskLanguage -> String
  | en => "en"
  | zh => "zh"

def literals : List RiskLanguage :=
  [en, zh]

end RiskLanguage

namespace MatchType

def text : MatchType -> String
  | phrase => "phrase"
  | word => "word"

def literals : List MatchType :=
  [phrase, word]

end MatchType

namespace UnicodeForm

def text : UnicodeForm -> String
  | nfc => "NFC"
  | nfkc => "NFKC"
  | nfd => "NFD"
  | nfkd => "NFKD"

def literals : List UnicodeForm :=
  [nfc, nfkc, nfd, nfkd]

end UnicodeForm

def ruleTypeText : RiskRuleType -> String
  | RiskRuleType.hardCritical => "hard_critical"
  | RiskRuleType.riskSignal => "risk_signal"

/-!
## Checks
-/

/-- `RiskRuleConfigError`; two messages quote a value of the document. -/
inductive RiskRuleConfigError where
  | refused (message : String)
  | unsupportedSchemaVersion (value : JsonTree)
  | unsupportedUnicodeForm (form : String)

abbrev Checked (α : Type) := Except RiskRuleConfigError α

def refuse {α : Type} (message : String) : Checked α :=
  Except.error (RiskRuleConfigError.refused message)

/-- `sorted` with `", ".join`. -/
def sortedNames (names : List String) : String :=
  ", ".intercalate (names.insertionSort (fun a b => a ≤ b))

/-- `dict.get`, which does not tell an absent key from `null`. -/
def get (fields : List (String × JsonTree)) (name : String) : JsonTree :=
  (JsonTree.field fields name).getD JsonTree.null

/-- `_require_mapping`; the keys of a JSON object are strings. -/
def requireMapping (value : JsonTree) (location : String) :
    Checked (List (String × JsonTree)) :=
  match value with
  | JsonTree.object fields => Except.ok fields
  | _ => refuse s!"{location} must be a JSON object"

/-- `_require_string`. -/
def requireString (value : JsonTree) (location : String) : Checked String :=
  match value with
  | JsonTree.string s => Except.ok s
  | _ => refuse s!"{location} must be a string"

/-- `_require_bool`. -/
def requireBool (value : JsonTree) (location : String) : Checked Bool :=
  match value with
  | JsonTree.bool b => Except.ok b
  | _ => refuse s!"normalization.{location} must be a boolean"

/-- `_require_choice`. -/
def requireChoice {α : Type} (word : α -> String) (literals : List α) (value : JsonTree)
    (location : String) : Checked α := do
  let text ← requireString value location
  match literal? word literals text with
  | some a => Except.ok a
  | none =>
      let allowed := sortedNames (literals.map word)
      refuse s!"{location} must be one of: {allowed}"

/-- `_reject_unknown_fields`. -/
def rejectUnknownFields (fields : List (String × JsonTree)) (allowed : List String)
    (location : String) : Checked Unit :=
  let unknown := (fields.map Prod.fst).filter fun name => decide (name ∉ allowed)
  if unknown = [] then
    Except.ok ()
  else
    let names := sortedNames unknown
    refuse s!"Unknown fields in {location}: {names}"

/-!
## Loading
-/

def ruleFields : List String :=
  ["id", "pattern", "match_type", "language", "category", "severity", "rule_type"]

def normalizationFields : List String :=
  ["unicode_form", "casefold", "collapse_whitespace", "normalize_apostrophes"]

def topLevelFields : List String :=
  ["schema_version", "normalization", "hard_critical", "risk_signals"]

/-- `_parse_normalization`. -/
def parseNormalization (value : JsonTree) : Checked NormalizationConfig := do
  let config ← requireMapping value "normalization"
  rejectUnknownFields config normalizationFields "normalization"
  let form ← requireString (get config "unicode_form") "unicode_form"
  match literal? UnicodeForm.text UnicodeForm.literals form with
  | none => Except.error (RiskRuleConfigError.unsupportedUnicodeForm form)
  | some unicodeForm =>
      let casefold ← requireBool (get config "casefold") "casefold"
      let collapseWhitespace ←
        requireBool (get config "collapse_whitespace") "collapse_whitespace"
      let normalizeApostrophes ←
        requireBool (get config "normalize_apostrophes") "normalize_apostrophes"
      return { unicodeForm, casefold, collapseWhitespace, normalizeApostrophes }

theorem severity_fits {expected : RiskRuleType} {severity : RiskSeverity}
    (hhard : ¬(expected = RiskRuleType.hardCritical ∧ severity ≠ RiskSeverity.critical))
    (hsignal : ¬(expected = RiskRuleType.riskSignal ∧ severity = RiskSeverity.critical)) :
    expected = RiskRuleType.hardCritical ↔ severity = RiskSeverity.critical := by
  cases expected with
  | hardCritical => exact ⟨fun h => not_not.mp fun hne => hhard ⟨h, hne⟩, fun _ => rfl⟩
  | riskSignal => exact ⟨fun h => (by cases h), fun h => absurd ⟨rfl, h⟩ hsignal⟩

/-- The body of the loop of `_parse_rule_section`. -/
def parseRule (sectionName : String) (expected : RiskRuleType) (index : Nat)
    (item : JsonTree) : Checked { r : RiskRule // r.ruleType = expected } := do
  let location := s!"{sectionName}[{index}]"
  let entry ← requireMapping item location
  rejectUnknownFields entry ruleFields location
  let id ← requireString (get entry "id") s!"{location}.id"
  let pattern ← requireString (get entry "pattern") s!"{location}.pattern"
  if hpattern : Text.strip pattern = "" then
    refuse s!"{location}.pattern must not be empty"
  else
    let matchType ← requireChoice MatchType.text MatchType.literals
      (get entry "match_type") s!"{location}.match_type"
    let language ← requireChoice RiskLanguage.text RiskLanguage.literals
      (get entry "language") s!"{location}.language"
    let category ← requireChoice RiskCategory.text RiskCategory.literals
      (get entry "category") s!"{location}.category"
    let severity ← requireChoice RiskSeverity.text RiskSeverity.literals
      (get entry "severity") s!"{location}.severity"
    let ruleType ← requireString (get entry "rule_type") s!"{location}.rule_type"
    let expectedText := ruleTypeText expected
    if ruleType ≠ expectedText then
      refuse s!"{location}.rule_type must be '{expectedText}'"
    else if hhard : expected = RiskRuleType.hardCritical ∧
        severity ≠ RiskSeverity.critical then
      refuse s!"{location}.severity must be 'critical' for a hard rule"
    else if hsignal : expected = RiskRuleType.riskSignal ∧
        severity = RiskSeverity.critical then
      refuse s!"{location}.severity must not be 'critical' for a signal rule"
    else
      return ⟨{ id := id
                pattern := pattern
                category := category
                ruleType := expected
                matchType := matchType
                language := language
                severity := severity
                notBlank := hpattern
                severityFits := severity_fits hhard hsignal }, rfl⟩

/-- The loop of `_parse_rule_section`, from an index on. -/
def parseRules (sectionName : String) (expected : RiskRuleType) :
    Nat -> List JsonTree -> Checked (List { r : RiskRule // r.ruleType = expected })
  | _, [] => Except.ok []
  | index, item :: items => do
      let rule ← parseRule sectionName expected index item
      let rules ← parseRules sectionName expected (index + 1) items
      return rule :: rules

/-- `_parse_rule_section`. -/
def parseRuleSection (value : JsonTree) (sectionName : String) (expected : RiskRuleType) :
    Checked (List { r : RiskRule // r.ruleType = expected }) :=
  match value with
  | JsonTree.array items => parseRules sectionName expected 0 items
  | _ => refuse s!"{sectionName} must be a JSON array"

/-- `== 1` in Python, where `True` equals one. -/
def isOne : JsonTree -> Bool
  | JsonTree.number q => decide (q = 1)
  | JsonTree.bool b => b
  | _ => false

theorem typed_of_mem {expected : RiskRuleType}
    {rules : List { r : RiskRule // r.ruleType = expected }} {r : RiskRule}
    (h : r ∈ rules.map Subtype.val) : r.ruleType = expected := by
  rcases List.mem_map.mp h with ⟨x, _, rfl⟩
  exact x.property

/-- `load_risk_rules`, once the document is parsed. -/
def loadRiskRules (payload : JsonTree) : Checked RiskRuleSet := do
  let root ← requireMapping payload "root"
  rejectUnknownFields root topLevelFields "root"
  if isOne (get root "schema_version") then
    let normalization ← parseNormalization (get root "normalization")
    let hardCritical ← parseRuleSection (get root "hard_critical") "hard_critical"
      RiskRuleType.hardCritical
    let riskSignals ← parseRuleSection (get root "risk_signals") "risk_signals"
      RiskRuleType.riskSignal
    let ids := (hardCritical.map Subtype.val ++ riskSignals.map Subtype.val).map
      fun r => r.id
    if hids : ids.Nodup then
      return { normalization := normalization
               hardCritical := hardCritical.map Subtype.val
               riskSignals := riskSignals.map Subtype.val
               hardTyped := fun _ h => typed_of_mem h
               signalsTyped := fun _ h => typed_of_mem h
               idsUnique := hids }
    else
      let duplicates := sortedNames (ids.dedup.filter fun id => decide (1 < ids.count id))
      refuse s!"Duplicate risk rule IDs: {duplicates}"
  else
    Except.error (RiskRuleConfigError.unsupportedSchemaVersion (get root "schema_version"))

/-!
## Every rule set is that of a file
-/

def NormalizationConfig.document (c : NormalizationConfig) : JsonTree :=
  JsonTree.object
    [("unicode_form", JsonTree.string c.unicodeForm.text),
      ("casefold", JsonTree.bool c.casefold),
      ("collapse_whitespace", JsonTree.bool c.collapseWhitespace),
      ("normalize_apostrophes", JsonTree.bool c.normalizeApostrophes)]

def RiskRule.document (r : RiskRule) : JsonTree :=
  JsonTree.object
    [("id", JsonTree.string r.id),
      ("pattern", JsonTree.string r.pattern),
      ("match_type", JsonTree.string r.matchType.text),
      ("language", JsonTree.string r.language.text),
      ("category", JsonTree.string (RiskCategory.text r.category)),
      ("severity", JsonTree.string r.severity.text),
      ("rule_type", JsonTree.string (ruleTypeText r.ruleType))]

def RiskRuleSet.document (rules : RiskRuleSet) : JsonTree :=
  JsonTree.object
    [("schema_version", JsonTree.number 1),
      ("normalization", rules.normalization.document),
      ("hard_critical", JsonTree.array (rules.hardCritical.map RiskRule.document)),
      ("risk_signals", JsonTree.array (rules.riskSignals.map RiskRule.document))]

theorem requireChoice_word {α : Type} {word : α -> String} {literals : List α} {a : α}
    (h : literal? word literals (word a) = some a) (location : String) :
    requireChoice word literals (JsonTree.string (word a)) location = Except.ok a := by
  unfold requireChoice requireString
  simp only [Bind.bind, Except.bind, h]

theorem parseNormalization_document (c : NormalizationConfig) :
    parseNormalization c.document = Except.ok c := by
  have hform : literal? UnicodeForm.text UnicodeForm.literals c.unicodeForm.text =
      some c.unicodeForm := by
    cases c.unicodeForm <;> decide
  simp [parseNormalization, NormalizationConfig.document, requireMapping,
    rejectUnknownFields, normalizationFields, requireString, requireBool, get,
    JsonTree.field, Bind.bind, Except.bind, pure, Except.pure, hform]

theorem parseRule_document (sectionName : String) (index : Nat) (r : RiskRule)
    {expected : RiskRuleType} (h : r.ruleType = expected) :
    parseRule sectionName expected index r.document = Except.ok ⟨r, h⟩ := by
  cases h
  have hmatch : literal? MatchType.text MatchType.literals r.matchType.text =
      some r.matchType := by
    cases r.matchType <;> decide
  have hlanguage : literal? RiskLanguage.text RiskLanguage.literals r.language.text =
      some r.language := by
    cases r.language <;> decide
  have hcategory : literal? RiskCategory.text RiskCategory.literals
      (RiskCategory.text r.category) = some r.category := by
    cases r.category <;> decide
  have hseverity : literal? RiskSeverity.text RiskSeverity.literals r.severity.text =
      some r.severity := by
    cases r.severity <;> decide
  have hhard : ¬(r.ruleType = RiskRuleType.hardCritical ∧
      r.severity ≠ RiskSeverity.critical) :=
    fun hboth => hboth.right (r.severityFits.mp hboth.left)
  have hsignal : ¬(r.ruleType = RiskRuleType.riskSignal ∧
      r.severity = RiskSeverity.critical) := by
    rintro ⟨htype, hcritical⟩
    rw [r.severityFits.mpr hcritical] at htype
    cases htype
  simp [parseRule, RiskRule.document, requireMapping, rejectUnknownFields, ruleFields,
    requireString, get, JsonTree.field, Bind.bind, Except.bind, pure, Except.pure,
    requireChoice_word hmatch, requireChoice_word hlanguage, requireChoice_word hcategory,
    requireChoice_word hseverity, r.notBlank, hhard, hsignal]

theorem parseRules_document (sectionName : String) {expected : RiskRuleType}
    (index : Nat) (rules : List RiskRule)
    (h : forall r, r ∈ rules -> r.ruleType = expected) :
    parseRules sectionName expected index (rules.map RiskRule.document) =
      Except.ok (rules.attachWith (fun r => r.ruleType = expected) h) := by
  induction rules generalizing index with
  | nil => rfl
  | cons r rest ih =>
      have hr := parseRule_document sectionName index r (h r List.mem_cons_self)
      have hrest := ih (index + 1) fun x hx => h x (List.mem_cons_of_mem r hx)
      rw [List.map_cons, List.attachWith_cons]
      simp only [parseRules, hr, hrest, Bind.bind, Except.bind, pure, Except.pure]

theorem loadRiskRules_document (rules : RiskRuleSet) :
    loadRiskRules rules.document = Except.ok rules := by
  have hnormalization := parseNormalization_document rules.normalization
  have hhard := parseRules_document "hard_critical" 0 rules.hardCritical rules.hardTyped
  have hsignals := parseRules_document "risk_signals" 0 rules.riskSignals
    rules.signalsTyped
  have hids := rules.idsUnique
  rw [List.map_append] at hids
  simp [loadRiskRules, RiskRuleSet.document, requireMapping, rejectUnknownFields,
    topLevelFields, get, JsonTree.field, isOne, parseRuleSection, Bind.bind, Except.bind,
    pure, Except.pure, hnormalization, hhard, hsignals, hids]

end Risk

end RefundAgent
