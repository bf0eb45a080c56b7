import RefundAgent.Foundation.Text
import Mathlib.Data.Rat.Defs
import Mathlib.Tactic

/-!
# Vocabulary

The literal types of the service, with the spelling of the source in camel
case.  Identifiers print without a colon and differ when they print
differently, which is all the idempotency keys rely on; they are natural
numbers here.  Times are microseconds on an unbounded axis.
-/

namespace RefundAgent

open Foundation

abbrev UUID := Nat

abbrev Time := Int

/-!
## Order operations
-/

inductive OperationType where
  | cancellation
  | return
  | exchange
deriving DecidableEq, Repr

inductive OperationRecordStatus where
  | pendingConfirmation
  | queued
  | submitted
  | processing
  | manualReview
  | completed
  | rejected
  | cancelledByCustomer
deriving DecidableEq, Repr

inductive OperationReason where
  | orderedByMistake
  | noLongerNeeded
  | incorrectItemOrQuantity
  | deliveryTooSlow
  | paymentIssue
  | changedMind
  | wrongItemReceived
  | damagedItem
  | defectiveItem
  | missingParts
  | notAsDescribed
  | sizeOrVariantIssue
  | other
deriving DecidableEq, Repr

inductive OrderStatus where
  | pendingPayment
  | confirmed
  | cancelled
  | completed
deriving DecidableEq, Repr

inductive PaymentStatus where
  | unpaid
  | paid
  | refundPending
  | partiallyRefunded
  | refunded
deriving DecidableEq, Repr

inductive FulfillmentStatus where
  | unfulfilled
  | processing
  | shipped
  | delivered
deriving DecidableEq, Repr

inductive OperationStatus where
  | submitted
  | processing
  | manualReview
  | completed
  | rejected
deriving DecidableEq, Repr

inductive ExistingOperationType where
  | refund
  | cancellation
  | return
  | exchange
deriving DecidableEq, Repr

inductive OperationEventType where
  | operationCreated
  | confirmationRecorded
  | statusChanged
  | supportCaseAttached
deriving DecidableEq, Repr

inductive OperationServiceAction where
  | created
  | duplicateIgnored
  | confirmed
  | queued
  | submitted
  | cancelled
  | statusUnchanged
  | supportCaseAttached
deriving DecidableEq, Repr

inductive OperationOutcome where
  | eligible
  | manualReview
  | rejected
  | existingOperation
  | alreadyCompleted
deriving DecidableEq, Repr

inductive DeliveryOutcome where
  | selfService
  | manualReview
  | offerReturnExchange
deriving DecidableEq, Repr

inductive DeliveryIssueType where
  | delayed
  | trackingStalled
  | deliveryFailed
  | markedDeliveredNotReceived
  | packageDamaged
  | wrongItemOrMissingParts
  | otherDeliveryIssue
deriving DecidableEq, Repr

/-!
## Support cases
-/

inductive CaseType where
  | safetyReview
  | businessEscalation
  | refundReview
  | generalSupport
  | staffConductComplaint
  | otherComplaint
  | orderOperationReview
  | deliveryInvestigation
deriving DecidableEq, Repr

inductive CasePriority where
  | p0
  | p1
  | p2
  | p3
deriving DecidableEq, Repr

inductive CaseStatus where
  | open
  | inProgress
  | onHold
  | resolved
deriving DecidableEq, Repr

inductive CaseEventType where
  | caseCreated
  | triggerAppended
  | statusChanged
  | assigned
  | providerUpdate
  | providerRedrive
deriving DecidableEq, Repr

inductive CaseServiceAction where
  | notCreated
  | created
  | eventAppended
  | duplicateIgnored
  | statusChanged
  | statusUnchanged
  | assigned
deriving DecidableEq, Repr

inductive OnHoldReason where
  | waitingCustomer
  | waitingExternalSystem
  | waitingInternalTeam
  | systemUnavailable
  | forceMajeure
  | other
deriving DecidableEq, Repr

inductive SemanticRiskLevel where
  | none
  | low
  | medium
  | high
  | critical
deriving DecidableEq, Repr

inductive SemanticRiskCategory where
  | selfHarm
  | violence
  | legal
  | regulatory
  | reputation
  | other
deriving DecidableEq, Repr

inductive HandoffReason where
  | hardCritical (category : SemanticRiskCategory)
  | semanticCritical (category : SemanticRiskCategory)
  | semanticHigh (category : SemanticRiskCategory)
  | semanticMedium (category : SemanticRiskCategory)
  | refundManualReview
  | confirmedHumanRequest
  | staffConductCritical
  | staffConductHigh
  | staffConductMedium
  | staffConductLow
  | explicitOtherComplaint
  | orderStateInvalid
  | cancellationFulfillmentProcessing
  | cancellationStateInvalid
  | operationDeliveryDateInvalid
  | returnEligibilityUnknown
  | exchangeEligibilityUnknown
  | currencyThresholdUnconfigured
  | returnManualAmountReview
  | exchangeInventoryUnknown
  | deliveryDataInvalid
  | deliveryTrackingStalled
  | deliveryOverdueInvestigation
  | deliveryFailed
  | deliveryMarkedReceivedDispute
  | deliveryDamageClaim
  | deliveryOtherIssue
  | providerDeliveryFailed
deriving DecidableEq, Repr

/-!
## Provider messaging
-/

inductive ProviderCapability where
  | orderQuery
  | inventoryQuery
  | orderOperation
deriving DecidableEq, Repr

inductive ProviderAggregateType where
  | orderOperation
  | supportCase
deriving DecidableEq, Repr

inductive ProviderCommandType where
  | cancelOrder
  | returnOrder
  | exchangeOrder
  | deliveryInvestigation
deriving DecidableEq, Repr

inductive ProviderCommandAcceptanceStatus where
  | accepted
  | rejected
deriving DecidableEq, Repr

inductive ProviderCommandExecutionStatus where
  | accepted
  | processing
  | completed
  | rejected
deriving DecidableEq, Repr

inductive OutboxDeliveryStatus where
  | pending
  | processing
  | retryScheduled
  | published
  | dead
deriving DecidableEq, Repr

inductive InboxProcessingStatus where
  | received
  | processing
  | processed
  | failed
deriving DecidableEq, Repr

inductive ProviderFailureKind where
  | networkError
  | timeout
  | httpRetryable
  | httpClientError
  | providerRejection
  | validationError
deriving DecidableEq, Repr

inductive DeliveryAttemptOutcome where
  | accepted
  | providerRejected
  | retryScheduled
  | terminalFailure
  | leaseExpired
deriving DecidableEq, Repr

inductive InboxAttemptOutcome where
  | processed
  | retryScheduled
  | terminalFailure
  | leaseExpired
deriving DecidableEq, Repr

inductive RedriveReasonCode where
  | dependencyOrConfigurationRestored
  | transientIncidentResolved
  | manualRetryApproved
deriving DecidableEq, Repr

/-!
## Callers
-/

inductive Role where
  | customer
  | supportAgent
  | supervisor
deriving DecidableEq, Repr

inductive Permission where
  | ordersReadOwn
  | ordersOperateOwn
  | casesReadOwn
  | casesReadAssigned
  | casesReadAll
  | casesUpdateAssigned
  | casesUpdateAll
  | casesAssign
  | providerOpsRead
  | providerOpsRedrive
deriving DecidableEq, Repr

/-- `_validate_identity_part`: not blank, and free of the key separator. -/
def validateIdentityPart (value : String) : Bool :=
  decide (Text.strip value ≠ "") && decide (':' ∉ value.toList)

/-- `AccessScope`, together with what its validator has checked. -/
structure AccessScope where
  tenantId : CleanText
  userId : CleanText
  role : Role
  permissions : List Permission
  tenantValid : validateIdentityPart tenantId.text = true ∧
    Text.strip tenantId.text ≠ "legacy"
  userValid : validateIdentityPart userId.text = true

namespace AccessScope

def identity (scope : AccessScope) : String :=
  scope.tenantId.text ++ ":" ++ scope.userId.text

def customerId (scope : AccessScope) : Option CleanText :=
  if scope.role = Role.customer then some scope.userId else none

def hasPermission (scope : AccessScope) (permission : Permission) : Bool :=
  decide (permission ∈ scope.permissions)

/-- Both the supervisor role and one explicit provider permission. -/
def hasProviderOperationsPermission (scope : AccessScope)
    (permission : Permission) : Bool :=
  decide (scope.role = Role.supervisor) && scope.hasPermission permission

theorem colon_not_mem_tenantId (scope : AccessScope) :
    ':' ∉ scope.tenantId.text.toList := by
  have h := scope.tenantValid.left
  unfold validateIdentityPart at h
  simp only [Bool.and_eq_true, decide_eq_true_eq] at h
  exact h.right

end AccessScope

/-!
## Order numbers
-/

/--
The zero of each run of ten decimal digits that `\d` matches: those of Unicode 14, the
version of Python 3.11.
-/
def decimalZeros : List Nat :=
  [0x30, 0x660, 0x6F0, 0x7C0, 0x966, 0x9E6, 0xA66, 0xAE6, 0xB66, 0xBE6, 0xC66,
    0xCE6, 0xD66, 0xDE6, 0xE50, 0xED0, 0xF20, 0x1040, 0x1090, 0x17E0, 0x1810,
    0x1946, 0x19D0, 0x1A80, 0x1A90, 0x1B50, 0x1BB0, 0x1C40, 0x1C50, 0xA620,
    0xA8D0, 0xA900, 0xA9D0, 0xA9F0, 0xAA50, 0xABF0, 0xFF10, 0x104A0, 0x10D30,
    0x11066, 0x110F0, 0x11136, 0x111D0, 0x112F0, 0x11450, 0x114D0, 0x11650,
    0x116C0, 0x11730, 0x118E0, 0x11950, 0x11C50, 0x11D50, 0x11DA0, 0x16A60,
    0x16AC0, 0x16B50, 0x1D7CE, 0x1D7D8, 0x1D7E2, 0x1D7EC, 0x1D7F6, 0x1E140,
    0x1E2F0, 0x1E950, 0x1FBF0]

/-- The value of a decimal digit of any script. -/
def digit? (c : Char) : Option Nat :=
  (decimalZeros.find? fun base => base ≤ c.toNat && c.toNat ≤ base + 9).map fun base =>
    c.toNat - base

def isDecimalDigit (c : Char) : Bool :=
  decimalZeros.any fun base => base ≤ c.toNat && c.toNat ≤ base + 9

/-- The pattern `^ORD-\d{5}$`. -/
def matchesOrderPattern (s : String) : Bool :=
  s.toList.take 4 == "ORD-".toList && (s.toList.drop 4).length == 5 &&
    (s.toList.drop 4).all isDecimalDigit

structure OrderId where
  text : String
  wellFormed : matchesOrderPattern text = true
deriving DecidableEq

/-- Validation of an order number field: strip, then match the pattern. -/
def OrderId.parse? (s : String) : Option OrderId :=
  if h : matchesOrderPattern (Text.trim s) = true then
    some { text := Text.trim s, wellFormed := h }
  else
    none

/-!
## The texts of the examples
-/

def sampleTenantText : CleanText := ⟨"acme", by decide⟩

def sampleUserText : CleanText := ⟨"kim", by decide⟩

def sampleThreadText : CleanText := ⟨"thread", by decide⟩

def sampleMessageText : CleanText := ⟨"message", by decide⟩

def sampleNextMessageText : CleanText := ⟨"message-2", by decide⟩

def sampleOrderText : OrderId := ⟨"ORD-10001", by decide⟩

end RefundAgent
