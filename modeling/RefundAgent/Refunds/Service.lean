import RefundAgent.Operations.Service

/-!
# The refund service

One request for each order number, over all tenants.  A second request for the
same order is not an error: the service answers that nothing was created.
-/

namespace RefundAgent

open Foundation

/-- The translation of the repository's errors. -/
def refundWriteError (e : Failure) : Failure :=
  if e.isDatabaseError then
    Failure.refundPersistence "Failed to create refund request"
  else
    e

/-- `create` of the refund repository. -/
def createRefundRequest (scope : AccessScope) (refund : RefundRequest) : Tx Bool :=
  Transaction.translate refundWriteError do
    let _ ← customerOwnedVisibility scope
    Transaction.require
      (some refund.customerId = scope.customerId ∧ refund.tenantId = scope.tenantId)
      (Failure.valueError "refund ownership must match the access scope")
    insertRefundOnce refund

/-- The pending request that `create_refund` builds. -/
def pendingRefund (scope : AccessScope) (customerId : CleanText) (orderId : OrderId)
    (refundId : UUID) (now : Time) : RefundRequest :=
  { refundId := refundId
    orderId := orderId
    status := RefundStatus.pending
    customerId := customerId
    tenantId := scope.tenantId
    createdAt := now }

/-- `create_refund`. -/
def createRefund (scope : AccessScope) (orderId : String) (now : Time) : Call Bool :=
  match scope.customerId with
  | none =>
      Program.raise (Failure.valueError "only customers may create refund requests")
  | some customerId => do
      let refundId ← freshId
      match OrderId.parse? orderId with
      | none => Program.raise (Failure.validationError "RefundRequest")
      | some order =>
          Program.perform (createRefundRequest scope
            (pendingRefund scope customerId order refundId now))

end RefundAgent
