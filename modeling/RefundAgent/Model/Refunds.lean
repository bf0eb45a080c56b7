import RefundAgent.Foundation.Table
import RefundAgent.Model.Vocabulary

/-!
# Refund requests
-/

namespace RefundAgent

open Foundation

inductive RefundStatus where
  | pending
  | approved
  | rejected
deriving DecidableEq, Repr

structure RefundRequest where
  refundId : UUID
  orderId : OrderId
  status : RefundStatus
  customerId : CleanText
  tenantId : CleanText
  createdAt : Time
deriving DecidableEq

abbrev RefundTable := Table RefundRequest UUID RefundRequest.refundId

end RefundAgent
