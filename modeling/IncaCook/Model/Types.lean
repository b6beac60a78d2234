import IncaCook.Library.Table

/-!
# The marketplace's data

The rows of the order, delivery, dispute and wallet tables, the parts of the
user, seller, driver and listing tables that ordering reads, and what Stripe
keeps of the platform's payments. Columns keep the names of `schema.prisma`.

Identifiers are ULIDs. A ULID is unique because of the process and the moment
that made it, so the model writes one as the number of the call that generated
it and its serial number within that call. Tokens and texts are strings, money
is in integer cents, and a `Date` is its milliseconds.
-/

namespace IncaCook

/-- A generated identifier: the call that made it, and which of its identifiers it is. -/
structure Ulid where
  call : Nat
  seq : Nat
  deriving DecidableEq, Repr

/-- How a message shows an identifier. -/
def Ulid.text (id : Ulid) : String := toString id.call ++ "-" ++ toString id.seq

abbrev UserId := Ulid
abbrev ListingId := Ulid
abbrev AddOnId := Ulid
abbrev AddressId := Ulid
abbrev OrderId := Ulid
abbrev DeliveryId := Ulid
abbrev WalletEntryId := Ulid
abbrev DisputeId := Ulid
abbrev StrikeId := Ulid
abbrev WithdrawalId := Ulid

abbrev Cents := Int
abbrev Time := Nat

/-! ## JavaScript values -/

/-- A JavaScript `number`. -/
inductive JsNumber where
  | nan
  | infinity (negative : Bool)
  | finite (value : Rat)
  deriving DecidableEq, Repr

/-- The white space that `String.prototype.trim` removes. -/
def isJsSpace (c : Char) : Bool :=
  c.toNat ∈ [0x9, 0xA, 0xB, 0xC, 0xD, 0x20, 0xA0, 0x1680, 0x2028, 0x2029, 0x202F, 0x205F, 0x3000,
    0xFEFF] || (0x2000 ≤ c.toNat && c.toNat ≤ 0x200A)

/-- `String.prototype.trim`. -/
def jsTrim (s : String) : String :=
  String.ofList ((s.toList.dropWhile isJsSpace).reverse.dropWhile isJsSpace).reverse

/-- `x || null` on an optional string: the empty string is falsy. -/
def truthy (o : Option String) : Option String := o.filter (· ≠ "")

/-- What a body says of an optional field: the DTO tells a missing one from `null`. -/
inductive Sent (α : Type) where
  | missing
  | null
  | value (a : α)
  deriving DecidableEq, Repr

/-- `x ?? null` -/
def Sent.orNull {α : Type} : Sent α → Option α
  | .missing => none
  | .null => none
  | .value a => some a

/-- `x === null` -/
def Sent.isNull {α : Type} : Sent α → Bool
  | .missing => false
  | .null => true
  | .value _ => false

/-- `x !== undefined` -/
def Sent.isSent {α : Type} : Sent α → Bool
  | .missing => false
  | .null => true
  | .value _ => true

/-- `x ?? y` -/
def Sent.getD {α : Type} (x : Sent α) (y : α) : α := x.orNull.getD y

/-- The column after a write of `x`: a missing field leaves it as it is. -/
def Sent.written {α : Type} (x : Sent α) (column : Option α) : Option α :=
  match x with
  | .missing => column
  | .null => none
  | .value a => some a

@[simp] theorem Sent.orNull_missing {α : Type} : (missing : Sent α).orNull = none := rfl

@[simp] theorem Sent.getD_missing {α : Type} (y : α) : missing.getD y = y := rfl

@[simp] theorem Sent.written_missing {α : Type} (column : Option α) : missing.written column = column := rfl

/-! ## Enumerations -/

inductive UserRole where
  | buyer | seller | driver | admin | moderator
  deriving DecidableEq, Repr

inductive KycStatus where
  | pending | approved | rejected
  deriving DecidableEq, Repr

inductive SubscriptionStatus where
  | none | active | trialing | pastDue | canceled | expired | unpaid | incomplete
  | incompleteExpired
  deriving DecidableEq, Repr

/-- How a dish can be fulfilled. -/
inductive Fulfillment where
  | delivery | pickup | both
  deriving DecidableEq, Repr

inductive FulfillmentChoice where
  | delivery | pickup
  deriving DecidableEq, Repr

inductive DeliveryTiming where
  | asap | scheduled
  deriving DecidableEq, Repr

inductive OrderStatus where
  | pending | confirmed | preparing | ready | pickedUp | inDelivery | delivered | completed
  | noDriverAvailable | cancelled | refunded | disputed
  deriving DecidableEq, Repr

inductive DeliveryStatus where
  | unassigned | searching | assigned | enRouteToPickup | atPickup | pickedUp
  | enRouteToDropoff | atDropoff | delivered | cancelled | failed
  deriving DecidableEq, Repr

/-- The status as the error texts spell it. -/
def OrderStatus.text : OrderStatus → String
  | .pending => "PENDING"
  | .confirmed => "CONFIRMED"
  | .preparing => "PREPARING"
  | .ready => "READY"
  | .pickedUp => "PICKED_UP"
  | .inDelivery => "IN_DELIVERY"
  | .delivered => "DELIVERED"
  | .completed => "COMPLETED"
  | .noDriverAvailable => "NO_DRIVER_AVAILABLE"
  | .cancelled => "CANCELLED"
  | .refunded => "REFUNDED"
  | .disputed => "DISPUTED"

@[inherit_doc OrderStatus.text]
def DeliveryStatus.text : DeliveryStatus → String
  | .unassigned => "UNASSIGNED"
  | .searching => "SEARCHING"
  | .assigned => "ASSIGNED"
  | .enRouteToPickup => "EN_ROUTE_TO_PICKUP"
  | .atPickup => "AT_PICKUP"
  | .pickedUp => "PICKED_UP"
  | .enRouteToDropoff => "EN_ROUTE_TO_DROPOFF"
  | .atDropoff => "AT_DROPOFF"
  | .delivered => "DELIVERED"
  | .cancelled => "CANCELLED"
  | .failed => "FAILED"

inductive WalletEntryType where
  | orderEarning | deliveryEarning | commission | refund | withdrawal | driverDebt
  deriving DecidableEq, Repr

inductive WalletEntryStatus where
  | pending | available | held | paidOut | cancelled
  deriving DecidableEq, Repr

inductive DisputeType where
  | neverReceived | wrongOrder | spoiledFood | foodPoisoning | subjectiveDissatisfaction
  | allergenFalseDeclaration | chargeback
  deriving DecidableEq, Repr

inductive DisputeStatus where
  | open | autoRefunded | rejected | adminReview | resolved
  deriving DecidableEq, Repr

inductive ActorRole where
  | seller | driver | buyer
  deriving DecidableEq, Repr

inductive StrikeSeverity where
  | light | serious | critical
  deriving DecidableEq, Repr

inductive StrikeSourceType where
  | delivery | order | report | system
  deriving DecidableEq, Repr

/-- The texts of `Strike.reason` and `User.suspensionReason`; `lowRating` is that of a suspension
for bad reviews. -/
inductive StrikeReason where
  | sellerUnavailable | sellerCannotProvide | driverDisappearedAfterPickup | wrongOrder
  | allergenFalseDeclaration | fraudulentChargeback | lowRating
  deriving DecidableEq, Repr

/-- What `Strike.sourceId` names: a dispute, or Stripe's id of a chargeback. -/
inductive StrikeSourceId where
  | dispute (id : DisputeId)
  | stripe (disputeId : String)
  deriving DecidableEq, Repr

inductive SellerUnavailableReason where
  | sellerAbsent | foodNotAvailable
  deriving DecidableEq, Repr

inductive NoDriverDecision where
  | switchToPickup | cancelAndRefund
  deriving DecidableEq, Repr

/-- The texts the code writes into `Order.cancellationReason` and `Delivery.failureReason`. -/
inductive Reason where
  | sellerCannotProvide | sellerUnavailable | driverDisappeared
  | noDriverBuyerCancelled | buyerNoResponseAfterNoDriver | noDriverSwitchedToPickup
  | sellerUnavailableReport (reason : SellerUnavailableReason)
  | text (reason : String)
  deriving DecidableEq, Repr

/-! ## Stripe's side -/

/-- A PaymentIntent id: one of Stripe's, or the placeholder `pi_dev_<orderId>`. -/
inductive PaymentIntentId where
  | stripe (n : Nat)
  | dev (orderId : OrderId)
  deriving DecidableEq, Repr

/-- A Customer id: one of Stripe's, or the placeholder `cus_dev_<userId>`. -/
inductive CustomerId where
  | stripe (n : Nat)
  | dev (userId : UserId)
  deriving DecidableEq, Repr

structure RefundId where
  n : Nat
  deriving DecidableEq, Repr

/-- A PaymentIntent as Stripe keeps it; `orderId` is its metadata, `succeeded` its status. -/
structure PaymentIntent where
  id : PaymentIntentId
  amount : Cents
  customer : CustomerId
  orderId : OrderId
  succeeded : Bool
  deriving DecidableEq, Repr

/-- A refund that Stripe has executed. -/
structure StripeRefund where
  id : RefundId
  paymentIntent : PaymentIntentId
  orderId : OrderId
  deriving DecidableEq, Repr

/-- A transfer that Stripe has executed, under its idempotency key `withdrawal_<id>`. -/
structure StripeTransfer where
  withdrawalId : WithdrawalId
  amount : Cents
  destination : String
  userId : UserId
  deriving DecidableEq, Repr

/-! ## Rows -/

structure User where
  id : UserId
  supabaseId : String
  email : String
  role : UserRole
  hasBuyerProfile : Bool
  stripeCustomerId : Option CustomerId
  deletedAt : Option Time
  isSuspended : Bool
  suspendedAt : Option Time
  suspensionReason : Option StrikeReason
  deriving DecidableEq, Repr

structure SellerProfile where
  userId : UserId
  kycStatus : KycStatus
  deliveryFeeCents : Option Cents
  isPremium : Bool
  subscriptionStatus : SubscriptionStatus
  subscriptionCurrentPeriodEnd : Option Time
  stripeConnectAccountId : Option String
  stripeOnboardingCompleted : Bool
  deriving DecidableEq, Repr

structure DriverProfile where
  userId : UserId
  kycStatus : KycStatus
  stripeConnectAccountId : Option String
  stripeOnboardingCompleted : Bool
  deriving DecidableEq, Repr

/-- `portionsLeft = none` is "cook to order": no stock is tracked. -/
structure Listing where
  id : ListingId
  sellerId : UserId
  name : String
  imageUrls : List String
  priceCents : Cents
  portionsLeft : Option Int
  isAvailable : Bool
  expiresAt : Option Time
  fulfillment : Fulfillment
  deletedAt : Option Time
  deriving DecidableEq, Repr

structure ListingAddOn where
  id : AddOnId
  listingId : ListingId
  label : String
  priceDeltaCents : Cents
  deriving DecidableEq, Repr

structure Address where
  id : AddressId
  userId : UserId
  fullAddress : String
  city : String
  postalCode : Option String
  deletedAt : Option Time
  deriving DecidableEq, Repr

structure OrderItemAddOn where
  labelSnapshot : String
  priceDeltaCentsSnapshot : Cents
  deriving DecidableEq, Repr

structure OrderItem where
  listingId : ListingId
  listingNameSnapshot : String
  listingImageUrlSnapshot : Option String
  unitPriceCentsSnapshot : Cents
  quantity : Nat
  note : Option String
  addOns : List OrderItemAddOn
  deriving DecidableEq, Repr

/-- An order with its items. -/
structure Order where
  id : OrderId
  orderNumber : String
  buyerId : UserId
  sellerId : UserId
  status : OrderStatus
  subtotalCents : Cents
  fulfillmentFeeCents : Cents
  commissionRateBps : Int
  commissionCents : Cents
  sellerEarningsCents : Cents
  buyerTotalCents : Cents
  fulfillmentChoice : FulfillmentChoice
  dropoffAddressId : Option AddressId
  deliveryInstructions : Option String
  deliveryTiming : DeliveryTiming
  scheduledAt : Option Time
  note : Option String
  stripePaymentIntentId : Option PaymentIntentId
  inventoryRestored : Bool
  stripeRefundId : Option RefundId
  refundedAt : Option Time
  placedAt : Time
  confirmedAt : Option Time
  readyAt : Option Time
  cancelledAt : Option Time
  cancellationReason : Option Reason
  items : List OrderItem
  deriving DecidableEq, Repr

structure Delivery where
  id : DeliveryId
  orderId : OrderId
  driverId : Option UserId
  status : DeliveryStatus
  driverAssignedAt : Option Time
  pickedUpAt : Option Time
  deliveredAt : Option Time
  failedAt : Option Time
  failureReason : Option Reason
  pickupToken : Option String
  pickupConfirmedAt : Option Time
  pickupConfirmedByDriverId : Option UserId
  pickupLat : Option JsNumber
  pickupLng : Option JsNumber
  deliveryToken : Option String
  deliveredConfirmedAt : Option Time
  deliveredConfirmedByDriverId : Option UserId
  deliveredLat : Option JsNumber
  deliveredLng : Option JsNumber
  deliveredAsAbsent : Bool
  absentProofPhotoUrl : Option String
  absentProofLat : Option JsNumber
  absentProofLng : Option JsNumber
  absentProofTakenAt : Option Time
  absentProofNote : Option String
  sellerUnavailableReason : Option SellerUnavailableReason
  sellerUnavailableAt : Option Time
  sellerUnavailableLat : Option JsNumber
  sellerUnavailableLng : Option JsNumber
  sellerUnavailableNote : Option String
  sellerUnavailablePhotoUrl : Option String
  createdAt : Time
  deriving DecidableEq, Repr

/-- Whose balance an entry belongs to: a user, or the platform's own account. -/
inductive Beneficiary where
  | platform
  | user (id : UserId)
  deriving DecidableEq, Repr

/-- The `metadata` column of a wallet entry, where the code sets one. -/
inductive EntryMetadata where
  | compensationSellerUnavailable
  | driverDisappearedSellerPaid
  | driverDisappearedRefundDeduction
  | payout (transferId : WithdrawalId) (destination : String)
  deriving DecidableEq, Repr

structure WalletEntry where
  id : WalletEntryId
  userId : Beneficiary
  orderId : Option OrderId
  type : WalletEntryType
  amountCents : Cents
  status : WalletEntryStatus
  withdrawalId : Option WithdrawalId
  availableAt : Option Time
  releasedAt : Option Time
  metadata : Option EntryMetadata
  deriving DecidableEq, Repr

/-- The Stripe payload that a chargeback row keeps in its `metadata`. -/
structure ChargebackMetadata where
  stripeDisputeId : String
  amount : Cents
  currency : String
  reason : String
  stripeStatus : String
  evidenceDueBy : Option Time
  deriving DecidableEq, Repr

structure OrderDispute where
  id : DisputeId
  orderId : OrderId
  buyerId : UserId
  sellerId : UserId
  deliveryId : Option DeliveryId
  type : DisputeType
  status : DisputeStatus
  description : Option String
  photoUrls : Option (List String)
  proofFileUrls : Option (List String)
  refundRequested : Bool
  refundApproved : Bool
  refundAmountCents : Option Cents
  adminNotes : Option String
  stripeDisputeId : Option String
  metadata : Option ChargebackMetadata
  resolvedAt : Option Time
  deriving DecidableEq, Repr

structure Strike where
  id : StrikeId
  userId : UserId
  actorRole : ActorRole
  points : Nat
  reason : StrikeReason
  severity : StrikeSeverity
  sourceType : StrikeSourceType
  sourceId : Option StrikeSourceId
  orderId : Option OrderId
  deliveryId : Option DeliveryId
  notes : Option String
  createdAt : Time
  expiresAt : Time
  deriving DecidableEq, Repr

/-! ## Primary keys -/

instance : Keyed User UserId := ⟨User.id⟩
instance : Keyed SellerProfile UserId := ⟨SellerProfile.userId⟩
instance : Keyed DriverProfile UserId := ⟨DriverProfile.userId⟩
instance : Keyed Listing ListingId := ⟨Listing.id⟩
instance : Keyed ListingAddOn AddOnId := ⟨ListingAddOn.id⟩
instance : Keyed Address AddressId := ⟨Address.id⟩
instance : Keyed Order OrderId := ⟨Order.id⟩
instance : Keyed Delivery DeliveryId := ⟨Delivery.id⟩
instance : Keyed WalletEntry WalletEntryId := ⟨WalletEntry.id⟩
instance : Keyed OrderDispute DisputeId := ⟨OrderDispute.id⟩
instance : Keyed Strike StrikeId := ⟨Strike.id⟩
instance : Keyed PaymentIntent PaymentIntentId := ⟨PaymentIntent.id⟩
instance : Keyed StripeRefund RefundId := ⟨StripeRefund.id⟩
instance : Keyed StripeTransfer WithdrawalId := ⟨StripeTransfer.withdrawalId⟩

end IncaCook
