import Elektrine.Data.Text
import Elektrine.Library.Interleavings
import Elektrine.Library.Runs
import Elektrine.Library.SerialRows

/-!
# Subscription webhooks

The rows of the subscriptions and the handlers of Stripe's events, which find a row by the
Stripe subscription or by the customer and write what the event carries.  A cancellation or
resumption writes Stripe's answer through a row that was loaded earlier.
-/

namespace Elektrine.Subscriptions

open Elektrine.Library

structure Identifier where
  text : String
  filled : text.toList.any (fun character => !isWhiteSpace character) = true
  deriving DecidableEq

/-- What an object has under the atom and under the text of a key; `none` stands for a
missing key and for `nil`. -/
structure Entry (α : Type) where
  byAtom : Option α
  byString : Option α

/-- `stripe_field`: the text of the key is tried where the atom has no value or `false`. -/
def stripeField {α : Type} (truthy : α → Bool) (entry : Entry α) : Option α :=
  match entry.byAtom with
  | some value => if truthy value then some value else entry.byString
  | none => entry.byString

def Entry.value {α : Type} (entry : Entry α) : Option α := entry.byAtom.or entry.byString

/-- `stripe_field` of a key whose values are no booleans. -/
def Entry.field {α : Type} (entry : Entry α) : Option α := stripeField (fun _ => true) entry

/-- `stripe_field` of a boolean key. -/
def Entry.flag (entry : Entry Bool) : Option Bool := stripeField id entry

inductive Status where
  | incomplete
  | incompleteExpired
  | trialing
  | active
  | pastDue
  | canceled
  | unpaid
  | paused
  deriving DecidableEq, Repr

/-- `active_statuses` -/
def Status.grantsAccess : Status → Bool
  | .active | .trialing => true
  | _ => false

inductive StatusValue where
  | known (status : Status)
  | unknown (text : Identifier)

inductive Timestamp where
  | integer (seconds : Int)
  | text (text : String)

def fromUnix : Option Timestamp → Option Int
  | none => none
  | some (.integer seconds) => some seconds
  | some (.text text) => integerParseExact text

structure Price where
  id : Entry Identifier

structure Item where
  price : Entry Price

structure Items where
  data : Entry (List Item)

structure Metadata where
  product : Entry String
  userId : Entry String

structure StripeSubscription where
  id : Entry Identifier
  customer : Entry Identifier
  status : Entry StatusValue
  items : Entry Items
  currentPeriodStart : Entry Timestamp
  currentPeriodEnd : Entry Timestamp
  canceledAt : Entry Timestamp
  cancelAtPeriodEnd : Entry Bool
  metadata : Entry Metadata

structure Invoice where
  subscription : Entry Identifier
  periodStart : Entry Timestamp
  periodEnd : Entry Timestamp

/-- `get_price_id`: the price of the first item. -/
def getPriceId (stripeSub : StripeSubscription) : Option Identifier := do
  let items ← stripeSub.items.field
  let data ← items.data.field
  let item ← data.head?
  let price ← item.price.field
  price.id.field

structure Subscription where
  id : Nat
  userId : Nat
  product : String
  stripeCustomerId : Option Identifier
  stripeSubscriptionId : Option Identifier
  stripePriceId : Option Identifier
  status : Status
  currentPeriodStart : Option Int
  currentPeriodEnd : Option Int
  canceledAt : Option Int
  cancelAtPeriodEnd : Option Bool
  deriving DecidableEq

abbrev Rows := SerialRows Subscription Subscription.id

def Subscription.hasAccess (subscription : Subscription) : Bool :=
  subscription.status.grantsAccess

inductive Failure where
  | invalid
  | noUserId
  | noStripeSubscription
  | stripeFailed
  | raised
  deriving DecidableEq, Repr

inductive Handled where
  | ignored
  | notFound
  | noSubscription
  | row (subscription : Subscription)
  deriving DecidableEq

/-- `Repo.get_by`: more than one row raises. -/
def getBy (rows : Rows) (wanted : Subscription → Bool) : Except Failure (Option Subscription) :=
  match rows.rows.filter wanted with
  | [] => .ok none
  | [row] => .ok (some row)
  | _ :: _ :: _ => .error .raised

/-- A comparison with `nil` raises. -/
def getSubscriptionByStripeId (rows : Rows) :
    Option Identifier → Except Failure (Option Subscription)
  | none => .error .raised
  | some id => getBy rows fun row => row.stripeSubscriptionId == some id

def getSubscriptionByCustomer (rows : Rows) (customer : Option Identifier) (product : String) :
    Except Failure (Option Subscription) :=
  match customer with
  | none => .error .raised
  | some customer =>
      getBy rows fun row => row.stripeCustomerId == some customer && row.product == product

/-- `validate_inclusion` of the status; the column is not nullable. -/
def castStatus : Option StatusValue → Except Failure Status
  | none => .error .raised
  | some (.unknown _) => .error .invalid
  | some (.known status) => .ok status

def stripeIdTaken (rows : Rows) (new : Subscription) : Bool :=
  rows.rows.any fun row =>
    row.id != new.id && row.stripeSubscriptionId.isSome &&
      row.stripeSubscriptionId == new.stripeSubscriptionId

def writeColumns (loaded new row : Subscription) : Subscription :=
  { row with
    stripeSubscriptionId :=
      written row.stripeSubscriptionId loaded.stripeSubscriptionId new.stripeSubscriptionId
    stripePriceId := written row.stripePriceId loaded.stripePriceId new.stripePriceId
    status := written row.status loaded.status new.status
    currentPeriodStart :=
      written row.currentPeriodStart loaded.currentPeriodStart new.currentPeriodStart
    currentPeriodEnd := written row.currentPeriodEnd loaded.currentPeriodEnd new.currentPeriodEnd
    canceledAt := written row.canceledAt loaded.canceledAt new.canceledAt
    cancelAtPeriodEnd :=
      written row.cancelAtPeriodEnd loaded.cancelAtPeriodEnd new.cancelAtPeriodEnd }

/-- `Repo.update` of a loaded row: a row that is gone and a Stripe subscription that another
row has raise. -/
def updateRow (rows : Rows) (loaded new : Subscription) : Except Failure (Handled × Rows) :=
  if new = loaded then .ok (.row new, rows)
  else
    match rows.find loaded.id with
    | none => .error .raised
    | some row =>
        let after := writeColumns loaded new row
        if stripeIdTaken rows after then .error .raised
        else .ok (.row new, rows.modify loaded.id (writeColumns loaded new) fun _ => rfl)

structure Context where
  userExists : Nat → Bool
  userOfCustomer : Identifier → Option Nat
  productFromPriceId : Identifier → Option String

def parseUserId (text : String) : Option Nat :=
  match integerParseExact (trim text) with
  | some (.ofNat id) => some id
  | _ => none

def resolveWebhookUser (context : Context) (rows : Rows) (stripeSub : StripeSubscription) :
    Option Nat :=
  let named := do
    let metadata ← stripeSub.metadata.field
    let text ← metadata.userId.field
    let id ← parseUserId text
    if context.userExists id then some id else none
  match named with
  | some id => some id
  | none =>
      match stripeSub.customer.field with
      | none => none
      | some customer =>
          (context.userOfCustomer customer).or
            ((rows.rows.find? fun row =>
              row.stripeCustomerId == some customer && context.userExists row.userId).map
                Subscription.userId)

def updateFromStripe (rows : Rows) (subscription : Subscription)
    (stripeSub : StripeSubscription) : Except Failure (Handled × Rows) :=
  match castStatus stripeSub.status.field with
  | .error failure => .error failure
  | .ok status =>
      updateRow rows subscription
        { subscription with
          stripeSubscriptionId := stripeSub.id.field
          stripePriceId := getPriceId stripeSub
          status := status
          currentPeriodStart := fromUnix stripeSub.currentPeriodStart.field
          currentPeriodEnd := fromUnix stripeSub.currentPeriodEnd.field
          canceledAt := fromUnix stripeSub.canceledAt.field
          cancelAtPeriodEnd := stripeSub.cancelAtPeriodEnd.flag }

/-- `validate_required` and `validate_length` of the product. -/
def validProduct (product : String) : Bool :=
  !(trim product).isEmpty && product.length ≤ 50

def newSubscription (stripeSub : StripeSubscription) (userId : Nat) (product : String)
    (status : Status) (id : Nat) : Subscription where
  id := id
  userId := userId
  product := product
  stripeCustomerId := stripeSub.customer.field
  stripeSubscriptionId := stripeSub.id.field
  stripePriceId := getPriceId stripeSub
  status := status
  currentPeriodStart := fromUnix stripeSub.currentPeriodStart.field
  currentPeriodEnd := fromUnix stripeSub.currentPeriodEnd.field
  canceledAt := none
  cancelAtPeriodEnd := stripeSub.cancelAtPeriodEnd.flag

/-- `create_changeset` and the insert with its two constraints. -/
def insertSubscription (context : Context) (rows : Rows) (product : String)
    (stripeSub : StripeSubscription) : Except Failure (Handled × Rows) :=
  match resolveWebhookUser context rows stripeSub with
  | none => .error .noUserId
  | some userId =>
      if validProduct product = false then .error .invalid
      else
        match castStatus stripeSub.status.field with
        | .error failure => .error failure
        | .ok status =>
            let new := newSubscription stripeSub userId product status
            if rows.rows.any fun row => row.userId == userId && row.product == product then
              .error .invalid
            else if stripeIdTaken rows (new rows.next) then .error .invalid
            else .ok (.row (new rows.next), rows.append new fun _ => rfl)

def productOf (context : Context) (stripeSub : StripeSubscription) : Option String :=
  let fromPrice := (getPriceId stripeSub).bind context.productFromPriceId
  let byAtom := stripeSub.metadata.byAtom.bind fun metadata => metadata.product.byString
  let byString := stripeSub.metadata.byString.bind fun metadata => metadata.product.byString
  ((byAtom.or byString).or fromPrice).filter fun product => !product.isEmpty

def handleSubscriptionCreated (context : Context) (rows : Rows)
    (stripeSub : StripeSubscription) : Except Failure (Handled × Rows) :=
  match productOf context stripeSub with
  | none => .ok (.ignored, rows)
  | some product =>
      match getSubscriptionByCustomer rows stripeSub.customer.field product with
      | .error failure => .error failure
      | .ok (some subscription) => updateFromStripe rows subscription stripeSub
      | .ok none => insertSubscription context rows product stripeSub

def handleSubscriptionUpdated (context : Context) (rows : Rows)
    (stripeSub : StripeSubscription) : Except Failure (Handled × Rows) :=
  match getSubscriptionByStripeId rows stripeSub.id.field with
  | .error failure => .error failure
  | .ok (some subscription) => updateFromStripe rows subscription stripeSub
  | .ok none => handleSubscriptionCreated context rows stripeSub

def handleSubscriptionDeleted (rows : Rows) (stripeSub : StripeSubscription) (now : Int) :
    Except Failure (Handled × Rows) :=
  match getSubscriptionByStripeId rows stripeSub.id.field with
  | .error failure => .error failure
  | .ok none => .ok (.notFound, rows)
  | .ok (some subscription) =>
      updateRow rows subscription
        { subscription with
          status := .canceled
          canceledAt := some ((fromUnix stripeSub.canceledAt.field).getD now)
          cancelAtPeriodEnd := some false }

def handlePayment (rows : Rows) (invoice : Invoice) (write : Subscription → Subscription) :
    Except Failure (Handled × Rows) :=
  match invoice.subscription.field with
  | none => .ok (.noSubscription, rows)
  | some id =>
      match getSubscriptionByStripeId rows (some id) with
      | .error failure => .error failure
      | .ok none => .ok (.notFound, rows)
      | .ok (some subscription) => updateRow rows subscription (write subscription)

def handlePaymentSucceeded (rows : Rows) (invoice : Invoice) :
    Except Failure (Handled × Rows) :=
  handlePayment rows invoice fun subscription =>
    { subscription with
      status := .active
      currentPeriodStart := fromUnix invoice.periodStart.field
      currentPeriodEnd := fromUnix invoice.periodEnd.field }

def handlePaymentFailed (rows : Rows) (invoice : Invoice) : Except Failure (Handled × Rows) :=
  handlePayment rows invoice fun subscription => { subscription with status := .pastDue }

inductive Event where
  | created (stripeSub : StripeSubscription)
  | updated (stripeSub : StripeSubscription)
  | deleted (stripeSub : StripeSubscription) (now : Int)
  | paymentSucceeded (invoice : Invoice)
  | paymentFailed (invoice : Invoice)

def processWebhookEvent (context : Context) (rows : Rows) :
    Event → Except Failure (Handled × Rows)
  | .created stripeSub => handleSubscriptionCreated context rows stripeSub
  | .updated stripeSub => handleSubscriptionUpdated context rows stripeSub
  | .deleted stripeSub now => handleSubscriptionDeleted rows stripeSub now
  | .paymentSucceeded invoice => handlePaymentSucceeded rows invoice
  | .paymentFailed invoice => handlePaymentFailed rows invoice

/-- `cancel_subscription` and `resume_subscription` of a loaded row, with Stripe's answer. -/
def changeSubscription (rows : Rows) (loaded : Subscription)
    (answer : Option StripeSubscription) : Except Failure (Handled × Rows) :=
  match loaded.stripeSubscriptionId, answer with
  | none, _ => .error .noStripeSubscription
  | some _, none => .error .stripeFailed
  | some _, some stripeSub => updateFromStripe rows loaded stripeSub

end Elektrine.Subscriptions
