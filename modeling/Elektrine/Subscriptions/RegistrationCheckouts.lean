import Elektrine.Subscriptions.Webhooks

/-!
# Registration checkouts

The deliveries of one registration checkout session: each makes sure that there is a record,
and then locks it in a transaction that creates an invite code and fulfils the record.  The
steps of several deliveries come in any order, and each may fail.
-/

namespace Elektrine.Subscriptions.Registration

structure SessionMetadata where
  purpose : Entry String
  priceId : Entry String
  product : Entry String
  registrationLookupToken : Entry String

structure CustomerDetails where
  email : Entry Identifier

structure Session where
  mode : Entry String
  paymentStatus : Entry String
  metadata : Entry SessionMetadata
  customer : Entry Identifier
  paymentIntent : Entry Identifier
  customerEmail : Entry Identifier
  customerDetails : Entry CustomerDetails
  created : Entry Timestamp

def Session.metadataValue (session : Session) (key : SessionMetadata → Entry String) :
    Option String :=
  session.metadata.field.bind fun metadata => (key metadata).field

def Session.paid (session : Session) : Bool := session.paymentStatus.field == some "paid"

def Session.isRegistration (session : Session) : Bool :=
  session.metadataValue SessionMetadata.purpose == some "registration_invite"

def registrationCustomerEmail (session : Session) : Option Identifier :=
  session.customerEmail.field.or
    (session.customerDetails.field.bind fun details => details.email.field)

inductive CheckoutStatus where
  | pending
  | fulfilled
  deriving DecidableEq, Repr

structure Checkout where
  stripeCheckoutSessionId : String
  lookupToken : String
  productSlug : String
  stripeCustomerId : Option Identifier
  stripePaymentIntentId : Option Identifier
  customerEmail : Option Identifier
  status : CheckoutStatus
  fulfilledAt : Option Int
  inviteCodeId : Option Nat
  deriving DecidableEq

structure InviteCode where
  id : Nat
  maxUses : Nat
  note : String
  deriving DecidableEq, Repr

/-- The products as a delivery finds them: the slug of a price, and whether a product is
bought once. -/
structure Products where
  fromPriceId : String → Option String
  oneTime : String → Option Bool

inductive Result where
  | ignored
  | purchase
  | checkout (checkout : Checkout)
  | failed
  deriving DecidableEq

/-- What a delivery has done so far.  From `locked` to `committing` it is in its transaction,
whose writes nobody sees before the commit. -/
inductive Stage where
  | requested
  | productFound (slug : String)
  | inserted
  | located
  | locked (checkout : Checkout)
  | codeEnsured (checkout : Checkout) (inviteCodeId : Nat) (created : Option InviteCode)
  | committing (answer : Checkout) (written : Option Checkout) (created : Option InviteCode)
  | returned (result : Result)
  | raised

def Stage.inTransaction : Stage → Bool
  | .locked _ | .codeEnsured _ _ _ | .committing _ _ _ => true
  | _ => false

structure Delivery where
  session : Session
  products : Products
  now : Int
  stage : Stage

structure State where
  record : Option Checkout
  inviteCodes : List InviteCode
  nextInviteCode : Nat
  lock : Option Nat
  deliveries : List Delivery

inductive StepOutcome where
  | succeeds
  | fails
  | raises
  deriving DecidableEq, Repr

inductive Move where
  | recordCheckout (productSlug lookupToken : String) (session : Session)
  | deliver (session : Session) (products : Products) (now : Int)
  | advance (index : Nat) (outcome : StepOutcome)

section

variable (hashLookupToken : String → String) (sessionId : String)

/-- `present?` -/
def isPresent (text : String) : Bool := (present text).isSome

def newRecord (productSlug lookupToken : String) (session : Session) : Checkout where
  stripeCheckoutSessionId := sessionId
  lookupToken := hashLookupToken lookupToken
  productSlug := productSlug
  stripeCustomerId := session.customer.field
  stripePaymentIntentId := session.paymentIntent.field
  customerEmail := registrationCustomerEmail session
  status := .pending
  fulfilledAt := none
  inviteCodeId := none

/-- `Repo.insert(on_conflict: :nothing)` -/
def State.insertRecord (state : State) (new : Checkout) : State :=
  { state with record := some (state.record.getD new) }

def State.getBySessionId (state : State) : Option Checkout :=
  state.record.filter fun checkout => checkout.stripeCheckoutSessionId == trim sessionId

/-- `fulfill_changeset` of the locked record. -/
def fulfill (delivery : Delivery) (checkout : Checkout) (inviteCodeId : Nat) : Checkout :=
  { checkout with
    stripeCustomerId := delivery.session.customer.field
    stripePaymentIntentId := delivery.session.paymentIntent.field
    customerEmail := registrationCustomerEmail delivery.session
    fulfilledAt := some ((fromUnix delivery.session.created.field).getD delivery.now)
    status := .fulfilled
    inviteCodeId := some inviteCodeId }

def State.set (state : State) (index : Nat) (delivery : Delivery) (stage : Stage) : State :=
  { state with deliveries := state.deliveries.set index { delivery with stage := stage } }

def State.release (state : State) (index : Nat) (delivery : Delivery) (stage : Stage) : State :=
  { state with
    lock := none
    deliveries := state.deliveries.set index { delivery with stage := stage } }

/-- The checks of `handle_checkout_session_completed` and `fulfill_registration_checkout`. -/
def Delivery.check (delivery : Delivery) : Stage :=
  let session := delivery.session
  if session.mode.field ≠ some "payment" then .returned .ignored
  else if session.paid = false then .returned .ignored
  else if session.isRegistration = false then .returned .purchase
  else
    let slug := (session.metadataValue SessionMetadata.product).or
      ((session.metadataValue SessionMetadata.priceId).bind delivery.products.fromPriceId)
    match slug with
    | none => .raised
    | some slug =>
        match delivery.products.oneTime slug with
        | some true => .productFound slug
        | _ => .returned .ignored

/-- `ensure_registration_checkout_record` up to its insert. -/
def State.ensureRecord (state : State) (index : Nat) (delivery : Delivery) (slug : String) :
    State :=
  match delivery.session.metadataValue SessionMetadata.registrationLookupToken with
  | some token =>
      if isPresent sessionId && isPresent token then
        (state.insertRecord (newRecord hashLookupToken sessionId slug token delivery.session)).set
          index delivery .inserted
      else state.set index delivery (.returned .ignored)
  | none => state.set index delivery (.returned .ignored)

def State.locate (state : State) : Stage :=
  match state.getBySessionId sessionId with
  | none => .returned .ignored
  | some _ => .located

/-- `FOR UPDATE` waits for the transaction that has the lock, and reads the row again. -/
def State.lockRecord (state : State) (index : Nat) (delivery : Delivery) : State :=
  match state.lock, state.record with
  | some _, _ => state
  | none, none => state.set index delivery .raised
  | none, some checkout =>
      { state with
        lock := some index
        deliveries := state.deliveries.set index { delivery with stage := .locked checkout } }

/-- `Accounts.create_invite_code` for the checkout; the id is used up also by a transaction
that is rolled back. -/
def newInviteCode (checkout : Checkout) (id : Nat) : InviteCode where
  id := id
  maxUses := 1
  note := "Paid registration checkout " ++ checkout.stripeCheckoutSessionId

def State.takeCode (state : State) (index : Nat) (delivery : Delivery) (stage : Stage) : State :=
  { state with
    nextInviteCode := state.nextInviteCode + 1
    deliveries := state.deliveries.set index { delivery with stage := stage } }

/-- `ensure_registration_invite_code` for a record that is fulfilled, else
`ensure_registration_invite_code_id`: a record without a code gets a new one. -/
def State.ensureCode (state : State) (index : Nat) (delivery : Delivery) (checkout : Checkout) :
    State :=
  let code := newInviteCode checkout state.nextInviteCode
  match checkout.status, checkout.inviteCodeId with
  | .fulfilled, some _ => state.set index delivery (.committing checkout none none)
  | .fulfilled, none => state.takeCode index delivery (.committing checkout none (some code))
  | .pending, some id => state.set index delivery (.codeEnsured checkout id none)
  | .pending, none =>
      state.takeCode index delivery (.codeEnsured checkout code.id (some code))

def State.commit (state : State) (index : Nat) (delivery : Delivery) (answer : Checkout)
    (written : Option Checkout) (created : Option InviteCode) : State :=
  { state with
    record := written.or state.record
    inviteCodes := state.inviteCodes ++ created.toList
    lock := none
    deliveries := state.deliveries.set index
      { delivery with stage := .returned (.checkout answer) } }

def State.succeed (state : State) (index : Nat) (delivery : Delivery) : State :=
  match delivery.stage with
  | .requested => state.set index delivery delivery.check
  | .productFound slug => state.ensureRecord hashLookupToken sessionId index delivery slug
  | .inserted => state.set index delivery (state.locate sessionId)
  | .located => state.lockRecord index delivery
  | .locked checkout => state.ensureCode index delivery checkout
  | .codeEnsured checkout id created =>
      let fulfilled := fulfill delivery checkout id
      state.set index delivery (.committing fulfilled (some fulfilled) created)
  | .committing answer written created => state.commit index delivery answer written created
  | .returned _ | .raised => state

/-- A step that fails: the result of the insert is not looked at, the reads in front of the
transaction raise, and the transaction is rolled back. -/
def State.fail (state : State) (index : Nat) (delivery : Delivery) : State :=
  match delivery.stage with
  | .requested | .inserted | .located => state.set index delivery .raised
  | .productFound _ => state.set index delivery .inserted
  | .locked _ | .codeEnsured _ _ _ | .committing _ _ _ =>
      state.release index delivery (.returned .failed)
  | .returned _ | .raised => state

def State.raise (state : State) (index : Nat) (delivery : Delivery) : State :=
  match delivery.stage with
  | .locked _ | .codeEnsured _ _ _ | .committing _ _ _ => state.release index delivery .raised
  | .returned _ | .raised => state
  | _ => state.set index delivery .raised

def step (state : State) (move : Move) : State :=
  match move with
  | .recordCheckout productSlug lookupToken session =>
      if isPresent sessionId && isPresent lookupToken then
        state.insertRecord (newRecord hashLookupToken sessionId productSlug lookupToken session)
      else state
  | .deliver session products now =>
      { state with deliveries := state.deliveries ++ [⟨session, products, now, .requested⟩] }
  | .advance index outcome =>
      match state.deliveries[index]? with
      | none => state
      | some delivery =>
          match outcome with
          | .succeeds => state.succeed hashLookupToken sessionId index delivery
          | .fails => state.fail index delivery
          | .raises => state.raise index delivery

end

def start : State := ⟨none, [], 1, none, []⟩

structure OneInvite (state : State) : Prop where
  single : state.inviteCodes.length ≤ 1
  paid : state.inviteCodes ≠ [] →
    ∃ delivery ∈ state.deliveries, delivery.session.paid = true
  linked : ∀ delivery ∈ state.deliveries, ∀ checkout,
    delivery.stage = .returned (.checkout checkout) →
    state.record = some checkout ∧ checkout.status = .fulfilled ∧
      ∃ code ∈ state.inviteCodes, checkout.inviteCodeId = some code.id

end Elektrine.Subscriptions.Registration
