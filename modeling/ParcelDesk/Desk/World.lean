import ParcelDesk.Cache.Memory
import ParcelDesk.Store.Orders
import ParcelDesk.Store.Tokens
import ParcelDesk.Store.Users
import ParcelDesk.Task

/-!
What the desk stands on: the stores, the cache, a clock and a source of chance. Whatever the desk
does is a sequence of calls, each of them one indivisible step.
-/

namespace ParcelDesk.Desk

inductive Call : Type → Type where
  | now : Call Instant
  | suffix : Call (List Char)
  | tokenId : Call String
  | insertOrder (o : Order) : Call (Except Failure Order)
  | findOrders (f : OrderFilter) : Call (Except Failure (List Order × Nat))
  | deleteOrder (consignmentId : String) (userId : Int) : Call (Except Failure Nat)
  | findUser (name email : Option String) : Call (Except Failure (Option User))
  | saveToken (t : StoredToken) : Call (Except Failure StoredToken)
  | findToken (kind : TokenKind) (userId : Int) (token : String) :
      Call (Except Failure (Option StoredToken))
  | revokeTokens (kind : TokenKind) (userId : Int) : Call (Except Failure (List StoredToken))
  | cached (key : String) : Call (Except Cache.Outage (Option String))
  | cache (key value : String) (seconds : Nat) : Call (Except Cache.Outage Unit)
  | uncache (key : String) : Call (Except Cache.Outage Unit)
  | mirror (o : Order) : Call (Except Cache.Outage Unit)
  | evict (consignmentId : String) : Call (Except Cache.Outage Unit)

/-- Work of the desk, which may fail. -/
abbrev Work (α : Type) := Attempt Call Failure α

/-- A call that answers in any case. -/
def ask {α : Type} (c : Call α) : Work α := ExceptT.mk (Task.of c >>= fun a => pure (.ok a))

/-- A call on the cache whose outcome does not matter. -/
def bestEffort (c : Call (Except Cache.Outage Unit)) : Work Unit := Attempt.ignore (Attempt.of c)

/-- Suffixes of consignment ids and ids of tokens, in the order in which they come up. -/
structure Chance where
  suffix : Nat → List Char
  tokenId : Nat → String
  suffixes : Nat := 0
  tokenIds : Nat := 0

structure World where
  orders : OrderStore := {}
  users : UserStore := {}
  tokens : TokenStore := {}
  cache : Cache.Memory := {}
  clock : Instant
  chance : Chance

namespace World

/-- Puts a changed part back into the world. -/
def withOrders {α : Type} (w : World) : α × OrderStore → α × World
  | (a, orders) => (a, { w with orders })

def withTokens {α : Type} (w : World) : α × TokenStore → α × World
  | (a, tokens) => (a, { w with tokens })

def withCache {α : Type} (w : World) : α × Cache.Memory → α × World
  | (a, cache) => (a, { w with cache })

/-- Serves one call. -/
def serve : {β : Type} → Call β → World → β × World
  | _, .now, w => (w.clock, w)
  | _, .suffix, w =>
    (w.chance.suffix w.chance.suffixes,
      { w with chance := { w.chance with suffixes := w.chance.suffixes + 1 } })
  | _, .tokenId, w =>
    (w.chance.tokenId w.chance.tokenIds,
      { w with chance := { w.chance with tokenIds := w.chance.tokenIds + 1 } })
  | _, .insertOrder o, w => w.withOrders (w.orders.insert o)
  | _, .findOrders f, w => (w.orders.find f, w)
  | _, .deleteOrder consignmentId userId, w =>
    w.withOrders (w.orders.delete w.clock consignmentId userId)
  | _, .findUser name email, w => (.ok (w.users.find name email), w)
  | _, .saveToken t, w => w.withTokens (w.tokens.save t)
  | _, .findToken kind userId token, w => (w.tokens.findActive w.clock kind userId token, w)
  | _, .revokeTokens kind userId, w => w.withTokens (w.tokens.revokeAll w.clock kind userId)
  | _, .cached key, w => (w.cache.get key, w)
  | _, .cache key value seconds, w => w.withCache (w.cache.set key value seconds)
  | _, .uncache key, w => w.withCache (w.cache.delete key)
  | _, .mirror o, w => w.withCache (w.cache.mirror o)
  | _, .evict consignmentId, w => w.withCache (w.cache.evict consignmentId)

end World

end ParcelDesk.Desk
