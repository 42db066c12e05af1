/-
Resolution: which keys must sign a transaction, and in what order. The key of
the payer and the keys of all other parties are resolved apart. Resolution is a
function of the transaction, the lookup and the waivers; it gives all keys or a
failure, never some.
-/
import SigningOrder.Resolver.Nested

namespace SigningOrder

/-- Which transaction the keys of an identifier sign for. -/
def TransactionId.scope (id : TransactionId) : Scope :=
  if id.scheduled then .scheduled else .outer

namespace Resolver

/-- The failure of a lookup of the payer. -/
def payerFailure : LookupError → Unresolved
  | .failure reason e =>
    if reason = .missingAccount then ⟨.invalidPayerAccount, some e⟩
    else ⟨.generalPayerError, some e⟩
  | .backend e _ => ⟨.generalPayerError, some e⟩

/-- The key of the payer, unless it is waived. -/
def payerKeys (r : Resolver) (t : Transaction) :
    Except Unresolved (List OrderedKey) :=
  if r.waivers.payer t then .ok []
  else
    match r.lookup .account t.payer with
    | .ok m => .ok [⟨m.key, t.id.scope, .standard⟩]
    | .error e => .error (payerFailure e)

/-- The keys of the other parties as they come, before any is dropped. -/
def collectKeys (r : Resolver) (t : Transaction) :
    Except Unresolved (List OrderedKey) :=
  match t.body with
  | .scheduleCreate scheduled terms =>
    r.scheduleCreate t.id t.id.scope scheduled terms
  | .scheduleSign op => r.scheduleSign t.id op
  | _ => (r.directKeys t).map fun keys => keys.map (.inScope t.id.scope)

/-- A failure as one of a transaction. -/
def failureOf (t : Transaction) (u : Unresolved) : OrderingFailure :=
  ⟨u.reason, u.entity, t.id⟩

/-- The order of the payer: its key, or none where it is waived. -/
def keysForPayer (r : Resolver) (t : Transaction) :
    Except OrderingFailure (List OrderedKey) :=
  (r.payerKeys t).mapError (failureOf t)

/-- The order of all other parties. -/
def keysForOtherParties (r : Resolver) (t : Transaction) :
    Except OrderingFailure (List OrderedKey) :=
  ((r.collectKeys t).map OrderedKey.dedup).mapError (failureOf t)

/-- A resolver with the waivers of a configuration. -/
def ofConfig (lookup : Lookup) (config : SigningConfig) : Resolver :=
  ⟨lookup, .ofConfig config⟩

end Resolver

end SigningOrder
