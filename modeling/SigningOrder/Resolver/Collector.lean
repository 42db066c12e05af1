/-
The keys of who collects the fees of a token. A collector of a fee that is
charged in the token itself must always sign; another signs only where its
account says so, and all collectors must exist.
-/
import SigningOrder.Resolver.Role

namespace SigningOrder

/-- Whether a fee is charged in the token itself, where `own` says which tokens
are that. -/
def CustomFeeKind.inOwnToken (own : TokenId → Bool) : CustomFeeKind → Bool
  | .fixed fee => fee.denominatingToken.any own
  | .fractional _ => true
  | .royalty fee => (fee.fallback.bind (·.denominatingToken)).any own

namespace Resolver

/-- The key of the collector of a fee. -/
def collectorKey (r : Resolver) (own : TokenId → Bool) (fee : CustomFee) :
    Except Unresolved (List RequiredKey) := do
  let m ← r.findFor .invalidFeeCollector .account fee.collector
  return if fee.kind.inOwnToken own || m.receiverSigRequired then [.ofKey m.key]
    else []

/-- The keys of the collectors of fees. -/
def feeCollectors (r : Resolver) (own : TokenId → Bool)
    (fees : List CustomFee) :
    Except Unresolved (List RequiredKey) :=
  forEach (r.collectorKey own) fees

end Resolver

end SigningOrder
