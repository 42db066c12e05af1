/-
The keys of a transfer. Whoever gives something up signs, and before whoever
receives; a receiver signs only where its account says so, and all of them must
exist. A change of nothing makes its account a receiver.
-/
import SigningOrder.Resolver.Role

namespace SigningOrder

/-- An account in a transfer, and whether something is taken from it. -/
structure Party where
  account : AccountId
  debited : Bool
  deriving DecidableEq, Repr

namespace Party

/-- The account of a change. -/
def ofAmount (a : AccountAmount) : Party :=
  ⟨a.account, a.amount < 0⟩

/-- The two accounts of a unique token that changes its owner. -/
def ofNft (t : NftTransfer) : List Party :=
  [⟨t.sender, true⟩, ⟨t.receiver, false⟩]

end Party

namespace CryptoTransfer

/-- The accounts of a transfer, in the order of the submission. -/
def parties (op : CryptoTransfer) : List Party :=
  op.transfers.map .ofAmount ++ op.tokenTransfers.flatMap fun l =>
    l.transfers.map .ofAmount ++ l.nftTransfers.flatMap Party.ofNft

/-- The accounts that give something up. -/
def debited (op : CryptoTransfer) : List AccountId :=
  (op.parties.filter (·.debited)).map (·.account)

/-- The accounts that receive. -/
def credited (op : CryptoTransfer) : List AccountId :=
  (op.parties.filter (!·.debited)).map (·.account)

end CryptoTransfer

namespace Resolver

/-- The keys of a transfer. -/
def cryptoTransfer (r : Resolver) (op : CryptoTransfer) :
    Except Unresolved (List RequiredKey) := do
  let senders ← forEach (r.accountKey .missingAccount) op.debited
  let receivers ← forEach r.receiverKey op.credited
  return senders ++ receivers

end Resolver

end SigningOrder
