import SigningOrder.Config.Load
import SigningOrder.Key.Text
import SigningOrder.Report
import SigningOrder.Resolver
import SigningOrder.Sample.Ledger
import SigningOrder.Proofs.Key.Decoding
import SigningOrder.Proofs.Key.Canonical
import SigningOrder.Proofs.Key.Built
import SigningOrder.Proofs.Key.Satisfied
import SigningOrder.Proofs.Order.Dedup
import SigningOrder.Proofs.Resolver.Effective
import SigningOrder.Proofs.Resolver.Rule
import SigningOrder.Proofs.Resolver.Control
import SigningOrder.Proofs.Resolver.Authority
import SigningOrder.Proofs.Resolver.Wacl
import SigningOrder.Proofs.Policy.Privileged
import SigningOrder.Proofs.Resolver.Waived
import SigningOrder.Proofs.Resolver.Scheduled
import SigningOrder.Proofs.Store.History
import SigningOrder.Proofs.Resolver.Marker
import SigningOrder.Proofs.Resolver.Fault
import SigningOrder.Proofs.Resolver.Blame
import SigningOrder.Proofs.Resolver.Footprint
import SigningOrder.Proofs.Store.Numbers
import SigningOrder.Proofs.Resolver.Receivers
import SigningOrder.Proofs.Resolver.Submitter
import SigningOrder.Proofs.Policy.Treasury
import SigningOrder.Proofs.Resolver.Scope
import SigningOrder.Proofs.Policy.FileRule
import SigningOrder.Proofs.Order.First
import SigningOrder.Proofs.Resolver.Revocation
import SigningOrder.Proofs.Resolver.Accounts
import SigningOrder.Proofs.Resolver.Transfer
import SigningOrder.Proofs.Resolver.Collectors
import SigningOrder.Proofs.Key.Activation
import SigningOrder.Proofs.Entity.Text
import SigningOrder.Proofs.Key.Delimited
import SigningOrder.Proofs.Key.Walk
import SigningOrder.Proofs.Key.Contract
import SigningOrder.Proofs.Transaction.Text
