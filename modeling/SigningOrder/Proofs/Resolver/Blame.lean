/-
Whom a failure blames, and for what. Resolution looks up many entities and
stops at the first that it cannot do without; one account may be looked up as
a treasury, as an auto-renew account and as a collector, and is missed under a
different reason each time. `failure_blames_demanded` says that the report is
about the entity at which resolution stopped, that this entity was indeed
refused, and that an absence is reported for the role in which it was asked
for.

A schedule adds one rule. The schedule itself and who is to pay for it are
reported as they are, but what is missing for the transaction that it holds
says only that its signers cannot be named: `schedule_hides_role` shows a
missing account that is not reported as one.
-/
import SigningOrder.Proofs.Resolver.Asks
import SigningOrder.Proofs.Resolver.Scheduled

namespace SigningOrder

/-- The errors of a lookup name the entity that was asked for. -/
def Lookup.NamesAsked (lookup : Lookup) : Prop :=
  ∀ (kind : EntityKind) (id : EntityId kind) (e : LookupError),
    lookup kind id = .error e → e.entity = id.ref

namespace Resolver

/-- A failure blames what was demanded and refused. A schedule may not hold
the body, and no entity is to blame; or resolution stopped at an entity that
was demanded in some role, and either

- the entity could not be looked up, and the reason is that of the role where
  it is absent, and general otherwise; or
- the entity is a contract that was found, but has no admin key that can sign,
  and the reason is that of the role. -/
theorem failure_blames_demanded (r : Resolver) (t : Transaction)
    (f : OrderingFailure) (hnames : r.lookup.NamesAsked)
    (h : r.keysForOtherParties t = .error f) :
    f = ⟨.unschedulableTransaction, none, t.id⟩
      ∨ ∃ d, r.Demanded t d ∧ r.StopsAt t d
        ∧ ((∃ (kind : EntityKind) (role : FailureReason) (id : EntityId kind)
              (e : LookupError), d = .entity role id
                ∧ r.lookup kind id = .error e
                ∧ f = ⟨if e.reason? = some kind.absence then role
                    else .generalError, some id.ref, t.id⟩)
          ∨ ∃ (role : FailureReason) (id : ContractId) (m : ContractMeta),
              d = .admin role id ∧ r.lookup .contract id = .ok m
                ∧ m.adminKey = none ∧ f = ⟨role, some id.ref, t.id⟩) := by
  obtain ⟨d, u, hstop, hrefuses, rfl⟩ := stopsAt_of_error h
  have hdemanded := hstop.demanded
  cases hrefuses with
  | unschedulable _ => exact .inl rfl
  | @absent kind role id e hfound habsent =>
      refine .inr ⟨_, hdemanded, hstop, .inl ?_⟩
      refine ⟨kind, role, id, e, rfl, hfound, ?_⟩
      rw [if_pos habsent, ← hnames kind id e hfound]
      rfl
  | @fault kind role id e hfound hfault =>
      refine .inr ⟨_, hdemanded, hstop, .inl ?_⟩
      refine ⟨kind, role, id, e, rfl, hfound, ?_⟩
      rw [if_neg hfault, ← hnames kind id e hfound]
      rfl
  | keyless hfound hkey =>
      refine .inr ⟨_, hdemanded, hstop, .inr ?_⟩
      exact ⟨_, _, _, rfl, hfound, hkey, rfl⟩

-- ========================================================== a missing account

/-- The ledger of the deletion, without the account that is to be deleted. -/
def withoutTarget : Resolver where
  lookup := estate.lookup.withKind .account fun id =>
    if id = .ofNum 100 then .error (.absent id)
    else estate.lookup .account id
  waivers := .nothing

/-- What this ledger lacks it names. -/
theorem withoutTarget_namesAsked : withoutTarget.lookup.NamesAsked := by
  intro kind id e h
  cases kind with
  | account =>
      by_cases hid : id = .ofNum 100
      · cases h.symm.trans (if_pos hid)
        rfl
      · cases h.symm.trans (if_neg hid)
  | schedule =>
      by_cases hid : id = .ofNum 1801
      · cases h.symm.trans (if_pos hid)
      · cases h.symm.trans (if_neg hid)
  | _ =>
      cases h
      rfl

/-- Creates a token; the account that is missing is to renew it, and to collect
a fee. -/
def issue : Transaction :=
  Sample.txn (.ofNum 1001)
    (.tokenCreate ⟨"", "", .ofNum 50, some (.ofNum 100), none, none, none,
      none, none, none, [.ofFixed (.ofNum 100) 1 none], false⟩)

/-- The account is missed as the one that is to renew the token, which is its
first role. -/
theorem failure_blames_demanded_renewal :
    withoutTarget.lookup.NamesAsked
      ∧ withoutTarget.keysForOtherParties issue
        = .error ⟨.invalidAutoRenewAccount,
          some (EntityId.ref (.ofNum 100 : AccountId)), issue.id⟩
      ∧ ∃ d, withoutTarget.Demanded issue d ∧ withoutTarget.StopsAt issue d
        ∧ d.role = .invalidAutoRenewAccount
        ∧ d.entity? = some (EntityId.ref (.ofNum 100 : AccountId)) := by
  refine ⟨withoutTarget_namesAsked, rfl, ?_⟩
  rcases failure_blames_demanded withoutTarget issue _ withoutTarget_namesAsked
    rfl with hnone | ⟨d, hdemanded, hstop, hlookup | hadmin⟩
  · cases hnone
  · obtain ⟨kind, role, id, e, rfl, -, hf⟩ := hlookup
    obtain ⟨hreason, hentity, -⟩ := OrderingFailure.mk.inj hf
    refine ⟨_, hdemanded, hstop, ?_, hentity.symm⟩
    by_cases habsent : e.reason? = some kind.absence
    · rw [if_pos habsent] at hreason
      exact hreason.symm
    · rw [if_neg habsent] at hreason
      cases hreason
  · obtain ⟨role, id, m, rfl, -, -, hf⟩ := hadmin
    obtain ⟨hreason, hentity, -⟩ := OrderingFailure.mk.inj hf
    exact ⟨_, hdemanded, hstop, hreason.symm, hentity.symm⟩

/-- Creates a schedule for the deletion. -/
def createBequest : Transaction :=
  Sample.txn (.ofNum 1001) (.scheduleCreate bequest ⟨none, none, ""⟩)

/-- In a schedule the role is not reported: the account that is to be deleted
is absent, and the deletion names it as an account, but no reason of an account
is given. -/
theorem schedule_hides_role :
    withoutTarget.lookup.NamesAsked
      ∧ withoutTarget.keysForOtherParties createBequest
        = .error ⟨.unresolvableRequiredSigners,
          some (EntityId.ref (.ofNum 100 : AccountId)), createBequest.id⟩
      ∧ withoutTarget.lookup .account (.ofNum 100)
        = .error (.failure .missingAccount
          (EntityId.ref (.ofNum 100 : AccountId)))
      ∧ ∀ d ∈ bequest.demands, d.role = .missingAccount :=
  ⟨withoutTarget_namesAsked, rfl, rfl, by decide⟩

end Resolver

end SigningOrder
