/-
What resolution asks for. To name the keys of a transaction, resolution wants
one thing after the other: that an entity be found, that a contract have an
admin key that can sign, that a schedule may hold what it holds. The first of
these demands that is not met stops it (`Resolver.StopsAt`).

The demands of an operation are a table of their own (`Body.demands`), apart
from how resolution goes about them: which entities it needs, in which order,
and in which role each of them is missed. A whole resolution makes those of
the operation, cut short by a waiver or by a token without a key, and through
a schedule those of the transaction that it holds (`Resolver.allDemands`,
`Resolver.Demanded`). How a demand is refused, and what is then reported, is
`Lookup.Refuses`. That resolution makes these demands and no others is proved
in `Asks.lean`.
-/
import SigningOrder.Proofs.Resolver.Control

namespace SigningOrder

-- ==================================================================== demands

/-- One thing that resolution asks for. -/
inductive Demand where
  /-- The entity is found; otherwise it is reported under its role. -/
  | entity {kind : EntityKind} (role : FailureReason) (id : EntityId kind)
  /-- The contract, which was found, has an admin key that can sign. -/
  | admin (role : FailureReason) (id : ContractId)
  /-- A schedule may hold the body. -/
  | schedulable (body : Body)

namespace Demand

/-- An entity whose absence has the reason of its kind. -/
def of {kind : EntityKind} (id : EntityId kind) : Demand :=
  .entity kind.absence id

/-- The reason that is reported where a demand is not met, unless the lookup
went wrong. -/
def role : Demand → FailureReason
  | entity role _ => role
  | admin role _ => role
  | schedulable _ => .unschedulableTransaction

/-- The entity whose answer decides a demand. -/
def entity? : Demand → Option EntityRef
  | entity _ id => some id.ref
  | admin _ id => some id.ref
  | schedulable _ => none

/-- A demand of the transaction in a schedule. Where it is not met, the keys
of that transaction cannot be named. -/
def inSchedule : Demand → Demand
  | entity _ id => entity .unresolvableRequiredSigners id
  | admin _ id => admin .unresolvableRequiredSigners id
  | schedulable body => schedulable body

/-- A schedule changes the reason of a demand, and not its entity. -/
@[simp] theorem entity?_inSchedule (d : Demand) :
    d.inSchedule.entity? = d.entity? := by
  cases d <;> rfl

/-- A demand that an operation makes by itself: on an entity, and with a
reason that blames neither the payer nor the lookup. -/
def IsDirect (d : Demand) : Prop :=
  d.entity?.isSome = true ∧ d.role.isPayerFailure = false
    ∧ d.role.isGeneral = false

end Demand

/-- A lookup of an entity of the kind went wrong: whatever it says, it does not
say that there is none. -/
def LookupError.IsFault (e : LookupError) (kind : EntityKind) : Prop :=
  e.reason? ≠ some kind.absence

namespace Lookup

/-- What is reported where a demand is not met. -/
def unmet (lookup : Lookup) : Demand → Option Unresolved
  | @Demand.entity kind role id =>
    match lookup kind id with
    | .ok _ => none
    | .error e => some (.ofLookup kind.absence role e)
  | .admin role id =>
    match lookup .contract id with
    | .ok m => if m.isImmutable then some ⟨role, some id.ref⟩ else none
    | .error _ => none
  | .schedulable body =>
    if body.isSchedulable then none
    else some ⟨.unschedulableTransaction, none⟩

/-- How a demand comes not to be met, and what is then reported. -/
inductive Refuses (lookup : Lookup) : Demand → Unresolved → Prop where
  | absent {kind : EntityKind} {role : FailureReason} {id : EntityId kind}
      {e : LookupError} : lookup kind id = .error e →
        e.reason? = some kind.absence →
        Refuses lookup (.entity role id) ⟨role, some e.entity⟩
  | fault {kind : EntityKind} {role : FailureReason} {id : EntityId kind}
      {e : LookupError} : lookup kind id = .error e → e.IsFault kind →
        Refuses lookup (.entity role id) ⟨.generalError, some e.entity⟩
  | keyless {role : FailureReason} {id : ContractId} {m : ContractMeta} :
      lookup .contract id = .ok m → m.adminKey = none →
        Refuses lookup (.admin role id) ⟨role, some id.ref⟩
  | unschedulable {body : Body} : body.isSchedulable = false →
      Refuses lookup (.schedulable body) ⟨.unschedulableTransaction, none⟩

/-- Two lookups answer alike for the entities of demands. -/
def AgreesOn (ds : List Demand) (lookup lookup' : Lookup) : Prop :=
  ∀ d ∈ ds, ∀ e, d.entity? = some e → lookup' e.kind e.id = lookup e.kind e.id

end Lookup

-- ================================================== of operation and schedule

/-- What the obtainer of a contract is asked for. -/
def Obtainer.demand : Obtainer → Demand
  | .account id => .of id
  | .contract id => .of id

/-- The accounts that collect fees, in the order of the fees. -/
def CustomFee.demands (fees : List CustomFee) : List Demand :=
  fees.map fun fee => .entity .invalidFeeCollector fee.collector

/-- What an operation asks for by itself, first to last. -/
def Body.demands : Body → List Demand
  | cryptoTransfer op => op.debited.map .of ++ op.credited.map .of
  | cryptoUpdate op => [.of op.account]
  | cryptoDelete op => [.of op.account, .of op.transferAccount]
  | fileAppend op => [.of op.file]
  | fileUpdate op => [.of op.file]
  | fileDelete op => [.of op.file]
  | contractUpdate op =>
    if op.needsAdmin then
      [.of op.contract, .admin .immutableContract op.contract]
    else []
  | contractDelete op =>
    [.of op.contract, .admin .immutableContract op.contract]
      ++ op.obtainer.toList.map Obtainer.demand
  | topicCreate op =>
    op.autoRenewAccount.toList.map (.entity .missingAutoRenewAccount)
  | topicUpdate op =>
    if op.expiryOnly then []
    else .of op.topic
      :: (op.autoRenewAccount.filter (!·.isSentinel)).toList.map
        (.entity .missingAutoRenewAccount)
  | topicDelete op => [.of op.topic]
  | submitMessage op => [.of op.topic]
  | tokenCreate op =>
    .of op.treasury
      :: (op.autoRenewAccount.toList.map (.entity .invalidAutoRenewAccount)
        ++ CustomFee.demands op.customFees)
  | tokenUpdate op =>
    .of op.token
      :: (op.treasury.toList.map .of
        ++ op.autoRenewAccount.toList.map (.entity .invalidAutoRenewAccount))
  | tokenDelete op => [.of op.token]
  | tokenFreeze op => [.of op.token]
  | tokenUnfreeze op => [.of op.token]
  | tokenGrantKyc op => [.of op.token]
  | tokenRevokeKyc op => [.of op.token]
  | tokenWipe op => [.of op.token]
  | tokenMint op => [.of op.token]
  | tokenBurn op => [.of op.token]
  | tokenAssociate op => [.of op.account]
  | tokenDissociate op => [.of op.account]
  | tokenFeeScheduleUpdate op =>
    .of op.token :: CustomFee.demands op.customFees
  | scheduleDelete op => [.of op.schedule]
  | _ => []

namespace Lookup

/-- Whether an operation ends at its token, which has no key that could allow
the operation. -/
def endsAtToken (lookup : Lookup) : Body → Bool
  | .tokenUpdate op =>
    match lookup .token op.token with
    | .ok m => m.adminKey.isNone
    | .error _ => false
  | .tokenFeeScheduleUpdate op =>
    match lookup .token op.token with
    | .ok m => m.feeScheduleKey.isNone
    | .error _ => false
  | _ => false

/-- What an operation that runs a schedule asks for besides what the
transaction in the schedule does. -/
def ownDemands (lookup : Lookup) (t : Transaction) : List Demand :=
  match t.body with
  | .scheduleCreate _ _ => (lookup.designated? t).toList.map .of
  | .scheduleSign op =>
    .of op.schedule :: (lookup.designated? t).toList.map .of
  | _ => []

end Lookup

namespace Resolver

/-- What a resolver asks for an operation: nothing where the controlling key
is waived, and no more than the token where the operation ends there. -/
def demands (r : Resolver) (t : Transaction) : List Demand :=
  if r.waivesControl t then []
  else if r.lookup.endsAtToken t.body then t.body.demands.take 1
  else t.body.demands

/-- What a resolver asks for a transaction, first to last. -/
def allDemands (r : Resolver) (t : Transaction) : List Demand :=
  r.lookup.ownDemands t ++
    match r.lookup.scheduled? t with
    | some body =>
      .schedulable body
        :: (r.demands (r.lookup.effective t)).map Demand.inSchedule
    | none => r.demands t

/-- What may be asked for, and in which role: an operation on a schedule asks
for what it needs itself and for a body that a schedule may hold, and the
demands of that body are made as those of a scheduled transaction. -/
inductive Demanded (r : Resolver) (t : Transaction) : Demand → Prop where
  | own {d : Demand} : d ∈ r.lookup.ownDemands t → Demanded r t d
  | direct {d : Demand} :
      r.lookup.scheduled? t = none → d ∈ t.body.demands → Demanded r t d
  | schedulable {body : Body} :
      r.lookup.scheduled? t = some body → Demanded r t (.schedulable body)
  | held {body : Body} {d : Demand} :
      r.lookup.scheduled? t = some body → d ∈ body.demands →
        Demanded r t d.inSchedule

/-- A resolver stops at the first demand that is not met. -/
def StopsAt (r : Resolver) (t : Transaction) (d : Demand) : Prop :=
  (r.lookup.unmet d).isSome = true
    ∧ ∃ met rest, r.allDemands t = met ++ d :: rest
      ∧ ∀ d' ∈ met, r.lookup.unmet d' = none

/-- Without a schedule, what an operation is asked for is all. -/
theorem allDemands_of_not_runsSchedule {r : Resolver} {t : Transaction}
    (h : t.body.runsSchedule = false) : r.allDemands t = r.demands t := by
  have hown : r.lookup.ownDemands t = [] := by
    obtain ⟨id, body⟩ := t
    cases body with
    | scheduleCreate scheduled terms => cases h
    | scheduleSign op => cases h
    | _ => rfl
  unfold allDemands
  rw [hown, Lookup.scheduled?_of_not_runsSchedule h]
  rfl

/-- Where nothing is waived, the first demand is made in any case. -/
theorem demands_eq_cons {r : Resolver} {t : Transaction} {d : Demand}
    {ds : List Demand} (hw : r.waivesControl t = false)
    (h : t.body.demands = d :: ds) :
    r.demands t = d :: if r.lookup.endsAtToken t.body then [] else ds := by
  unfold demands
  rw [hw, h]
  by_cases hends : r.lookup.endsAtToken t.body = true
  · rw [if_pos hends, if_pos hends]
    rfl
  · rw [if_neg hends, if_neg hends]
    rfl

/-- What a resolver asks for an operation is among what the operation asks
for by itself. -/
theorem demands_subset (r : Resolver) (t : Transaction) :
    r.demands t ⊆ t.body.demands := by
  unfold demands
  split
  · exact List.nil_subset _
  · split
    · exact List.take_subset 1 _
    · exact List.Subset.refl _

/-- Whatever a resolver asks for may be asked for. -/
theorem demanded_of_mem {r : Resolver} {t : Transaction} {d : Demand}
    (h : d ∈ r.allDemands t) : r.Demanded t d := by
  rcases List.mem_append.1 h with hown | h
  · exact .own hown
  · cases hbody : r.lookup.scheduled? t with
    | none =>
        rw [hbody] at h
        exact .direct hbody (demands_subset r t h)
    | some body =>
        rw [hbody] at h
        rcases List.mem_cons.1 h with rfl | h
        · exact .schedulable hbody
        · obtain ⟨inner, hinner, rfl⟩ := List.mem_map.1 h
          have hheld := demands_subset r _ hinner
          rw [Lookup.effective_of_scheduled hbody] at hheld
          exact .held hbody hheld

end Resolver

/-- A demand on an entity is direct if its reason is. -/
theorem Demand.isDirect_entity {kind : EntityKind}
    (role : FailureReason) (id : EntityId kind) :
    (Demand.entity role id).IsDirect
      ↔ role.isPayerFailure = false ∧ role.isGeneral = false := by
  simp [IsDirect, Demand.entity?, Demand.role]

/-- A demand that has the reason of its kind is direct. -/
theorem Demand.isDirect_of {kind : EntityKind} (id : EntityId kind) :
    (Demand.of id).IsDirect := by
  cases kind <;> exact ⟨rfl, rfl, rfl⟩

/-- Operations ask for entities only, and for reasons of the domain. -/
theorem Body.isDirect_of_mem_demands {b : Body} :
    ∀ d ∈ b.demands, d.IsDirect := by
  have hadmin (id : ContractId) :
      (Demand.admin .immutableContract id).IsDirect := ⟨rfl, rfl, rfl⟩
  have hobtainer (o : Obtainer) : o.demand.IsDirect := by
    cases o <;> exact Demand.isDirect_of _
  cases b with
  | contractUpdate op =>
      rw [demands]
      by_cases hadmins : op.needsAdmin = true
      · simp [hadmins, hadmin, Demand.isDirect_of]
      · simp [hadmins]
  | topicUpdate op =>
      rw [demands]
      by_cases hexpiry : op.expiryOnly = true
      · simp [hexpiry]
      · rw [if_neg hexpiry, List.forall_mem_cons]
        refine ⟨Demand.isDirect_of _, fun d hd => ?_⟩
        obtain ⟨id, -, rfl⟩ := List.mem_map.1 hd
        exact ⟨rfl, rfl, rfl⟩
  | _ =>
      simp [demands, CustomFee.demands, hadmin, hobtainer,
        Demand.isDirect_of, Demand.isDirect_entity,
        FailureReason.isPayerFailure, FailureReason.isGeneral, or_imp,
        forall_and]

-- =================================================================== refusals

/-- A demand is not met exactly if it is refused, and reports the refusal. -/
theorem Lookup.unmet_eq_some_iff {lookup : Lookup} {d : Demand}
    {u : Unresolved} : lookup.unmet d = some u ↔ lookup.Refuses d u := by
  constructor
  · intro h
    unfold unmet at h
    cases d with
    | @entity kind role id =>
        dsimp only at h
        cases hfound : lookup kind id with
        | ok m =>
            rw [hfound] at h
            cases h
        | error e =>
            rw [hfound] at h
            have hu : Unresolved.ofLookup kind.absence role e = u :=
              Option.some.inj h
            by_cases habsent : e.reason? = some kind.absence
            · rw [Unresolved.ofLookup_of_absent role habsent] at hu
              exact hu ▸ .absent hfound habsent
            · rw [Unresolved.ofLookup_of_fault role habsent] at hu
              exact hu ▸ .fault hfound habsent
    | admin role id =>
        dsimp only at h
        cases hfound : lookup .contract id with
        | error e =>
            rw [hfound] at h
            cases h
        | ok m =>
            rw [hfound] at h
            obtain ⟨himmutable, hu⟩ := Option.ite_none_right_eq_some.1 h
            cases Option.some.inj hu
            exact .keyless hfound (Option.isNone_iff_eq_none.1 himmutable)
    | schedulable body =>
        dsimp only at h
        obtain ⟨hsched, hu⟩ := Option.ite_none_left_eq_some.1 h
        cases Option.some.inj hu
        exact .unschedulable (eq_false_of_ne_true hsched)
  · intro h
    cases h with
    | absent hfound habsent =>
        simp only [unmet, hfound, Unresolved.ofLookup_of_absent _ habsent]
    | fault hfound hfault =>
        simp only [unmet, hfound, Unresolved.ofLookup_of_fault _ hfault]
    | keyless hfound hkey =>
        simp only [unmet, hfound, ContractMeta.isImmutable, hkey]
        rfl
    | unschedulable hsched => simp [unmet, hsched]

end SigningOrder
