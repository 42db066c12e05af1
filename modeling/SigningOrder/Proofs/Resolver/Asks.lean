/-
Resolution asks what it demands. `Asks x l ds` says of a chain `x` that on the
lookup `l` it asks `ds`, in this order, and nothing else. It has two halves:
the chain fails exactly at the first demand that is not met, and with what
that demand reports (`stops`); and its outcome is the same on any lookup that
answers alike for the entities of the demands (`same`).

Both halves pass from the steps of a chain to the chain, with one law for each
way of putting steps together, so one lemma for each operation gives both, and
`asks_collectKeys` gives them for whole resolutions. What failures there are
and whom they blame is read off the first half
(`stopsAt_of_error`), what an outcome depends on off the second
(`keysForOtherParties_congr`), and no chain is opened for either again.

A demand that comes behind a failure is never reached, so what stands there
does not matter (`Asks.bind`). It is what lets the list of an operation be
written down without saying how far its chain comes.
-/
import SigningOrder.Proofs.Resolver.Demand

namespace SigningOrder

/-- The failure of a chain that fails. -/
def failure? {α : Type} : Except Unresolved α → Option Unresolved
  | .ok _ => none
  | .error u => some u

/-- On a lookup, a chain asks for these demands, and for nothing else. -/
structure Asks {α : Type} (x : Lookup → Except Unresolved α) (l : Lookup)
    (ds : List Demand) : Prop where
  stops : failure? (x l) = ds.findSome? l.unmet
  same : ∀ l', l.AgreesOn ds l' → x l' = x l

variable {α β : Type} {l : Lookup} {w : Waivers} {A B : List Demand}
  {x : Lookup → Except Unresolved α}

-- ===================================================================== chains

namespace Asks

/-- What is no look-up at all asks for nothing. -/
theorem ok (a : α) : Asks (fun _ => .ok a) l [] :=
  ⟨rfl, fun _ _ => rfl⟩

/-- A chain asks what its first step asks, and then what the rest does. -/
theorem bind {f : Lookup → α → Except Unresolved β} (hx : Asks x l A)
    (hf : ∀ a, x l = .ok a → Asks (fun l' => f l' a) l B) :
    Asks (fun l' => x l' >>= f l') l (A ++ B) := by
  constructor
  · rw [List.findSome?_append, ← hx.stops]
    cases hstep : x l with
    | error u => rfl
    | ok a => exact (hf a hstep).stops
  · intro l' hagrees
    have hfirst : x l' = x l :=
      hx.same l' fun d hd => hagrees d (List.mem_append_left _ hd)
    rw [hfirst]
    cases hstep : x l with
    | error u => rfl
    | ok a =>
        exact (hf a hstep).same l' fun d hd =>
          hagrees d (List.mem_append_right _ hd)

/-- The same behind a step that asks for one thing. -/
theorem cons {d : Demand} {f : Lookup → α → Except Unresolved β}
    (hx : Asks x l [d])
    (hf : ∀ a, x l = .ok a → Asks (fun l' => f l' a) l B) :
    Asks (fun l' => x l' >>= f l') l (d :: B) :=
  hx.bind hf

/-- What is made of the last step asks for nothing more. -/
theorem map (hx : Asks x l A) (g : α → β) :
    Asks (fun l' => x l' >>= fun a => pure (g a)) l A := by
  rw [← A.append_nil]
  exact hx.bind fun a _ => ok (g a)

end Asks

/-- A value that may be there asks for what it asks where it is. -/
theorem asks_whenSome {value : Option α}
    {f : Lookup → α → Except Unresolved (List RequiredKey)} {d : α → Demand}
    (h : ∀ a, Asks (fun l' => f l' a) l [d a]) :
    Asks (fun l' => Resolver.whenSome value (f l')) l
      (value.toList.map d) := by
  cases value with
  | none => exact .ok []
  | some a => exact h a

/-- Several values ask one after the other. -/
theorem asks_forEach {f : Lookup → α → Except Unresolved (List RequiredKey)}
    {d : α → Demand} (h : ∀ a, Asks (fun l' => f l' a) l [d a]) :
    ∀ as : List α, Asks (fun l' => Resolver.forEach (f l') as) l (as.map d)
  | [] => .ok []
  | a :: as => by
      unfold Resolver.forEach
      exact (h a).cons fun first _ => (asks_forEach h as).map (first ++ ·)

-- ====================================================================== steps

namespace Resolver

/-- An entity is asked for under its role. -/
theorem asks_findFor (role : FailureReason) (kind : EntityKind)
    (id : EntityId kind) :
    Asks (fun l' => findFor ⟨l', w⟩ role kind id) l [.entity role id] := by
  constructor
  · rw [List.findSome?_singleton]
    unfold findFor Lookup.unmet
    dsimp only
    cases l kind id <;> rfl
  · intro l' hagrees
    have hsame : l' kind id = l kind id :=
      hagrees _ (List.mem_singleton_self _) id.ref rfl
    unfold findFor
    dsimp only
    rw [hsame]

theorem asks_find (kind : EntityKind) (id : EntityId kind) :
    Asks (fun l' => find ⟨l', w⟩ kind id) l [.of id] :=
  asks_findFor kind.absence kind id

theorem asks_accountKey (role : FailureReason) (id : AccountId) :
    Asks (fun l' => accountKey ⟨l', w⟩ role id) l [.entity role id] := by
  unfold accountKey
  exact (asks_findFor role .account id).map _

theorem asks_receiverKey (id : AccountId) :
    Asks (fun l' => receiverKey ⟨l', w⟩ id) l [.of id] := by
  unfold receiverKey
  exact (asks_find .account id).map _

theorem asks_collectorKey (own : TokenId → Bool) (fee : CustomFee) :
    Asks (fun l' => collectorKey ⟨l', w⟩ own fee) l
      [.entity .invalidFeeCollector fee.collector] := by
  unfold collectorKey
  exact (asks_findFor .invalidFeeCollector .account fee.collector).map _

theorem asks_feeCollectors (own : TokenId → Bool) (fees : List CustomFee) :
    Asks (fun l' => feeCollectors ⟨l', w⟩ own fees) l
      (CustomFee.demands fees) :=
  asks_forEach (asks_collectorKey own) fees

theorem asks_obtainerKey (o : Obtainer) :
    Asks (fun l' => obtainerKey ⟨l', w⟩ o) l [o.demand] := by
  cases o with
  | account id => exact asks_receiverKey id
  | contract id => exact (asks_find .contract id).map _

/-- A contract is asked for, and then for an admin key. -/
theorem asks_contractAdmin (id : ContractId) :
    Asks (fun l' => contractAdmin ⟨l', w⟩ id) l
      [.of id, .admin .immutableContract id] := by
  unfold contractAdmin
  refine (asks_find .contract id).cons fun m hm => ?_
  have hfound : l .contract id = .ok m := findFor_eq_ok.1 hm
  refine ⟨?_, fun _ _ => rfl⟩
  rw [List.findSome?_singleton]
  simp only [Lookup.unmet, hfound]
  rw [ContractMeta.isImmutable]
  cases m.adminKey <;> rfl

-- ===================================================== operation by operation

theorem asks_cryptoTransfer (op : CryptoTransfer) :
    Asks (fun l' => cryptoTransfer ⟨l', w⟩ op) l
      (op.debited.map .of ++ op.credited.map .of) := by
  unfold cryptoTransfer
  refine (asks_forEach (asks_accountKey .missingAccount) op.debited).bind
    fun senders _ => ?_
  exact (asks_forEach asks_receiverKey op.credited).map (senders ++ ·)

theorem asks_cryptoUpdate (t : Transaction) (op : CryptoUpdate) :
    Asks (fun l' => cryptoUpdate ⟨l', w⟩ t op) l
      (if w.targetAccount t then [] else [.of op.account]) := by
  simp only [cryptoUpdate_eq]
  refine Asks.map ?_ fun present : List RequiredKey =>
    present ++ if w.newAccount t then [] else optionalKey op.key
  by_cases hwaived : w.targetAccount t = true
  · simp only [if_pos hwaived]
    exact .ok []
  · simp only [if_neg hwaived]
    exact asks_accountKey .missingAccount op.account

theorem asks_cryptoDelete (op : CryptoDelete) :
    Asks (fun l' => cryptoDelete ⟨l', w⟩ op) l
      [.of op.account, .of op.transferAccount] := by
  unfold cryptoDelete
  refine (asks_accountKey .missingAccount op.account).cons fun target _ => ?_
  exact (asks_receiverKey op.transferAccount).map (target ++ ·)

theorem asks_fileAppend (t : Transaction) (op : FileAppend) :
    Asks (fun l' => fileAppend ⟨l', w⟩ t op) l
      (if w.appendedFile t then [] else [.of op.file]) := by
  unfold fileAppend
  by_cases hwaived : w.appendedFile t = true
  · simp only [if_pos hwaived]
    exact .ok _
  · simp only [if_neg hwaived]
    exact (asks_find .file op.file).map _

theorem asks_fileUpdate (t : Transaction) (op : FileUpdate) :
    Asks (fun l' => fileUpdate ⟨l', w⟩ t op) l
      (if w.targetFile t then [] else [.of op.file]) := by
  unfold fileUpdate
  by_cases hwaived : w.targetFile t = true
  · simp only [if_pos hwaived]
    exact .ok (newFileKeys ⟨l, w⟩ t op)
  · simp only [if_neg hwaived]
    refine (asks_find .file op.file).cons fun m _ => ?_
    cases m.wacl with
    | none => exact .ok []
    | some present =>
        exact .ok (.ofWacl present (presentRule op)
          :: newFileKeys ⟨l, w⟩ t op)

theorem asks_fileDelete (op : FileDelete) :
    Asks (fun l' => fileDelete ⟨l', w⟩ op) l [.of op.file] :=
  (asks_find .file op.file).map fun m : FileMeta =>
    optionalWacl m.wacl .topLevelFile

theorem asks_contractUpdate (op : ContractUpdate) :
    Asks (fun l' => contractUpdate ⟨l', w⟩ op) l
      (Body.contractUpdate op).demands := by
  simp only [contractUpdate_eq, Body.demands]
  refine Asks.map ?_ fun present : List RequiredKey =>
    present ++ optionalKey (Key.usable op.adminKey)
  by_cases hadmin : op.needsAdmin = true
  · simp only [if_pos hadmin]
    exact asks_contractAdmin op.contract
  · simp only [if_neg hadmin]
    exact .ok []

theorem asks_contractDelete (op : ContractDelete) :
    Asks (fun l' => contractDelete ⟨l', w⟩ op) l
      (Body.contractDelete op).demands := by
  unfold contractDelete
  refine (asks_contractAdmin op.contract).bind fun present _ => ?_
  exact (asks_whenSome asks_obtainerKey).map (present ++ ·)

theorem asks_topicCreate (op : TopicCreate) :
    Asks (fun l' => topicCreate ⟨l', w⟩ op) l (Body.topicCreate op).demands :=
  (asks_whenSome (asks_accountKey .missingAutoRenewAccount)).map
    (optionalKey op.adminKey ++ ·)

theorem asks_topicUpdate (op : TopicUpdate) :
    Asks (fun l' => topicUpdate ⟨l', w⟩ op) l
      (Body.topicUpdate op).demands := by
  unfold topicUpdate
  simp only [Body.demands]
  by_cases hexpiry : op.expiryOnly = true
  · simp only [if_pos hexpiry]
    exact .ok _
  · simp only [if_neg hexpiry]
    refine (asks_find .topic op.topic).cons fun m _ => ?_
    exact (asks_whenSome (asks_accountKey .missingAutoRenewAccount)).map _

theorem asks_tokenCreate (op : TokenCreate) :
    Asks (fun l' => tokenCreate ⟨l', w⟩ op) l
      (Body.tokenCreate op).demands := by
  unfold tokenCreate
  refine (asks_accountKey .missingAccount op.treasury).cons
    fun treasury _ => ?_
  refine (asks_whenSome (asks_accountKey .invalidAutoRenewAccount)).bind
    fun renewal _ => ?_
  exact (asks_feeCollectors _ op.customFees).map _

/-- A token without an admin key ends the update. -/
theorem asks_tokenUpdate (op : TokenUpdate) :
    Asks (fun l' => tokenUpdate ⟨l', w⟩ op) l
      (.of op.token :: if l.endsAtToken (.tokenUpdate op) then []
        else (Body.tokenUpdate op).demands.tail) := by
  unfold tokenUpdate
  refine (asks_find .token op.token).cons fun m hm => ?_
  have hfound : l .token op.token = .ok m := findFor_eq_ok.1 hm
  have hends : l.endsAtToken (.tokenUpdate op) = m.adminKey.isNone := by
    simp only [Lookup.endsAtToken, hfound]
  rw [hends]
  cases m.adminKey with
  | none => exact .ok _
  | some admin =>
      refine (asks_whenSome (asks_accountKey .missingAccount)).bind
        fun treasury _ => ?_
      exact (asks_whenSome (asks_accountKey .invalidAutoRenewAccount)).map _

/-- A token without a key for its fees ends the change of them. -/
theorem asks_tokenFeeScheduleUpdate (op : TokenFeeScheduleUpdate) :
    Asks (fun l' => tokenFeeScheduleUpdate ⟨l', w⟩ op) l
      (.of op.token :: if l.endsAtToken (.tokenFeeScheduleUpdate op) then []
        else (Body.tokenFeeScheduleUpdate op).demands.tail) := by
  unfold tokenFeeScheduleUpdate
  refine (asks_find .token op.token).cons fun m hm => ?_
  have hfound : l .token op.token = .ok m := findFor_eq_ok.1 hm
  have hends : l.endsAtToken (.tokenFeeScheduleUpdate op)
      = m.feeScheduleKey.isNone := by
    simp only [Lookup.endsAtToken, hfound]
  rw [hends]
  cases m.feeScheduleKey with
  | none => exact .ok _
  | some k => exact (asks_feeCollectors _ op.customFees).map (.ofKey k :: ·)

theorem asks_tokenRole (role : TokenMeta → Option Key) (id : TokenId) :
    Asks (fun l' => tokenRole ⟨l', w⟩ role id) l [.of id] :=
  (asks_find .token id).map fun m => optionalKey (role m)

-- ============================================================= all operations

/-- An operation asks what is demanded for it. -/
theorem asks_directKeys (t : Transaction) :
    Asks (fun l' => directKeys ⟨l', w⟩ t) l (demands ⟨l, w⟩ t) := by
  obtain ⟨id, body⟩ := t
  cases body with
  | cryptoTransfer op => exact asks_cryptoTransfer op
  | cryptoUpdate op => exact asks_cryptoUpdate _ op
  | cryptoDelete op => exact asks_cryptoDelete op
  | fileAppend op => exact asks_fileAppend _ op
  | fileUpdate op => exact asks_fileUpdate _ op
  | fileDelete op => exact asks_fileDelete op
  | contractUpdate op => exact asks_contractUpdate op
  | contractDelete op => exact asks_contractDelete op
  | topicCreate op => exact asks_topicCreate op
  | topicUpdate op => exact asks_topicUpdate op
  | topicDelete op => exact (asks_find .topic op.topic).map _
  | submitMessage op => exact (asks_find .topic op.topic).map _
  | tokenCreate op => exact asks_tokenCreate op
  | tokenUpdate op =>
      rw [demands_eq_cons rfl rfl]
      exact asks_tokenUpdate op
  | tokenDelete op => exact asks_tokenRole _ op.token
  | tokenFreeze op => exact asks_tokenRole _ op.token
  | tokenUnfreeze op => exact asks_tokenRole _ op.token
  | tokenGrantKyc op => exact asks_tokenRole _ op.token
  | tokenRevokeKyc op => exact asks_tokenRole _ op.token
  | tokenWipe op => exact asks_tokenRole _ op.token
  | tokenMint op => exact asks_tokenRole _ op.token
  | tokenBurn op => exact asks_tokenRole _ op.token
  | tokenAssociate op => exact asks_accountKey .missingAccount op.account
  | tokenDissociate op => exact asks_accountKey .missingAccount op.account
  | tokenFeeScheduleUpdate op =>
      rw [demands_eq_cons rfl rfl]
      exact asks_tokenFeeScheduleUpdate op
  | scheduleDelete op => exact (asks_find .schedule op.schedule).map _
  | _ => exact .ok _

-- ========================================================== through schedules

-- Only a general failure keeps its reason in a schedule.
theorem asScheduledFailure_of_role {role : FailureReason}
    (h : role.isGeneral = false) (e : Option EntityRef) :
    asScheduledFailure ⟨role, e⟩ = ⟨.unresolvableRequiredSigners, e⟩ := by
  unfold asScheduledFailure
  rw [h]
  rfl

theorem asScheduledFailure_ofLookup {role expected : FailureReason}
    (h : role.isGeneral = false) (e : LookupError) :
    asScheduledFailure (.ofLookup expected role e)
      = .ofLookup expected .unresolvableRequiredSigners e := by
  by_cases habsent : e.reason? = some expected
  · rw [Unresolved.ofLookup_of_absent _ habsent,
      Unresolved.ofLookup_of_absent _ habsent, asScheduledFailure_of_role h]
  · rw [Unresolved.ofLookup_of_fault _ habsent,
      Unresolved.ofLookup_of_fault _ habsent]
    rfl

/-- What an operation demands reports in a schedule what it reports outside,
as the failure of a scheduled transaction. -/
theorem unmet_inSchedule {d : Demand} (hdirect : d.IsDirect) :
    l.unmet d.inSchedule = (l.unmet d).map asScheduledFailure := by
  obtain ⟨hentity, -, hgeneral⟩ := hdirect
  cases d with
  | @entity kind role id =>
      have hgeneral : role.isGeneral = false := hgeneral
      unfold Demand.inSchedule Lookup.unmet
      dsimp only
      cases l kind id with
      | ok m => rfl
      | error e =>
          dsimp only
          rw [Option.map_some, asScheduledFailure_ofLookup hgeneral]
  | admin role id =>
      have hgeneral : role.isGeneral = false := hgeneral
      unfold Demand.inSchedule Lookup.unmet
      dsimp only
      cases l .contract id with
      | error e => rfl
      | ok m =>
          dsimp only
          by_cases himmutable : m.isImmutable = true
          · rw [if_pos himmutable, if_pos himmutable, Option.map_some,
              asScheduledFailure_of_role hgeneral]
          · rw [if_neg himmutable, if_neg himmutable]
            rfl
  | schedulable body => cases hentity

/-- A list of demands stops in a schedule where it stops outside. -/
theorem findSome?_inSchedule : ∀ {ds : List Demand},
    (∀ d ∈ ds, d.IsDirect) → (ds.map Demand.inSchedule).findSome? l.unmet
      = (ds.findSome? l.unmet).map asScheduledFailure
  | [], _ => rfl
  | d :: ds, hdirect => by
      have hrest := findSome?_inSchedule
        fun d' hd' => hdirect d' (List.mem_cons_of_mem d hd')
      rw [List.map_cons, List.findSome?_cons, List.findSome?_cons,
        unmet_inSchedule (hdirect d List.mem_cons_self)]
      cases l.unmet d with
      | none => exact hrest
      | some u => rfl

/-- The transaction in a schedule must be one that a schedule may hold, and
then asks what it asks by itself. -/
theorem asks_scheduledKeys (id : TransactionId) (payer : AccountId)
    (body : Body) :
    Asks (fun l' => scheduledKeys ⟨l', w⟩ id payer body) l
      (.schedulable body
        :: (demands ⟨l, w⟩ ⟨id.asScheduled payer, body⟩).map
          Demand.inSchedule) := by
  have hdirect : ∀ d ∈ demands ⟨l, w⟩ ⟨id.asScheduled payer, body⟩,
      d.IsDirect := fun d hd =>
    Body.isDirect_of_mem_demands d (demands_subset _ _ hd)
  have hasks := asks_directKeys (l := l) (w := w) ⟨id.asScheduled payer, body⟩
  unfold scheduledKeys
  by_cases hsched : body.isSchedulable = true
  · simp only [if_pos hsched]
    constructor
    · rw [List.findSome?_cons, findSome?_inSchedule hdirect, ← hasks.stops]
      simp only [Lookup.unmet, if_pos hsched]
      cases directKeys ⟨l, w⟩ ⟨id.asScheduled payer, body⟩ <;> rfl
    · intro l' hagrees
      have hsame := hasks.same l' fun d hd e he =>
        hagrees d.inSchedule
          (List.mem_cons_of_mem _ (List.mem_map_of_mem hd)) e
          (by rw [Demand.entity?_inSchedule]; exact he)
      rw [hsame]
  · simp only [if_neg hsched]
    refine ⟨?_, fun _ _ => rfl⟩
    rw [List.findSome?_cons]
    simp only [Lookup.unmet, if_neg hsched]
    rfl

/-- Creating a schedule asks for who pays, and for what the schedule holds. -/
theorem asks_scheduleCreate (id : TransactionId) (scope : Scope)
    (scheduled : Body) (terms : ScheduleTerms) :
    Asks (fun l' => scheduleCreate ⟨l', w⟩ id scope scheduled terms) l
      (allDemands ⟨l, w⟩ ⟨id, .scheduleCreate scheduled terms⟩) := by
  unfold scheduleCreate
  refine (asks_whenSome (asks_accountKey .missingAccount)).bind
    fun designated _ => ?_
  exact (asks_scheduledKeys id (terms.payer.getD id.payer) scheduled).map _

/-- What signing a schedule asks for behind the schedule is as it is stored. -/
theorem allDemands_scheduleSign (r : Resolver) (id : TransactionId)
    (op : ScheduleSign) :
    r.allDemands ⟨id, .scheduleSign op⟩
      = .of op.schedule :: match r.lookup .schedule op.schedule with
        | .ok (m : ScheduleMeta) =>
          m.designatedPayer.toList.map .of ++ (.schedulable m.scheduledBody
            :: (r.demands ⟨id.asScheduled (m.designatedPayer.getD id.payer),
                m.scheduledBody⟩).map Demand.inSchedule)
        | .error _ => [] := by
  unfold allDemands Lookup.ownDemands Lookup.effective Lookup.effectivePayer
    Lookup.scheduled? Lookup.designated?
  dsimp only
  cases r.lookup .schedule op.schedule with
  | error e => rfl
  | ok m => rfl

/-- Signing a schedule asks for the schedule, and then as creating it does. -/
theorem asks_scheduleSign (id : TransactionId) (op : ScheduleSign) :
    Asks (fun l' => scheduleSign ⟨l', w⟩ id op) l
      (allDemands ⟨l, w⟩ ⟨id, .scheduleSign op⟩) := by
  unfold scheduleSign
  rw [allDemands_scheduleSign]
  refine (asks_find .schedule op.schedule).cons fun m hm => ?_
  have hfound : l .schedule op.schedule = .ok m := findFor_eq_ok.1 hm
  dsimp only
  rw [hfound]
  refine (asks_whenSome (asks_accountKey .missingAccount)).bind
    fun designated _ => ?_
  exact (asks_scheduledKeys id (m.designatedPayer.getD id.payer)
    m.scheduledBody).map _

/-- A whole resolution asks what is demanded for it. -/
theorem asks_collectKeys (t : Transaction) :
    Asks (fun l' => collectKeys ⟨l', w⟩ t) l (allDemands ⟨l, w⟩ t) := by
  by_cases hruns : t.body.runsSchedule = true
  · obtain ⟨id, body⟩ := t
    cases body with
    | scheduleCreate scheduled terms =>
        exact asks_scheduleCreate id id.scope scheduled terms
    | scheduleSign op => exact asks_scheduleSign id op
    | _ => cases hruns
  · rw [Bool.not_eq_true] at hruns
    rw [allDemands_of_not_runsSchedule hruns]
    have hcollect (l' : Lookup) : collectKeys ⟨l', w⟩ t
        = (directKeys ⟨l', w⟩ t) >>= fun keys =>
          pure (keys.map (.inScope t.id.scope)) := by
      obtain ⟨id, body⟩ := t
      cases body with
      | scheduleCreate scheduled terms => cases hruns
      | scheduleSign op => cases hruns
      | _ => rfl
    simp only [hcollect]
    exact (asks_directKeys t).map _

-- ================================================================ the outcome

variable {r : Resolver} {t : Transaction}

/-- A resolver that stops at a demand fails with how it was refused. -/
theorem keysForOtherParties_of_stopsAt {d : Demand} {u : Unresolved}
    (h : r.StopsAt t d) (hu : r.lookup.Refuses d u) :
    r.keysForOtherParties t = .error (failureOf t u) := by
  obtain ⟨-, met, rest, hlist, hmet⟩ := h
  have hfirst : (r.allDemands t).findSome? r.lookup.unmet = some u :=
    List.findSome?_eq_some_iff.2
      ⟨met, d, rest, hlist, Lookup.unmet_eq_some_iff.2 hu, hmet⟩
  have hstops : failure? (r.collectKeys t) = some u :=
    (asks_collectKeys (l := r.lookup) (w := r.waivers) t).stops.trans hfirst
  unfold keysForOtherParties
  cases hkeys : r.collectKeys t with
  | ok keys =>
      rw [hkeys] at hstops
      cases hstops
  | error u' =>
      rw [hkeys] at hstops
      cases Option.some.inj hstops
      rfl

/-- A resolver that fails has stopped at a demand, and reports how it was
refused. -/
theorem stopsAt_of_error {f : OrderingFailure}
    (h : r.keysForOtherParties t = .error f) :
    ∃ d u, r.StopsAt t d ∧ r.lookup.Refuses d u ∧ failureOf t u = f := by
  have hstops : failure? (r.collectKeys t)
      = (r.allDemands t).findSome? r.lookup.unmet :=
    (asks_collectKeys (l := r.lookup) (w := r.waivers) t).stops
  unfold keysForOtherParties at h
  cases hkeys : r.collectKeys t with
  | ok keys =>
      rw [hkeys] at h
      cases h
  | error u =>
      rw [hkeys] at h hstops
      obtain ⟨met, d, rest, hlist, hu, hmet⟩ :=
        List.findSome?_eq_some_iff.1 hstops.symm
      refine ⟨d, u, ⟨?_, met, rest, hlist, hmet⟩, ?_, Except.error.inj h⟩
      · rw [hu]
        rfl
      · exact Lookup.unmet_eq_some_iff.1 hu

/-- A resolver stops at something that it has asked for. -/
theorem StopsAt.demanded {d : Demand} (h : r.StopsAt t d) :
    r.Demanded t d := by
  obtain ⟨-, met, rest, hlist, -⟩ := h
  refine demanded_of_mem ?_
  rw [hlist]
  exact List.mem_append_right met List.mem_cons_self

/-- Two lookups that answer alike for what is demanded give one outcome. -/
theorem keysForOtherParties_congr {l' : Lookup}
    (h : r.lookup.AgreesOn (r.allDemands t) l') :
    keysForOtherParties ⟨l', r.waivers⟩ t = r.keysForOtherParties t := by
  have hsame : collectKeys ⟨l', r.waivers⟩ t = r.collectKeys t :=
    (asks_collectKeys (l := r.lookup) (w := r.waivers) t).same l' h
  unfold keysForOtherParties
  rw [hsame]

end Resolver

end SigningOrder
