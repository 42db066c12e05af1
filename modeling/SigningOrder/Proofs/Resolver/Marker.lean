/-
The legacy marker in an order. A leaf that names a contract as its own admin
key can never sign; it is to count as no admin key wherever one would be
required, and an order with it can never be satisfied. The operations on
contracts screen it out, be it new or stored. Those on topics, tokens and
schedules do not, and neither does the creation of a schedule: they take the
admin key as it is. `Lookup.unscreened` lists these keys, and
`marker_mem_order_iff` says that they are the only way in: the order of an
operation that administers an entity has a marker exactly if one of them is
a marker.

What an operation names is compared with its unscreened keys through
`markers`, the markers among the keys that it names, which follows the chain of
the operation part by part.
-/
import SigningOrder.Proofs.Resolver.Control
import SigningOrder.Proofs.Resolver.Scheduled

namespace SigningOrder

/-- Whether an operation creates, changes or deletes a contract, a topic or a
token, or deletes a schedule. -/
def Body.administers : Body → Bool
  | contractCreate _ | contractUpdate _ | contractDelete _ => true
  | topicCreate _ | topicUpdate _ | topicDelete _ => true
  | tokenCreate _ | tokenUpdate _ | tokenDelete _ => true
  | scheduleDelete _ => true
  | _ => false

/-- The admin key that a transaction gives to a schedule. -/
def Transaction.scheduleAdmin (t : Transaction) : List Key :=
  match t.body with
  | .scheduleCreate _ terms => terms.adminKey.toList
  | _ => []

namespace Lookup

/-- The key that is stored for a control, where there is one. -/
def stored (lookup : Lookup) (c : Control) : List Key :=
  match lookup c.kind c.id with
  | .ok m => (c.key m).toList
  | .error _ => []

/-- The admin keys that an operation takes as they are, the present one before
the new one. A topic of which only the expiration is extended takes none, and
neither does a token that has no admin key to allow the update. -/
def unscreened (lookup : Lookup) : Body → List Key
  | .topicCreate op => op.adminKey.toList
  | .topicUpdate op =>
    if op.expiryOnly then []
    else lookup.stored (.ofTopic op.topic (·.adminKey)) ++ op.adminKey.toList
  | .topicDelete op => lookup.stored (.ofTopic op.topic (·.adminKey))
  | .tokenCreate op => op.adminKey.toList
  | .tokenUpdate op =>
    match lookup.stored (.ofToken op.token (·.adminKey)) with
    | [] => []
    | present => present ++ op.adminKey.toList
  | .tokenDelete op => lookup.stored (.ofToken op.token (·.adminKey))
  | .scheduleDelete op => lookup.stored (.ofSchedule op.schedule)
  | _ => []

/-- The admin keys that a transaction takes as they are: that of a schedule
which it creates, and those of the operation that takes effect. -/
def allUnscreened (lookup : Lookup) (t : Transaction) : List Key :=
  t.scheduleAdmin ++ lookup.unscreened (lookup.effective t).body

/-- No account has the marker for its key. -/
def AccountsCanSign (lookup : Lookup) : Prop :=
  ∀ (id : AccountId) (m : AccountMeta),
    lookup .account id = .ok m → m.key.isDeprecated = false

/-- What is stored, where the entity was found. -/
theorem stored_eq {lookup : Lookup} {c : Control} {m : Meta c.kind}
    (h : lookup c.kind c.id = .ok m) : lookup.stored c = (c.key m).toList := by
  unfold stored
  rw [h]

end Lookup

-- ==================================================================== markers

namespace Resolver

/-- The markers among keys. -/
def markers (keys : List RequiredKey) : List Key :=
  (keys.map (·.key)).filter Key.isDeprecated

theorem markers_append (front back : List RequiredKey) :
    markers (front ++ back) = markers front ++ markers back := by
  unfold markers
  rw [List.map_append, List.filter_append]

theorem markers_optionalKey (key : Option Key) :
    markers (optionalKey key) = key.toList.filter Key.isDeprecated := by
  cases key <;> rfl

/-- A key that is no marker. -/
def CanSign (o : RequiredKey) : Prop :=
  o.key.isDeprecated = false

theorem markers_of_canSign {keys : List RequiredKey}
    (h : ∀ o ∈ keys, CanSign o) : markers keys = [] := by
  refine List.filter_eq_nil_iff.2 fun k hk => ?_
  obtain ⟨o, ho, rfl⟩ := List.mem_map.1 hk
  rw [h o ho]
  exact Bool.false_ne_true

/-- A key that was screened is no marker. -/
theorem canSign_usable {key : Option Key} {k : Key}
    (h : Key.usable key = some k) : CanSign (.ofKey k) := by
  have hscreened := (Option.filter_eq_some_iff.1 h).2
  rwa [Bool.not_eq_true'] at hscreened

variable {r : Resolver} {t : Transaction} {keys : List RequiredKey}

/-- Where the entity of a control is found, naming its key is naming what is
stored. -/
theorem markers_stored {c : Control}
    (h : (do
      let m ← r.find c.kind c.id
      return optionalKey (c.key m)) = .ok keys) :
    markers keys = (r.lookup.stored c).filter Key.isDeprecated := by
  obtain ⟨m, hm, h⟩ := bind_eq_ok.1 h
  rw [← pure_eq_ok.1 h, markers_optionalKey,
    Lookup.stored_eq (findFor_eq_ok.1 hm)]

-- ===================================================== operation by operation

theorem canSign_contractAdmin (id : ContractId) :
    OnlyNames CanSign (r.contractAdmin id) := by
  intro keys hkeys
  obtain ⟨m, -, k, hk, rfl⟩ := contractAdmin_eq_ok.1 hkeys
  intro o ho
  rw [List.mem_singleton.1 ho]
  exact canSign_usable hk

theorem canSign_contractUpdate (op : ContractUpdate) :
    OnlyNames CanSign (r.contractUpdate op) := by
  rw [contractUpdate_eq]
  refine onlyNames_bind fun present hpresent => onlyNames_pure ?_
  have hnew : ∀ o ∈ optionalKey (Key.usable op.adminKey), CanSign o :=
    forall_mem_optionalKey fun _ => canSign_usable
  refine List.forall_mem_append.2 ⟨?_, hnew⟩
  by_cases hadmin : op.needsAdmin = true
  · rw [if_pos hadmin] at hpresent
    exact canSign_contractAdmin op.contract present hpresent
  · rw [if_neg hadmin] at hpresent
    cases hpresent
    exact nofun

section Accounts

variable (haccounts : r.lookup.AccountsCanSign)

include haccounts

theorem canSign_accountKey (role : FailureReason) (id : AccountId) :
    OnlyNames CanSign (r.accountKey role id) :=
  onlyNames_accountKey (haccounts id)

theorem markers_whenSome_accountKey {role : FailureReason}
    {value : Option AccountId}
    (h : whenSome value (r.accountKey role) = .ok keys) : markers keys = [] :=
  markers_of_canSign (onlyNames_whenSome
    (fun id _ => canSign_accountKey haccounts role id) keys h)

theorem canSign_obtainerKey (o : Obtainer) :
    OnlyNames CanSign (r.obtainerKey o) := by
  cases o with
  | account id => exact onlyNames_receiverKey (haccounts id)
  | contract id =>
      refine onlyNames_bind fun m _ => onlyNames_pure ?_
      split
      · exact forall_mem_optionalKey fun _ => canSign_usable
      · exact nofun

theorem canSign_contractDelete (op : ContractDelete) :
    OnlyNames CanSign (r.contractDelete op) := by
  refine onlyNames_bind fun present hpresent => ?_
  refine onlyNames_bind fun obtainer hobtainer => onlyNames_pure ?_
  have hfirst := canSign_contractAdmin op.contract present hpresent
  have hsecond := onlyNames_whenSome
    (fun o _ => canSign_obtainerKey haccounts o) obtainer hobtainer
  exact List.forall_mem_append.2 ⟨hfirst, hsecond⟩

theorem canSign_feeCollectors (own : TokenId → Bool) (fees : List CustomFee) :
    OnlyNames CanSign (r.feeCollectors own fees) := by
  refine onlyNames_forEach fun fee _ => ?_
  refine onlyNames_bind fun m hm => onlyNames_pure ?_
  split
  · exact List.forall_mem_singleton.2
      (haccounts fee.collector m (findFor_eq_ok.1 hm))
  · exact nofun

theorem markers_topicCreate {op : TopicCreate}
    (h : r.topicCreate op = .ok keys) :
    markers keys = op.adminKey.toList.filter Key.isDeprecated := by
  obtain ⟨renewal, hrenewal, h⟩ := bind_eq_ok.1 h
  rw [← pure_eq_ok.1 h, markers_append, markers_optionalKey,
    markers_whenSome_accountKey haccounts hrenewal, List.append_nil]

theorem markers_topicUpdate {op : TopicUpdate}
    (h : r.topicUpdate op = .ok keys) :
    markers keys
      = (r.lookup.unscreened (.topicUpdate op)).filter Key.isDeprecated := by
  unfold topicUpdate at h
  rw [Lookup.unscreened]
  by_cases hexpiry : op.expiryOnly = true
  · rw [if_pos hexpiry] at h ⊢
    rw [← pure_eq_ok.1 h]
    rfl
  · rw [if_neg hexpiry] at h ⊢
    obtain ⟨m, hm, h⟩ := bind_eq_ok.1 h
    obtain ⟨renewal, hrenewal, h⟩ := bind_eq_ok.1 h
    have hstored : r.lookup.stored (.ofTopic op.topic (·.adminKey))
        = (TopicMeta.adminKey m).toList :=
      Lookup.stored_eq (findFor_eq_ok.1 hm)
    rw [← pure_eq_ok.1 h, markers_append, markers_append, markers_optionalKey,
      markers_optionalKey, markers_whenSome_accountKey haccounts hrenewal,
      List.append_nil, hstored, List.filter_append]

theorem markers_tokenCreate {op : TokenCreate}
    (h : r.tokenCreate op = .ok keys) :
    markers keys = op.adminKey.toList.filter Key.isDeprecated := by
  obtain ⟨treasury, htreasury, h⟩ := bind_eq_ok.1 h
  obtain ⟨renewal, hrenewal, h⟩ := bind_eq_ok.1 h
  obtain ⟨collectors, hcollectors, h⟩ := bind_eq_ok.1 h
  have hfirst : markers treasury = [] := markers_of_canSign
    (canSign_accountKey haccounts _ _ treasury htreasury)
  have hsecond := markers_whenSome_accountKey haccounts hrenewal
  have hlast : markers collectors = [] := markers_of_canSign
    (canSign_feeCollectors haccounts _ _ collectors hcollectors)
  rw [← pure_eq_ok.1 h, markers_append, markers_append, markers_append,
    markers_optionalKey, hfirst, hsecond, hlast, List.append_nil]
  rfl

theorem markers_tokenUpdate {op : TokenUpdate}
    (h : r.tokenUpdate op = .ok keys) :
    markers keys
      = (r.lookup.unscreened (.tokenUpdate op)).filter Key.isDeprecated := by
  obtain ⟨m, hm, h⟩ := bind_eq_ok.1 h
  have hstored : r.lookup.stored (.ofToken op.token (·.adminKey))
      = (TokenMeta.adminKey m).toList :=
    Lookup.stored_eq (findFor_eq_ok.1 hm)
  rw [Lookup.unscreened, hstored]
  cases hadmin : TokenMeta.adminKey m with
  | none =>
      rw [hadmin] at h
      rw [← pure_eq_ok.1 h]
      rfl
  | some admin =>
      rw [hadmin] at h
      obtain ⟨treasury, htreasury, h⟩ := bind_eq_ok.1 h
      obtain ⟨renewal, hrenewal, h⟩ := bind_eq_ok.1 h
      have hfirst := markers_whenSome_accountKey haccounts htreasury
      have hsecond := markers_whenSome_accountKey haccounts hrenewal
      have hpresent : markers (.ofKey admin :: treasury)
          = [admin].filter Key.isDeprecated := by
        have hsplit := markers_append (optionalKey (some admin)) treasury
        rw [hfirst, List.append_nil, markers_optionalKey] at hsplit
        exact hsplit
      rw [← pure_eq_ok.1 h, markers_append, markers_append, hpresent, hsecond,
        List.append_nil, markers_optionalKey]
      exact (List.filter_append ..).symm

/-- The markers that an operation names are those among its unscreened keys. -/
theorem markers_directKeys (hbody : t.body.administers = true)
    (h : r.directKeys t = .ok keys) :
    markers keys = (r.lookup.unscreened t.body).filter Key.isDeprecated := by
  obtain ⟨id, body⟩ := t
  cases body with
  | contractCreate op =>
      cases h
      exact markers_of_canSign (forall_mem_optionalKey fun _ => canSign_usable)
  | contractUpdate op =>
      exact markers_of_canSign (canSign_contractUpdate op keys h)
  | contractDelete op =>
      exact markers_of_canSign (canSign_contractDelete haccounts op keys h)
  | topicCreate op => exact markers_topicCreate haccounts h
  | topicUpdate op => exact markers_topicUpdate haccounts h
  | topicDelete op =>
      exact markers_stored (c := .ofTopic op.topic (·.adminKey)) h
  | tokenCreate op => exact markers_tokenCreate haccounts h
  | tokenUpdate op => exact markers_tokenUpdate haccounts h
  | tokenDelete op =>
      exact markers_stored (c := .ofToken op.token (·.adminKey)) h
  | scheduleDelete op => exact markers_stored (c := .ofSchedule op.schedule) h
  | _ => cases hbody

/-- The keys of an operation on a schedule, of which only the admin key of a
new schedule may be a marker. -/
theorem markers_ownKeys {own : List OrderedKey} (h : r.ownKeys t = .ok own) :
    ∃ (named : List RequiredKey) (scope : Scope),
      own = named.map (.inScope scope)
        ∧ markers named = t.scheduleAdmin.filter Key.isDeprecated := by
  obtain ⟨id, body⟩ := t
  cases body with
  | scheduleCreate scheduled terms =>
      obtain ⟨designated, hdesignated, h⟩ := bind_eq_ok.1 h
      refine ⟨_, _, (pure_eq_ok.1 h).symm, ?_⟩
      rw [markers_append, markers_optionalKey,
        markers_whenSome_accountKey haccounts hdesignated, List.append_nil]
      rfl
  | scheduleSign op =>
      obtain ⟨m, -, h⟩ := bind_eq_ok.1 h
      obtain ⟨designated, hdesignated, h⟩ := bind_eq_ok.1 h
      exact ⟨_, _, (pure_eq_ok.1 h).symm,
        markers_whenSome_accountKey haccounts hdesignated⟩
  | _ =>
      cases h
      exact ⟨[], .outer, rfl, rfl⟩

end Accounts

-- ================================================================== the order

/-- Decoding makes no marker and takes none away. -/
theorem isDeprecated_canonical (k : Key) :
    k.canonical.isDeprecated = k.isDeprecated := by
  cases k <;> rfl

/-- Dropping repetitions drops no last marker. -/
theorem exists_marker_dedup {collected : List OrderedKey} :
    (∃ o ∈ OrderedKey.dedup collected, o.key.isDeprecated = true)
      ↔ ∃ o ∈ collected, o.key.isDeprecated = true := by
  constructor
  · rintro ⟨o, ho, hmarker⟩
    exact ⟨o, OrderedKey.mem_of_mem_dedup ho, hmarker⟩
  · rintro ⟨o, ho, hmarker⟩
    obtain ⟨kept, hkept, hsame⟩ :=
      List.mem_map.1 (OrderedKey.identity_mem_dedup ho)
    have hcanonical : kept.key.canonical = o.key.canonical :=
      congrArg Prod.snd hsame
    refine ⟨kept, hkept, ?_⟩
    rw [← isDeprecated_canonical, hcanonical, isDeprecated_canonical, hmarker]

/-- Keys with the markers of other keys have one if these have. -/
theorem exists_marker_inScope {named : List RequiredKey} {ks : List Key}
    (h : markers named = ks.filter Key.isDeprecated) (scope : Scope) :
    (∃ o ∈ named.map (OrderedKey.inScope scope), o.key.isDeprecated = true)
      ↔ ∃ k ∈ ks, k.isDeprecated = true := by
  have hmem (k : Key) : (k ∈ ks ∧ k.isDeprecated = true)
      ↔ k ∈ named.map (·.key) ∧ k.isDeprecated = true := by
    rw [← List.mem_filter, ← List.mem_filter, ← h]
    rfl
  constructor
  · rintro ⟨o, ho, hmarker⟩
    obtain ⟨named, hnamed, rfl⟩ := List.mem_map.1 ho
    exact ⟨_, (hmem _).2 ⟨List.mem_map_of_mem hnamed, hmarker⟩⟩
  · rintro ⟨k, hk⟩
    obtain ⟨hnamed, hmarker⟩ := (hmem k).1 hk
    obtain ⟨o, ho, rfl⟩ := List.mem_map.1 hnamed
    exact ⟨_, List.mem_map_of_mem ho, hmarker⟩

/-- Where accounts can sign, the order of an operation that administers an
entity, by itself or through a schedule, has a legacy marker exactly if an
admin key that is not screened is one: that of a topic, a token or a schedule,
be it new or stored. The admin key of a contract never is. -/
theorem marker_mem_order_iff (r : Resolver) (t : Transaction)
    (order : List OrderedKey) (haccounts : r.lookup.AccountsCanSign)
    (hbody : (r.lookup.effective t).body.administers = true)
    (h : r.keysForOtherParties t = .ok order) :
    (∃ o ∈ order, o.key.isDeprecated = true)
      ↔ ∃ k ∈ r.lookup.allUnscreened t, k.isDeprecated = true := by
  obtain ⟨collected, hcollect, rfl⟩ := keysForOtherParties_eq_ok.1 h
  obtain ⟨own, hown, rest, hrest, rfl⟩ := collectKeys_eq_ok.1 hcollect
  obtain ⟨-, direct, hdirect, rfl⟩ := effectiveKeys_eq_ok.1 hrest
  obtain ⟨named, scope, rfl, hnamed⟩ := markers_ownKeys haccounts hown
  have heffective := markers_directKeys haccounts hbody hdirect
  unfold Lookup.allUnscreened
  simp only [exists_marker_dedup, List.mem_append, or_and_right, exists_or,
    exists_marker_inScope hnamed, exists_marker_inScope heffective]

-- =========================================================== a token, a topic

/-- The marker that names contract 1403. -/
def selfAdmin : Key :=
  .leaf (.ofContract (.ofNum 1403))

/-- A ledger where every account can sign, and every token and every contract
has the marker for its admin key. -/
def relic : Resolver where
  lookup :=
    (estate.lookup.withKind .contract fun _ =>
        .ok ⟨some selfAdmin, false⟩).withKind .token fun _ =>
      .ok ⟨.ofNum 50, some selfAdmin, none, none, none, none, none⟩
  waivers := .nothing

theorem relic_accountsCanSign : relic.lookup.AccountsCanSign := by
  intro id m h
  cases h
  rfl

/-- Creates a schedule, with an admin key that can sign, for a token to get a
new treasury and a new admin key. -/
def moveTreasury : Transaction :=
  Sample.txn (.ofNum 1001) (.scheduleCreate
    (.tokenUpdate ⟨.ofNum 1500, some (.ofNum 100), none, some nextKey, none,
      none, none, none, none, none, none⟩)
    ⟨some adminKey, none, ""⟩)

/-- The stored admin key of the token is a marker, and so the order has one. -/
theorem marker_mem_order_iff_moveTreasury :
    relic.lookup.AccountsCanSign
      ∧ (relic.lookup.effective moveTreasury).body.administers = true
      ∧ relic.keysForOtherParties moveTreasury
        = .ok [.outer adminKey, ⟨selfAdmin, .scheduled, .standard⟩,
          ⟨Sample.keyOf (.ofNum 100), .scheduled, .standard⟩,
          ⟨nextKey, .scheduled, .standard⟩]
      ∧ relic.lookup.allUnscreened moveTreasury
        = [adminKey, selfAdmin, nextKey]
      ∧ ∃ o ∈ [OrderedKey.outer adminKey, ⟨selfAdmin, .scheduled, .standard⟩,
          ⟨Sample.keyOf (.ofNum 100), .scheduled, .standard⟩,
          ⟨nextKey, .scheduled, .standard⟩], o.key.isDeprecated = true := by
  refine ⟨relic_accountsCanSign, rfl, rfl, rfl, ?_⟩
  refine (marker_mem_order_iff relic moveTreasury _ relic_accountsCanSign rfl
    rfl).2 ⟨selfAdmin, ?_, rfl⟩
  exact List.mem_cons_of_mem _ List.mem_cons_self

/-- The marker is required as an admin key: of a topic that is created, of a
token that is deleted, and of a schedule that is created. The contract that is
created in this schedule has the marker as well, and is not asked for it. -/
theorem marker_required :
    relic.lookup.AccountsCanSign
      ∧ selfAdmin.isDeprecated = true
      ∧ relic.keysForOtherParties (Sample.txn (.ofNum 1001)
          (.topicCreate ⟨some selfAdmin, none, none, 7776000, ""⟩))
        = .ok [.outer selfAdmin]
      ∧ relic.keysForOtherParties (Sample.txn (.ofNum 1001)
          (.tokenDelete ⟨.ofNum 1500⟩))
        = .ok [.outer selfAdmin]
      ∧ relic.keysForOtherParties (Sample.txn (.ofNum 1001)
          (.scheduleCreate (.contractCreate ⟨some selfAdmin, none, 0, 0, ""⟩)
            ⟨some selfAdmin, none, ""⟩))
        = .ok [.outer selfAdmin] :=
  ⟨relic_accountsCanSign, rfl, rfl, rfl, rfl⟩

end Resolver

end SigningOrder
