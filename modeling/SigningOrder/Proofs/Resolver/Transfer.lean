/-
Who signs a transfer. A transfer is written in three nested lists, one of
changes in the ledger's own currency and then one of changes and one of unique
tokens for each token. Resolution takes them apart in one pass, by whether
something is taken from an account. Here the two sides are read off the lists
one by one (`givers`, `takers`), and `transfer_asks_parties` says of the outcome
what a party would want to know of it: who must exist, whose key is asked for,
in which order, and who is to blame.

An account may give and take, and more than one account may have a key, so the
order of the keys is not that of the accounts. It is said by first occurrences
(`firsts`): of the keys of the givers, and behind them of the keys of the takers
that must sign, without those that a giver has.
-/
import SigningOrder.Proofs.Order.First
import SigningOrder.Proofs.Resolver.Accounts
import SigningOrder.Proofs.Resolver.Blame
import SigningOrder.Proofs.Resolver.Submitter

namespace SigningOrder

-- ==================================================== statement vocabulary

/-- The accounts from which changes take something. -/
def AccountAmount.takenFrom (changes : List AccountAmount) : List AccountId :=
  (changes.filter (·.amount < 0)).map (·.account)

/-- The accounts to which changes give something, or nothing. -/
def AccountAmount.givenTo (changes : List AccountAmount) : List AccountId :=
  (changes.filter (0 ≤ ·.amount)).map (·.account)

namespace CryptoTransfer

/-- The accounts that give something up: those of the ledger's own currency,
and token by token those of its units and the senders of unique tokens. -/
def givers (op : CryptoTransfer) : List AccountId :=
  AccountAmount.takenFrom op.transfers
    ++ op.tokenTransfers.flatMap fun l =>
      AccountAmount.takenFrom l.transfers ++ l.nftTransfers.map (·.sender)

/-- The accounts that take something, in the same order. -/
def takers (op : CryptoTransfer) : List AccountId :=
  AccountAmount.givenTo op.transfers
    ++ op.tokenTransfers.flatMap fun l =>
      AccountAmount.givenTo l.transfers ++ l.nftTransfers.map (·.receiver)

end CryptoTransfer

namespace Lookup

/-- The keys of the accounts that give something up. -/
def giverKeys (l : Lookup) (op : CryptoTransfer) : List Key :=
  op.givers.filterMap (l.keyIf fun _ => true)

/-- The keys of the accounts that take something and must sign for it. -/
def takerKeys (l : Lookup) (op : CryptoTransfer) : List Key :=
  op.takers.filterMap (l.keyIf (·.receiverSigRequired))

end Lookup

-- ============================================================== the two sides

/-- The parties of changes that are taken from. -/
theorem AccountAmount.filter_debited (changes : List AccountAmount) :
    ((changes.map Party.ofAmount).filter (·.debited)).map (·.account)
      = takenFrom changes := by
  rw [List.filter_map, List.map_map]
  rfl

/-- The parties of changes that are not taken from. -/
theorem AccountAmount.filter_credited (changes : List AccountAmount) :
    ((changes.map Party.ofAmount).filter (!·.debited)).map (·.account)
      = givenTo changes := by
  have hamount (a : AccountAmount) :
      (!(Party.ofAmount a).debited) = decide (0 ≤ a.amount) := by
    simp [Party.ofAmount, ← Int64.not_lt]
  unfold givenTo
  rw [List.filter_map, List.map_map, ← funext hamount]
  rfl

theorem NftTransfer.filter_debited (nfts : List NftTransfer) :
    ((nfts.flatMap Party.ofNft).filter (·.debited)).map (·.account)
      = nfts.map (·.sender) := by
  induction nfts with
  | nil => rfl
  | cons n nfts ih => simp [Party.ofNft, ih]

theorem NftTransfer.filter_credited (nfts : List NftTransfer) :
    ((nfts.flatMap Party.ofNft).filter (!·.debited)).map (·.account)
      = nfts.map (·.receiver) := by
  induction nfts with
  | nil => rfl
  | cons n nfts ih => simp [Party.ofNft, ih]

namespace CryptoTransfer

/-- The accounts of some of the parties, list by list. -/
theorem filter_parties (side : Party → Bool) (op : CryptoTransfer) :
    (op.parties.filter side).map (·.account)
      = ((op.transfers.map Party.ofAmount).filter side).map (·.account)
        ++ op.tokenTransfers.flatMap fun l =>
          ((l.transfers.map Party.ofAmount).filter side).map (·.account)
            ++ ((l.nftTransfers.flatMap Party.ofNft).filter side).map
              (·.account) := by
  unfold parties
  rw [List.filter_append, List.map_append, List.filter_flatMap,
    List.map_flatMap]
  simp only [List.filter_append, List.map_append]

theorem debited_eq (op : CryptoTransfer) : op.debited = op.givers := by
  unfold debited givers
  rw [filter_parties]
  simp only [AccountAmount.filter_debited, NftTransfer.filter_debited]

theorem credited_eq (op : CryptoTransfer) : op.credited = op.takers := by
  unfold credited takers
  rw [filter_parties]
  simp only [AccountAmount.filter_credited, NftTransfer.filter_credited]

end CryptoTransfer

namespace Resolver

variable {r : Resolver} {t : Transaction} {op : CryptoTransfer}

-- ============================================================ what is asked

/-- A transfer asks its parties if all of them are found. -/
theorem cryptoTransfer_eq_ok {keys : List RequiredKey} :
    r.cryptoTransfer op = .ok keys
      ↔ (∀ id ∈ op.givers ++ op.takers, r.lookup.Finds id)
        ∧ (r.lookup.giverKeys op ++ r.lookup.takerKeys op).map .ofKey = keys := by
  unfold cryptoTransfer
  rw [accountKey_eq_askIf, receiverKey_eq_askIf, op.debited_eq, op.credited_eq]
  simp only [bind_eq_ok, pure_eq_ok, List.forall_mem_append, List.map_append]
  constructor
  · rintro ⟨senders, hsenders, receivers, hreceivers, rfl⟩
    obtain ⟨hgivers, rfl⟩ := forEach_askIf_eq_ok.1 hsenders
    obtain ⟨htakers, rfl⟩ := forEach_askIf_eq_ok.1 hreceivers
    exact ⟨⟨hgivers, htakers⟩, rfl⟩
  · rintro ⟨⟨hgivers, htakers⟩, rfl⟩
    exact ⟨_, forEach_askIf_eq_ok.2 ⟨hgivers, rfl⟩, _,
      forEach_askIf_eq_ok.2 ⟨htakers, rfl⟩, rfl⟩

theorem directKeys_of_transfer (hbody : t.body = .cryptoTransfer op) :
    r.directKeys t = r.cryptoTransfer op := by
  unfold directKeys
  rw [hbody]

theorem runsSchedule_of_transfer (hbody : t.body = .cryptoTransfer op) :
    t.body.runsSchedule = false := by
  rw [hbody]
  rfl

/-- The outcome of a transfer is decided by its direct keys and its scope. -/
theorem outcome_of_transfer (hbody : t.body = .cryptoTransfer op) :
    r.outcome t = (r.cryptoTransfer op).map fun keys =>
      OrderedKey.dedup (keys.map (.inScope t.id.scope)) := by
  rw [outcome_eq,
    collectKeys_of_not_runsSchedule (runsSchedule_of_transfer hbody),
    directKeys_of_transfer hbody]
  cases r.cryptoTransfer op <;> rfl

/-- What a transfer names depends on its parties, and on what the lookup says
of them. -/
theorem cryptoTransfer_congr {r' : Resolver} {op' : CryptoTransfer}
    (hgivers : op'.givers = op.givers) (htakers : op'.takers = op.takers)
    (hlookup : ∀ id ∈ op.givers ++ op.takers,
      r'.lookup .account id = r.lookup .account id) :
    r'.cryptoTransfer op' = r.cryptoTransfer op := by
  have hparties : r'.cryptoTransfer op' = r'.cryptoTransfer op := by
    unfold cryptoTransfer
    rw [op'.debited_eq, op'.credited_eq, hgivers, htakers, ← op.debited_eq,
      ← op.credited_eq]
  rw [hparties]
  -- the waivers have no part in a transfer, so those of one run will do
  refine (asks_cryptoTransfer (l := r.lookup) (w := r.waivers) op).same
    r'.lookup fun d hd e he => ?_
  rw [← List.map_append, op.debited_eq, op.credited_eq] at hd
  obtain ⟨id, hid, rfl⟩ := List.mem_map.1 hd
  cases he
  exact hlookup id hid

/-- An order of a transfer is the keys of its givers and then those of its
takers, each where it first occurs. -/
theorem keysForOtherParties_of_transfer (hbody : t.body = .cryptoTransfer op)
    {order : List OrderedKey} :
    r.keysForOtherParties t = .ok order
      ↔ (∀ id ∈ op.givers ++ op.takers, r.lookup.Finds id)
        ∧ (firsts Key.sameKey
            (r.lookup.giverKeys op ++ r.lookup.takerKeys op)).map
            (fun k => ⟨k, t.id.scope, .standard⟩) = order := by
  have hsame (a b : Key) : OrderedKey.same ⟨a, t.id.scope, .standard⟩
      ⟨b, t.id.scope, .standard⟩ = a.sameKey b := by
    simp [OrderedKey.same]
  rw [keysForOtherParties_eq_ok, ← firsts_map Key.sameKey hsame,
    ← OrderedKey.dedup_eq_firsts, ← map_inScope_ofKey]
  simp only [collectKeys_eq_ok_of_not_runsSchedule
    (runsSchedule_of_transfer hbody), directKeys_of_transfer hbody,
    cryptoTransfer_eq_ok]
  constructor
  · rintro ⟨_, ⟨_, ⟨hfound, rfl⟩, rfl⟩, rfl⟩
    exact ⟨hfound, rfl⟩
  · rintro ⟨hfound, rfl⟩
    exact ⟨_, ⟨_, ⟨hfound, rfl⟩, rfl⟩, rfl⟩

/-- The keys of a transfer are those of its givers, and of its takers that must
sign. -/
theorem mem_transfer_keys {k : Key} :
    k ∈ r.lookup.giverKeys op ++ r.lookup.takerKeys op
      ↔ ∃ id m, r.lookup .account id = .ok m
        ∧ (id ∈ op.givers ∨ (id ∈ op.takers ∧ m.receiverSigRequired = true))
        ∧ AccountMeta.key m = k := by
  unfold Lookup.giverKeys Lookup.takerKeys
  rw [List.mem_append, Lookup.mem_filterMap_keyIf, Lookup.mem_filterMap_keyIf]
  constructor
  · rintro (⟨id, m, hm, hid, -, hk⟩ | ⟨id, m, hm, hid, hsigns, hk⟩)
    · exact ⟨id, m, hm, .inl hid, hk⟩
    · exact ⟨id, m, hm, .inr ⟨hid, hsigns⟩, hk⟩
  · rintro ⟨id, m, hm, hid | ⟨hid, hsigns⟩, hk⟩
    · exact .inl ⟨id, m, hm, hid, rfl, hk⟩
    · exact .inr ⟨id, m, hm, hid, hsigns, hk⟩

/-- Up to decodability, first occurrences lose none of them. -/
theorem exists_mem_transfer_order {scope : Scope} {k : Key} :
    (∃ o ∈ (firsts Key.sameKey (r.lookup.giverKeys op
        ++ r.lookup.takerKeys op)).map fun k' => OrderedKey.mk k' scope .standard,
      o.key.sameKey k = true)
      ↔ ∃ id m, r.lookup .account id = .ok m
        ∧ (id ∈ op.givers ∨ (id ∈ op.takers ∧ m.receiverSigRequired = true))
        ∧ (AccountMeta.key m).sameKey k = true := by
  constructor
  · rintro ⟨o, ho, hsame⟩
    obtain ⟨k', hk', rfl⟩ := List.mem_map.1 ho
    have hkey := (firsts_sublist Key.sameKey _).subset hk'
    obtain ⟨id, m, hm, hid, rfl⟩ := mem_transfer_keys.1 hkey
    exact ⟨id, m, hm, hid, hsame⟩
  · rintro ⟨id, m, hm, hid, hsame⟩
    have hkey := mem_transfer_keys.2 ⟨id, m, hm, hid, rfl⟩
    obtain ⟨k', hk', hfirst⟩ :=
      exists_mem_firsts Key.sameKey Key.sameKey_equivalence hkey
    exact ⟨_, List.mem_map_of_mem hk', Key.sameKey_equivalence.trans hfirst hsame⟩

/-- All that a transfer asks for is its parties. -/
theorem allDemands_of_transfer (hbody : t.body = .cryptoTransfer op) :
    r.allDemands t
      = (op.givers ++ op.takers).map (.entity .missingAccount) := by
  rw [allDemands_of_not_runsSchedule (runsSchedule_of_transfer hbody),
    List.map_append, ← op.debited_eq, ← op.credited_eq]
  unfold demands
  rw [waivesControl, hbody]
  rfl

-- =============================================================== the outcome

/-- A transfer asks for its parties, and for nothing else. Under a lookup whose
errors name what was asked for:

- the keys can be named exactly if every party is found;
- then they are those of the givers, and of the takers that must sign;
- those of the givers come first, and what follows are the keys that no giver
  has, each side in the order in which the keys first occur;
- otherwise the failure names the first party that is not found, all givers
  before all takers, as missing if it is absent;
- transfers between the same parties in the same scope, of accounts of which the
  lookups say the same, have the same outcome. -/
theorem transfer_asks_parties (r : Resolver) (t : Transaction)
    (op : CryptoTransfer) (hbody : t.body = .cryptoTransfer op)
    (hnames : r.lookup.NamesAsked) :
    ((∃ order, r.keysForOtherParties t = .ok order)
        ↔ ∀ id ∈ op.givers ++ op.takers, r.lookup.Finds id)
      ∧ (∀ order, r.keysForOtherParties t = .ok order →
        (∀ k : Key, (∃ o ∈ order, o.key.sameKey k = true)
          ↔ ∃ id m, r.lookup .account id = .ok m
            ∧ (id ∈ op.givers
              ∨ (id ∈ op.takers ∧ m.receiverSigRequired = true))
            ∧ m.key.sameKey k = true)
        ∧ order = (firsts Key.sameKey (r.lookup.giverKeys op)
            ++ (firsts Key.sameKey (r.lookup.takerKeys op)).filter fun k =>
              (r.lookup.giverKeys op).all fun k' => !k'.sameKey k).map
            fun k => ⟨k, t.id.scope, .standard⟩)
      ∧ (∀ f, r.keysForOtherParties t = .error f
        ↔ ∃ id e, r.lookup.FirstMissing (op.givers ++ op.takers) id e
          ∧ f = ⟨if e.reason? = some .missingAccount then .missingAccount
              else .generalError, some id.ref, t.id⟩)
      ∧ ∀ (r' : Resolver) (t' : Transaction) (op' : CryptoTransfer),
        t'.body = .cryptoTransfer op' → t'.id.scope = t.id.scope →
        op'.givers = op.givers → op'.takers = op.takers →
        (∀ id ∈ op.givers ++ op.takers,
          r'.lookup .account id = r.lookup .account id) →
        r'.outcome t' = r.outcome t := by
  refine ⟨?_, ?_, ?_, ?_⟩
  · simp only [keysForOtherParties_of_transfer hbody]
    exact ⟨fun ⟨_, hfound, _⟩ => hfound, fun hfound => ⟨_, hfound, rfl⟩⟩
  · intro order horder
    obtain ⟨hfound, rfl⟩ := (keysForOtherParties_of_transfer hbody).1 horder
    refine ⟨fun k => exists_mem_transfer_order, ?_⟩
    rw [firsts_append]
  · intro f
    have hdemands : r.allDemands t
        = [] ++ (op.givers ++ op.takers).map (.entity .missingAccount) :=
      allDemands_of_transfer hbody
    rw [eq_error_of_accounts hdemands (fun d hd => nomatch hd)]
    refine exists_congr fun id => exists_congr fun e => and_congr_right ?_
    rintro ⟨before, after, -, -, he⟩
    rw [hnames .account id e he]
    rfl
  · intro r' t' op' hbody' hscope hgivers htakers hlookup
    rw [outcome_of_transfer hbody, outcome_of_transfer hbody', hscope,
      cryptoTransfer_congr hgivers htakers hlookup]

-- ============================================================ on a market

theorem market_namesAsked : market.lookup.NamesAsked := by
  intro kind id e h
  cases kind with
  | account =>
      by_cases hid : id.num < 400
      · cases h.symm.trans (if_pos hid)
      · cases h.symm.trans (if_neg hid)
        rfl
  | _ =>
      cases h
      rfl

/-- Account 150 pays account 50, which hands on a unit of a token; an item
changes hands from 8 to 7. -/
def barter : CryptoTransfer :=
  ⟨[⟨.ofNum 150, -5⟩, ⟨.ofNum 50, 5⟩, ⟨.ofNum 150, 0⟩],
    [⟨.ofNum 2000, [⟨.ofNum 50, -1⟩, ⟨.ofNum 9, 0⟩],
      [⟨.ofNum 8, .ofNum 7, 1⟩]⟩]⟩

/-- Two of three parties are absent. -/
def unbacked : CryptoTransfer :=
  ⟨[⟨.ofNum 404, 10⟩, ⟨.ofNum 150, -5⟩, ⟨.ofNum 405, -5⟩], []⟩

/-- Account 50 is asked as one that gives, account 150 not as one that takes,
and of two that are absent the one that gives is reported. -/
theorem transfer_asks_parties_market :
    market.lookup.NamesAsked
      ∧ market.keysForOtherParties
          (Sample.txn (.ofNum 1001) (.cryptoTransfer barter))
        = .ok ([150, 50, 8, 9, 7].map fun n =>
          ⟨Sample.keyOf (.ofNum n), .outer, .standard⟩)
      ∧ market.keysForOtherParties
          (Sample.txn (.ofNum 1001) (.cryptoTransfer unbacked))
        = .error ⟨.missingAccount, some (EntityId.ref (.ofNum 405 : AccountId)),
          Sample.txnId (.ofNum 1001)⟩ := by
  refine ⟨market_namesAsked, ?_, ?_⟩
  · obtain ⟨hasks, horder, -⟩ := transfer_asks_parties market
      (Sample.txn (.ofNum 1001) (.cryptoTransfer barter)) barter rfl
      market_namesAsked
    have hparties : ∀ id ∈ barter.givers ++ barter.takers, id.num < 400 := by
      decide
    obtain ⟨order, ho⟩ := hasks.2 fun id hid => market_finds (hparties id hid)
    rw [ho, (horder order ho).2]
    exact congrArg Except.ok (by decide)
  · obtain ⟨-, -, hfails, -⟩ := transfer_asks_parties market
      (Sample.txn (.ofNum 1001) (.cryptoTransfer unbacked)) unbacked rfl
      market_namesAsked
    refine (hfails _).2 ⟨.ofNum 405, .absent (.ofNum 405 : AccountId),
      ⟨[.ofNum 150], [.ofNum 404], rfl, fun id hid => ?_, rfl⟩, rfl⟩
    rw [List.mem_singleton.1 hid]
    exact market_finds (by decide)

end Resolver

end SigningOrder
