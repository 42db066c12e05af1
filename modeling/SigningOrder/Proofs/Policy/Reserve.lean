/-
Valid configurations, and the reserved range. Validation runs check by check
and stops at the first fault; what passes all of them is stated here as one
list of rules (`Documented`), and it is exactly that (`validate_eq_ok`). Each
loop of the checks has one lemma that says what it accepts.

The rules matter because nothing behind them looks again. Waivers go by the
numbers that the configuration lists, and the rules for system entities go by
its superusers and administrators, wherever these numbers lie. In a valid
configuration all of them lie in the reserved range, so no privilege leaves
it (`privilege_stays_reserved`).
-/
import SigningOrder.Config.Validation
import SigningOrder.Proofs.Chain
import SigningOrder.Proofs.Policy.Privileged
import SigningOrder.Sample.Ledger
import SigningOrder.Waivers

namespace SigningOrder

-- ====================================================== statement vocabulary

/-- The numbers of the special files. -/
def SpecialFiles.numbers (x : SpecialFiles) : List UInt64 :=
  [x.addressBook, x.nodeDetails, x.feeSchedules, x.exchangeRates,
    x.applicationProperties, x.apiPermissions, x.throttleDefinitions]

namespace EntityNumbers

/-- The numbers of the administrative accounts. -/
def adminNumbers (x : EntityNumbers) : List UInt64 :=
  [x.treasury, x.systemAdmin, x.addressBookAdmin, x.feeSchedulesAdmin,
    x.exchangeRatesAdmin]

/-- A number is in the reserved range, which begins with 1. -/
def InRange (x : EntityNumbers) (num : UInt64) : Prop :=
  1 ≤ num ∧ num ≤ x.reserved

/-- The system entities: those of the network up to the end of the range. -/
def IsSystem {kind : EntityKind} (x : EntityNumbers) (id : EntityId kind) :
    Prop :=
  id.shard = x.shard ∧ id.realm = x.realm ∧ id.num ≤ x.reserved

instance {kind : EntityKind} (x : EntityNumbers) (id : EntityId kind) :
    Decidable (x.IsSystem id) :=
  inferInstanceAs (Decidable (_ ∧ _))

end EntityNumbers

/-- The rules for configurations. -/
structure SigningConfig.Documented (config : SigningConfig) : Prop where
  reserved : 100 ≤ config.entities.reserved
  accounts : ∀ num ∈ config.entities.adminNumbers, config.entities.InRange num
  files : ∀ num ∈ config.entities.files.numbers, config.entities.InRange num
  superusers : config.entities.treasury ≠ config.entities.systemAdmin
  waivedInRange : ∀ num ∈ config.waivers.waivedPayerAccounts,
    config.entities.InRange num
  waivedOnce : config.waivers.waivedPayerAccounts.Nodup

/-- The account or file that an operation changes, of those operations that
the rules for system entities may authorize. -/
def Body.changed? : Body → Option EntityRef
  | cryptoUpdate op => some op.account.ref
  | fileUpdate op => some op.file.ref
  | fileAppend op => some op.file.ref
  | _ => none

-- ================================================================== the checks

namespace EntityNumbers

variable {x : EntityNumbers}

theorem inRange_iff {num : UInt64} :
    x.InRange num ↔ num ≠ 0 ∧ num ≤ x.reserved := by
  refine and_congr_left fun _ => ?_
  rw [← UInt64.pos_iff_ne_zero, UInt64.le_iff_toNat_le, UInt64.lt_iff_toNat_lt]
  rfl

theorem checkRange_eq_ok {reserved : UInt64} {named : List (String × UInt64)} :
    checkRange reserved named = .ok ()
      ↔ ∀ p ∈ named, p.2 ≠ 0 ∧ p.2 ≤ reserved := by
  induction named with
  | nil => simp [checkRange]
  | cons p rest ih =>
      obtain ⟨name, num⟩ := p
      rw [checkRange, List.forall_mem_cons]
      by_cases hout : num = 0 ∨ reserved < num
      · rw [if_pos hout]
        refine iff_of_false nofun fun h => ?_
        rcases hout with hzero | hhigh
        · exact h.1.1 hzero
        · exact absurd h.1.2 (UInt64.not_le.2 hhigh)
      · obtain ⟨hzero, hhigh⟩ := not_or.1 hout
        rw [if_neg hout, ih]
        exact (and_iff_right ⟨hzero, UInt64.not_lt.1 hhigh⟩).symm

/-- The well-known numbers are valid when the range is large enough, each is
in it, and the superusers are two. -/
theorem validate_eq_ok :
    x.validate = .ok ()
      ↔ minReserved ≤ x.reserved
        ∧ (∀ p ∈ x.namedAccounts ++ x.files.named, p.2 ≠ 0 ∧ p.2 ≤ x.reserved)
        ∧ x.treasury ≠ x.systemAdmin := by
  rw [← UInt64.not_lt, ← checkRange_eq_ok]
  show (if x.reserved < minReserved then .error _ else
    checkRange x.reserved (x.namedAccounts ++ x.files.named) >>= fun _ =>
      if x.treasury = x.systemAdmin then .error _ else .ok ()) = _ ↔ _
  by_cases hsmall : x.reserved < minReserved
  · rw [if_pos hsmall]
    exact iff_of_false nofun fun h => h.1 hsmall
  · rw [if_neg hsmall, bind_eq_ok, and_iff_right hsmall]
    by_cases hsame : x.treasury = x.systemAdmin
    · rw [if_pos hsame]
      refine iff_of_false ?_ fun h => h.2 hsame
      rintro ⟨_, -, h⟩
      cases h
    · rw [if_neg hsame]
      exact ⟨fun ⟨_, h, _⟩ => ⟨h, hsame⟩, fun h => ⟨(), h.1, rfl⟩⟩

/-- The range check goes over the administrative accounts and the special
files, and over nothing else. -/
theorem named_inRange_iff :
    (∀ p ∈ x.namedAccounts ++ x.files.named, p.2 ≠ 0 ∧ p.2 ≤ x.reserved)
      ↔ (∀ num ∈ x.adminNumbers, x.InRange num)
        ∧ ∀ num ∈ x.files.numbers, x.InRange num := by
  have haccounts : x.adminNumbers = x.namedAccounts.map Prod.snd := rfl
  have hfiles : x.files.numbers = x.files.named.map Prod.snd := rfl
  rw [List.forall_mem_append, haccounts, hfiles, List.forall_mem_map,
    List.forall_mem_map]
  simp only [inRange_iff]

end EntityNumbers

/-- Waived numbers pass when none is zero, and each is new. -/
theorem WaiverConfig.checkWaived_eq_ok {seen nums : List UInt64} :
    checkWaived seen nums = .ok ()
      ↔ (∀ num ∈ nums, num ≠ 0 ∧ num ∉ seen) ∧ nums.Nodup := by
  induction nums generalizing seen with
  | nil => simp [checkWaived]
  | cons num rest ih =>
      rw [checkWaived, List.forall_mem_cons, List.nodup_cons]
      by_cases hzero : num = 0
      · rw [if_pos hzero]
        exact iff_of_false nofun fun h => h.1.1.1 hzero
      · rw [if_neg hzero]
        by_cases hseen : num ∈ seen
        · rw [if_pos hseen]
          exact iff_of_false nofun fun h => h.1.1.2 hseen
        · rw [if_neg hseen, ih]
          constructor
          · rintro ⟨hrest, hnodup⟩
            refine ⟨⟨⟨hzero, hseen⟩, fun n hn => ?_⟩, fun hnum => ?_, hnodup⟩
            · exact ⟨(hrest n hn).1, mt (List.mem_cons_of_mem num) (hrest n hn).2⟩
            · exact (hrest num hnum).2 List.mem_cons_self
          · rintro ⟨⟨-, hrest⟩, hnum, hnodup⟩
            refine ⟨fun n hn => ⟨(hrest n hn).1, fun hmem => ?_⟩, hnodup⟩
            rcases List.mem_cons.1 hmem with rfl | hmem
            · exact hnum hn
            · exact (hrest n hn).2 hmem

namespace SigningConfig

variable {config : SigningConfig} {t : Transaction}

theorem checkWaivedRange_eq_ok :
    config.checkWaivedRange = .ok ()
      ↔ ∀ num ∈ config.waivers.waivedPayerAccounts,
        num ≤ config.entities.reserved := by
  have hnone : config.checkWaivedRange = .ok ()
      ↔ config.waivers.waivedPayerAccounts.find?
        (fun num => config.entities.reserved < num) = none := by
    unfold checkWaivedRange
    split
    next num hnum => simp [hnum]
    next hnum => simp [hnum]
  rw [hnone, List.find?_eq_none]
  refine forall_congr' fun num => imp_congr_right fun _ => ?_
  rw [decide_eq_true_iff, UInt64.not_lt]

/-- The checks pass exactly the documented configurations. -/
theorem validate_eq_ok : config.validate = .ok () ↔ config.Documented := by
  constructor
  · intro h
    obtain ⟨_, hentities, h⟩ := bind_eq_ok.1 h
    obtain ⟨_, hwaivers, hrange⟩ := bind_eq_ok.1 h
    obtain ⟨hreserved, hnamed, hsuper⟩ := EntityNumbers.validate_eq_ok.1 hentities
    obtain ⟨haccounts, hfiles⟩ := EntityNumbers.named_inRange_iff.1 hnamed
    obtain ⟨hwaived, honce⟩ := WaiverConfig.checkWaived_eq_ok.1 hwaivers
    refine ⟨hreserved, haccounts, hfiles, hsuper, fun num hnum => ?_, honce⟩
    exact EntityNumbers.inRange_iff.2
      ⟨(hwaived num hnum).1, checkWaivedRange_eq_ok.1 hrange num hnum⟩
  · intro h
    have hnamed := EntityNumbers.named_inRange_iff.2 ⟨h.accounts, h.files⟩
    have hentities := EntityNumbers.validate_eq_ok.2
      ⟨h.reserved, hnamed, h.superusers⟩
    have hwaived : ∀ num ∈ config.waivers.waivedPayerAccounts,
        num ≠ 0 ∧ num ≤ config.entities.reserved :=
      fun num hnum => EntityNumbers.inRange_iff.1 (h.waivedInRange num hnum)
    have hwaivers : config.waivers.validate = .ok () :=
      WaiverConfig.checkWaived_eq_ok.2
        ⟨fun num hnum => ⟨(hwaived num hnum).1, List.not_mem_nil⟩, h.waivedOnce⟩
    have hrange := checkWaivedRange_eq_ok.2 fun num hnum => (hwaived num hnum).2
    exact bind_eq_ok.2 ⟨(), hentities, bind_eq_ok.2 ⟨(), hwaivers, hrange⟩⟩

end SigningConfig

-- ============================================================ the privileges

namespace EntityNumbers

variable {x : EntityNumbers}

/-- An account of a number in the range is a system entity. -/
theorem isSystem_account {num : UInt64} (h : x.InRange num) :
    x.IsSystem (x.account num) :=
  ⟨rfl, rfl, h.2⟩

theorem isSystemAccount_iff {id : AccountId} :
    x.isSystemAccount id = true ↔ x.IsSystem id := by
  simp [isSystemAccount, isHome, IsSystem, and_assoc]

theorem isSystemFile_iff {id : FileId} :
    x.isSystemFile id = true ↔ x.IsSystem id := by
  simp [isSystemFile, isHome, IsSystem, and_assoc]

/-- Who may change system files is one of the administrative accounts. -/
theorem isSystem_of_mem_filePrivileged
    (hx : ∀ num ∈ x.adminNumbers, x.InRange num) {id : AccountId}
    (h : id ∈ x.filePrivileged) : x.IsSystem id := by
  have haccounts : x.filePrivileged = x.adminNumbers.map x.account := rfl
  rw [haccounts] at h
  obtain ⟨num, hnum, rfl⟩ := List.mem_map.1 h
  exact isSystem_account (hx num hnum)

/-- Where the administrative accounts are in the range, what the rules
authorize is the change of a system entity by a system account. -/
theorem isSystem_of_authorized (hx : ∀ num ∈ x.adminNumbers, x.InRange num)
    {t : Transaction} (h : x.check t = .authorized) :
    x.IsSystem t.payer ∧ ∃ e ∈ t.body.changed?, x.IsSystem e.id := by
  have hprivileged : x.Privileged t := privileged_of_check (by rw [h]; rfl)
  have htreasury : x.IsSystem x.treasuryAccount :=
    isSystem_account (hx x.treasury List.mem_cons_self)
  obtain ⟨id, body⟩ := t
  cases body with
  | cryptoUpdate op =>
      obtain ⟨htarget, hpayer⟩ := hprivileged
      refine ⟨?_, op.account.ref, rfl, ?_⟩
      · exact isSystem_of_mem_filePrivileged hx (List.mem_append_left _ hpayer)
      · rcases htarget with htarget | htarget
        · exact isSystemAccount_iff.1 htarget
        · show x.IsSystem op.account
          rw [htarget]
          exact htreasury
  | fileUpdate op =>
      obtain ⟨hfile, hpayer⟩ := hprivileged
      exact ⟨isSystem_of_mem_filePrivileged hx hpayer, op.file.ref, rfl,
        isSystemFile_iff.1 hfile⟩
  | fileAppend op =>
      obtain ⟨hfile, hpayer⟩ := hprivileged
      exact ⟨isSystem_of_mem_filePrivileged hx hpayer, op.file.ref, rfl,
        isSystemFile_iff.1 hfile⟩
  | _ => exact hprivileged.elim

end EntityNumbers

namespace SigningConfig

variable {config : SigningConfig} {t : Transaction}

/-- A payer whose signature is waived is an account that the configuration
lists. -/
theorem mem_of_waived (h : (Waivers.ofConfig config).payer t = true) :
    ∃ num ∈ config.waivers.waivedPayerAccounts,
      config.entities.account num = t.payer :=
  List.mem_map.1 (of_decide_eq_true h)

/-- Validation passes exactly the documented configurations, and in those that
it passes no privilege leaves the reserved range. Whatever the configuration
is, it is valid if and only if the reserved range has 100 numbers at least,
the five administrative accounts and the seven special files are in it, the
treasury is not the system administrator, and the waived payers are in it and
are listed once. Where it is valid, for every transaction:

- a payer whose signature is waived is a system account that is listed;
- an operation that the rules authorize is the change of a system entity, and
  a system account pays for it. -/
theorem privilege_stays_reserved (config : SigningConfig) :
    (config.validate = .ok () ↔ config.Documented)
      ∧ (config.validate = .ok () → ∀ t : Transaction,
        ((Waivers.ofConfig config).payer t = true →
          config.entities.IsSystem t.payer
            ∧ t.payer.num ∈ config.waivers.waivedPayerAccounts)
        ∧ (config.entities.check t = .authorized →
          config.entities.IsSystem t.payer
            ∧ ∃ e ∈ t.body.changed?, config.entities.IsSystem e.id)) := by
  refine ⟨validate_eq_ok, fun hvalid t => ⟨fun hwaived => ?_, fun hcheck => ?_⟩⟩
  · obtain ⟨num, hnum, hpayer⟩ := mem_of_waived hwaived
    have hrange := (validate_eq_ok.1 hvalid).waivedInRange num hnum
    rw [← hpayer]
    exact ⟨EntityNumbers.isSystem_account hrange, hnum⟩
  · exact EntityNumbers.isSystem_of_authorized (validate_eq_ok.1 hvalid).accounts
      hcheck

/-- The fee administrator appends to the fee schedules. -/
def newFees : Transaction :=
  Sample.txn (.ofNum 56) (.fileAppend ⟨.ofNum 111, [1]⟩)

/-- The sample configuration is valid; it waives the signature of account 58,
and authorizes the fee administrator, and all of them are system entities. With
the same account listed twice it is not valid. -/
theorem privilege_stays_reserved_sample :
    Sample.config.validate = .ok ()
      ∧ (Waivers.ofConfig Sample.config).payer
        (Sample.txn (.ofNum 58) newFees.body) = true
      ∧ Sample.config.entities.IsSystem (.ofNum 58 : AccountId)
      ∧ Sample.config.entities.check newFees = .authorized
      ∧ Sample.config.entities.IsSystem (.ofNum 56 : AccountId)
      ∧ Sample.config.entities.IsSystem (.ofNum 111 : FileId)
      ∧ ¬(⟨.usual, ⟨[58, 58]⟩⟩ : SigningConfig).Documented := by
  obtain ⟨-, hprivilege⟩ := privilege_stays_reserved Sample.config
  have hvalid : Sample.config.validate = .ok () := rfl
  have hwaived : (Waivers.ofConfig Sample.config).payer
      (Sample.txn (.ofNum 58) newFees.body) = true := by decide
  have hcheck : Sample.config.entities.check newFees = .authorized := rfl
  obtain ⟨hpayer, file, hfile, hsystem⟩ := (hprivilege hvalid newFees).2 hcheck
  cases hfile
  refine ⟨hvalid, hwaived, ((hprivilege hvalid _).1 hwaived).1, hcheck, hpayer,
    hsystem, fun hdocumented => ?_⟩
  have htwice := (privilege_stays_reserved ⟨.usual, ⟨[58, 58]⟩⟩).1.2 hdocumented
  cases htwice

end SigningConfig

end SigningOrder
