/-
Who is privileged. The rules for system entities answer one transaction at a
time, by cases on its operation; `EntityNumbers.Privileged` says the same of
their "authorized" answer in one sentence for accounts and one for files,
without the order in which the rules are tried, and `privileged_of_check`
says that nothing else is ever authorized.

All of it holds of every configuration, valid or not. One that is not valid
may put the treasury outside of the reserved range, so the treasury is named
apart from the system accounts.
-/
import SigningOrder.Policy

namespace SigningOrder

-- ======================================================= who is privileged

namespace EntityNumbers

/-- The accounts that may change the other system accounts: the treasury and
the system administrator. -/
def superusers (x : EntityNumbers) : List AccountId :=
  [x.account x.treasury, x.account x.systemAdmin]

/-- The accounts that may change system files: superusers, and the three
administrators of files. -/
def filePrivileged (x : EntityNumbers) : List AccountId :=
  x.superusers ++ [x.account x.addressBookAdmin,
    x.account x.feeSchedulesAdmin, x.account x.exchangeRatesAdmin]

/-- A change of a system entity by an account that administers its kind. An
account is changed by a superuser, and it is in the reserved range or it is
the treasury; a file is in the reserved range, and its administrators may
change it too. -/
def Privileged (x : EntityNumbers) (t : Transaction) : Prop :=
  match t.body with
  | .cryptoUpdate op =>
    (x.isSystemAccount op.account = true ∨ op.account = x.treasuryAccount)
      ∧ t.payer ∈ x.superusers
  | .fileUpdate op =>
    x.isSystemFile op.file = true ∧ t.payer ∈ x.filePrivileged
  | .fileAppend op =>
    x.isSystemFile op.file = true ∧ t.payer ∈ x.filePrivileged
  | _ => False

variable {x : EntityNumbers}

/-- An account of the network is the one of its number. -/
theorem eq_account_of_isHome {id : AccountId} (h : x.isHome id = true) :
    id = x.account id.num := by
  obtain ⟨shard, realm, num⟩ := id
  unfold isHome at h
  simp only [Bool.and_eq_true, beq_iff_eq] at h
  obtain ⟨rfl, rfl⟩ := h
  rfl

/-- A superuser is an account of the network with one of two numbers. -/
theorem isSuperuser_iff {id : AccountId} :
    x.isSuperuser id = true ↔ id ∈ x.superusers := by
  constructor
  · intro h
    unfold isSuperuser at h
    simp only [Bool.and_eq_true, Bool.or_eq_true, beq_iff_eq] at h
    obtain ⟨hhome, hnum⟩ := h
    rw [eq_account_of_isHome hhome]
    rcases hnum with hnum | hnum
    · rw [hnum]
      exact List.mem_cons_self
    · rw [hnum]
      exact List.mem_cons_of_mem _ List.mem_cons_self
  · intro h
    unfold isSuperuser isHome
    rcases h with _ | ⟨_, _ | ⟨_, h⟩⟩
    · simp [account]
    · simp [account]
    · cases h

/-- Who administers a file is one of three accounts of the network. -/
theorem mem_filePrivileged_of_isFileAdmin {id : AccountId} {file : FileId}
    (h : x.isFileAdmin id file = true) : id ∈ x.filePrivileged := by
  unfold isFileAdmin at h
  unfold filePrivileged
  refine List.mem_append_right _ ?_
  split at h
  next hid => simp [hid]
  next =>
    split at h
    next hid => simp [hid]
    next =>
      split at h
      next hid => simp [hid]
      next => cases h

/-- What the rules authorize for an account is a privileged change. -/
theorem privileged_account {payer target : AccountId}
    (h : (x.checkAccountUpdate payer target).isAuthorized = true) :
    (x.isSystemAccount target = true ∨ target = x.treasuryAccount)
      ∧ payer ∈ x.superusers := by
  unfold checkAccountUpdate at h
  split at h
  next htarget =>
    split at h
    next hpayer =>
      refine ⟨Or.inr (beq_iff_eq.1 htarget), ?_⟩
      rw [beq_iff_eq.1 hpayer]
      exact List.mem_cons_self
    next => cases h
  next =>
    split at h
    next hboth =>
      obtain ⟨hsystem, hsuper⟩ := (Bool.and_eq_true _ _).mp hboth
      exact ⟨Or.inl hsystem, isSuperuser_iff.1 hsuper⟩
    next => cases h

/-- What the rules authorize for a file is a privileged change. -/
theorem privileged_file {payer : AccountId} {file : FileId}
    (h : (x.checkFileChange payer file).isAuthorized = true) :
    x.isSystemFile file = true ∧ payer ∈ x.filePrivileged := by
  unfold checkFileChange at h
  split at h
  next => cases h
  next hsystem =>
    rw [Bool.not_eq_true, Bool.not_eq_false'] at hsystem
    refine ⟨hsystem, ?_⟩
    split at h
    next hpayer =>
      rcases (Bool.or_eq_true _ _).mp hpayer with hsuper | hadmin
      · exact List.mem_append_left _ (isSuperuser_iff.1 hsuper)
      · exact mem_filePrivileged_of_isFileAdmin hadmin
    next => cases h

/-- The rules authorize privileged changes only. -/
theorem privileged_of_check {t : Transaction}
    (h : (x.check t).isAuthorized = true) : x.Privileged t := by
  obtain ⟨id, body⟩ := t
  cases body with
  | cryptoUpdate op => exact privileged_account h
  | fileUpdate op => exact privileged_file h
  | fileAppend op => exact privileged_file h
  | _ => cases h

end EntityNumbers

end SigningOrder
