/-
Who may change the system files. Besides the two superusers there are three
administrators, each with files of its own, and the rule gives an account the
files of every administration that it holds. The check looks at one of them
only, the first in the order of `EntityNumbers.fileRoles`. A valid
configuration may give several administrations to one account, so the two can
come apart; `fileRule_unless_overshadowed` says where they do, and which
configurations keep them together.

The check never allows more than the rule: the administration that it looks
at is one that the payer holds (`mayChange_of_firstRole`).
-/
import Mathlib.Data.List.Nodup
import SigningOrder.Proofs.Policy.Reserve

namespace SigningOrder

-- ==================================================== statement vocabulary

/-- An administration of files: who holds it, and the files that it covers. -/
structure FileRole where
  holder : AccountId
  files : List FileId

namespace EntityNumbers

/-- The three administrations of files. -/
def fileRoles (x : EntityNumbers) : List FileRole :=
  [⟨x.account x.addressBookAdmin, x.files.addressBookAdminFiles.map x.file⟩,
    ⟨x.account x.feeSchedulesAdmin, [x.file x.files.feeSchedules]⟩,
    ⟨x.account x.exchangeRatesAdmin, [x.file x.files.exchangeRates]⟩]

/-- An account may change a system file as a superuser, or by any of the
administrations that it holds. -/
def MayChange (x : EntityNumbers) (payer : AccountId) (file : FileId) : Prop :=
  payer ∈ x.superusers
    ∨ ∃ role ∈ x.fileRoles, role.holder = payer ∧ file ∈ role.files

instance (x : EntityNumbers) (payer : AccountId) (file : FileId) :
    Decidable (x.MayChange payer file) :=
  inferInstanceAs (Decidable (_ ∨ _))

/-- What the rule answers for the change of a file. -/
def fileRule (x : EntityNumbers) (payer : AccountId) (file : FileId) :
    Authorization :=
  if x.IsSystem file then
    if x.MayChange payer file then .authorized else .unauthorized
  else .unnecessary

/-- The first administration that an account holds. -/
def firstRole (x : EntityNumbers) (payer : AccountId) : Option FileRole :=
  x.fileRoles.find? (·.holder = payer)

/-- An account that is no superuser holds an administration of a system file,
behind another one that does not cover it. -/
def Overshadowed (x : EntityNumbers) (payer : AccountId) (file : FileId) :
    Prop :=
  x.IsSystem file ∧ x.MayChange payer file ∧ payer ∉ x.superusers
    ∧ ∀ first ∈ x.firstRole payer, file ∉ first.files

/-- Of the administrations that an account holds, unless it is a superuser,
the first covers the files of all others. -/
def RolesApart (x : EntityNumbers) : Prop :=
  ∀ role ∈ x.fileRoles, ∀ first ∈ x.firstRole role.holder,
    role.holder ∈ x.superusers ∨ role.files ⊆ first.files

-- ================================================================ the check

variable {x : EntityNumbers} {payer : AccountId} {file : FileId}

theorem mem_of_firstRole {first : FileRole} (h : first ∈ x.firstRole payer) :
    first ∈ x.fileRoles ∧ first.holder = payer :=
  ⟨List.mem_of_find?_eq_some h, by simpa using List.find?_some h⟩

/-- The administration that the check looks at is the first. -/
theorem isFileAdmin_iff :
    x.isFileAdmin payer file = true
      ↔ ∃ first ∈ x.firstRole payer, file ∈ first.files := by
  unfold isFileAdmin firstRole fileRoles
  by_cases hbook : payer = x.account x.addressBookAdmin
  · rw [if_pos hbook, List.find?_cons_of_pos (by simp [hbook])]
    simp only [List.any_eq_true, beq_iff_eq, Option.mem_some_iff,
      exists_eq_left', List.mem_map]
    exact exists_congr fun num => and_congr_right fun _ => eq_comm
  · rw [if_neg hbook, List.find?_cons_of_neg (by simp [eq_comm, hbook])]
    by_cases hfees : payer = x.account x.feeSchedulesAdmin
    · rw [if_pos hfees, List.find?_cons_of_pos (by simp [hfees])]
      simp
    · rw [if_neg hfees, List.find?_cons_of_neg (by simp [eq_comm, hfees])]
      by_cases hrates : payer = x.account x.exchangeRatesAdmin
      · rw [if_pos hrates, List.find?_cons_of_pos (by simp [hrates])]
        simp
      · rw [if_neg hrates, List.find?_cons_of_neg (by simp [eq_comm, hrates])]
        simp

/-- The administration that is looked at is held by the payer. -/
theorem mayChange_of_firstRole {first : FileRole}
    (h : first ∈ x.firstRole payer) (hfile : file ∈ first.files) :
    x.MayChange payer file :=
  Or.inr ⟨first, (mem_of_firstRole h).1, (mem_of_firstRole h).2, hfile⟩

theorem checkFileChange_of_not_isSystem (h : ¬ x.IsSystem file) :
    x.checkFileChange payer file = .unnecessary := by
  unfold checkFileChange
  rw [if_pos]
  simpa using mt isSystemFile_iff.1 h

theorem checkFileChange_of_isSystem (h : x.IsSystem file) :
    x.checkFileChange payer file
      = if x.isSuperuser payer || x.isFileAdmin payer file then .authorized
        else .unauthorized := by
  unfold checkFileChange
  rw [if_neg]
  simpa using isSystemFile_iff.2 h

/-- Away from what is overshadowed, the check answers as the rule. -/
theorem checkFileChange_eq_fileRule (h : ¬ x.Overshadowed payer file) :
    x.checkFileChange payer file = x.fileRule payer file := by
  unfold fileRule
  by_cases hsystem : x.IsSystem file
  · rw [checkFileChange_of_isSystem hsystem, if_pos hsystem]
    refine if_congr ?_ rfl rfl
    rw [Bool.or_eq_true, isSuperuser_iff, isFileAdmin_iff]
    constructor
    · rintro (hsuper | ⟨first, hfirst, hfile⟩)
      · exact Or.inl hsuper
      · exact mayChange_of_firstRole hfirst hfile
    · intro hmay
      by_contra hnone
      obtain ⟨hsuper, hrole⟩ := not_or.1 hnone
      exact h ⟨hsystem, hmay, hsuper, fun first hfirst hfile =>
        hrole ⟨first, hfirst, hfile⟩⟩
  · rw [checkFileChange_of_not_isSystem hsystem, if_neg hsystem]

/-- What is overshadowed is refused, although the rule allows it. -/
theorem checkFileChange_of_overshadowed (h : x.Overshadowed payer file) :
    x.checkFileChange payer file = .unauthorized
      ∧ x.fileRule payer file = .authorized := by
  obtain ⟨hsystem, hmay, hsuper, hnone⟩ := h
  constructor
  · rw [checkFileChange_of_isSystem hsystem, if_neg]
    rw [Bool.or_eq_true, isSuperuser_iff, isFileAdmin_iff]
    rintro (h | ⟨first, hfirst, hfile⟩)
    · exact hsuper h
    · exact hnone first hfirst hfile
  · rw [fileRule, if_pos hsystem, if_pos hmay]

-- ==================================================== valid configurations

theorem isSystem_of_mem_files (hx : x.validate = .ok ()) {role : FileRole}
    (hrole : role ∈ x.fileRoles) (hfile : file ∈ role.files) :
    x.IsSystem file := by
  obtain ⟨-, hnamed, -⟩ := validate_eq_ok.1 hx
  have hfiles := (List.forall_mem_append.1 hnamed).2
  simp only [SpecialFiles.named, List.forall_mem_cons] at hfiles
  simp only [fileRoles, List.mem_cons, List.not_mem_nil, or_false] at hrole
  rcases hrole with rfl | rfl | rfl
  all_goals
    simp only [SpecialFiles.addressBookAdminFiles, List.map_cons, List.map_nil,
      List.mem_cons, List.not_mem_nil, or_false] at hfile
    grind [IsSystem, EntityNumbers.file]

/-- The first administration of an account covers what it may change by the
others exactly when nothing is overshadowed. -/
theorem rolesApart_iff (hx : x.validate = .ok ()) :
    x.RolesApart ↔ ∀ payer file, ¬ x.Overshadowed payer file := by
  constructor
  · rintro hapart payer file ⟨-, hmay, hsuper, hnone⟩
    obtain ⟨role, hrole, rfl, hfile⟩ := hmay.resolve_left hsuper
    have hfound : (x.firstRole role.holder).isSome = true :=
      List.find?_isSome.2 ⟨role, hrole, decide_eq_true rfl⟩
    obtain ⟨first, hfirst⟩ := Option.isSome_iff_exists.1 hfound
    have hcovers := (hapart role hrole first hfirst).resolve_left hsuper
    exact hnone first hfirst (hcovers hfile)
  · intro hnone role hrole first hfirst
    by_cases hsuper : role.holder ∈ x.superusers
    · exact Or.inl hsuper
    · refine Or.inr fun file hfile => ?_
      by_contra hmissing
      refine hnone role.holder file ⟨isSystem_of_mem_files hx hrole hfile,
        Or.inr ⟨role, hrole, rfl, hfile⟩, hsuper, fun other hother => ?_⟩
      rw [Option.mem_unique hother hfirst]
      exact hmissing

/-- Administrations of different accounts are apart. -/
theorem rolesApart_of_nodup (h : (x.fileRoles.map FileRole.holder).Nodup) :
    x.RolesApart := by
  intro role hrole first hfirst
  obtain ⟨hmem, hheld⟩ := mem_of_firstRole hfirst
  rw [List.inj_on_of_nodup_map h hmem hrole hheld]
  exact Or.inr (List.Subset.refl _)

/-- The rule for changes of files, and where the check departs from it. In a
valid configuration, the check has nothing to say of exactly the files that
are no system files, and answers as the rule unless the change is overshadowed;
then the rule allows it and the check refuses it. So the check is the rule for
all payers and files exactly when the administrations that one account holds,
unless it is a superuser, are all covered by the first of them. -/
theorem fileRule_unless_overshadowed (x : EntityNumbers)
    (hx : x.validate = .ok ()) :
    (∀ payer file,
        (x.checkFileChange payer file = .unnecessary ↔ ¬ x.IsSystem file)
      ∧ (¬ x.Overshadowed payer file →
          x.checkFileChange payer file = x.fileRule payer file)
      ∧ (x.Overshadowed payer file →
          x.checkFileChange payer file = .unauthorized
            ∧ x.fileRule payer file = .authorized))
      ∧ ((∀ payer file, x.checkFileChange payer file = x.fileRule payer file)
          ↔ x.RolesApart) := by
  refine ⟨fun payer file => ⟨?_, checkFileChange_eq_fileRule,
    checkFileChange_of_overshadowed⟩, ?_⟩
  · refine ⟨fun h hsystem => ?_, checkFileChange_of_not_isSystem⟩
    rw [checkFileChange_of_isSystem hsystem] at h
    split at h <;> cases h
  · rw [rolesApart_iff hx]
    refine ⟨fun hrule payer file hover => ?_, fun hnone payer file =>
      checkFileChange_eq_fileRule (hnone payer file)⟩
    obtain ⟨hcheck, hallowed⟩ := checkFileChange_of_overshadowed hover
    rw [hrule, hallowed] at hcheck
    cases hcheck

/-- With the usual numbers, which are all different, the check is the rule;
the administrator of the fee schedules may change those and no address book. -/
theorem fileRule_unless_overshadowed_usual :
    usual.validate = .ok ()
      ∧ (∀ payer file,
          usual.checkFileChange payer file = usual.fileRule payer file)
      ∧ usual.checkFileChange (.ofNum 56) (.ofNum 111) = .authorized
      ∧ usual.checkFileChange (.ofNum 56) (.ofNum 101) = .unauthorized := by
  have hvalid : usual.validate = .ok () := rfl
  have hapart : usual.RolesApart := rolesApart_of_nodup (by decide)
  have hrule := (fileRule_unless_overshadowed usual hvalid).2.2 hapart
  exact ⟨hvalid, hrule, (hrule _ _).trans rfl, (hrule _ _).trans rfl⟩

/-- The usual numbers, but the administrator of the address book administers
the fee schedules too. -/
def sharedRoles : EntityNumbers :=
  { usual with feeSchedulesAdmin := 55 }

/-- The numbers are valid, and the administrator may change the fee schedules
by the second of its administrations, but the check refuses it. -/
theorem second_role_refused :
    sharedRoles.validate = .ok ()
      ∧ sharedRoles.IsSystem (.ofNum 111 : FileId)
      ∧ sharedRoles.MayChange (.ofNum 55) (.ofNum 111)
      ∧ sharedRoles.checkFileChange (.ofNum 55) (.ofNum 111) = .unauthorized :=
  ⟨rfl, by decide, by decide, rfl⟩

end EntityNumbers

end SigningOrder
