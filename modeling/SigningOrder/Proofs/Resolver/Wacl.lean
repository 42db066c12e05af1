/-
Replacing the WACL of a file. An update with new keys asks for two things:
the present WACL, relaxed so that one of its keys will do where the new list
is the same keys, and the new list under the usual rule. The relaxation
looks for copies of the new list at any depth of the present one, so on its
own the first entry can be easier to satisfy than the present WACL. Together
the two never are (`replacement_needs_both`): wherever the relaxation
applies, the second entry asks for the whole copy anyway.

The argument needs that the second entry stays in the order. It does exactly
when the two lists are not the same keys; where they are, it is dropped as a
repetition, and one key is enough.
-/
import SigningOrder.Proofs.Key.Satisfied
import SigningOrder.Proofs.Order.Dedup
import SigningOrder.Proofs.Resolver.Effective
import SigningOrder.Sample.Ledger

namespace SigningOrder

namespace Resolver

variable {r : Resolver} {t : Transaction}

/-- The entry for the present WACL of a file that is to get new keys. -/
def presentEntry (scope : Scope) (present new : KeyList) : OrderedKey :=
  ⟨.ofKeyList present, scope, .topLevelFile new⟩

/-- The entry for the new keys of a file. -/
def newEntry (scope : Scope) (new : KeyList) : OrderedKey :=
  ⟨.ofKeyList new, scope, .standard⟩

-- ============================================================= the order

/-- What is collected for new keys of a file, none of them waived: the
present WACL and the new one. -/
theorem collectKeys_newKeys {op : FileUpdate} {present new : KeyList}
    (hbody : t.body = .fileUpdate op)
    (hfile : r.lookup .file op.file = .ok ⟨some present⟩)
    (hkeys : op.keys = some new) (htarget : r.waivers.targetFile t = false)
    (hnew : r.waivers.newFile t = false) :
    r.collectKeys t
      = .ok [presentEntry t.id.scope present new, newEntry t.id.scope new] := by
  have hruns : t.body.runsSchedule = false := by
    rw [hbody]
    rfl
  rw [collectKeys_eq_ok_of_not_runsSchedule hruns]
  refine ⟨[.ofWacl present (.topLevelFile new), .ofWacl new .standard], ?_, rfl⟩
  have hdirect : r.directKeys t = r.fileUpdate t op := by
    unfold directKeys
    rw [hbody]
  rw [hdirect, fileUpdate, htarget, if_neg Bool.false_ne_true, bind_eq_ok]
  refine ⟨⟨some present⟩, findFor_eq_ok.2 hfile, ?_⟩
  unfold newFileKeys presentRule
  rw [hkeys, hnew]
  rfl

/-- Two lists that are not the same keys give two entries that both stay. -/
theorem dedup_entries {scope : Scope} {present new : KeyList}
    (hdiff : present.sameKeys new = false) :
    OrderedKey.dedup [presentEntry scope present new, newEntry scope new]
      = [presentEntry scope present new, newEntry scope new] := by
  have hidentity : (newEntry scope new).identity
      ∉ [(presentEntry scope present new).identity] := by
    intro hmem
    have hcanon := congrArg Prod.snd (List.mem_singleton.1 hmem)
    have hsame : Key.sameKey (.ofKeyList present) (.ofKeyList new) = true :=
      (Key.sameKey_iff _ _).2 hcanon.symm
    have hlists : present.sameKeys new = true := hsame
    rw [hdiff] at hlists
    cases hlists
  rw [OrderedKey.dedup_cons, OrderedKey.dedupFrom_of_not_mem hidentity]
  rfl

-- ==================================================== who can authorize it

/-- Replacing a WACL takes what both lists take: the update resolves, and
all keys of its order are satisfied exactly when the present list and the
new one are, each in full. The new list has a member, as every list that was
built has. -/
theorem replacement_needs_both (r : Resolver) (t : Transaction)
    (op : FileUpdate) (present new : KeyList) (signed : LeafKey → Bool)
    (hbody : t.body = .fileUpdate op)
    (hfile : r.lookup .file op.file = .ok ⟨some present⟩)
    (hkeys : op.keys = some new) (htarget : r.waivers.targetFile t = false)
    (hnew : r.waivers.newFile t = false)
    (hdiff : present.sameKeys new = false) (hmember : new.members ≠ [])
    (hsigned : LeafKey.Alike signed) :
    ∃ order, r.keysForOtherParties t = .ok order
      ∧ ((∀ o ∈ order, o.isActive signed = true)
        ↔ (Key.ofKeyList present).isActive .standard signed = true
          ∧ (Key.ofKeyList new).isActive .standard signed = true) := by
  have hcollect := collectKeys_newKeys hbody hfile hkeys htarget hnew
  refine ⟨_, keysForOtherParties_eq_ok.2
    ⟨_, hcollect, dedup_entries hdiff⟩, ?_⟩
  rw [List.forall_mem_cons, List.forall_mem_singleton]
  show (Key.ofKeyList present).isActive (.topLevelFile new) signed = true
      ∧ (Key.ofKeyList new).isActive .standard signed = true ↔ _
  -- with the new list satisfied, its copies in the present one relax nothing
  refine and_congr_left fun hactive => ?_
  rw [Key.isActive_topLevelFile_eq hsigned hmember hactive]

-- ============================================== a copy inside of the list

/-- The new keys: two holders. -/
def newKeys : KeyList :=
  ⟨[.leaf (.ed25519 [1]), .leaf (.ed25519 [2])]⟩

/-- The present keys: a third holder, and a list of the other two. -/
def presentKeys : KeyList :=
  ⟨[.leaf (.ed25519 [3]), .ofKeyList newKeys]⟩

/-- A resolver that waives nothing, on a ledger where every file has the
present keys, and nothing else exists. -/
def guarded : Resolver where
  lookup := Lookup.empty.withKind .file fun _ => .ok ⟨some presentKeys⟩
  waivers := .nothing

/-- Replaces the present keys by the new ones. -/
def replaceKeys : FileUpdate :=
  ⟨.ofNum 1500, some newKeys, none, none⟩

/-- The third holder has signed, and one of the other two. -/
def withoutSecond : LeafKey → Bool :=
  LeafKey.signedBy [.ed25519 [3], .ed25519 [1]]

/-- Two holders satisfy the entry of the present keys, whose second member
is relaxed to one key, and the update still takes the third. -/
theorem replacement_needs_both_copy :
    (presentEntry .outer presentKeys newKeys).isActive withoutSecond = true
      ∧ (Key.ofKeyList presentKeys).isActive .standard withoutSecond = false
      ∧ presentKeys.sameKeys newKeys = false ∧ newKeys.members ≠ []
      ∧ LeafKey.Alike withoutSecond
      ∧ ∃ order,
        guarded.keysForOtherParties
            (Sample.txn (.ofNum 1001) (.fileUpdate replaceKeys)) = .ok order
        ∧ ((∀ o ∈ order, o.isActive withoutSecond = true)
          ↔ (Key.ofKeyList presentKeys).isActive .standard withoutSecond = true
            ∧ (Key.ofKeyList newKeys).isActive .standard withoutSecond
              = true) := by
  have hmake : KeyList.make newKeys.members = .ok newKeys := rfl
  have hmember := KeyList.members_ne_nil_of_make hmake
  have hsigned : LeafKey.Alike withoutSecond := LeafKey.alike_signedBy _
  refine ⟨by decide, by decide, by decide, hmember, hsigned, ?_⟩
  exact replacement_needs_both guarded _ replaceKeys presentKeys newKeys
    withoutSecond rfl rfl rfl rfl rfl (by decide) hmember hsigned

end Resolver

end SigningOrder
