/-
The transaction that takes effect. An operation that creates or signs a
schedule is resolved in two parts: keys of its own, and the keys of the
transaction in the schedule, as if the payer of the schedule had submitted
it. Any other operation is its own effect. This file names the parts
(`ownKeys`, `Lookup.effective`) and proves that collection is the one behind
the other (`collectKeys_eq_ok`, `collectKeys_eq`), so that no later proof
takes the two schedule operations apart again.

The transaction in a schedule comes from the operation or from the lookup,
never from the waivers: two resolvers with one lookup run the same one.
-/
import SigningOrder.Proofs.Resolver.Outcome

namespace SigningOrder

-- ========================================================== what is run

/-- Whether an operation runs the transaction that a schedule holds. -/
def Body.runsSchedule : Body → Bool
  | scheduleCreate _ _ => true
  | scheduleSign _ => true
  | _ => false

namespace Lookup

/-- The account that the schedule of an operation names to pay for its
transaction. -/
def designated? (lookup : Lookup) (t : Transaction) : Option AccountId :=
  match t.body with
  | .scheduleCreate _ terms => terms.payer
  | .scheduleSign op =>
    match lookup .schedule op.schedule with
    | .ok m => m.designatedPayer
    | .error _ => none
  | _ => none

/-- The body that the schedule of an operation holds. -/
def scheduled? (lookup : Lookup) (t : Transaction) : Option Body :=
  match t.body with
  | .scheduleCreate scheduled _ => some scheduled
  | .scheduleSign op =>
    match lookup .schedule op.schedule with
    | .ok m => some m.scheduledBody
    | .error _ => none
  | _ => none

/-- Who pays for what takes effect: the account that the schedule names, and
otherwise the payer of the transaction. -/
def effectivePayer (lookup : Lookup) (t : Transaction) : AccountId :=
  (lookup.designated? t).getD t.payer

/-- The transaction that takes effect: the one in the schedule, run by who
pays for it, and otherwise the transaction itself. -/
def effective (lookup : Lookup) (t : Transaction) : Transaction :=
  match lookup.scheduled? t with
  | some body => ⟨t.id.asScheduled (lookup.effectivePayer t), body⟩
  | none => t

/-- A transaction that runs no schedule runs no body of one. -/
theorem scheduled?_of_not_runsSchedule {lookup : Lookup} {t : Transaction}
    (h : t.body.runsSchedule = false) : lookup.scheduled? t = none := by
  obtain ⟨id, body⟩ := t
  cases body <;> first | rfl | cases h

/-- Where no schedule holds a transaction, the one at hand takes effect. -/
theorem effective_of_not_scheduled {lookup : Lookup} {t : Transaction}
    (h : lookup.scheduled? t = none) : lookup.effective t = t := by
  unfold effective
  rw [h]

/-- A transaction that runs no schedule takes effect itself. -/
theorem effective_of_not_runsSchedule {lookup : Lookup} {t : Transaction}
    (h : t.body.runsSchedule = false) : lookup.effective t = t :=
  effective_of_not_scheduled (scheduled?_of_not_runsSchedule h)

/-- The transaction that takes effect, where a schedule holds it. -/
theorem effective_of_scheduled {lookup : Lookup} {t : Transaction}
    {body : Body} (h : lookup.scheduled? t = some body) :
    lookup.effective t
      = ⟨t.id.asScheduled (lookup.effectivePayer t), body⟩ := by
  unfold effective
  rw [h]

/-- Who pays for what takes effect is its payer. -/
theorem effective_payer (lookup : Lookup) (t : Transaction) :
    (lookup.effective t).payer = lookup.effectivePayer t := by
  obtain ⟨id, body⟩ := t
  cases body with
  | scheduleSign op =>
      unfold effective effectivePayer scheduled? designated?
      dsimp only
      cases lookup .schedule op.schedule <;> rfl
  | _ => rfl

end Lookup

-- =========================================================== the two parts

namespace Resolver

/-- The keys that an operation on a schedule requires besides those of the
transaction in it. -/
def ownKeys (r : Resolver) (t : Transaction) :
    Except Unresolved (List OrderedKey) :=
  match t.body with
  | .scheduleCreate _ terms => do
    let designated ← whenSome terms.payer (r.accountKey .missingAccount)
    return (optionalKey terms.adminKey ++ designated).map
      (.inScope t.id.scope)
  | .scheduleSign op => do
    let m ← r.find .schedule op.schedule
    let designated ← whenSome m.designatedPayer (r.accountKey .missingAccount)
    return designated.map (.inScope .scheduled)
  | _ => .ok []

/-- The keys of what takes effect. -/
def effectiveKeys (r : Resolver) (t : Transaction) :
    Except Unresolved (List OrderedKey) :=
  match r.lookup.scheduled? t with
  | some body => r.scheduledKeys t.id (r.lookup.effectivePayer t) body
  | none => (r.directKeys t).map fun keys => keys.map (.inScope t.id.scope)

variable {r : Resolver} {t : Transaction}

/-- An operation that runs no schedule has no keys of its own. -/
theorem ownKeys_of_not_runsSchedule (h : t.body.runsSchedule = false) :
    r.ownKeys t = .ok [] := by
  obtain ⟨id, body⟩ := t
  cases body <;> first | rfl | cases h

/-- Collection is the keys of the operation, and behind them those of what
takes effect; whichever fails first decides the failure. -/
theorem collectKeys_eq (r : Resolver) (t : Transaction) :
    r.collectKeys t = (do
      let own ← r.ownKeys t
      let rest ← r.effectiveKeys t
      return own ++ rest) := by
  by_cases hruns : t.body.runsSchedule = true
  · obtain ⟨id, body⟩ := t
    cases body with
    | scheduleCreate scheduled terms =>
        show r.scheduleCreate id id.scope scheduled terms = _
        unfold scheduleCreate ownKeys effectiveKeys Lookup.scheduled?
          Lookup.effectivePayer Lookup.designated?
        dsimp only
        cases whenSome terms.payer (r.accountKey .missingAccount) <;> rfl
    | scheduleSign op =>
        show r.scheduleSign id op = _
        unfold scheduleSign ownKeys effectiveKeys Lookup.scheduled?
          Lookup.effectivePayer Lookup.designated? find findFor
        dsimp only
        cases r.lookup .schedule op.schedule with
        | error e => rfl
        | ok m =>
            show whenSome m.designatedPayer (r.accountKey .missingAccount)
              >>= _ = (whenSome m.designatedPayer
                (r.accountKey .missingAccount) >>= _) >>= _
            cases whenSome m.designatedPayer
              (r.accountKey .missingAccount) <;> rfl
    | _ => cases hruns
  · rw [Bool.not_eq_true] at hruns
    rw [ownKeys_of_not_runsSchedule hruns]
    unfold effectiveKeys
    rw [Lookup.scheduled?_of_not_runsSchedule hruns]
    have hdirect : r.collectKeys t
        = (r.directKeys t).map fun keys => keys.map (.inScope t.id.scope) := by
      obtain ⟨id, body⟩ := t
      cases body <;> first | rfl | cases hruns
    rw [hdirect]
    cases r.directKeys t <;> rfl

/-- The keys of what takes effect are those that its operation requires by
itself, in its own scope; a schedule runs no operation on a schedule. -/
theorem effectiveKeys_eq_ok {keys : List OrderedKey} :
    r.effectiveKeys t = .ok keys
      ↔ (∀ body, r.lookup.scheduled? t = some body → body.isSchedulable = true)
        ∧ ∃ direct, r.directKeys (r.lookup.effective t) = .ok direct
          ∧ direct.map (.inScope (r.lookup.effective t).id.scope) = keys := by
  unfold effectiveKeys
  cases hbody : r.lookup.scheduled? t with
  | none =>
      rw [Lookup.effective_of_not_scheduled hbody, map_eq_ok]
      refine ⟨fun h => ⟨fun _ hb => ?_, h⟩, fun h => h.2⟩
      cases hb
  | some body =>
      rw [Lookup.effective_of_scheduled hbody]
      dsimp only
      unfold scheduledKeys
      by_cases hsched : body.isSchedulable = true
      · rw [if_pos hsched]
        have hall : ∀ b, some body = some b → b.isSchedulable = true :=
          fun b hb => Option.some.inj hb ▸ hsched
        cases r.directKeys ⟨t.id.asScheduled (r.lookup.effectivePayer t), body⟩
          with
        | error u => simp
        | ok direct =>
            simp only [Except.ok.injEq, exists_eq_left']
            exact ⟨fun h => ⟨hall, h⟩, fun h => h.2⟩
      · rw [if_neg hsched]
        refine ⟨fun h => ?_, fun h => absurd (h.1 body rfl) hsched⟩
        cases h

/-- Two runs of the same body are in step as the operations in it are. -/
theorem inStep_effectiveKeys {r' : Resolver} {t' : Transaction}
    {R : List RequiredKey → List RequiredKey → Prop}
    {S : List OrderedKey → List OrderedKey → Prop}
    (hbody : r.lookup.scheduled? t = r'.lookup.scheduled? t')
    (hdirect : InStep R (r.directKeys (r.lookup.effective t))
      (r'.directKeys (r'.lookup.effective t')))
    (hscope : ∀ keys keys', R keys keys' →
      S (keys.map (.inScope (r.lookup.effective t).id.scope))
        (keys'.map (.inScope (r'.lookup.effective t').id.scope))) :
    InStep S (r.effectiveKeys t) (r'.effectiveKeys t') := by
  unfold effectiveKeys
  cases hrun : r'.lookup.scheduled? t' with
  | none =>
      rw [hrun] at hbody
      rw [Lookup.effective_of_not_scheduled hbody,
        Lookup.effective_of_not_scheduled hrun] at hdirect hscope
      rw [hbody]
      exact hdirect.map hscope
  | some body =>
      rw [hrun] at hbody
      rw [Lookup.effective_of_scheduled hbody,
        Lookup.effective_of_scheduled hrun] at hdirect hscope
      rw [hbody]
      dsimp only
      unfold scheduledKeys
      split
      · generalize r.directKeys _ = x at hdirect ⊢
        generalize r'.directKeys _ = y at hdirect ⊢
        cases hdirect with
        | ok hkeys => exact .ok (hscope _ _ hkeys)
        | error u => exact .error _
      · exact .error _

/-- What takes effect is named by one of two resolvers as by the other, when
they look up the same and agree on its operation. -/
theorem effectiveKeys_congr {r' : Resolver} (hlookup : r.lookup = r'.lookup)
    (h : r.directKeys (r.lookup.effective t)
      = r'.directKeys (r.lookup.effective t)) :
    r.effectiveKeys t = r'.effectiveKeys t := by
  rw [hlookup] at h
  refine (inStep_effectiveKeys (R := Eq) ?_ ?_ ?_).eq
  · rw [hlookup]
  · rw [hlookup, h]
    exact .refl (fun _ => rfl) _
  · rintro keys _ rfl
    rw [hlookup]

/-- What a successful collection is made of. -/
theorem collectKeys_eq_ok {keys : List OrderedKey} :
    r.collectKeys t = .ok keys
      ↔ ∃ own, r.ownKeys t = .ok own
        ∧ ∃ rest, r.effectiveKeys t = .ok rest ∧ own ++ rest = keys := by
  rw [collectKeys_eq, bind_eq_ok]
  refine exists_congr fun own => and_congr Iff.rfl ?_
  rw [bind_eq_ok]
  exact exists_congr fun rest => and_congr Iff.rfl pure_eq_ok

/-- What an operation that runs no schedule collects: the keys that it
requires by itself, in the scope of its transaction. -/
theorem collectKeys_eq_ok_of_not_runsSchedule
    (h : t.body.runsSchedule = false) {keys : List OrderedKey} :
    r.collectKeys t = .ok keys
      ↔ ∃ direct, r.directKeys t = .ok direct
        ∧ direct.map (.inScope t.id.scope) = keys := by
  have heff := @effectiveKeys_eq_ok r t keys
  rw [Lookup.effective_of_not_runsSchedule h,
    Lookup.scheduled?_of_not_runsSchedule h] at heff
  rw [collectKeys_eq_ok, ownKeys_of_not_runsSchedule h]
  simpa using heff

/-- The outcome of that, with the failures. -/
theorem collectKeys_of_not_runsSchedule (h : t.body.runsSchedule = false) :
    r.collectKeys t
      = (r.directKeys t).map fun keys => keys.map (.inScope t.id.scope) := by
  rw [collectKeys_eq, ownKeys_of_not_runsSchedule h, effectiveKeys,
    Lookup.scheduled?_of_not_runsSchedule h]
  cases r.directKeys t <;> rfl

/-- An order is what was collected, without repetitions. -/
theorem keysForOtherParties_eq_ok {order : List OrderedKey} :
    r.keysForOtherParties t = .ok order
      ↔ ∃ keys, r.collectKeys t = .ok keys
        ∧ OrderedKey.dedup keys = order := by
  unfold keysForOtherParties
  rw [mapError_eq_ok, map_eq_ok]

end Resolver

end SigningOrder
