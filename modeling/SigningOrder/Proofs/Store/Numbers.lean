/-
The numbers of publications. A commit hands out the current records in a
builder that already has the number of the publication to come, one more than
the current one, and it publishes what is handed back under the number that is
in it then. So the numbers of a run go up by one exactly as long as every
function that succeeds hands back the number that it was handed
(`Ledger.numbers_consecutive_iff`). The numbers have 64 bits, and a run is
followed no further than these count.

The changes that there are leave the number alone, so a run of these numbers
its publications as it should. A function may also hand back another builder,
and nothing compares its number with the current one: a new builder starts
again from zero, and a return to an older snapshot publishes a number that is
taken (`Ledger.rollback_repeats`).
-/
import SigningOrder.Proofs.Store.History

namespace SigningOrder

/-- What a commit does to the builder that it is handed. -/
abbrev Edit := Builder → Except DecodeError Builder

namespace Edit

/-- What is handed back, if anything, has the number that was handed out. -/
def KeepsNumber (e : Edit) (b : Builder) : Prop :=
  ∀ b', e b = .ok b' → b'.number = b.number

/-- Leaves the builder as it is. -/
def keep : Edit := .ok

/-- Hands back a builder without records. -/
def startAgain : Edit := fun _ => .ok .empty

/-- Hands back a builder for what follows another snapshot. -/
def rollback (s : Snapshot) : Edit := fun _ => .ok (.ofSnapshot s)

end Edit

namespace Ledger

/-- The numbers that a run of commits publishes, one for each that succeeds. -/
def numbers : Ledger → List Edit → List Nat
  | _, [] => []
  | ledger, e :: edits =>
    match ledger.publish e with
    | .ok next => next.current.sequence :: numbers next edits
    | .error _ => numbers ledger edits

/-- Through a run, every commit hands back the number that it was handed. -/
def KeepsNumbers : Ledger → List Edit → Prop
  | _, [] => True
  | ledger, e :: edits =>
    e.KeepsNumber (.ofSnapshot ledger.current)
      ∧ KeepsNumbers (ledger.commit e) edits

variable {ledger next : Ledger} {e : Edit}

-- ================================================================ one commit

/-- As long as 64 bits count it, the number behind that of a snapshot is one
more. -/
theorem number_eq_succ_iff {s s' : Snapshot} (h : s.sequence + 1 < 2 ^ 64) :
    s'.number = s.number + 1 ↔ s'.sequence = s.sequence + 1 := by
  have hnext : (s.number + 1).toNat = s.sequence + 1 := by
    rw [UInt64.toNat_add]
    exact Nat.mod_eq_of_lt h
  rw [← UInt64.toNat_inj, hnext]
  rfl

/-- A commit publishes what is handed back. -/
theorem publish_eq_ok :
    ledger.publish e = .ok next
      ↔ ∃ b, e (.ofSnapshot ledger.current) = .ok b ∧ ⟨b.build⟩ = next := by
  unfold publish
  cases e (.ofSnapshot ledger.current) <;> simp

/-- The number of a publication is the next one exactly if the number that was
handed out is handed back. -/
theorem keepsNumber_iff (h : ledger.publish e = .ok next) :
    e.KeepsNumber (.ofSnapshot ledger.current)
      ↔ next.current.number = ledger.current.number + 1 := by
  obtain ⟨b, hb, rfl⟩ := publish_eq_ok.1 h
  constructor
  · intro hkeeps
    exact hkeeps b hb
  · intro hnumber b' hb'
    cases hb.symm.trans hb'
    exact hnumber

/-- What publishes nothing hands back no number. -/
theorem keepsNumber_of_fails {fault : StateError}
    (h : ledger.publish e = .error fault) :
    e.KeepsNumber (.ofSnapshot ledger.current) := by
  intro b hb
  rw [publish_eq_ok.2 ⟨b, hb, rfl⟩] at h
  cases h

-- ===================================================================== a run

theorem numbers_of_publishes (h : ledger.publish e = .ok next)
    (edits : List Edit) : ledger.numbers (e :: edits)
      = next.current.sequence :: next.numbers edits := by
  rw [numbers, h]

theorem numbers_of_fails {fault : StateError}
    (h : ledger.publish e = .error fault) (edits : List Edit) :
    ledger.numbers (e :: edits) = ledger.numbers edits := by
  rw [numbers, h]

/-- The numbers of a run follow each other, from the one after the current
one, exactly if the run keeps them and they do not run out. -/
theorem numbers_eq_range'_iff (edits : List Edit) (ledger : Ledger) :
    ledger.numbers edits = List.range' (ledger.current.sequence + 1)
        (ledger.numbers edits).length
      ↔ ledger.KeepsNumbers edits
        ∧ ledger.current.sequence + (ledger.numbers edits).length < 2 ^ 64 := by
  induction edits generalizing ledger with
  | nil =>
      have hlow : ledger.current.sequence < 2 ^ 64 := UInt64.toNat_lt _
      simpa [numbers, KeepsNumbers] using hlow
  | cons e edits ih =>
      cases hpublish : ledger.publish e with
      | error fault =>
          have hstays : ledger.commit e = ledger := by rw [commit, hpublish]
          have hvacuous := keepsNumber_of_fails hpublish
          rw [numbers_of_fails hpublish, KeepsNumbers, hstays, ih]
          exact and_congr_left fun _ => (and_iff_right hvacuous).symm
      | ok next =>
          have hmoves : ledger.commit e = next := by rw [commit, hpublish]
          rw [numbers_of_publishes hpublish, KeepsNumbers, hmoves,
            List.length_cons, List.range'_succ, List.cons.injEq,
            keepsNumber_iff hpublish]
          -- The rest is counted from the number that was published last.
          constructor
          · rintro ⟨hnext, hrest⟩
            have hroom : ledger.current.sequence + 1 < 2 ^ 64 :=
              hnext ▸ UInt64.toNat_lt next.current.number
            rw [← hnext] at hrest
            obtain ⟨hkeeps, hlow⟩ := (ih next).1 hrest
            exact ⟨⟨(number_eq_succ_iff hroom).2 hnext, hkeeps⟩, by omega⟩
          · rintro ⟨⟨hnumber, hkeeps⟩, hlow⟩
            have hnext := (number_eq_succ_iff (by omega)).1 hnumber
            refine ⟨hnext, ?_⟩
            rw [← hnext]
            exact (ih next).2 ⟨hkeeps, by omega⟩

/-- A run that keeps its numbers comes as far as it has publications. -/
theorem sequence_of_keepsNumbers (edits : List Edit) {ledger : Ledger}
    (h : ledger.KeepsNumbers edits)
    (hlow : ledger.current.sequence + (ledger.numbers edits).length < 2 ^ 64) :
    (edits.foldl commit ledger).current.sequence
      = ledger.current.sequence + (ledger.numbers edits).length := by
  induction edits generalizing ledger with
  | nil => rfl
  | cons e edits ih =>
      obtain ⟨hfirst, hrest⟩ := h
      cases hpublish : ledger.publish e with
      | error fault =>
          have hstays : ledger.commit e = ledger := by rw [commit, hpublish]
          rw [numbers_of_fails hpublish] at hlow ⊢
          rw [hstays] at hrest
          rw [List.foldl_cons, hstays, ih hrest hlow]
      | ok next =>
          have hmoves : ledger.commit e = next := by rw [commit, hpublish]
          rw [numbers_of_publishes hpublish, List.length_cons] at hlow ⊢
          rw [hmoves] at hrest
          have hnext := (number_eq_succ_iff (by omega)).1
            ((keepsNumber_iff hpublish).1 hfirst)
          rw [List.foldl_cons, hmoves, ih hrest (by omega), hnext]
          omega

-- =================================================================== changes

/-- Changes are made to the records alone. -/
theorem keepsNumber_step (c : Commit) (b : Builder) :
    Edit.KeepsNumber c.step b := by
  intro b' hb'
  obtain ⟨middle, hmade, hend⟩ := bind_eq_ok.1 hb'
  have happlicable := Change.isApplicable_of_applyAll hmade
  obtain ⟨records, hrecords⟩ :=
    Change.applyAll_of_isApplicable happlicable b.records
  cases (hrecords b.number).symm.trans hmade
  cases hfault : c.fault with
  | none =>
      rw [hfault] at hend
      cases pure_eq_ok.1 hend
      rfl
  | some fault =>
      rw [hfault] at hend
      cases hend

/-- Commits of changes keep the numbers of any run. -/
theorem keepsNumbers_steps (commits : List Commit) (ledger : Ledger) :
    ledger.KeepsNumbers (commits.map Commit.step) := by
  induction commits generalizing ledger with
  | nil => exact True.intro
  | cons c commits ih => exact ⟨keepsNumber_step c _, ih _⟩

-- =============================================================== the numbers

/-- The published numbers are strictly increasing by one exactly as long as
the number that a commit hands out is the number that it gets back, and as the
numbers stay below 2⁶⁴. The number comes back from commits that only make
changes, those that fail included. -/
theorem numbers_consecutive_iff (ledger : Ledger) :
    (∀ edits : List Edit,
      (ledger.numbers edits = List.range' (ledger.current.sequence + 1)
          (ledger.numbers edits).length
        ↔ ledger.KeepsNumbers edits
          ∧ ledger.current.sequence + (ledger.numbers edits).length < 2 ^ 64)
      ∧ (ledger.KeepsNumbers edits →
        ledger.current.sequence + (ledger.numbers edits).length < 2 ^ 64 →
        (edits.foldl commit ledger).current.sequence
          = ledger.current.sequence + (ledger.numbers edits).length))
      ∧ ∀ commits : List Commit,
        ledger.KeepsNumbers (commits.map Commit.step) := by
  refine ⟨fun edits => ⟨numbers_eq_range'_iff edits ledger, ?_⟩,
    fun commits => keepsNumbers_steps commits ledger⟩
  exact sequence_of_keepsNumbers edits

/-- Two commits of changes, the second of which fails, and then one that
leaves all as it is. -/
def countedEdits : List Edit :=
  holderCommits.reverse.map Commit.step ++ [Edit.keep]

/-- The commit that fails takes no number. -/
theorem numbers_consecutive_iff_counted :
    empty.KeepsNumbers countedEdits
      ∧ empty.numbers countedEdits = [1, 2]
      ∧ (countedEdits.foldl commit empty).current.sequence = 2 := by
  obtain ⟨hconsecutive, hcount⟩ := (numbers_consecutive_iff empty).1 countedEdits
  obtain ⟨hkeeps, hlow⟩ := hconsecutive.1 rfl
  exact ⟨hkeeps, rfl, hcount hkeeps hlow⟩

-- ========================================================== another builder

/-- To return to a snapshot behind which something was published is to publish
a number again that is taken. -/
theorem rollback_repeats {edits : List Edit} (h : ledger.KeepsNumbers edits)
    (hlow : ledger.current.sequence + (ledger.numbers edits).length < 2 ^ 64)
    (hsome : ledger.numbers edits ≠ []) (later : Ledger) :
    ∃ next, later.publish (Edit.rollback ledger.current) = .ok next
      ∧ next.current.sequence ∈ ledger.numbers edits := by
  refine ⟨⟨(Builder.ofSnapshot ledger.current).build⟩, rfl, ?_⟩
  have hlength := List.length_pos_iff.2 hsome
  have hnext : (Builder.ofSnapshot ledger.current).build.sequence
      = ledger.current.sequence + 1 := (number_eq_succ_iff (by omega)).1 rfl
  rw [(numbers_eq_range'_iff edits ledger).2 ⟨h, hlow⟩, List.mem_range'_1, hnext]
  omega

/-- A commit that succeeds may publish no next number: a new builder begins at
zero, and a return to the start publishes the first number again. -/
theorem publish_goes_back :
    empty.numbers [Edit.keep, Edit.keep, Edit.startAgain, Edit.keep]
        = [1, 2, 0, 1]
      ∧ empty.numbers [Edit.keep, Edit.keep, Edit.rollback .empty]
        = [1, 2, 1] :=
  ⟨rfl, rfl⟩

end Ledger

end SigningOrder
