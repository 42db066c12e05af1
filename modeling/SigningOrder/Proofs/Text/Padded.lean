/-
Padded numerals and the runs of digits that read them. A numeral of a width
is read back by a reader of numbers that either stops at its width or meets
something other than a digit behind it (`readNumber_padded_append`); time
stamps are made of numerals of both kinds.
-/
import SigningOrder.Text.Blank
import SigningOrder.Text.Padded

namespace SigningOrder.Text

-- ================================================================= numerals

/-- A padded numeral is made of digits. -/
theorem isDigit_of_mem_padded {width n : Nat} {c : Char}
    (h : c ∈ padded width n) : c.isDigit = true := by
  rcases List.mem_append.1 h with h | h
  · rw [List.eq_of_mem_replicate h]
    rfl
  · exact Nat.isDigit_of_mem_toDigits (by decide) (by decide) h

/-- A padded numeral says its number. -/
theorem ofDigitChars_padded (width n : Nat) :
    Nat.ofDigitChars 10 (padded width n) 0 = n := by
  unfold padded
  rw [Nat.ofDigitChars_append, Nat.ofDigitChars_replicate_zero, Nat.mul_zero,
    Nat.ofDigitChars_toDigits (by decide) (by decide)]

/-- A padded numeral has a first digit. -/
theorem padded_ne_nil (width n : Nat) : padded width n ≠ [] :=
  List.append_ne_nil_of_right_ne_nil _ Nat.toDigits_ne_nil

/-- A text with a padded numeral in front begins with a digit. -/
theorem isDigit_of_padded_append_eq {width n : Nat} {rest text : List Char}
    {c : Char} (h : padded width n ++ rest = c :: text) : c.isDigit = true := by
  cases hpadded : padded width n with
  | nil => exact absurd hpadded (padded_ne_nil width n)
  | cons d digits =>
      rw [hpadded, List.cons_append] at h
      rw [← (List.cons.inj h).1]
      exact isDigit_of_mem_padded (hpadded ▸ List.mem_cons_self)

/-- A padded numeral has at most as many digits as its width or as a bound on
its number. -/
theorem length_padded_le {width n bound : Nat} (hwidth : width ≤ bound)
    (hbound : 0 < bound) (h : n < Nat.pow 10 bound) :
    (padded width n).length ≤ bound := by
  have hdigits := (Nat.length_toDigits_le_iff (by decide) hbound).2 h
  unfold padded
  rw [List.length_append, List.length_replicate]
  omega

/-- A number of no more digits is padded to its width. -/
theorem length_padded {width n : Nat} (hwidth : 0 < width)
    (h : n < Nat.pow 10 width) : (padded width n).length = width := by
  refine Nat.le_antisymm (length_padded_le (Nat.le_refl _) hwidth h) ?_
  unfold padded
  rw [List.length_append, List.length_replicate]
  omega

-- ============================================================== digit runs

/-- Digits are a run, if it is full with them or no digit follows. -/
theorem digitRun_append {rest : List Char} : ∀ {digits : List Char} {limit : Nat},
    (∀ c ∈ digits, c.isDigit = true) → digits.length ≤ limit →
    (digits.length = limit ∨ ∀ c ∈ rest.head?, c.isDigit = false) →
      digitRun limit (digits ++ rest) = (digits, rest)
  | [], 0, _, _, _ => by
      rw [List.nil_append, digitRun]
  | [], limit + 1, _, _, hstop => by
      cases rest with
      | nil => rfl
      | cons c rest =>
          have hc : c.isDigit = false :=
            hstop.resolve_left (Nat.succ_ne_zero limit ∘ Eq.symm) c rfl
          rw [List.nil_append, digitRun, if_neg (by rw [hc]; decide)]
  | c :: digits, 0, _, hle, _ => absurd hle (Nat.not_succ_le_zero _)
  | c :: digits, limit + 1, hall, hle, hstop => by
      have hrun : digitRun limit (digits ++ rest) = (digits, rest) :=
        digitRun_append (fun d hd => hall d (.tail _ hd))
          (Nat.le_of_succ_le_succ hle) (hstop.imp_left Nat.succ.inj)
      rw [List.cons_append, digitRun, if_pos (hall c (.head _)), hrun]

/-- A run is no longer than its limit. -/
theorem length_digitRun_le : ∀ (limit : Nat) (text : List Char),
    (digitRun limit text).1.length ≤ limit
  | 0, _ => Nat.le_refl _
  | _ + 1, [] => Nat.zero_le _
  | limit + 1, c :: text => by
      rw [digitRun]
      split
      · exact Nat.succ_le_succ (length_digitRun_le limit text)
      · exact Nat.zero_le _

/-- A run is made of digits. -/
theorem isDigit_of_mem_digitRun {c : Char} : ∀ {limit : Nat} {text : List Char},
    c ∈ (digitRun limit text).1 → c.isDigit = true
  | 0, _, h => nomatch h
  | _ + 1, [], h => nomatch h
  | limit + 1, d :: text, h => by
      rw [digitRun] at h
      split at h
      · cases h with
        | head => assumption
        | tail _ h => exact isDigit_of_mem_digitRun h
      · nomatch h

/-- Digits are a number below the power of ten that they are many. -/
theorem ofDigitChars_lt : ∀ {digits : List Char},
    (∀ c ∈ digits, c.isDigit = true) → ∀ start : Nat,
      Nat.ofDigitChars 10 digits start < Nat.pow 10 digits.length * (start + 1)
  | [], _, start => by
      rw [Nat.ofDigitChars_nil]
      show start < 1 * (start + 1)
      omega
  | c :: digits, hall, start => by
      have hdigit : c.toNat - '0'.toNat < 10 := by
        have hc := hall c (.head _)
        simp only [Char.isDigit, Bool.and_eq_true, decide_eq_true_eq] at hc
        have hhigh : c.toNat ≤ 57 := hc.2
        show c.toNat - 48 < 10
        omega
      have hrest := ofDigitChars_lt (fun d hd => hall d (.tail _ hd))
        (10 * start + (c.toNat - '0'.toNat))
      rw [Nat.ofDigitChars_cons]
      refine Nat.lt_of_lt_of_le hrest ?_
      show _ ≤ Nat.pow 10 digits.length * 10 * (start + 1)
      rw [Nat.mul_assoc]
      exact Nat.mul_le_mul_left _ (by omega)

-- ========================================================== reading numbers

/-- A padded numeral is read as its number, if the reader stops behind it. -/
theorem readNumber_padded_append {limit width n : Nat} {rest : List Char}
    (hle : (padded width n).length ≤ limit)
    (hstop : (padded width n).length = limit
      ∨ ∀ c ∈ rest.head?, c.isDigit = false) :
    readNumber limit (padded width n ++ rest) = some (n, rest) := by
  unfold readNumber
  rw [digitRun_append (fun _ => isDigit_of_mem_padded) hle hstop]
  cases hpadded : padded width n with
  | nil => exact absurd hpadded (padded_ne_nil width n)
  | cons c digits =>
      dsimp only
      rw [← hpadded, ofDigitChars_padded]

/-- Texts that begin with padded numerals agree only in the numbers and in what
follows them, if no digit follows: a reader without a limit tells both. -/
theorem padded_append_inj {width n n' : Nat} {rest rest' : List Char}
    (hstop : ∀ c ∈ rest.head?, c.isDigit = false)
    (hstop' : ∀ c ∈ rest'.head?, c.isDigit = false)
    (h : padded width n ++ rest = padded width n' ++ rest') :
    n = n' ∧ rest = rest' := by
  have hread := readNumber_padded_append
    (Nat.le_max_left (padded width n).length (padded width n').length)
    (.inr hstop)
  rw [h, readNumber_padded_append (Nat.le_max_right _ _) (.inr hstop')] at hread
  obtain ⟨rfl, rfl⟩ := Prod.mk.inj (Option.some.inj hread)
  exact ⟨rfl, rfl⟩

/-- A digit is no blank. -/
theorem isBlank_of_isDigit {c : Char} (h : c.isDigit = true) :
    isBlank c = false := by
  simp only [Char.isDigit, Bool.and_eq_true, decide_eq_true_eq] at h
  have hlow : 48 ≤ c.toNat := h.1
  have hhigh : c.toNat ≤ 57 := h.2
  unfold isBlank
  rw [List.any_eq_false]
  intro range hrange
  simp only [blankRanges, List.mem_cons, List.not_mem_nil, or_false] at hrange
  rcases hrange with rfl | rfl | rfl | rfl | rfl | rfl | rfl | rfl | rfl | rfl
  all_goals
    simp only [Bool.and_eq_true, decide_eq_true_eq]
    omega

/-- No blanks are skipped in front of another character. -/
theorem skipBlanks_cons {c : Char} (h : isBlank c = false) (rest : List Char) :
    skipBlanks (c :: rest) = c :: rest := by
  unfold skipBlanks
  rw [List.dropWhile_cons_of_neg (by rw [h]; decide)]

/-- No blanks are skipped in front of a numeral. -/
theorem skipBlanks_padded_append (width n : Nat) (rest : List Char) :
    skipBlanks (padded width n ++ rest) = padded width n ++ rest := by
  cases htext : padded width n ++ rest with
  | nil => exact absurd (List.append_eq_nil_iff.1 htext).1 (padded_ne_nil width n)
  | cons c text =>
      have hc : c.isDigit = true := isDigit_of_padded_append_eq htext
      exact skipBlanks_cons (isBlank_of_isDigit hc) text

end SigningOrder.Text
