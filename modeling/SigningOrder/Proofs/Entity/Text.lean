/-
Identifiers read from text. A numeral is decimal digits, any number of zeros
among the first of them, behind a plus sign or without one
(`Numeral.Denotes`); an identifier is three numerals of 64 bits with dots
between them (`Spelt`); any other text is refused for the first thing wrong
with it (`Refuses`). `parse` tells the two apart (`parse_reads_grammar`), and
what an identifier prints as is one of its spellings (`spelt_text`).

The grammar adds digits on the right, where the reader starts on the left:
`Decimal.append` carries a numeral over the digits that are still to be read.
The grammar also puts components together, where the reader takes a text
apart; `components_iff` says that there is one way to do it, since no piece of
a split holds what was split at.
-/
import Mathlib.Data.List.Basic
import SigningOrder.Entity.Text

namespace SigningOrder

-- ===================================================== statement vocabulary

namespace Numeral

/-- Decimal digits and their number, where the last digit counts least. -/
inductive Decimal : List Char → Nat → Prop where
  | digit {d : Nat} (hd : d < 10) : Decimal [d.digitChar] d
  | more {text : List Char} {n d : Nat} (htext : Decimal text n) (hd : d < 10) :
      Decimal (text ++ [d.digitChar]) (10 * n + d)

/-- A numeral and its number: digits, behind a plus sign or without one. -/
inductive Denotes : List Char → Nat → Prop where
  | plain {text : List Char} {n : Nat} (h : Decimal text n) : Denotes text n
  | signed {text : List Char} {n : Nat} (h : Decimal text n) :
      Denotes ('+' :: text) n

/-- Whether a text is a numeral of 64 bits. -/
def Fits (text : List Char) : Prop :=
  ∃ n < UInt64.size, Denotes text n

end Numeral

namespace EntityId

open Numeral

variable {kind : EntityKind} {s : String}

/-- The components of a text: joined with dots they are the text, and there is
no dot in any of them. -/
structure Components (s : String) (parts : List (List Char)) : Prop where
  nonempty : parts ≠ []
  joined : ['.'].intercalate parts = s.toList
  no_dot : ∀ part ∈ parts, '.' ∉ part

/-- A text spells an identifier in three numerals. -/
def Spelt (s : String) (id : EntityId kind) : Prop :=
  ∃ shard realm num, Components s [shard, realm, num] ∧
    Denotes shard id.shard.toNat ∧ Denotes realm id.realm.toNat ∧
      Denotes num id.num.toNat

/-- What is wrong with a text that spells no identifier: the number of its
components, or else the first of them that is no numeral of 64 bits. -/
inductive Refuses (s : String) : IdParseError → Prop where
  | shape {parts : List (List Char)} (hparts : Components s parts)
      (hlength : parts.length ≠ 3) : Refuses s (.shape s)
  | shard {shard realm num : List Char}
      (hparts : Components s [shard, realm, num]) (hshard : ¬ Fits shard) :
      Refuses s (.component .shard s)
  | realm {shard realm num : List Char}
      (hparts : Components s [shard, realm, num]) (hshard : Fits shard)
      (hrealm : ¬ Fits realm) : Refuses s (.component .realm s)
  | num {shard realm num : List Char}
      (hparts : Components s [shard, realm, num]) (hshard : Fits shard)
      (hrealm : Fits realm) (hnum : ¬ Fits num) :
      Refuses s (.component .num s)

end EntityId

-- ================================================================= numerals

namespace Numeral

variable {text : List Char} {n : Nat}

/-- A digit is the digit of a number below ten, its place after zero. -/
theorem exists_digitChar {c : Char} (h : c.isDigit = true) :
    ∃ d < 10, d.digitChar = c ∧ c.toNat - '0'.toNat = d := by
  have hbounds : 48 ≤ c.toNat ∧ c.toNat ≤ 57 := Char.isDigit_iff_toNat.1 h
  have hchar : ∀ d < 10, d.digitChar = Char.ofNat (48 + d) := by decide
  refine ⟨c.toNat - 48, by omega, ?_, rfl⟩
  rw [hchar _ (by omega), Nat.add_sub_cancel' hbounds.1, Char.ofNat_toNat]

theorem Decimal.ne_nil (h : Decimal text n) : text ≠ [] := by
  cases h with
  | digit _ => exact List.cons_ne_nil _ _
  | more _ _ => exact List.append_ne_nil_of_right_ne_nil _ (List.cons_ne_nil _ _)

theorem Decimal.isDigit (h : Decimal text n) :
    ∀ c ∈ text, c.isDigit = true := by
  induction h with
  | digit hd => simp [Nat.isDigit_digitChar, hd]
  | more _ hd ih =>
      intro c hc
      rcases List.mem_append.1 hc with hc | hc
      · exact ih c hc
      · rw [List.mem_singleton.1 hc, Nat.isDigit_digitChar, decide_eq_true hd]

/-- Read from the left, the digits say their number. -/
theorem Decimal.ofDigitChars_eq (h : Decimal text n) :
    Nat.ofDigitChars 10 text 0 = n := by
  induction h with
  | digit hd =>
      rw [Nat.ofDigitChars_cons, Nat.ofDigitChars_nil, Nat.mul_zero, Nat.zero_add]
      exact Nat.toNat_digitChar_sub_48_of_lt_ten hd
  | more _ hd ih =>
      rw [Nat.ofDigitChars_append, ih, Nat.ofDigitChars_cons,
        Nat.ofDigitChars_nil]
      exact congrArg _ (Nat.toNat_digitChar_sub_48_of_lt_ten hd)

theorem decimal_singleton {c : Char} (h : c.isDigit = true) :
    Decimal [c] (c.toNat - '0'.toNat) := by
  obtain ⟨d, hd, hchar, hvalue⟩ := exists_digitChar h
  rw [hvalue, ← hchar]
  exact .digit hd

theorem Decimal.push {c : Char} (h : Decimal text n) (hc : c.isDigit = true) :
    Decimal (text ++ [c]) (10 * n + (c.toNat - '0'.toNat)) := by
  obtain ⟨d, hd, hchar, hvalue⟩ := exists_digitChar hc
  rw [hvalue, ← hchar]
  exact .more h hd

/-- Digits behind a numeral are read on from its number. -/
theorem Decimal.append {digits : List Char} (h : Decimal text n)
    (hdigits : ∀ c ∈ digits, c.isDigit = true) :
    Decimal (text ++ digits) (Nat.ofDigitChars 10 digits n) := by
  induction digits generalizing text n with
  | nil => rwa [List.append_nil, Nat.ofDigitChars_nil]
  | cons c digits ih =>
      obtain ⟨hc, hdigits⟩ := List.forall_mem_cons.1 hdigits
      rw [Nat.ofDigitChars_cons, List.append_cons]
      exact ih (h.push hc) hdigits

/-- The digits of the grammar are those that are read from the left. -/
theorem decimal_iff :
    Decimal text n ↔
      text ≠ [] ∧ (∀ c ∈ text, c.isDigit = true) ∧
        Nat.ofDigitChars 10 text 0 = n := by
  constructor
  · intro h
    exact ⟨h.ne_nil, h.isDigit, h.ofDigitChars_eq⟩
  · rintro ⟨hne, hdigits, rfl⟩
    cases text with
    | nil => exact absurd rfl hne
    | cons c digits =>
        obtain ⟨hc, hdigits⟩ := List.forall_mem_cons.1 hdigits
        rw [Nat.ofDigitChars_cons, Nat.mul_zero, Nat.zero_add]
        exact (decimal_singleton hc).append hdigits

/-- A number is printed in its digits. -/
theorem decimal_toDigits (n : Nat) : Decimal (Nat.toDigits 10 n) n :=
  decimal_iff.2 ⟨Nat.toDigits_ne_nil,
    fun _ => Nat.isDigit_of_mem_toDigits (by decide) (by decide),
    Nat.ofDigitChars_toDigits (by decide) (by decide)⟩

/-- Digits have no sign to take off. -/
theorem Decimal.unsigned_eq (h : Decimal text n) : unsigned text = text := by
  unfold unsigned
  split
  · exact absurd (h.isDigit '+' (.head _)) (by decide)
  · rfl

theorem denotes_iff : Denotes text n ↔ Decimal (unsigned text) n := by
  constructor
  · intro h
    cases h with
    | plain h => rwa [h.unsigned_eq]
    | signed h => exact h
  · intro h
    unfold unsigned at h
    split at h
    · exact .signed h
    · exact .plain h

/-- A numeral is read as its number, and nothing else is read. -/
theorem read?_eq_some_iff {n : UInt64} :
    read? text = some n ↔ Denotes text n.toNat := by
  rw [denotes_iff, decimal_iff]
  simp only [read?, List.all_eq_true]
  split
  case isTrue h =>
    obtain ⟨hne, hdigits, hlt⟩ := h
    rw [Option.some.injEq, ← UInt64.toNat_inj, UInt64.toNat_ofNat_of_lt' hlt]
    exact ⟨fun heq => ⟨hne, hdigits, heq⟩, fun h => h.2.2⟩
  case isFalse h =>
    refine ⟨nofun, ?_⟩
    rintro ⟨hne, hdigits, heq⟩
    exact absurd ⟨hne, hdigits, heq ▸ n.toNat_lt_size⟩ h

/-- What fits is what is read. -/
theorem fits_iff : Fits text ↔ ∃ n, read? text = some n := by
  constructor
  · rintro ⟨n, hlt, h⟩
    refine ⟨UInt64.ofNat n, read?_eq_some_iff.2 ?_⟩
    rwa [UInt64.toNat_ofNat_of_lt' hlt]
  · rintro ⟨n, h⟩
    exact ⟨n.toNat, n.toNat_lt_size, read?_eq_some_iff.1 h⟩

end Numeral

-- =============================================================== components

/-- No piece of a text holds what the text was split at. -/
theorem not_mem_of_mem_splitOn {sep : Char} : ∀ {text part : List Char},
    part ∈ text.splitOn sep → sep ∉ part
  | [], part, h => by
      rw [List.splitOn_nil, List.mem_singleton] at h
      rw [h]
      exact List.not_mem_nil
  | c :: text, part, h => by
      rw [List.splitOn_cons_eq_if_modifyHead] at h
      split at h
      case isTrue _ =>
        rcases List.mem_cons.1 h with rfl | h
        · exact List.not_mem_nil
        · exact not_mem_of_mem_splitOn h
      case isFalse hc =>
        -- the character goes to the front of the first piece
        obtain ⟨first, rest, hsplit⟩ :=
          List.exists_cons_of_ne_nil (List.splitOn_ne_nil sep text)
        have hpieces : ∀ piece ∈ first :: rest, sep ∉ piece := fun piece hpiece =>
          not_mem_of_mem_splitOn (hsplit ▸ hpiece)
        rw [hsplit, List.modifyHead_cons] at h
        rcases List.mem_cons.1 h with rfl | h
        · intro hmem
          rcases List.mem_cons.1 hmem with rfl | hmem
          · exact hc (beq_self_eq_true _)
          · exact hpieces first (.head _) hmem
        · exact hpieces part (.tail _ h)

namespace EntityId

open Numeral

variable {kind : EntityKind} {s : String}

/-- A text is taken apart at its dots in one way. -/
theorem components_iff {parts : List (List Char)} :
    Components s parts ↔ s.toList.splitOn '.' = parts := by
  constructor
  · intro h
    rw [← h.joined]
    exact List.splitOn_intercalate '.' h.no_dot h.nonempty
  · rintro rfl
    exact ⟨List.splitOn_ne_nil _ _, List.intercalate_splitOn '.',
      fun _ => not_mem_of_mem_splitOn⟩

-- ============================================================== identifiers

theorem parseComponent_of_denotes {c : IdComponent} {text : List Char}
    {n : UInt64} (h : Denotes text n.toNat) :
    parseComponent s c text = .ok n := by
  rw [parseComponent, read?_eq_some_iff.2 h]

theorem exists_parseComponent_of_fits (s : String) (c : IdComponent)
    {text : List Char} (h : Fits text) :
    ∃ n, parseComponent s c text = .ok n := by
  obtain ⟨n, h⟩ := fits_iff.1 h
  exact ⟨n, by rw [parseComponent, h]⟩

theorem parseComponent_of_not_fits {c : IdComponent} {text : List Char}
    (h : ¬ Fits text) : parseComponent s c text = .error (.component c s) := by
  have hnone : read? text = none :=
    Option.eq_none_iff_forall_ne_some.2 fun n hn => h (fits_iff.2 ⟨n, hn⟩)
  rw [parseComponent, hnone]

/-- What a text spells is what is read from it. -/
theorem parse_of_spelt {id : EntityId kind} (h : Spelt s id) :
    parse s = .ok id := by
  obtain ⟨shard, realm, num, hparts, hshard, hrealm, hnum⟩ := h
  simp only [parse, components_iff.1 hparts, parseComponent_of_denotes hshard,
    parseComponent_of_denotes hrealm, parseComponent_of_denotes hnum]
  rfl

/-- What is wrong with a text is why it is not read. -/
theorem parse_of_refuses {e : IdParseError} (h : Refuses s e) :
    (parse s : Except IdParseError (EntityId kind)) = .error e := by
  cases h with
  | shape hparts hlength =>
      unfold parse
      rw [components_iff.1 hparts]
      split
      · exact absurd rfl hlength
      · rfl
  | shard hparts hshard =>
      simp only [parse, components_iff.1 hparts,
        parseComponent_of_not_fits hshard]
      rfl
  | realm hparts hshard hrealm =>
      obtain ⟨_, hshard⟩ := exists_parseComponent_of_fits s .shard hshard
      simp only [parse, components_iff.1 hparts, hshard,
        parseComponent_of_not_fits hrealm]
      rfl
  | num hparts hshard hrealm hnum =>
      obtain ⟨_, hshard⟩ := exists_parseComponent_of_fits s .shard hshard
      obtain ⟨_, hrealm⟩ := exists_parseComponent_of_fits s .realm hrealm
      simp only [parse, components_iff.1 hparts, hshard, hrealm,
        parseComponent_of_not_fits hnum]
      rfl

/-- Three numerals that fit spell an identifier. -/
theorem exists_spelt {shard realm num : List Char}
    (hparts : Components s [shard, realm, num]) (hshard : Fits shard)
    (hrealm : Fits realm) (hnum : Fits num) :
    ∃ id : EntityId kind, Spelt s id := by
  obtain ⟨a, ha⟩ := fits_iff.1 hshard
  obtain ⟨b, hb⟩ := fits_iff.1 hrealm
  obtain ⟨c, hc⟩ := fits_iff.1 hnum
  exact ⟨⟨a, b, c⟩, shard, realm, num, hparts, read?_eq_some_iff.1 ha,
    read?_eq_some_iff.1 hb, read?_eq_some_iff.1 hc⟩

/-- A text spells an identifier, or something is wrong with it. -/
theorem spelt_or_refuses (kind : EntityKind) (s : String) :
    (∃ id : EntityId kind, Spelt s id) ∨ ∃ e, Refuses s e := by
  have hparts : Components s (s.toList.splitOn '.') := components_iff.2 rfl
  by_cases hlength : (s.toList.splitOn '.').length = 3
  case neg => exact .inr ⟨_, .shape hparts hlength⟩
  obtain ⟨shard, realm, num, hsplit⟩ := List.length_eq_three.1 hlength
  rw [hsplit] at hparts
  by_cases hshard : Fits shard
  case neg => exact .inr ⟨_, .shard hparts hshard⟩
  by_cases hrealm : Fits realm
  case neg => exact .inr ⟨_, .realm hparts hshard hrealm⟩
  by_cases hnum : Fits num
  case neg => exact .inr ⟨_, .num hparts hshard hrealm hnum⟩
  exact .inl (exists_spelt hparts hshard hrealm hnum)

theorem parse_eq_ok_iff {id : EntityId kind} :
    parse s = .ok id ↔ Spelt s id := by
  refine ⟨fun h => ?_, parse_of_spelt⟩
  rcases spelt_or_refuses kind s with ⟨id', hspelt⟩ | ⟨e, hrefuses⟩
  · have heq : id' = id := Except.ok.inj ((parse_of_spelt hspelt).symm.trans h)
    rwa [← heq]
  · exact nomatch (parse_of_refuses hrefuses).symm.trans h

theorem parse_eq_error_iff {e : IdParseError} :
    (parse s : Except IdParseError (EntityId kind)) = .error e ↔ Refuses s e := by
  refine ⟨fun h => ?_, parse_of_refuses⟩
  rcases spelt_or_refuses kind s with ⟨id, hspelt⟩ | ⟨e', hrefuses⟩
  · exact nomatch (parse_of_spelt hspelt).symm.trans h
  · have heq : e' = e :=
      Except.error.inj ((parse_of_refuses hrefuses).symm.trans h)
    rwa [← heq]

/-- An identifier prints as one of its spellings. -/
theorem spelt_text (id : EntityId kind) : Spelt id.text id := by
  refine ⟨Nat.toDigits 10 id.shard.toNat, Nat.toDigits 10 id.realm.toNat,
    Nat.toDigits 10 id.num.toNat, ⟨List.cons_ne_nil _ _, ?_, ?_⟩,
    .plain (decimal_toDigits _), .plain (decimal_toDigits _),
    .plain (decimal_toDigits _)⟩
  · simp [text, Nat.toString_eq_repr, Nat.toList_repr]
  · have hdot : ∀ n : Nat, '.' ∉ Nat.toDigits 10 n := fun n h =>
      absurd ((decimal_toDigits n).isDigit _ h) (by decide)
    simp [hdot]

/-- A text is read as the identifier it spells, and is refused with an error
exactly when this is what is wrong with it, for identifiers of each kind. What
an identifier prints as is read as the identifier. -/
theorem parse_reads_grammar (kind : EntityKind) :
    (∀ s : String,
      (∀ id : EntityId kind, parse s = .ok id ↔ Spelt s id) ∧
        ∀ e, (parse s : Except IdParseError (EntityId kind)) = .error e ↔
          Refuses s e) ∧
      ∀ id : EntityId kind, parse id.text = .ok id :=
  ⟨fun _ => ⟨fun _ => parse_eq_ok_iff, fun _ => parse_eq_error_iff⟩,
    fun id => parse_of_spelt (spelt_text id)⟩

/-- A sign and zeros in front are read over, and 2⁶⁴ is one too many. -/
example :
    (parse "+0.007.18446744073709551615" : Except _ AccountId) =
        .ok ⟨0, 7, 18446744073709551615⟩ ∧
      (parse "0.18446744073709551616." : Except _ AccountId) =
        .error (.component .realm "0.18446744073709551616.") := by
  constructor <;> rfl

end EntityId

end SigningOrder
