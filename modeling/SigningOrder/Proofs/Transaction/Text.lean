/-
The text of a transaction identifier says which transaction is meant
(`text_inj`). The text is a row of parts, none of a fixed width: the payer,
the second with its sign, the nanoseconds, of which a leap second has ten
digits, and the mark of a scheduled transaction. It comes apart in one way all
the same, since no part runs on into the next:

- a payer prints no '@' and a second no '.', so each ends at the first of them
  (`cut_at_separator`);
- the nanoseconds are digits, and neither of the two ends of a text begins
  with one (`Text.padded_append_inj`).

Each part then says what it was printed from.
-/
import Mathlib
import SigningOrder.Transaction.Id
import SigningOrder.Proofs.Entity.Text
import SigningOrder.Proofs.Text.Padded

namespace SigningOrder

-- =================================================================== parts

/-- Texts that agree agree up to a separator, if it is in neither front, and
behind it. -/
theorem cut_at_separator {sep : Char} {front front' back back' : List Char}
    (hfront : sep ∉ front) (hfront' : sep ∉ front')
    (h : front ++ sep :: back = front' ++ sep :: back') :
    front = front' ∧ back = back' := by
  have hpieces := congrArg (List.splitOn sep) h
  rw [List.splitOn_append_cons_self_of_not_mem hfront,
    List.splitOn_append_cons_self_of_not_mem hfront'] at hpieces
  obtain rfl : front = front' := (List.cons.inj hpieces).1
  exact ⟨rfl, (List.cons.inj (List.append_cancel_left h)).2⟩

/-- What is no digit is in no numeral. -/
theorem not_mem_toDigits {c : Char} (h : c.isDigit = false) (n : Nat) :
    c ∉ Nat.toDigits 10 n := by
  intro hc
  rw [Nat.isDigit_of_mem_toDigits (by decide) (by decide) hc] at h
  cases h

/-- An integer is printed in digits, behind a minus sign or without one. -/
theorem not_mem_toString_int {c : Char} (h : c.isDigit = false) (hc : c ≠ '-')
    (n : Int) : c ∉ (toString n).toList := by
  rw [Int.toString_eq_repr, Int.repr_eq_if]
  split
  · rw [Nat.toList_repr]
    exact not_mem_toDigits h _
  · rw [String.toList_append, Nat.toList_repr]
    exact List.not_mem_append (mt List.mem_singleton.1 hc) (not_mem_toDigits h _)

namespace EntityId

variable {kind : EntityKind}

/-- An identifier prints digits and dots. -/
theorem not_mem_text {c : Char} (h : c.isDigit = false) (hc : c ≠ '.')
    (id : EntityId kind) : c ∉ id.text.toList := by
  simp [text, Nat.toString_eq_repr, Nat.toList_repr, not_mem_toDigits h, hc]

/-- Identifiers that print alike are read as one. -/
theorem eq_of_text_eq {a b : EntityId kind} (h : a.text = b.text) : a = b := by
  have hread : (parse a.text : Except IdParseError (EntityId kind)) = .ok b :=
    parse_of_spelt (h ▸ spelt_text b)
  rw [parse_of_spelt (spelt_text a)] at hread
  exact Except.ok.inj hread

end EntityId

namespace TransactionId

-- ============================================================ whole texts

/-- How the text of an identifier ends. -/
def mark (scheduled : Bool) : List Char :=
  if scheduled then "?scheduled".toList else []

theorem toList_text (id : TransactionId) :
    id.text.toList = id.payer.text.toList
      ++ '@' :: ((toString id.validStart.seconds).toList
        ++ '.' :: (Text.padded 9 id.validStart.nanos ++ mark id.scheduled)) := by
  unfold text mark
  cases id.scheduled <;> simp

/-- No end of a text begins with a digit. -/
theorem isDigit_of_mem_head?_mark (scheduled : Bool) :
    ∀ c ∈ (mark scheduled).head?, c.isDigit = false := by
  intro c hc
  cases scheduled
  case false => cases hc
  case true =>
    cases hc
    rfl

theorem mark_inj : ∀ {a b : Bool}, mark a = mark b → a = b := by
  decide

/-- Identifiers print alike only if they are one: the text says the payer,
the time to the nanosecond, before 1970 and in leap seconds too, and whether
the transaction is that of a schedule. -/
theorem text_inj {a b : TransactionId} : a.text = b.text ↔ a = b := by
  refine ⟨fun h => ?_, congrArg text⟩
  have hlist : a.text.toList = b.text.toList := congrArg String.toList h
  rw [toList_text, toList_text] at hlist
  obtain ⟨hpayer, htime⟩ := cut_at_separator
    (EntityId.not_mem_text (by decide) (by decide) _)
    (EntityId.not_mem_text (by decide) (by decide) _) hlist
  obtain ⟨hseconds, hrest⟩ := cut_at_separator
    (not_mem_toString_int (by decide) (by decide) _)
    (not_mem_toString_int (by decide) (by decide) _) htime
  obtain ⟨hnanos, hmark⟩ := Text.padded_append_inj
    (isDigit_of_mem_head?_mark _) (isDigit_of_mem_head?_mark _) hrest
  obtain ⟨payer, ⟨seconds, nanos⟩, scheduled⟩ := a
  obtain ⟨payer', ⟨seconds', nanos'⟩, scheduled'⟩ := b
  obtain rfl : payer = payer' :=
    EntityId.eq_of_text_eq (String.toList_inj.1 hpayer)
  obtain rfl : seconds = seconds' :=
    Int.repr_inj.1 (String.toList_inj.1 hseconds)
  obtain rfl : nanos = nanos' := hnanos
  obtain rfl : scheduled = scheduled' := mark_inj hmark
  rfl

-- In a leap second the nanoseconds outgrow their nine digits.
example : text ⟨⟨0, 0, 2⟩, ⟨-1, 1500000000⟩, true⟩
    = "0.0.2@-1.1500000000?scheduled" := by
  decide

end TransactionId

end SigningOrder
