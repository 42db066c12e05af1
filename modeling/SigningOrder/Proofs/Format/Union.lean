/-
The law of tagged unions. A union keeps the law if its cases do: the payload
of each case keeps it, `make` and `payload?` are inverse to each other, and no
value is of two cases. The last is not compared case by case: one function
numbers the values by their constructor, and every value that a case makes has
the place of the case as its number (`Case.Lawful.tag_make`).

Whether a value fits is then whether its payload does (`Case.union_fits_make`).
-/
import SigningOrder.Format.Union
import SigningOrder.Proofs.Format.Scalar

namespace SigningOrder

namespace Case

variable {α : Type} {tag : α → Nat}

/-- A case at its place in a union whose values are numbered. -/
structure Lawful (tag : α → Nat) (place : Nat) (c : Case α) : Prop where
  format : c.format.Lawful
  payload_make : ∀ p, c.payload? (c.make p) = some p
  make_payload : ∀ {a p}, c.payload? a = some p → c.make p = a
  tag_make : ∀ p, tag (c.make p) = place

/-- The cases of a union from one place on. -/
def AllLawful (tag : α → Nat) : (place : Nat) → List (Case α) → Prop
  | _, [] => True
  | place, c :: cs => c.Lawful tag place ∧ AllLawful tag (place + 1) cs

/-- A value with a payload for a case has the number of that case. -/
theorem Lawful.tag_of_payload {place : Nat} {c : Case α}
    (h : c.Lawful tag place) {a : α} {p : c.Payload}
    (hp : c.payload? a = some p) : tag a = place := by
  rw [← h.make_payload hp]
  exact h.tag_make p

/-- Each case is lawful at its own place. -/
theorem AllLawful.at : ∀ {cases : List (Case α)} {place i : Nat} {c : Case α},
    AllLawful tag place cases → cases[i]? = some c → c.Lawful tag (place + i)
  | c' :: cs, place, 0, c, h, hc => by
      cases hc
      exact h.1
  | c' :: cs, place, i + 1, c, h, hc => by
      have hlaw := AllLawful.at h.2 (i := i) hc
      rwa [Nat.add_assoc, Nat.add_comm 1] at hlaw

/-- What is written for a value that no earlier case has a payload of. -/
theorem encodeFrom_at : ∀ {cases : List (Case α)} (place : Nat) {i : Nat}
    {c : Case α} {a : α} {p : c.Payload}, cases[i]? = some c →
      c.payload? a = some p →
      (∀ j c', j < i → cases[j]? = some c' → c'.payload? a = none) →
        encodeFrom place cases a
          = Varint.encode (place + i) ++ c.format.encode p
  | c' :: cs, place, 0, c, a, p, hc, hp, _ => by
      cases hc
      rw [encodeFrom, hp]
      rfl
  | c' :: cs, place, i + 1, c, a, p, hc, hp, hearlier => by
      have hhead : c'.payload? a = none := hearlier 0 c' i.succ_pos rfl
      have hc : cs[i]? = some c := hc
      have htail := encodeFrom_at (place + 1) hc hp
        fun j c'' hj hc'' => hearlier (j + 1) c'' (Nat.succ_lt_succ hj) hc''
      rw [encodeFrom, hhead]
      rwa [Nat.add_assoc, Nat.add_comm 1] at htail

/-- What is written for a value: the place of its case and its payload. -/
theorem encode_at {cases : List (Case α)} (h : AllLawful tag 0 cases)
    {i : Nat} {c : Case α} (hc : cases[i]? = some c) {a : α} {p : c.Payload}
    (hp : c.payload? a = some p) :
    encodeFrom 0 cases a = Varint.encode i ++ c.format.encode p := by
  have htag := (h.at hc).tag_of_payload hp
  have hplace := encodeFrom_at 0 hc hp fun j c' hj hc' => by
    cases hp' : c'.payload? a with
    | none => rfl
    | some p' =>
        -- The value would have the numbers of two places.
        have htag' := (h.at hc').tag_of_payload hp'
        omega
  rwa [Nat.zero_add] at hplace

/-- A value of a union is read where a place is read, and behind it the payload
of the case at the place, of which the value is made. -/
theorem union_decode_eq_ok {cases : List (Case α)} {bytes rest : Bytes} {a : α} :
    (union cases).decode bytes = .ok (a, rest)
      ↔ ∃ (i : Nat) (behind : Bytes) (c : Case α) (p : c.Payload),
        Varint.decode32 bytes = .ok (i, behind) ∧ cases[i]? = some c
          ∧ c.format.decode behind = .ok (p, rest) ∧ c.make p = a := by
  constructor
  · intro h
    obtain ⟨⟨i, behind⟩, hplace, h⟩ := bind_eq_ok.1 h
    dsimp only at h
    cases hc : cases[i]? with
    | none =>
        rw [hc] at h
        cases h
    | some c =>
        rw [hc] at h
        obtain ⟨⟨p, rest'⟩, hp, h⟩ := bind_eq_ok.1 h
        cases pure_eq_ok.1 h
        exact ⟨i, behind, c, p, hplace, hc, hp, rfl⟩
  · rintro ⟨i, behind, c, p, hplace, hc, hp, rfl⟩
    refine bind_eq_ok.2 ⟨_, hplace, ?_⟩
    dsimp only
    rw [hc]
    exact bind_eq_ok.2 ⟨_, hp, rfl⟩

/-- A union of lawful cases keeps the law. -/
theorem union_lawful {cases : List (Case α)} (h : AllLawful tag 0 cases)
    (hlength : cases.length ≤ UInt32.size) : (union cases).Lawful where
  law := {
    decode_encode := by
      rintro a ⟨c, hmem, p, hp, hfits⟩ rest
      obtain ⟨i, hc⟩ := List.getElem?_of_mem hmem
      have hi : i < UInt32.size := Nat.lt_of_lt_of_le
        (List.getElem?_eq_some_iff.1 hc).1 hlength
      have hlaw := h.at hc
      refine union_decode_eq_ok.2 ⟨i, c.format.encode p ++ rest, c, p, ?_, hc,
        hlaw.format.law.decode_encode hfits rest, hlaw.make_payload hp⟩
      show Varint.decode32 (encodeFrom 0 cases a ++ rest) = _
      rw [encode_at h hc hp, List.append_assoc]
      exact Varint.readsBack_32.decode_encode hi _
    decode_append := by
      intro bytes a rest hread more
      obtain ⟨i, behind, c, p, hplace, hc, hp, hmake⟩ :=
        union_decode_eq_ok.1 hread
      exact union_decode_eq_ok.2 ⟨i, behind ++ more, c, p,
        Varint.readsBack_32.decode_append hplace more, hc,
        (h.at hc).format.law.decode_append hp more, hmake⟩
    fits_of_decode := by
      intro bytes a rest hread
      obtain ⟨i, behind, c, p, -, hc, hp, rfl⟩ := union_decode_eq_ok.1 hread
      have hlaw := h.at hc
      exact ⟨c, List.mem_of_getElem? hc, p, hlaw.payload_make p,
        hlaw.format.law.fits_of_decode hp⟩ }

/-- A value of a union fits if its payload does, and only then. -/
theorem union_fits_make {cases : List (Case α)} (h : AllLawful tag 0 cases)
    {c : Case α} (hmem : c ∈ cases) (p : c.Payload) :
    (union cases).fits (c.make p) ↔ c.format.fits p := by
  obtain ⟨i, hc⟩ := List.getElem?_of_mem hmem
  have hlaw := h.at hc
  constructor
  · rintro ⟨c', hmem', p', hp', hfits⟩
    obtain ⟨j, hc'⟩ := List.getElem?_of_mem hmem'
    have htag := (h.at hc').tag_of_payload hp'
    have hplace : j = i := by
      have hmade := hlaw.tag_make p
      omega
    subst hplace
    cases hc.symm.trans hc'
    cases (hlaw.payload_make p).symm.trans hp'
    exact hfits
  · exact fun hfits => ⟨c, hmem, p, hlaw.payload_make p, hfits⟩

end Case

end SigningOrder
