/-
The law of the plain formats: numbers of fixed and of variable length, truth
values, texts, lists and enumerations.

Everything with a length rests on numbers of variable length. A number below
the limit of its width is written in its shortest form and read back
(`Varint.decode_encode_append`); what is read, in whatever form, is below the
limit (`Varint.decode_lt`). The limit is what the last byte may hold, times
128 for each byte before it: 2^64 for ten bytes, 2^32 for five.
-/
import SigningOrder.Proofs.Format.Lawful

namespace SigningOrder

variable {α : Type}

-- =============================================== numbers of variable length

namespace Varint

/-- The numbers of at most `more + 1` bytes are below this limit. -/
def limit (last : Nat) : (more : Nat) → Nat
  | 0 => last + 1
  | more + 1 => 128 * limit last more

/-- A number below the limit is read from its shortest form. -/
theorem decode_encode_append {last : Nat} (hlast : last < 128)
    (rest : Bytes) : ∀ (more n : Nat), n < limit last more →
      decode last more (encode n ++ rest) = .ok (n, rest) := by
  intro more
  induction more with
  | zero =>
      intro n hn
      have hlow : n < last + 1 := hn
      have hbyte : (UInt8.ofNat n).toNat = n :=
        UInt8.toNat_ofNat_of_lt' (show _ < 256 by omega)
      rw [encode, if_pos (by omega), List.singleton_append, decode, hbyte,
        if_pos (by omega)]
  | succ more ih =>
      intro n hn
      rw [encode]
      by_cases hsmall : n < 128
      · have hbyte : (UInt8.ofNat n).toNat = n :=
          UInt8.toNat_ofNat_of_lt' (show _ < 256 by omega)
        rw [if_pos hsmall, List.singleton_append, decode, hbyte,
          if_pos hsmall]
      · have hbyte : (UInt8.ofNat (n % 128 + 128)).toNat = n % 128 + 128 :=
          UInt8.toNat_ofNat_of_lt' (show _ < 256 by omega)
        have hhigh : n / 128 < limit last more := Nat.div_lt_of_lt_mul hn
        rw [if_neg hsmall, List.cons_append, decode, hbyte,
          if_neg (by omega)]
        refine bind_eq_ok.2 ⟨(n / 128, rest), ih _ hhigh, pure_eq_ok.2 ?_⟩
        exact Prod.ext (by dsimp only; omega) rfl

/-- A number is read the same with more behind it. -/
theorem decode_append {last : Nat} : ∀ {more : Nat} {bytes rest : Bytes}
    {n : Nat}, decode last more bytes = .ok (n, rest) → ∀ behind,
      decode last more (bytes ++ behind) = .ok (n, rest ++ behind)
  | _, [], _, _, h, _ => by
      rw [decode] at h
      cases h
  | 0, b :: bytes, rest, n, h, behind => by
      rw [decode] at h
      rw [List.cons_append, decode]
      split at h
      · cases h
        rw [if_pos ‹_›]
      · cases h
  | more + 1, b :: bytes, rest, n, h, behind => by
      rw [decode] at h
      rw [List.cons_append, decode]
      split at h
      · cases h
        rw [if_pos ‹_›]
      · obtain ⟨⟨high, rest'⟩, hhigh, h⟩ := bind_eq_ok.1 h
        cases pure_eq_ok.1 h
        rw [if_neg ‹_›]
        exact bind_eq_ok.2 ⟨_, decode_append hhigh behind, rfl⟩

/-- A number fits in any number of bytes. -/
theorem limit_pos (last : Nat) : ∀ more, 0 < limit last more
  | 0 => Nat.succ_pos last
  | more + 1 => Nat.mul_pos (by decide) (limit_pos last more)

/-- What is read is below the limit. -/
theorem decode_lt {last : Nat} : ∀ {more : Nat} {bytes rest : Bytes} {n : Nat},
    decode last more bytes = .ok (n, rest) → n < limit last more
  | _, [], _, _, h => by
      rw [decode] at h
      cases h
  | 0, b :: bytes, rest, n, h => by
      rw [decode] at h
      split at h
      · cases h
        rw [limit]
        omega
      · cases h
  | more + 1, b :: bytes, rest, n, h => by
      have hpos := limit_pos last more
      rw [decode] at h
      rw [limit]
      split at h
      · cases h
        omega
      · obtain ⟨⟨high, rest'⟩, hhigh, h⟩ := bind_eq_ok.1 h
        cases pure_eq_ok.1 h
        have hlow := decode_lt hhigh
        have hbyte := b.toNat_lt
        omega

/-- Ten bytes hold the numbers below 2^64. -/
theorem limit_64 : limit 1 9 = UInt64.size := by decide

/-- Five bytes hold the numbers below 2^32. -/
theorem limit_32 : limit 15 4 = UInt32.size := by decide

/-- Numbers below 2^64 keep the law. -/
theorem readsBack_64 :
    ReadsBack (fun n => n < UInt64.size) encode decode64 where
  decode_encode hn rest :=
    decode_encode_append (by decide) rest 9 _ (limit_64 ▸ hn)
  decode_append := decode_append
  fits_of_decode h := limit_64 ▸ decode_lt h

/-- Numbers below 2^32 keep the law. -/
theorem readsBack_32 :
    ReadsBack (fun n => n < UInt32.size) encode decode32 where
  decode_encode hn rest :=
    decode_encode_append (by decide) rest 4 _ (limit_32 ▸ hn)
  decode_append := decode_append
  fits_of_decode h := limit_32 ▸ decode_lt h

/-- A number takes a byte at least. -/
theorem length_encode_pos (n : Nat) : 0 < (encode n).length := by
  rw [encode]
  split <;> exact Nat.succ_pos _

end Varint

namespace ReadsBack

variable {fits : Nat → Prop} {encode : Nat → Bytes}
  {decode : Bytes → Except DecodeError (Nat × Bytes)}

/-- Values that are written as numbers, all of them, and read from any
number. -/
theorem ofNumber (h : ReadsBack fits encode decode) (make : Nat → α)
    (view : α → Nat) (hview : ∀ a, fits (view a) ∧ make (view a) = a) :
    ReadsBack (fun _ => True) (fun a => encode (view a))
      (fun bytes => (decode bytes).map fun (n, rest) => (make n, rest)) where
  decode_encode := by
    intro a _ rest
    rw [h.decode_encode (hview a).1 rest]
    exact congrArg Except.ok (Prod.ext (hview a).2 rfl)
  decode_append := by
    intro bytes a rest hread more
    obtain ⟨⟨n, rest'⟩, hn, hread⟩ := map_eq_ok.1 hread
    cases hread
    rw [h.decode_append hn more]
    rfl
  fits_of_decode := fun _ => True.intro

end ReadsBack

-- ========================================================== signed numbers

namespace Zigzag

/-- The place of a number leads back to it. -/
theorem decode_encode (n : Int) : decode (encode n) = n := by
  unfold encode
  by_cases hneg : n < 0
  · rw [if_pos hneg, decode, if_neg (by omega)]
    omega
  · rw [if_neg hneg, decode, if_pos (by omega)]
    omega

/-- The places of 64-bit numbers are below 2^64. -/
theorem encode_toInt_lt (n : Int64) : encode n.toInt < UInt64.size := by
  have hlow := n.le_toInt
  have hhigh := n.toInt_lt
  unfold encode UInt64.size
  split <;> omega

end Zigzag

-- ================================================================= scalars

namespace Format

instance Lawful.bool : Format.bool.Lawful where
  law := {
    decode_encode := by
      intro a _ rest
      cases a <;> rfl
    decode_append := decodeFlag_append
    fits_of_decode := fun _ => True.intro }

instance Lawful.byte : Format.byte.Lawful where
  law := {
    decode_encode := fun _ _ => rfl
    decode_append := by
      intro bytes a rest h more
      cases bytes with
      | nil => cases h
      | cons b bytes =>
          cases h
          rfl
    fits_of_decode := fun _ => True.intro }

instance Lawful.word32 : Format.word32.Lawful :=
  ⟨Varint.readsBack_32.ofNumber UInt32.ofNat _ fun n =>
    ⟨n.toNat_lt, UInt32.ofNat_toNat⟩⟩

instance Lawful.word64 : Format.word64.Lawful :=
  ⟨Varint.readsBack_64.ofNumber UInt64.ofNat _ fun n =>
    ⟨n.toNat_lt, UInt64.ofNat_toNat⟩⟩

instance Lawful.int64 : Format.int64.Lawful := by
  have hview : ∀ n : Int64, Zigzag.encode n.toInt < UInt64.size ∧
      Int64.ofInt (Zigzag.decode (Zigzag.encode n.toInt)) = n := by
    intro n
    refine ⟨Zigzag.encode_toInt_lt n, ?_⟩
    rw [Zigzag.decode_encode, Int64.ofInt_toInt]
  exact ⟨Varint.readsBack_64.ofNumber
    (fun n => Int64.ofInt (Zigzag.decode n)) _ hview⟩

-- =================================================================== texts

/-- The bytes of a text are those of that text. -/
theorem textOfBytes?_textBytes (s : String) :
    textOfBytes? (textBytes s) = some s := by
  unfold textOfBytes? textBytes String.fromUTF8?
  rw [Array.toArray_toList]
  exact dif_pos s.isValidUTF8

/-- Bytes that are a text are the bytes of that text. -/
theorem textBytes_of_textOfBytes? {bytes : Bytes} {s : String}
    (h : textOfBytes? bytes = some s) : textBytes s = bytes := by
  unfold textOfBytes? String.fromUTF8? at h
  split at h
  · cases h
    rfl
  · cases h

/-- A text has at most four bytes a character. -/
theorem length_textBytes_ofList_le (chars : List Char) :
    (textBytes (String.ofList chars)).length ≤ 4 * chars.length := by
  have hbytes : textBytes (String.ofList chars)
      = chars.flatMap String.utf8EncodeChar := by
    show (List.toByteArray _).data.toList = _
    rw [List.data_toByteArray, List.toList_toArray]
  rw [hbytes]
  clear hbytes
  induction chars with
  | nil => exact Nat.zero_le _
  | cons c chars ih =>
      have hchar := c.utf8Size_le_four
      rw [List.flatMap_cons, List.length_append, String.length_utf8EncodeChar,
        List.length_cons]
      omega

/-- A text is read where its length is read and the bytes behind the length
begin with as many that are the text. -/
theorem text_decode_eq_ok {bytes rest : Bytes} {s : String} :
    text.decode bytes = .ok (s, rest) ↔ ∃ chars : Bytes,
      Varint.decode64 bytes = .ok (chars.length, chars ++ rest)
        ∧ textOfBytes? chars = some s := by
  constructor
  · intro h
    obtain ⟨⟨length, behind⟩, hlength, h⟩ := bind_eq_ok.1 h
    dsimp only at h
    by_cases hshort : behind.length < length
    · rw [if_pos hshort] at h
      cases h
    · rw [if_neg hshort] at h
      cases htext : textOfBytes? (behind.take length) with
      | none =>
          simp only [htext] at h
          cases h
      | some s' =>
          simp only [htext] at h
          cases h
          refine ⟨behind.take length, ?_, htext⟩
          rw [List.take_append_drop,
            List.length_take_of_le (Nat.le_of_not_lt hshort)]
          exact hlength
  · rintro ⟨chars, hlength, htext⟩
    refine bind_eq_ok.2 ⟨_, hlength, ?_⟩
    dsimp only
    rw [if_neg (by rw [List.length_append]; omega), List.take_left,
      List.drop_left, htext]
    rfl

instance Lawful.text : Format.text.Lawful where
  law := {
    decode_encode := by
      intro s hs rest
      refine text_decode_eq_ok.2 ⟨textBytes s, ?_, textOfBytes?_textBytes s⟩
      show Varint.decode64 (_ ++ _ ++ rest) = _
      rw [List.append_assoc]
      exact Varint.readsBack_64.decode_encode hs (textBytes s ++ rest)
    decode_append := by
      intro bytes s rest h more
      obtain ⟨chars, hlength, htext⟩ := text_decode_eq_ok.1 h
      refine text_decode_eq_ok.2 ⟨chars, ?_, htext⟩
      rw [← List.append_assoc]
      exact Varint.readsBack_64.decode_append hlength more
    fits_of_decode := by
      intro bytes s rest h
      obtain ⟨chars, hlength, htext⟩ := text_decode_eq_ok.1 h
      show (textBytes s).length < UInt64.size
      rw [textBytes_of_textOfBytes? htext]
      exact Varint.readsBack_64.fits_of_decode hlength }

-- =================================================================== lists

/-- Values in a row are read from their encodings. -/
theorem decodeMany_encode {f : Format α} [f.Lawful] (rest : Bytes) :
    ∀ as : List α, (∀ a ∈ as, f.fits a) →
      decodeMany f as.length (as.flatMap f.encode ++ rest) = .ok (as, rest)
  | [], _ => rfl
  | a :: as, h => by
      obtain ⟨ha, has⟩ := List.forall_mem_cons.1 h
      rw [List.flatMap_cons, List.append_assoc]
      refine bind_eq_ok.2 ⟨_, Lawful.law.decode_encode ha _, ?_⟩
      exact bind_eq_ok.2 ⟨(as, rest), decodeMany_encode rest as has, rfl⟩

/-- Values in a row are read the same with more behind them. -/
theorem decodeMany_append {f : Format α} [f.Lawful] :
    ∀ {n : Nat} {bytes rest : Bytes} {as : List α},
      decodeMany f n bytes = .ok (as, rest) → ∀ more,
        decodeMany f n (bytes ++ more) = .ok (as, rest ++ more)
  | 0, _, _, _, h, _ => by
      cases h
      rfl
  | n + 1, bytes, rest, as, h, more => by
      obtain ⟨⟨a, middle⟩, ha, h⟩ := bind_eq_ok.1 h
      obtain ⟨⟨as', rest'⟩, has, h⟩ := bind_eq_ok.1 h
      cases pure_eq_ok.1 h
      refine bind_eq_ok.2 ⟨_, Lawful.law.decode_append ha more, ?_⟩
      exact bind_eq_ok.2 ⟨_, decodeMany_append has more, rfl⟩

/-- Values that are read in a row are as many as were asked for, and fit. -/
theorem fits_of_decodeMany {f : Format α} [f.Lawful] :
    ∀ {n : Nat} {bytes rest : Bytes} {as : List α},
      decodeMany f n bytes = .ok (as, rest) →
        as.length = n ∧ ∀ a ∈ as, f.fits a
  | 0, _, _, _, h => by
      cases h
      exact ⟨rfl, List.forall_mem_nil _⟩
  | n + 1, bytes, rest, as, h => by
      obtain ⟨⟨a, middle⟩, ha, h⟩ := bind_eq_ok.1 h
      obtain ⟨⟨as', rest'⟩, has, h⟩ := bind_eq_ok.1 h
      cases pure_eq_ok.1 h
      obtain ⟨hlength, hfits⟩ := fits_of_decodeMany has
      refine ⟨congrArg Nat.succ hlength, List.forall_mem_cons.2 ⟨?_, hfits⟩⟩
      exact Lawful.law.fits_of_decode ha

instance Lawful.list {f : Format α} [f.Lawful] : (Format.list f).Lawful where
  law := {
    decode_encode := by
      intro as has rest
      show (Format.list f).decode (_ ++ _ ++ rest) = _
      rw [List.append_assoc]
      exact bind_eq_ok.2 ⟨_, Varint.readsBack_64.decode_encode has.1 _,
        decodeMany_encode rest as has.2⟩
    decode_append := by
      intro bytes as rest h more
      obtain ⟨⟨length, bytes'⟩, hlength, h⟩ := bind_eq_ok.1 h
      exact bind_eq_ok.2 ⟨_, Varint.readsBack_64.decode_append hlength more,
        decodeMany_append h more⟩
    fits_of_decode := by
      intro bytes as rest h
      obtain ⟨⟨length, bytes'⟩, hlength, h⟩ := bind_eq_ok.1 h
      obtain ⟨heq, hfits⟩ := fits_of_decodeMany h
      refine ⟨?_, hfits⟩
      rw [heq]
      exact Varint.readsBack_64.fits_of_decode hlength }

-- ============================================================ enumerations

/-- A value of a list is read where its place is read. -/
theorem enumeration_decode_eq_ok [DecidableEq α] {all : List α}
    {name : α → String} {bytes rest : Bytes} {a : α} :
    (enumeration all name).decode bytes = .ok (a, rest)
      ↔ ∃ i : Nat, Varint.decode32 bytes = .ok (i, rest) ∧ all[i]? = some a := by
  constructor
  · intro h
    obtain ⟨⟨i, behind⟩, hplace, h⟩ := bind_eq_ok.1 h
    dsimp only at h
    cases hfound : all[i]? with
    | none =>
        rw [hfound] at h
        cases h
    | some a' =>
        rw [hfound] at h
        cases h
        exact ⟨i, hplace, hfound⟩
  · rintro ⟨i, hplace, hfound⟩
    refine bind_eq_ok.2 ⟨_, hplace, ?_⟩
    dsimp only
    rw [hfound]
    rfl

/-- The values of a list that is not too long keep the law. -/
theorem Lawful.enumeration [DecidableEq α] {all : List α} {name : α → String}
    (hlength : all.length ≤ UInt32.size) :
    (Format.enumeration all name).Lawful where
  law := {
    decode_encode := by
      intro a ha rest
      have hplace : indexOf all a < all.length := List.idxOf_lt_length_of_mem ha
      refine enumeration_decode_eq_ok.2 ⟨indexOf all a, ?_, ?_⟩
      · exact Varint.readsBack_32.decode_encode
          (Nat.lt_of_lt_of_le hplace hlength) rest
      · exact List.getElem?_eq_some_iff.2 ⟨hplace, List.getElem_idxOf hplace⟩
    decode_append := by
      intro bytes a rest h more
      obtain ⟨i, hplace, hfound⟩ := enumeration_decode_eq_ok.1 h
      exact enumeration_decode_eq_ok.2
        ⟨i, Varint.readsBack_32.decode_append hplace more, hfound⟩
    fits_of_decode := by
      intro bytes a rest h
      obtain ⟨i, -, hfound⟩ := enumeration_decode_eq_ok.1 h
      exact List.mem_of_getElem? hfound }

end Format

end SigningOrder
