/-
The legacy leaf that names a contract. Its payload is the three numbers of the
contract as big-endian words, one after the other, and a leaf names a contract
exactly when it is the leaf of that contract (`contractLeaf_exact`).

Numbers of a width and byte strings of that length are in bijection
(`BigEndian.decode_encode`, `BigEndian.encode_decode`): the bytes of a number
are its digits to base 256, so both directions follow the last byte, which is
the remainder. A payload of 24 bytes is then three words in one way.
-/
import Mathlib.Algebra.Group.Nat.Defs
import Mathlib.Data.List.Induction
import SigningOrder.Key

namespace SigningOrder

-- ========================================================= numbers as bytes

namespace BigEndian

@[simp] theorem length_encode (width n : Nat) :
    (encode width n).length = width := by
  induction width generalizing n with
  | zero => rfl
  | succ width ih => rw [encode, List.length_append, ih, List.length_singleton]

/-- The last byte counts least. -/
theorem decode_concat (bytes : Bytes) (b : UInt8) :
    decode (bytes ++ [b]) = 256 * decode bytes + b.toNat := by
  unfold decode
  rw [List.foldl_append, List.foldl_cons, List.foldl_nil]

/-- Bytes in front count for a power of 256 each. -/
theorem decode_append (front back : Bytes) :
    decode (front ++ back) = decode front * 256 ^ back.length + decode back := by
  induction back using List.reverseRecOn with
  | nil =>
      rw [List.append_nil, List.length_nil, Nat.pow_zero, Nat.mul_one]
      rfl
  | append_singleton back b ih =>
      rw [← List.append_assoc, decode_concat, decode_concat, ih,
        List.length_append, List.length_singleton, Nat.pow_succ,
        ← Nat.mul_assoc]
      omega

/-- Bytes write a number that fits their length. -/
theorem decode_lt (bytes : Bytes) : decode bytes < 256 ^ bytes.length := by
  induction bytes using List.reverseRecOn with
  | nil => exact Nat.one_pos
  | append_singleton bytes b ih =>
      have hb : b.toNat < 256 := b.toNat_lt
      rw [decode_concat, List.length_append, List.length_singleton, Nat.pow_succ]
      omega

/-- Bytes of a width hold the number up to that width. -/
theorem decode_encode (width n : Nat) :
    decode (encode width n) = n % 256 ^ width := by
  induction width generalizing n with
  | zero =>
      rw [Nat.pow_zero, Nat.mod_one]
      rfl
  | succ width ih =>
      have hlast : (UInt8.ofNat n).toNat = n % 256 := UInt8.toNat_ofNat'
      rw [encode, decode_concat, ih, hlast, Nat.pow_succ',
        Nat.mod_mul, Nat.add_comm]

/-- Bytes are the bytes of the number that they write. -/
theorem encode_decode (bytes : Bytes) :
    encode bytes.length (decode bytes) = bytes := by
  induction bytes using List.reverseRecOn with
  | nil => rfl
  | append_singleton bytes b ih =>
      have hb : b.toNat < 256 := b.toNat_lt
      have hfront : (256 * decode bytes + b.toNat) / 256 = decode bytes := by
        omega
      have hlast : UInt8.ofNat (256 * decode bytes + b.toNat) = b := by
        rw [← UInt8.toNat_inj, UInt8.toNat_ofNat']
        omega
      rw [List.length_append, List.length_singleton, encode, decode_concat,
        hfront, hlast, ih]

-- ==================================================================== words

@[simp] theorem length_ofWord (w : UInt64) : (ofWord w).length = 8 :=
  length_encode 8 _

@[simp] theorem decode_ofWord (w : UInt64) : decode (ofWord w) = w.toNat := by
  rw [ofWord, decode_encode]
  exact Nat.mod_eq_of_lt w.toNat_lt

@[simp] theorem toWord_ofWord (w : UInt64) : toWord (ofWord w) = w := by
  rw [toWord, decode_ofWord, UInt64.ofNat_toNat]

/-- Eight bytes are the bytes of a word. -/
theorem ofWord_toWord {bytes : Bytes} (h : bytes.length = 8) :
    ofWord (toWord bytes) = bytes := by
  have hlt : decode bytes < UInt64.size := by
    have hlt := decode_lt bytes
    rwa [h] at hlt
  rw [ofWord, toWord, UInt64.toNat_ofNat_of_lt' hlt, ← h, encode_decode]

end BigEndian

-- ============================================================ contract leaves

namespace LeafKey

open BigEndian

theorem length_bytes_ofContract (c : ContractId) :
    (ofContract c).bytes.length = 24 := by
  simp [ofContract]

/-- The leaf of a contract names it. -/
theorem contract?_ofContract (c : ContractId) :
    (ofContract c).contract? = some c := by
  have hshard : (ofContract c).bytes.take 8 = ofWord c.shard := by
    simp [ofContract]
  have hrealm : ((ofContract c).bytes.drop 8).take 8 = ofWord c.realm := by
    simp [ofContract]
  have hnum : (ofContract c).bytes.drop 16 = ofWord c.num := by
    simp [ofContract, List.drop_append]
  rw [contract?, if_pos ⟨rfl, length_bytes_ofContract c⟩, hshard, hrealm, hnum,
    toWord_ofWord, toWord_ofWord, toWord_ofWord]

/-- A leaf that names a contract is the leaf of that contract. -/
theorem eq_ofContract_of_contract? {l : LeafKey} {c : ContractId}
    (h : l.contract? = some c) : l = ofContract c := by
  obtain ⟨algorithm, bytes⟩ := l
  unfold contract? at h
  split at h
  case isFalse => cases h
  case isTrue hleaf =>
    obtain ⟨halgorithm, hlength⟩ := hleaf
    dsimp only at halgorithm hlength
    cases h
    have hshard : (bytes.take 8).length = 8 := by
      rw [List.length_take]
      omega
    have hrealm : ((bytes.drop 8).take 8).length = 8 := by
      rw [List.length_take, List.length_drop]
      omega
    have hnum : (bytes.drop 16).length = 8 := by
      rw [List.length_drop]
      omega
    -- the last two words are what is behind the first
    have hback : (bytes.drop 8).take 8 ++ bytes.drop 16 = bytes.drop 8 := by
      rw [← List.drop_drop (i := 8) (j := 8), List.take_append_drop]
    rw [ofContract, ofWord_toWord hshard, ofWord_toWord hrealm,
      ofWord_toWord hnum, List.append_assoc, hback, List.take_append_drop,
      halgorithm]

/-- A leaf names a contract exactly when it is the leaf of that contract. So
no two contracts have one leaf, and the leaves that name a contract are those
of the legacy algorithm with a payload of 24 bytes. Read as one number, the
payload has the number of the contract in its low 64 bits, the realm above
these and the shard above both. -/
theorem contractLeaf_exact :
    (∀ (l : LeafKey) (c : ContractId), l.contract? = some c ↔ l = ofContract c)
      ∧ (∀ c c' : ContractId, ofContract c = ofContract c' ↔ c = c')
      ∧ (∀ l : LeafKey, (∃ c, l.contract? = some c)
        ↔ l.algorithm = .contractId ∧ l.bytes.length = 24)
      ∧ ∀ c : ContractId, decode (ofContract c).bytes
        = (c.shard.toNat * UInt64.size + c.realm.toNat) * UInt64.size
          + c.num.toNat := by
  have hexact : ∀ (l : LeafKey) (c : ContractId),
      l.contract? = some c ↔ l = ofContract c := by
    refine fun l c => ⟨eq_ofContract_of_contract?, ?_⟩
    rintro rfl
    exact contract?_ofContract c
  refine ⟨hexact, fun c c' => ⟨fun h => ?_, congrArg ofContract⟩,
    fun l => ⟨?_, ?_⟩,
    fun c => ?_⟩
  · have hnamed := (hexact (ofContract c) c').2 h
    rw [contract?_ofContract] at hnamed
    exact Option.some.inj hnamed
  · rintro ⟨c, h⟩
    rw [(hexact l c).1 h]
    exact ⟨rfl, length_bytes_ofContract c⟩
  · intro hleaf
    exact ⟨_, if_pos hleaf⟩
  · have hword : 256 ^ 8 = UInt64.size := rfl
    rw [ofContract]
    dsimp only
    rw [decode_append, decode_append, decode_ofWord, decode_ofWord,
      decode_ofWord, length_ofWord, length_ofWord, hword]

end LeafKey

end SigningOrder
