import Logistics.Auth.Platform
import Logistics.Library.BitQueue

/-!
# The text of a secret

An MFA secret is kept as Base32 text. `generateSecret` shifts bytes into a word and
reads groups of five bits from it, and `decodeBase32` shifts these groups into a word
and reads bytes. Neither word is cleared, so both wrap around; but the bits that were
not read yet are always few, and stand low. Encoding and decoding keep the bits in
order, and a decoded secret is the one that was encoded.
-/

namespace Logistics.Auth

open Logistics.Library

/-! ## Bits -/

def byteBits (byte : UInt8) : List Bool :=
  lowBits byte.toBitVec 8

/-- The five bits a character stands for; a character outside of the alphabet stands
for none. -/
def base32Bits (c : Char) : List Bool :=
  match base32Alphabet.findIdx? (· == c) with
  | some index => lowBits (BitVec.ofNat 32 index) 5
  | none => []

theorem length_byteBits (byte : UInt8) : (byteBits byte).length = 8 :=
  length_lowBits _ 8

theorem byteBits_injective {a b : UInt8} (h : byteBits a = byteBits b) : a = b :=
  UInt8.toBitVec_inj.mp (lowBits_injective h)

theorem findIdx?_base32Alphabet : ∀ n < 32,
    base32Alphabet.findIdx? (· == base32Alphabet.getD n 'A') = some n := by
  decide

theorem getD_mem_base32Alphabet : ∀ n < 32, base32Alphabet.getD n 'A' ∈ base32Alphabet := by
  decide

theorem masked_lt (index : BitVec 32) : (index &&& 31).toNat < 32 := by
  rw [BitVec.toNat_and]
  exact Nat.lt_succ_of_le Nat.and_le_right

theorem base32Char_mem (index : BitVec 32) : base32Char index ∈ base32Alphabet :=
  getD_mem_base32Alphabet _ (masked_lt index)

theorem base32Bits_base32Char (index : BitVec 32) :
    base32Bits (base32Char index) = lowBits index 5 := by
  unfold base32Bits base32Char
  rw [findIdx?_base32Alphabet _ (masked_lt index)]
  apply lowBits_congr
  intro i hi
  rw [BitVec.ofNat_toNat, BitVec.setWidth_eq, BitVec.getLsbD_and]
  have hmask : (31 : BitVec 32).getLsbD i = true := by
    have hall : ∀ i < 5, (31 : BitVec 32).getLsbD i = true := by decide
    exact hall i hi
  rw [hmask, Bool.and_true]

/-! ## Encoding -/

/-- The groups that are emitted and the bits that stay are the bits there were. -/
theorem drainBase32_bits (value : BitVec 32) (n : ℕ) :
    (drainBase32 value n).1.flatMap base32Bits ++ lowBits value (drainBase32 value n).2 =
      lowBits value n := by
  fun_induction drainBase32 value n with
  | case1 bits rest left heq ih =>
      rw [heq] at ih
      rw [List.flatMap_cons, base32Bits_base32Char, List.append_assoc, ih, ← lowBits_add,
        Nat.add_comm 5]
  | case2 bits hsmall => rfl

theorem drainBase32_left (value : BitVec 32) (n : ℕ) : (drainBase32 value n).2 < 5 := by
  fun_induction drainBase32 value n with
  | case1 bits rest left heq ih => rwa [heq] at ih
  | case2 bits hsmall =>
      by_contra hle
      exact hsmall (bits - 5) (by omega)

theorem drainBase32_mem (value : BitVec 32) (n : ℕ) :
    ∀ c ∈ (drainBase32 value n).1, c ∈ base32Alphabet := by
  fun_induction drainBase32 value n with
  | case1 bits rest left heq ih =>
      rw [heq] at ih
      intro c hc
      rcases List.mem_cons.mp hc with rfl | hc
      · exact base32Char_mem _
      · exact ih c hc
  | case2 bits hsmall => exact fun c hc => absurd hc List.not_mem_nil

/-- The state after these bytes: what is written and what is left of the last one. -/
structure Encoded (bytes : List UInt8) (state : Base32State) : Prop where
  bits : state.output.flatMap base32Bits ++ lowBits state.value state.bits =
    bytes.flatMap byteBits
  few : state.bits < 5
  written : ∀ c ∈ state.output, c ∈ base32Alphabet

theorem pushByte_eq (state : Base32State) (byte : UInt8) :
    pushByte state byte =
      let value := (state.value <<< 8) ||| byte.toBitVec.setWidth 32
      ⟨state.output ++ (drainBase32 value (state.bits + 8)).1,
        (drainBase32 value (state.bits + 8)).2, value⟩ := rfl

theorem Encoded.pushByte {bytes : List UInt8} {state : Base32State} (h : Encoded bytes state)
    (byte : UInt8) : Encoded (bytes ++ [byte]) (pushByte state byte) := by
  have hfew := h.few
  -- at most four bits stand above the byte that is shifted in
  have hin : lowBits ((state.value <<< 8) ||| byte.toBitVec.setWidth 32) (state.bits + 8) =
      lowBits state.value state.bits ++ byteBits byte := by
    rw [lowBits_shiftIn (by omega)]
    · rfl
    · intro i hi
      rw [BitVec.getLsbD_setWidth, BitVec.getLsbD_of_ge _ i hi, Bool.and_false]
  rw [pushByte_eq]
  dsimp only
  refine ⟨?_, drainBase32_left _ _, fun c hc => ?_⟩
  · rw [List.flatMap_append, List.append_assoc, drainBase32_bits, hin, ← List.append_assoc, h.bits,
      List.flatMap_append, List.flatMap_singleton]
  · rcases List.mem_append.mp hc with hc | hc
    · exact h.written c hc
    · exact drainBase32_mem _ _ c hc

theorem encoded_foldl (bytes : List UInt8) : ∀ (before : List UInt8) (state : Base32State),
    Encoded before state → Encoded (before ++ bytes) (bytes.foldl pushByte state) := by
  induction bytes with
  | nil =>
      intro before state h
      rwa [List.append_nil]
  | cons byte bytes ih =>
      intro before state h
      have hnext := ih (before ++ [byte]) (Auth.pushByte state byte) (h.pushByte byte)
      rwa [List.append_assoc] at hnext

/-- The text of a secret has its bits, filled up to a whole character. -/
theorem generateSecret_bits (bytes : List UInt8) :
    ∃ pad : List Bool, pad.length < 5 ∧
      (generateSecret bytes).toList.flatMap base32Bits = bytes.flatMap byteBits ++ pad := by
  have h := encoded_foldl bytes [] ⟨[], 0, 0⟩ ⟨rfl, by decide, by simp⟩
  rw [List.nil_append] at h
  unfold generateSecret
  generalize bytes.foldl pushByte ⟨[], 0, 0⟩ = final at h
  dsimp only
  rw [String.toList_ofList, List.flatMap_append]
  have hfew := h.few
  by_cases hbits : final.bits > 0
  · have hlast : lowBits (final.value <<< (5 - final.bits)) 5 =
        lowBits final.value final.bits ++ lowBits (0#32) (5 - final.bits) := by
      rw [← lowBits_shiftIn (by omega) (by simp), Nat.add_sub_cancel' (by omega),
        BitVec.or_zero]
    refine ⟨lowBits (0#32) (5 - final.bits), ?_, ?_⟩
    · rw [length_lowBits]
      omega
    · rw [if_pos hbits, List.flatMap_singleton, base32Bits_base32Char, hlast, ← h.bits,
        List.append_assoc]
  · refine ⟨[], by decide, ?_⟩
    have hzero : final.bits = 0 := by omega
    have hall := h.bits
    rw [hzero, lowBits_zero] at hall
    rw [if_neg hbits, List.flatMap_nil, hall, List.append_nil]

theorem generateSecret_mem (bytes : List UInt8) :
    ∀ c ∈ (generateSecret bytes).toList, c ∈ base32Alphabet := by
  have h := encoded_foldl bytes [] ⟨[], 0, 0⟩ ⟨rfl, by decide, by simp⟩
  intro c hc
  rw [generateSecret, String.toList_ofList] at hc
  rcases List.mem_append.mp hc with hc | hc
  · exact h.written c hc
  · split at hc
    · rw [List.mem_singleton.mp hc]
      exact base32Char_mem _
    · cases hc

/-! ## Decoding -/

/-- The state after these characters: the bytes that are read and the bits that wait
for the rest of the next one. -/
structure Decoded (cs : List Char) (state : DecodeState) : Prop where
  bits : state.bytes.flatMap byteBits ++ lowBits state.current state.bits =
    cs.flatMap base32Bits
  few : state.bits < 8

theorem Decoded.next {cs : List Char} {state : DecodeState} (h : Decoded cs state) (c : Char) :
    Decoded (cs ++ [c]) (decodeBase32Char state c) := by
  have hfew := h.few
  unfold decodeBase32Char
  cases hindex : base32Alphabet.findIdx? (· == c) with
  | none =>
      refine ⟨?_, hfew⟩
      rw [List.flatMap_append, List.flatMap_singleton, base32Bits, hindex, List.append_nil]
      exact h.bits
  | some index =>
      have hlt : index < 2 ^ 5 := (List.findIdx?_eq_some_iff_findIdx_eq.mp hindex).1
      have hin : lowBits ((state.current <<< 5) ||| BitVec.ofNat 32 index) (state.bits + 5) =
          lowBits state.current state.bits ++ base32Bits c := by
        rw [lowBits_shiftIn (by omega), base32Bits, hindex]
        intro i hi
        rw [BitVec.getLsbD_ofNat, Nat.testBit_lt_two_pow (Nat.lt_of_lt_of_le hlt
          (Nat.pow_le_pow_right (by decide) hi)), Bool.and_false]
      have hall : (cs ++ [c]).flatMap base32Bits = state.bytes.flatMap byteBits ++
          lowBits ((state.current <<< 5) ||| BitVec.ofNat 32 index) (state.bits + 5) := by
        rw [List.flatMap_append, ← h.bits, List.flatMap_singleton, List.append_assoc, hin]
      dsimp only
      split
      · next hfull =>
        refine ⟨?_, by dsimp only; omega⟩
        rw [hall, ← Nat.add_sub_cancel' hfull, lowBits_add, Nat.add_sub_cancel_left,
          List.flatMap_append, List.flatMap_singleton, List.append_assoc]
        congr 2
        apply lowBits_congr
        intro i hi
        rw [UInt8.toBitVec_ofBitVec, BitVec.getLsbD_setWidth]
        simp [hi]
      · next hfull => exact ⟨hall.symm, by dsimp only; omega⟩

theorem decoded_foldl (cs : List Char) : ∀ (before : List Char) (state : DecodeState),
    Decoded before state → Decoded (before ++ cs) (cs.foldl decodeBase32Char state) := by
  induction cs with
  | nil =>
      intro before state h
      rwa [List.append_nil]
  | cons c cs ih =>
      intro before state h
      have hnext := ih (before ++ [c]) (decodeBase32Char state c) (h.next c)
      rwa [List.append_assoc] at hnext

/-- A secret is decoded to the bytes it was made of, on a runtime whose upper case
leaves capital letters and digits alone. -/
theorem decodeBase32_generateSecret (P : Platform)
    (hupper : ∀ text : String, (∀ c ∈ text.toList, c.isUpper = true ∨ c.isDigit = true) →
      P.toUpperCase text = text) (bytes : List UInt8) :
    decodeBase32 P (generateSecret bytes) = bytes := by
  have hmem := generateSecret_mem bytes
  have halphabet : ∀ c ∈ base32Alphabet, c ≠ '=' ∧ (c.isUpper = true ∨ c.isDigit = true) := by
    have hall : (base32Alphabet.all fun c => c != '=' && (c.isUpper || c.isDigit)) = true := by
      decide +kernel
    simpa using hall
  have htrim : (generateSecret bytes).toList.rdropWhile (· == '=') =
      (generateSecret bytes).toList := by
    rw [List.rdropWhile_eq_self_iff]
    intro hne heq
    exact (halphabet _ (hmem _ (List.getLast_mem hne))).1 (beq_iff_eq.mp heq)
  have hsame : P.toUpperCase (generateSecret bytes) = generateSecret bytes :=
    hupper _ fun c hc => (halphabet c (hmem c hc)).2
  unfold decodeBase32
  dsimp only
  rw [htrim, String.ofList_toList, hsame]
  obtain ⟨pad, hpad, hbits⟩ := generateSecret_bits bytes
  have h := decoded_foldl (generateSecret bytes).toList [] ⟨0, 0, []⟩ ⟨rfl, by decide⟩
  rw [List.nil_append] at h
  have hread := h.bits
  rw [hbits] at hread
  exact (eq_of_flatMap_append_eq length_byteBits (fun _ _ => byteBits_injective)
    (by rw [length_lowBits]; exact h.few) (by omega) hread).1

/-- The second byte is cut in the middle of a character, and the last character is
filled up. -/
theorem decodeBase32_generateSecret_three :
    decodeBase32 plainPlatform (generateSecret [0x48, 0xFF, 0x80]) = [0x48, 0xFF, 0x80] :=
  decodeBase32_generateSecret plainPlatform (fun _ _ => rfl) [0x48, 0xFF, 0x80]

end Logistics.Auth
