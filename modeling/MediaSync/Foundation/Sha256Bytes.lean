import Mathlib.Data.List.Induction
import MediaSync.Foundation.Sha256

/-! The bytes of a text are taken together as one number first. -/
namespace MediaSync.Sha256

def pack (message : List Byte) : Nat := message.foldl (fun n byte => n * 256 + byte.toNat) 0

theorem bigEndian_succ (count n : Nat) (byte : Byte) :
    bigEndian (count + 1) (n * 256 + byte.toNat) = bigEndian count n ++ [byte] := by
  have hbyte := byte.isLt
  unfold bigEndian
  rw [List.range_succ, List.map_append, List.map_singleton]
  congr 1
  · apply List.map_congr_left
    intro i hi
    have hlt := List.mem_range.mp hi
    -- the last byte is below the eight bits that are shifted out
    rw [show 8 * (count + 1 - 1 - i) = 8 + 8 * (count - 1 - i) by omega, Nat.shiftRight_add,
      Nat.shiftRight_eq_div_pow (n * 256 + byte.toNat), show (n * 256 + byte.toNat) / 2 ^ 8 = n by
        omega]
  · apply congrArg fun last => [last]
    apply BitVec.eq_of_toNat_eq
    rw [show 8 * (count + 1 - 1 - count) = 0 by omega, Nat.shiftRight_zero, BitVec.toNat_ofNat]
    omega

theorem bigEndian_pack (message : List Byte) :
    bigEndian message.length (pack message) = message := by
  induction message using List.reverseRecOn with
  | nil => rfl
  | append_singleton message byte ih =>
    unfold pack
    rw [List.length_append, List.length_singleton, List.foldl_append]
    show bigEndian (message.length + 1) (pack message * 256 + byte.toNat) = _
    rw [bigEndian_succ, ih]

theorem toList_eq_data (bytes : ByteArray) : bytes.toList = bytes.data.toList := by
  have hloop : ∀ n i (r : List UInt8), bytes.size - i = n →
      ByteArray.toList.loop bytes i r = r.reverse ++ bytes.data.toList.drop i := by
    intro n
    induction n with
    | zero =>
      intro i r hn
      unfold ByteArray.toList.loop
      rw [if_neg (by omega), List.drop_eq_nil_of_le, List.append_nil]
      show bytes.size ≤ i
      omega
    | succ n ih =>
      intro i r hn
      have hi : i < bytes.data.toList.length := by
        show i < bytes.size
        omega
      unfold ByteArray.toList.loop
      rw [if_pos (by omega), ih (i + 1) _ (by omega), List.reverse_cons, List.append_assoc,
        List.drop_eq_getElem_cons hi]
      exact congrArg (fun byte => r.reverse ++ byte :: _) (getElem!_pos bytes.data i hi)
  exact hloop _ 0 [] rfl

theorem hexdigest_pack {text : String} {message : List Byte}
    (h : text.toByteArray.data.toList.map UInt8.toBitVec = message) : hexdigest text =
      String.ofList ((digest (bigEndian message.length (pack message))).flatMap hexWord) := by
  rw [bigEndian_pack, ← h, ← toList_eq_data]
  rfl

end MediaSync.Sha256
