import Mathlib.Algebra.Group.Int.Defs
import Mathlib.Algebra.Group.Nat.Defs
import Questline.MessagePack.Decode
import Questline.Proofs.Floats

/-! Numbers and texts as bytes.  What has been written with so many bytes is read back from them. -/

namespace Questline

section ByteArrays

theorem toList_loop (bytes : ByteArray) (i : Nat) (read : List UInt8) :
    ByteArray.toList.loop bytes i read = read.reverse ++ bytes.data.toList.drop i := by
  fun_induction ByteArray.toList.loop bytes i read with
  | case1 i read h ih =>
    rw [ih]
    have hi : i < bytes.data.toList.length := h
    have hget : bytes.get! i = bytes.data.toList[i] := by
      change bytes.data[i]! = _
      rw [getElem!_pos bytes.data i h, Array.getElem_toList]
    rw [List.reverse_cons, List.append_assoc, List.drop_eq_getElem_cons hi, hget]
    rfl
  | case2 i read h =>
    rw [List.drop_of_length_le (Nat.le_of_not_lt h), List.append_nil]

/-- The bytes of an array come out in order. -/
theorem toList_eq (bytes : ByteArray) : bytes.toList = bytes.data.toList := by
  rw [ByteArray.toList, toList_loop]
  rfl

theorem toList_toUTF8 (s : String) : s.toUTF8.toList = s.toList.flatMap String.utf8EncodeChar := by
  rw [toList_eq, ← List.toList_data_toByteArray (l := s.toList.flatMap String.utf8EncodeChar)]
  exact congrArg (fun b : ByteArray => b.data.toList) String.utf8Encode_toList.symm

theorem utf8EncodeChar_of_ascii {c : Char} (h : c.toNat < 0x80) :
    String.utf8EncodeChar c = [UInt8.ofNat c.toNat] := by
  rw [String.utf8EncodeChar]
  exact if_pos (by change c.toNat ≤ 0x7f; omega)

end ByteArrays

namespace MessagePack

theorem length_bigEndian (width n : Nat) : (bigEndian width n).length = width := by
  induction width generalizing n with
  | zero => rfl
  | succ width ih => simp [bigEndian, ih]

theorem ofBigEndian_append (bytes : Bytes) (b : UInt8) :
    ofBigEndian (bytes ++ [b]) = 256 * ofBigEndian bytes + b.toNat := by
  simp [ofBigEndian]

theorem ofBigEndian_bigEndian {width n : Nat} (h : n < 256 ^ width) :
    ofBigEndian (bigEndian width n) = n := by
  induction width generalizing n with
  | zero =>
    rw [Nat.pow_zero, Nat.lt_one_iff] at h
    rw [h]
    rfl
  | succ width ih =>
    have hdiv : n / 256 < 256 ^ width := Nat.div_lt_of_lt_mul (by rwa [← Nat.pow_succ'])
    rw [bigEndian, ofBigEndian_append, ih hdiv, UInt8.toNat_ofNat']
    omega

theorem ofSigned_bigEndian {width m : Nat} {n : Int} (hm : (m : Int) = 256 ^ width + n)
    (hlow : -256 ^ width ≤ 2 * n) (hneg : n < 0) : ofSigned (bigEndian width m) = n := by
  have hpow : ((256 ^ width : Nat) : Int) = 256 ^ width := Int.natCast_pow 256 width
  unfold ofSigned
  dsimp only
  rw [ofBigEndian_bigEndian (by omega), length_bigEndian, Nat.pow_eq, if_neg (by omega), hm, hpow]
  omega

theorem floatOf_bigEndian (x : Float) : floatOf (bigEndian 8 x.toBits.toNat) = x := by
  rw [floatOf, length_bigEndian, if_neg (by decide),
    ofBigEndian_bigEndian (x.toBits.toNat_lt), UInt64.ofNat_toNat, Decimal.ofBits_toBits]

theorem textBytes_eq (s : String) : textBytes s = s.toUTF8.data.toList := toList_eq _

theorem length_textBytes (s : String) : (textBytes s).length = s.utf8ByteSize := by
  rw [textBytes_eq]
  rfl

theorem textOf_textBytes (s : String) : textOf (textBytes s) = .ok (.atom (.text s)) := by
  have hbytes : (⟨(textBytes s).toArray⟩ : ByteArray) = s.toUTF8 := by rw [textBytes_eq]
  have hread : String.fromUTF8? s.toUTF8 = some s := dif_pos s.isValidUTF8
  rw [textOf, hbytes, hread]

end MessagePack

end Questline
