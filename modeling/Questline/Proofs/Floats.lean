import Mathlib.Data.Prod.Lex
import Questline.Decimal.Binary

/-! Doubles are in order as far as they are numbers.  Their order, which is computed from sign,
exponent and mantissa, is that of a rank among triples of integers.  Any double can be had back
from its bits. -/

namespace Questline.Decimal

open Float.Model (UnpackedFloat Format)

/-- Sign and class first, then exponent and mantissa, which count downwards below zero. -/
def rankOf : UnpackedFloat → ℤ ×ₗ ℤ ×ₗ ℤ
  | .infinity .positive => toLex (2, toLex (0, 0))
  | .finite .positive m e _ => toLex (1, toLex (e, m))
  | .zero _ | .notANumber => toLex (0, toLex (0, 0))
  | .finite .negative m e _ => toLex (-1, toLex (-e, -m))
  | .infinity .negative => toLex (-2, toLex (0, 0))

theorem compare_neg (a b : ℤ) : compare (-a) (-b) = (compare a b).swap := by
  rcases lt_trichotomy a b with h | rfl | h
  · rw [compare_lt_iff_lt.2 h, compare_gt_iff_gt.2 (by omega : -a > -b)]
    rfl
  · simp
  · rw [compare_gt_iff_gt.2 h, compare_lt_iff_lt.2 (by omega : -a < -b)]
    rfl

theorem compare_natCast (m n : ℕ) : compare (m : ℤ) (n : ℤ) = compare m n := by
  rcases lt_trichotomy m n with h | rfl | h
  · rw [compare_lt_iff_lt.2 h, compare_lt_iff_lt.2 (by omega : (m : ℤ) < n)]
  · simp
  · rw [compare_gt_iff_gt.2 h, compare_gt_iff_gt.2 (by omega : (m : ℤ) > n)]

theorem compare_rankOf {u v : UnpackedFloat} (hu : u.isNaN = false) (hv : v.isNaN = false) :
    u.compare v = some (compare (rankOf u) (rankOf v)) := by
  rcases u with ⟨_ | _⟩ | _ | _ | ⟨_ | _, m, e, hm⟩ <;>
    rcases v with ⟨_ | _⟩ | _ | _ | ⟨_ | _, n, f, hn⟩
  all_goals first
    | rfl
    | (cases hu; done)
    | (cases hv; done)
    | skip
  -- two numbers of one sign are left: exponents first, then mantissas
  · change some ((compare e f).then (compare m n)).swap =
      some ((compare (-e) (-f)).then (compare (-m : ℤ) (-n : ℤ)))
    rw [compare_neg, compare_neg, compare_natCast, Ordering.swap_then]
  · change some ((compare e f).then (compare m n)) =
      some ((compare e f).then (compare (m : ℤ) (n : ℤ)))
    rw [compare_natCast]

def rank (x : Float) : ℤ ×ₗ ℤ ×ₗ ℤ := rankOf x.toModel.unpack

section Order

variable {x y : Float}

theorem lt_iff_rank (hx : x.isNaN = false) (hy : y.isNaN = false) : x < y ↔ rank x < rank y := by
  change decide (x.toModel.unpack.lt y.toModel.unpack = true) = true ↔ _
  rw [decide_eq_true_iff, UnpackedFloat.lt, compare_rankOf hx hy, beq_iff_eq, Option.some_inj,
    compare_lt_iff_lt, rank, rank]

theorem le_iff_rank (hx : x.isNaN = false) (hy : y.isNaN = false) : x ≤ y ↔ rank x ≤ rank y := by
  change decide (x.toModel.unpack.le y.toModel.unpack = true) = true ↔ _
  rw [decide_eq_true_iff, UnpackedFloat.le, compare_rankOf hx hy, Option.any_some,
    Ordering.isLE_iff_ne_gt, compare_gt_iff_gt, not_lt, rank, rank]

theorem beq_comm (x y : Float) : (x == y) = (y == x) := by
  change x.toModel.unpack.beq y.toModel.unpack = y.toModel.unpack.beq x.toModel.unpack
  unfold UnpackedFloat.beq
  generalize x.toModel.unpack = u, y.toModel.unpack = v
  cases hu : u.isNaN with
  | true =>
    cases u <;> cases hu
    cases v <;> rfl
  | false =>
    cases hv : v.isNaN with
    | true =>
      cases v <;> cases hv
      cases u <;> rfl
    | false =>
      rw [compare_rankOf hu hv, compare_rankOf hv hu, Bool.eq_iff_iff, beq_iff_eq, beq_iff_eq,
        Option.some_inj, Option.some_inj, compare_eq_iff_eq, compare_eq_iff_eq, eq_comm]

end Order

theorem field_eq (x : Float) : ((x.toBits >>> 52) &&& 0x7ff).toNat =
    (@UnpackedFloat.unpackExponent .binary64 x.toModel.toBits.toBitVec).toNat := by
  unfold UnpackedFloat.unpackExponent
  rw [BitVec.toNat_cast, BitVec.extractLsb_toNat, UInt64.toNat_and, UInt64.toNat_shiftRight]
  change (x.toBits.toNat >>> 52) &&& (2 ^ 11 - 1) = _
  rw [Nat.and_two_pow_sub_one_eq_mod]
  rfl

/-- A number that cannot be cut to an integer is infinite. -/
theorem isInf_of_truncate? {x : Float} (h : truncate? x = none) (hx : x.isNaN = false) :
    x.isInf = true := by
  have hfield : ((x.toBits >>> 52) &&& 0x7ff).toNat = 0x7ff := by
    unfold truncate? shape at h
    dsimp only at h
    by_contra hne
    rw [if_neg hne] at h
    split_ifs at h
  rw [field_eq] at hfield
  change x.toModel.unpack.isNaN = false at hx
  change x.toModel.unpack.isInf = true
  unfold Float.Model.unpack UnpackedFloat.unpack at *
  have hones : @UnpackedFloat.unpackExponent .binary64 x.toModel.toBits.toBitVec = -1#_ :=
    BitVec.eq_of_toNat_eq hfield
  dsimp only at *
  rw [if_pos hones] at *
  split at hx
  · rw [if_pos ‹_›]
    rfl
  · cases hx

theorem packComponents_unpack (b : BitVec Format.binary64.numBits) :
    UnpackedFloat.packComponents .binary64 (.ofBitVec (UnpackedFloat.unpackSign b))
      (UnpackedFloat.unpackExponent b) (UnpackedFloat.unpackMantissa b) = b := by
  have hsign (c : BitVec 1) : (UnpackedFloat.Sign.ofBitVec c).toBitVec = c := by
    revert c
    decide
  unfold UnpackedFloat.packComponents
  rw [hsign]
  unfold UnpackedFloat.unpackSign UnpackedFloat.unpackExponent UnpackedFloat.unpackMantissa
  apply BitVec.eq_of_getLsbD_eq
  intro i hi
  simp only [BitVec.getLsbD_append, BitVec.getLsbD_cast, BitVec.getLsbD_extractLsb]
  grind

theorem pack_subnormal (s : UnpackedFloat.Sign) (m : BitVec 52) (h : 0 < m.toNat) :
    UnpackedFloat.pack .binary64 (.finite s m.toNat (-1074) h) =
      UnpackedFloat.packComponents .binary64 s 0#11 m := by
  have hlog : m.toNat.log2 < 52 := (Nat.log2_lt h.ne').2 m.isLt
  have hbits : ¬ m.toNat.log2 + 1 = Format.binary64.mantissaBits := fun h53 => by
    change _ = 53 at h53
    omega
  unfold UnpackedFloat.pack
  dsimp only
  rw [if_neg (by decide), if_neg hbits, BitVec.ofNat_toNat, BitVec.setWidth_eq]

theorem pack_normal (s : UnpackedFloat.Sign) {e : BitVec 11} (m : BitVec 52) (hfinite : e ≠ -1#11)
    (h : 0 < (1#1 ++ m).toNat) :
    UnpackedFloat.pack .binary64 (.finite s (1#1 ++ m).toNat (e.toNat - 1075) h) =
      UnpackedFloat.packComponents .binary64 s e m := by
  have hm := m.isLt
  have hvalue : (1#1 ++ m).toNat = 2 ^ 52 + m.toNat := by
    rw [BitVec.toNat_append, ← Nat.shiftLeft_add_eq_or_of_lt hm, Nat.shiftLeft_eq]
    simp
  have hlog : (1#1 ++ m).toNat.log2 = 52 := by
    have hlow := (Nat.le_log2 h.ne' (k := 52)).2 (by omega)
    have hhigh := (Nat.log2_lt h.ne' (k := 53)).2 (by omega)
    omega
  have hbiased :
      (((e.toNat : Int) - 1075) + Format.binary64.exponentBias + (52 : ℕ)).toNat = e.toNat := by
    change (((e.toNat : Int) - 1075) + 1023 + 52).toNat = _
    omega
  have hfits : ¬ 2 ^ 11 ≤ e.toNat + 1 := fun hge =>
    hfinite (BitVec.eq_of_toNat_eq (by have := e.isLt; change _ = 2047; omega))
  unfold UnpackedFloat.pack
  dsimp only
  rw [hbiased, if_neg hfits, hlog, if_pos (by rfl : 52 + 1 = Format.binary64.mantissaBits),
    BitVec.ofNat_toNat, BitVec.setWidth_eq]
  congr 1
  rw [hvalue]
  exact BitVec.eq_of_toNat_eq (by simp; omega)

/-- Bits that can be a double's are packed again as they were. -/
theorem pack_unpack {b : BitVec Format.binary64.numBits} (h : Format.binary64.Valid b) :
    UnpackedFloat.pack .binary64 (UnpackedFloat.unpack .binary64 b) = b := by
  have hb := packComponents_unpack b
  unfold UnpackedFloat.unpack
  dsimp only
  by_cases hones : UnpackedFloat.unpackExponent b = -1#_
  · rw [if_pos hones]
    by_cases hzero : UnpackedFloat.unpackMantissa b = 0#_
    · rw [if_pos hzero]
      rw [hones, hzero] at hb
      exact hb
    · rw [if_neg hzero]
      exact (h.eq_packedNaN hones hzero).symm
  · rw [if_neg hones]
    by_cases hnull : UnpackedFloat.unpackExponent b = 0#_
    · rw [if_pos hnull]
      by_cases hzero : UnpackedFloat.unpackMantissa b = 0#_
      · rw [dif_pos hzero]
        rw [hnull, hzero] at hb
        exact hb
      · have hpos : 0 < (@UnpackedFloat.unpackMantissa .binary64 b).toNat :=
          Nat.pos_of_ne_zero fun h0 => hzero (BitVec.eq_of_toNat_eq h0)
        rw [dif_neg hzero]
        rw [hnull] at hb ⊢
        exact (pack_subnormal _ _ hpos).trans hb
    · rw [if_neg hnull]
      exact (pack_normal _ _ hones _).trans hb

/-- A double is what its bits say. -/
theorem ofBits_toBits (x : Float) : Float.ofBits x.toBits = x := by
  obtain ⟨bits, hvalid⟩ := x
  have h : Float.Model.ofBits bits = ⟨bits, hvalid⟩ := by
    rw [Float.Model.ofBits, Float.Model.pack]
    congr 1
    exact congrArg UInt64.ofBitVec (pack_unpack hvalid)
  exact congrArg Float.ofModel h

end Questline.Decimal
