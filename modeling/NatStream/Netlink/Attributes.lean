import NatStream.Lib.LastWins
import NatStream.Netlink.Parsers

namespace NatStream.Netlink.Attributes

open NatStream.Lib.Bytes NatStream.Lib.Slice NatStream.Lib.Frames NatStream.Lib.LastWins
open NatStream.Events NatStream.Netlink.Parsers

variable {σ : Type}

def nlaFormat (en : Endian) : Format where
  headerLen := nlaHdrlen
  minLen := nlaHdrlen
  alignment := nlaAlignto
  lengthOf := fun header => neNat en (header.take 2)
  headerLen_le := Nat.le_refl _
  minLen_pos := by decide
  alignment_pos := by decide

/-- The type, without its two flag bits, and the payload of a framed attribute. -/
def attributeOf (en : Endian) (frame : List UInt8) : UInt16 × List UInt8 :=
  (UInt16.ofNat (neNat en ((frame.drop 2).take 2)) &&& nlaTypeMask, frame.drop nlaHdrlen)

/-- The attribute list of a byte slice, whatever its bytes are. -/
def attributes (en : Endian) (data : List UInt8) : List (UInt16 × List UInt8) :=
  (frames (nlaFormat en) data).map (attributeOf en)

theorem readU16_of_le {en : Endian} {data : List UInt8} (h : 2 ≤ data.length) :
    readU16 en data = some (UInt16.ofNat (neNat en (data.take 2))) := by
  simp [readU16, slice_of_le (Nat.zero_le 2) h]

/-- With a whole header in front of it the loop head never fails. -/
theorem nextNla_of_le {en : Endian} {data : List UInt8} {o : Nat} (hh : o + nlaHdrlen ≤ data.length) :
    nextNla en data o =
      if neNat en ((data.drop o).take 2) < nlaHdrlen ∨
          o + neNat en ((data.drop o).take 2) > data.length then some none
      else some (some ((UInt16.ofNat (neNat en ((data.drop (o + 2)).take 2)) &&& nlaTypeMask,
        (data.take (o + neNat en ((data.drop o).take 2))).drop (o + nlaHdrlen)),
        nlaAlign (o + neNat en ((data.drop o).take 2)))) := by
  have hmod : (UInt16.ofNat (neNat en ((data.drop o).take 2))).toNat =
      neNat en ((data.drop o).take 2) := by
    rw [UInt16.toNat_ofNat', Nat.mod_eq_of_lt (b := 2 ^ 16) (neNat_take_lt en 2 (data.drop o))]
  rw [nextNla, if_pos hh]
  simp only [nlaHdrlen] at hh
  rw [sliceFrom_of_le (show o ≤ data.length by omega), sliceFrom_of_le (show o + 2 ≤ data.length by omega)]
  simp only [Option.bind_eq_bind, Option.bind_some, Option.pure_def]
  rw [readU16_of_le (by rw [List.length_drop]; omega), readU16_of_le (by rw [List.length_drop]; omega)]
  simp only [Option.bind_some, hmod]
  by_cases hl : neNat en ((data.drop o).take 2) < nlaHdrlen ∨
      o + neNat en ((data.drop o).take 2) > data.length
  · rw [if_pos hl, if_pos hl]
  · rw [if_neg hl, if_neg hl, slice_of_le (by omega) (by omega), Option.bind_some]

theorem attributeOf_take {en : Endian} {data : List UInt8} {o len : Nat} (hl : nlaHdrlen ≤ len) :
    attributeOf en ((data.drop o).take len) =
      (UInt16.ofNat (neNat en ((data.drop (o + 2)).take 2)) &&& nlaTypeMask,
        (data.take (o + len)).drop (o + nlaHdrlen)) := by
  simp only [nlaHdrlen] at hl
  have hmin : min 2 (len - 2) = 2 := by omega
  have hsub : o + len - (o + nlaHdrlen) = len - nlaHdrlen := by omega
  simp only [attributeOf, List.drop_take, List.drop_drop, List.take_take, hmin, hsub]

theorem nlaWalker_follows (en : Endian) (data : List UInt8) :
    Follows (nlaWalker en data) (nlaFormat en) (attributeOf en) data := by
  intro o ho
  change nextNla en data o = _
  by_cases hh : o + nlaHdrlen ≤ data.length
  · have hd : (data.drop o).length = data.length - o := List.length_drop
    have hhead : (nlaFormat en).lengthOf ((data.drop o).take (nlaFormat en).headerLen) =
        neNat en ((data.drop o).take 2) := by
      change neNat en (((data.drop o).take nlaHdrlen).take 2) = _
      rw [List.take_take]
      rfl
    rw [nextNla_of_le hh]
    by_cases hl : neNat en ((data.drop o).take 2) < nlaHdrlen ∨
        o + neNat en ((data.drop o).take 2) > data.length
    · have hnone : cut (nlaFormat en) (data.drop o) = none := by
        rw [cut, if_pos (by change nlaHdrlen ≤ _; omega)]
        simp only [hhead]
        exact if_pos (by change _ < nlaHdrlen ∨ _; omega)
      rw [if_pos hl, hnone, Option.map_none]
    · have hcut := cut_of_length _ hhead (by change nlaHdrlen ≤ _; omega) (by omega)
      have hlen : ((data.drop o).take (neNat en ((data.drop o).take 2))).length =
          neNat en ((data.drop o).take 2) := by
        rw [List.length_take]
        omega
      rw [if_neg hl, hcut, Option.map_some, attributeOf_take (by omega), hlen]
      rfl
  · have hnone : cut (nlaFormat en) (data.drop o) = none := by
      apply if_neg
      change ¬ nlaHdrlen ≤ (data.drop o).length
      rw [List.length_drop]
      simp only [nlaHdrlen] at hh ⊢
      omega
    rw [nextNla, if_neg hh, hnone, Option.map_none]

/-- Every attribute loop is a fold over the attribute list. -/
theorem walkNlas_eq (en : Endian) (visit : σ → UInt16 × List UInt8 → Option σ) (data : List UInt8)
    (s : σ) : walkNlas en visit data s = (attributes en data).foldlM visit s :=
  scan_eq_foldlM (nlaWalker_follows en data) visit s (Nat.dvd_zero _)

end NatStream.Netlink.Attributes
