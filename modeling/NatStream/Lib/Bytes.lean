import Mathlib.Data.List.Basic
import Mathlib.Tactic.Ring

namespace NatStream.Lib.Bytes

/-- The `n` low-order base-256 digits of a number, most significant first. -/
def beBytes : Nat → Nat → List UInt8
  | 0, _ => []
  | n + 1, v => UInt8.ofNat (v / 256 ^ n) :: beBytes n v

def beNat : List UInt8 → Nat
  | [] => 0
  | b :: bs => b.toNat * 256 ^ bs.length + beNat bs

@[simp] theorem length_beBytes (n v : Nat) : (beBytes n v).length = n := by
  induction n with
  | zero => rfl
  | succ n ih => simp [beBytes, ih]

theorem beNat_beBytes_mod (n v : Nat) : beNat (beBytes n v) = v % 256 ^ n := by
  induction n with
  | zero => simp [beBytes, beNat, Nat.mod_one]
  | succ n ih =>
    rw [beBytes, beNat, ih, length_beBytes, Nat.mod_pow_succ, UInt8.toNat_ofNat']
    ring

theorem beNat_beBytes {n v : Nat} (h : v < 256 ^ n) : beNat (beBytes n v) = v := by
  rw [beNat_beBytes_mod, Nat.mod_eq_of_lt h]

theorem beNat_lt (bs : List UInt8) : beNat bs < 256 ^ bs.length := by
  induction bs with
  | nil => simp [beNat]
  | cons b bs ih =>
    have hb : b.toNat + 1 ≤ 256 := b.toNat_lt
    have hm := Nat.mul_le_mul_right (256 ^ bs.length) hb
    rw [beNat, List.length_cons, Nat.pow_succ]
    rw [Nat.add_mul, Nat.one_mul] at hm
    omega

theorem beNat_inj {bs cs : List UInt8} (hl : bs.length = cs.length) (h : beNat bs = beNat cs) :
    bs = cs := by
  induction bs generalizing cs with
  | nil => exact (List.length_eq_zero_iff.mp hl.symm).symm
  | cons b bs ih =>
    obtain ⟨c, cs, rfl⟩ := List.exists_cons_of_length_eq_add_one hl.symm
    have hl' : bs.length = cs.length := Nat.succ.inj hl
    have hb := beNat_lt bs
    have hc := beNat_lt cs
    rw [beNat, beNat, ← hl'] at h
    rw [← hl'] at hc
    have hpos : 0 < 256 ^ bs.length := Nat.pow_pos (by decide)
    have hhigh := congrArg (· / 256 ^ bs.length) h
    have hlow := congrArg (· % 256 ^ bs.length) h
    simp only [Nat.mul_comm _ (256 ^ bs.length), Nat.mul_add_div hpos, Nat.div_eq_of_lt hb,
      Nat.div_eq_of_lt hc, Nat.add_zero] at hhigh
    simp only [Nat.mul_comm _ (256 ^ bs.length), Nat.mul_add_mod, Nat.mod_eq_of_lt hb,
      Nat.mod_eq_of_lt hc] at hlow
    rw [UInt8.toNat_inj.mp hhigh, ih hl' hlow]

theorem beBytes_beNat (bs : List UInt8) : beBytes bs.length (beNat bs) = bs :=
  beNat_inj (length_beBytes _ _) (beNat_beBytes (beNat_lt bs))

/-- Dropping the high-order bytes of a wide encoding leaves the narrow one. -/
theorem drop_beBytes (n k v : Nat) : (beBytes (n + k) v).drop k = beBytes n v := by
  induction k with
  | zero => rfl
  | succ k ih => simpa [← Nat.add_assoc, beBytes] using ih

/-- The order in which a machine stores the bytes of a word. -/
inductive Endian where
  | little
  | big
  deriving DecidableEq, Repr

def neBytes (en : Endian) (n v : Nat) : List UInt8 :=
  match en with
  | .little => (beBytes n v).reverse
  | .big => beBytes n v

def neNat (en : Endian) (bs : List UInt8) : Nat :=
  match en with
  | .little => beNat bs.reverse
  | .big => beNat bs

@[simp] theorem length_neBytes (en : Endian) (n v : Nat) : (neBytes en n v).length = n := by
  cases en <;> simp [neBytes]

theorem neNat_neBytes (en : Endian) {n v : Nat} (h : v < 256 ^ n) :
    neNat en (neBytes en n v) = v := by
  cases en <;> simp [neNat, neBytes, beNat_beBytes h]

theorem neNat_lt (en : Endian) (bs : List UInt8) : neNat en bs < 256 ^ bs.length := by
  cases en with
  | little => simpa [neNat] using beNat_lt bs.reverse
  | big => exact beNat_lt bs

theorem neNat_take_lt (en : Endian) (n : Nat) (bs : List UInt8) : neNat en (bs.take n) < 256 ^ n := by
  have hlt := neNat_lt en (bs.take n)
  have hlen : (bs.take n).length ≤ n := by
    rw [List.length_take]
    omega
  exact Nat.lt_of_lt_of_le hlt (Nat.pow_le_pow_right (by decide) hlen)

end NatStream.Lib.Bytes
