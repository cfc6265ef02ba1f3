import Mathlib.Data.List.Basic

namespace NatStream.Lib.Slice

variable {α : Type}

/-- Checked indexing of a byte string. A result `none` stands for the panic
that an out-of-range index or slice raises. -/
def sliceFrom (data : List α) (lo : Nat) : Option (List α) :=
  if lo ≤ data.length then some (data.drop lo) else none

def slice (data : List α) (lo hi : Nat) : Option (List α) :=
  if lo ≤ hi ∧ hi ≤ data.length then some ((data.take hi).drop lo) else none

def check (p : Bool) : Option Unit := if p then some () else none

@[simp] theorem check_true : check true = some () := rfl

theorem sliceFrom_of_le {data : List α} {lo : Nat} (h : lo ≤ data.length) :
    sliceFrom data lo = some (data.drop lo) := if_pos h

theorem slice_of_le {data : List α} {lo hi : Nat} (hl : lo ≤ hi) (hh : hi ≤ data.length) :
    slice data lo hi = some ((data.take hi).drop lo) := if_pos ⟨hl, hh⟩

end NatStream.Lib.Slice
