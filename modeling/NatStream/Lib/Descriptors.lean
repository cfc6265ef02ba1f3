import Mathlib.Data.List.Basic
import Mathlib.Logic.Function.Basic

namespace NatStream.Lib.Descriptors

variable {α : Type}

/-- The numbers a process has something open at. All numbers past the end of
the list are free. -/
abbrev Table (α : Type) := List (Option α)

def file (t : Table α) (fd : Nat) : Option α := t[fd]?.getD none

def assign (t : Table α) (fd : Nat) (v : Option α) : Table α :=
  (List.range (max t.length (fd + 1))).map fun n => if n = fd then v else file t n

/-- The number that the next open call returns. -/
def lowest (t : Table α) : Nat := t.findIdx Option.isNone

theorem file_assign (t : Table α) (fd : Nat) (v : Option α) :
    file (assign t fd v) = Function.update (file t) fd v := by
  funext n
  by_cases hn : n = fd
  · subst hn
    have hlt : n < max t.length (n + 1) := by omega
    simp [file, assign, hlt]
  · rw [Function.update_of_ne hn]
    by_cases hlt : n < max t.length (fd + 1)
    · simp [file, assign, hn, hlt]
    · have hlen : t.length ≤ n := by omega
      simp [file, assign, hlt, hlen]

theorem file_lowest (t : Table α) : file t (lowest t) = none := by
  rw [lowest]
  by_cases h : t.findIdx Option.isNone < t.length
  · have hnone := List.findIdx_getElem (w := h)
    simpa [file, h] using hnone
  · rw [file, List.getElem?_eq_none (Nat.not_lt.mp h)]
    rfl

theorem isSome_of_lt_lowest {t : Table α} {n : Nat} (h : n < lowest t) : (file t n).isSome := by
  have hlen : n < t.length := Nat.lt_of_lt_of_le h List.findIdx_le_length
  have hsome := List.not_of_lt_findIdx h
  simpa [file, hlen] using hsome

end NatStream.Lib.Descriptors
