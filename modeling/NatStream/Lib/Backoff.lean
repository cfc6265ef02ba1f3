import Mathlib.Algebra.Order.Group.Nat
import Mathlib.Algebra.Order.Group.Int

namespace NatStream.Lib.Backoff

/-- Exponential backoff: the first delay, the ceiling, and the time after which
a failed attempt starts the delays afresh. Delays that reach the ceiling do so
only after attempts that spread over this time. -/
structure Policy where
  base : Nat
  cap : Nat
  window : Nat
  base_le : base ≤ cap
  spans : ∀ m, cap < 2 ^ m * base → window ≤ (2 ^ m - 1) * base

variable {p : Policy}

/-- An attempt, with the clock reading that was taken for it beforehand. -/
structure Attempt where
  noted : Int
  made : Int
  noted_le : noted ≤ made

/-- The next attempt comes no earlier than the delay asks for, which is the one
that is due or, if the window has passed, the first again. -/
structure Waits (p : Policy) (due : Nat) (a : Attempt) (t : Int) (wait : Nat) : Prop where
  apart : a.made + (wait : Int) ≤ t
  which : wait = due ∨ (a.noted + (p.window : Int) ≤ t ∧ wait = p.base)

theorem Waits.mono {due wait : Nat} {a : Attempt} {t t' : Int} (h : Waits p due a t wait)
    (hle : t ≤ t') : Waits p due a t' wait := by
  refine ⟨h.apart.trans hle, ?_⟩
  obtain hd | ⟨hw, hb⟩ := h.which
  · exact Or.inl hd
  · exact Or.inr ⟨hw.trans hle, hb⟩

/-- Attempts, the latest first, and the delay that is due after the latest. -/
inductive Paced (p : Policy) : List Attempt → Nat → Prop where
  | first (a : Attempt) : Paced p [a] p.base
  | again {a a' : Attempt} {as : List Attempt} {due wait : Nat} : Paced p (a :: as) due →
      Waits p due a a'.noted wait → Paced p (a' :: a :: as) (min (wait * 2) p.cap)

theorem Waits.le_cap {due wait : Nat} {a : Attempt} {t : Int} (h : Waits p due a t wait)
    (hd : due ≤ p.cap) : wait ≤ p.cap := by
  obtain rfl | ⟨-, rfl⟩ := h.which
  · exact hd
  · exact p.base_le

theorem Waits.base_le {due wait : Nat} {a : Attempt} {t : Int} (h : Waits p due a t wait)
    (hd : p.base ≤ due) : p.base ≤ wait := by
  obtain rfl | ⟨-, rfl⟩ := h.which
  · exact hd
  · exact Nat.le_refl _

theorem Paced.bounds {as : List Attempt} {due : Nat} (h : Paced p as due) :
    p.base ≤ due ∧ due ≤ p.cap := by
  induction h with
  | first a => exact ⟨Nat.le_refl _, p.base_le⟩
  | again _ hw ih =>
    have hb := hw.base_le ih.1
    have hc := p.base_le
    exact ⟨by omega, Nat.min_le_right _ _⟩

theorem Paced.earlier {a₀ a : Attempt} {as : List Attempt} {due m : Nat}
    (h : Paced p (a₀ :: as) due) (hm : as[m]? = some a) : a.made ≤ a₀.noted := by
  generalize hall : a₀ :: as = all at h
  induction h generalizing a₀ as m with
  | first a' =>
    cases hall
    cases hm
  | @again a₁ a' as' due wait hp hw ih =>
    cases hall
    have hnonneg : (0 : Int) ≤ wait := Int.natCast_nonneg wait
    have hapart := hw.apart
    have hnoted := a₁.noted_le
    cases m with
    | zero =>
      cases hm
      omega
    | succ m =>
      have hearlier := ih (List.getElem?_cons_succ ▸ hm) rfl
      omega

/-- A doubled delay stays under the ceiling, or the window has passed. -/
theorem Policy.doubled {m wait : Nat} {t t' : Int}
    (hspread : t + (((2 ^ m - 1) * p.base : Nat) : Int) ≤ t') (hwait : 2 ^ m * p.base ≤ wait * 2) :
    t + (p.window : Int) ≤ t' ∨
      (t + (((2 ^ m - 1) * p.base : Nat) : Int) ≤ t' ∧ 2 ^ m * p.base ≤ min (wait * 2) p.cap) := by
  by_cases hcap : p.cap < 2 ^ m * p.base
  · have hspans := p.spans m hcap
    exact Or.inl (by omega)
  · exact Or.inr ⟨hspread, Nat.le_min.mpr ⟨hwait, Nat.not_lt.mp hcap⟩⟩

/-- An earlier attempt lies a whole window back, or the delays between have
doubled each time and the next is due to double again. -/
theorem Paced.spread {a₀ a : Attempt} {as : List Attempt} {due : Nat} (h : Paced p (a₀ :: as) due)
    {m : Nat} (hm : (a₀ :: as)[m]? = some a) :
    a.made + (p.window : Int) ≤ a₀.made ∨
      (a.made + (((2 ^ m - 1) * p.base : Nat) : Int) ≤ a₀.made ∧ 2 ^ m * p.base ≤ due) := by
  generalize hall : a₀ :: as = all at h hm
  induction h generalizing a₀ as m with
  | first a' =>
    cases m with
    | zero =>
      cases hall
      cases hm
      exact Or.inr (by simp)
    | succ m => cases hm
  | @again a₁ a' as' due wait hp hw ih =>
    cases hall
    cases m with
    | zero =>
      cases hm
      have hb := hw.base_le hp.bounds.1
      have hc := p.base_le
      refine Or.inr ⟨by simp, ?_⟩
      rw [Nat.pow_zero, Nat.one_mul]
      omega
    | succ m =>
      rw [List.getElem?_cons_succ] at hm
      have hnonneg : (0 : Int) ≤ wait := Int.natCast_nonneg wait
      have hnoted := a'.noted_le
      have hapart := hw.apart
      have hsub := Nat.sub_one_mul (2 ^ m) p.base
      have hsub' := Nat.sub_one_mul (2 ^ (m + 1)) p.base
      have hpow : 2 ^ (m + 1) * p.base = 2 ^ m * p.base + 2 ^ m * p.base := by
        rw [Nat.pow_succ, Nat.mul_two, Nat.add_mul]
      have hbase : p.base ≤ 2 ^ m * p.base := Nat.le_mul_of_pos_left _ (Nat.two_pow_pos m)
      obtain hfar | ⟨hnear, hdue⟩ := ih rfl hm
      · exact Or.inl (by omega)
      · obtain rfl | ⟨hwindow, hfirst⟩ := hw.which
        · exact Policy.doubled (by omega) (by omega)
        · cases m with
          | zero =>
            -- The delays begin again right after the attempt itself.
            cases hm
            exact Policy.doubled (by omega) (by omega)
          | succ m =>
            have hearlier := hp.earlier (m := m) hm
            exact Or.inl (by omega)

theorem Paced.drop {as : List Attempt} {due : Nat} (h : Paced p as due) {i : Nat} {a : Attempt}
    (hi : as[i]? = some a) : ∃ rest due', Paced p (a :: rest) due' ∧ as.drop i = a :: rest := by
  induction h generalizing i with
  | first a' =>
    cases i with
    | zero =>
      cases hi
      exact ⟨[], p.base, .first _, rfl⟩
    | succ i => cases hi
  | @again a₁ a' as' due wait hp hw ih =>
    cases i with
    | zero =>
      cases hi
      exact ⟨_, _, hp.again hw, rfl⟩
    | succ i => exact ih hi

/-- From any attempt to the one `m` attempts later at least so much time
passes. -/
theorem Paced.apart {as : List Attempt} {due : Nat} (h : Paced p as due) {i m : Nat}
    {a a' : Attempt} (hi : as[i]? = some a') (hm : as[i + m]? = some a) :
    a.made + ((min ((2 ^ m - 1) * p.base) p.window : Nat) : Int) ≤ a'.made := by
  obtain ⟨rest, due', hp, hdrop⟩ := h.drop hi
  rw [← List.getElem?_drop, hdrop] at hm
  obtain hfar | ⟨hnear, -⟩ := hp.spread hm <;> omega

end NatStream.Lib.Backoff
