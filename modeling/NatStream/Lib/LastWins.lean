import Mathlib.Data.List.Basic

namespace NatStream.Lib.LastWins

variable {α β γ σ : Type}

/-- The last value that a list offers. -/
def lastOf (pick : α → Option β) (l : List α) : Option β := (l.filterMap pick).getLast?

@[simp] theorem lastOf_nil (pick : α → Option β) : lastOf pick [] = none := rfl

@[simp] theorem lastOf_cons (pick : α → Option β) (a : α) (l : List α) :
    lastOf pick (a :: l) = (lastOf pick l).or (pick a) := by
  cases h : pick a with
  | none => simp [lastOf, h]
  | some b =>
    rw [lastOf, List.filterMap_cons_some h, List.getLast?_cons, lastOf]
    cases (l.filterMap pick).getLast? <;> rfl

/-- The last of all values is the last one of the last group that has any. -/
theorem getLast?_flatMap (g : α → List β) (l : List α) :
    (l.flatMap g).getLast? = lastOf (fun a => (g a).getLast?) l := by
  induction l with
  | nil => rfl
  | cons a l ih => rw [List.flatMap_cons, List.getLast?_append, lastOf_cons, ih]

/-- Order and bystanders do not matter when at most one item offers a value. -/
theorem lastOf_of_perm {pick : α → Option β} {p : α → Bool} {l r : List α} {o : Option β}
    (h : (l.filter p).Perm r) (hp : ∀ a, p a = false → pick a = none)
    (hr : r.filterMap pick = o.toList) : lastOf pick l = o := by
  have hfilter : (l.filter p).filterMap pick = l.filterMap pick := by
    rw [List.filterMap_filter]
    apply congrArg (fun f => l.filterMap f)
    funext a
    cases ha : p a with
    | false => simp [hp a ha]
    | true => simp
  have hperm := h.filterMap pick
  rw [hfilter, hr] at hperm
  cases o with
  | none => rw [lastOf, List.perm_nil.mp hperm]; rfl
  | some b => rw [lastOf, List.perm_singleton.mp hperm]; rfl

/-- The last value a list offers, read, over a value that is there already. -/
def overlaid (pick : α → Option β) (read : β → γ) (l : List α) (old : γ) : γ :=
  ((lastOf pick l).map read).getD old

@[simp] theorem overlaid_nil (pick : α → Option β) (read : β → γ) (old : γ) :
    overlaid pick read [] old = old := rfl

@[simp] theorem overlaid_cons (pick : α → Option β) (read : β → γ) (a : α) (l : List α) (old : γ) :
    overlaid pick read (a :: l) old = overlaid pick read l (((pick a).map read).getD old) := by
  rw [overlaid, lastOf_cons, overlaid]
  cases lastOf pick l <;> rfl

/-- A fold in which each item overlays the state is the overlay of the whole list. -/
theorem foldlM_overlay {visit : σ → α → Option σ} {overlay : List α → σ → σ}
    (hnil : ∀ s, overlay [] s = s)
    (hcons : ∀ a l s, ∃ s', visit s a = some s' ∧ overlay (a :: l) s = overlay l s')
    (l : List α) (s : σ) : l.foldlM visit s = some (overlay l s) := by
  induction l generalizing s with
  | nil => rw [List.foldlM_nil, hnil]; rfl
  | cons a l ih =>
    obtain ⟨s', hv, ho⟩ := hcons a l s
    rw [List.foldlM_cons, hv, ho]
    exact ih s'

/-- Filtering by a property the last element has does not change the last element. -/
theorem getLast?_filter {p : α → Bool} {l : List α} (h : ∀ a ∈ l.getLast?, p a) :
    (l.filter p).getLast? = l.getLast? := by
  obtain rfl | ⟨l', a, rfl⟩ := List.eq_nil_or_concat l
  · rfl
  · have ha : p a := h a (by simp)
    simp [List.filter_append, ha]

theorem flatMap_set_of_eq {f : α → List β} {l : List α} {i : Nat} {a b : α}
    (hi : l[i]? = some a) (hf : f b = f a) : (l.set i b).flatMap f = l.flatMap f := by
  rw [List.flatMap_def, List.flatMap_def, List.map_set, hf]
  apply congrArg List.flatten
  apply List.ext_getElem?
  intro j
  rw [List.getElem?_set]
  split
  · next h =>
    subst h
    obtain ⟨hlt, hget⟩ := List.getElem?_eq_some_iff.mp hi
    simp [hlt, hget]
  · rfl

end NatStream.Lib.LastWins
