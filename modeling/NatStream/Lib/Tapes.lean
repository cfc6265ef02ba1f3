import Mathlib.Data.List.Basic

namespace NatStream.Lib.Tapes

variable {ρ κ : Type} {cap : κ → Nat}

/-- Items with marks between them. -/
abbrev Tape (ρ : Type) := List (Option ρ)

def items (rs : List ρ) : Tape ρ := rs.map some

def marks (n : Nat) : Tape ρ := List.replicate n none

theorem items_append (rs rs' : List ρ) : items (rs ++ rs') = items rs ++ items rs' :=
  List.map_append

/-- A load ends at its bound or before a mark, whichever comes first. -/
def Stops (bound : Nat) (rs : List ρ) (rest : Tape ρ) : Prop :=
  rs.length = bound ∨ rs.length < bound ∧ ∃ rest', rest = none :: rest'

/-- The front of the tape is cut into loads, each of a kind that bounds it,
and the rest is still to be cut. No load is empty, and none crosses a mark. -/
inductive Cuts (cap : κ → Nat) (tape : Tape ρ) : List (κ × List ρ) → Tape ρ → Prop where
  | start : Cuts cap tape [] tape
  | next {loads : List (κ × List ρ)} {n : Nat} {kind : κ} {rs : List ρ} {rest : Tape ρ} :
      Cuts cap tape loads (marks n ++ (items rs ++ rest)) → rs ≠ [] → Stops (cap kind) rs rest →
      Cuts cap tape (loads ++ [(kind, rs)]) rest

theorem Stops.append {bound : Nat} {rs : List ρ} {rest : Tape ρ} (h : Stops bound rs rest)
    (more : Tape ρ) : Stops bound rs (rest ++ more) := by
  obtain hfull | ⟨hlt, rest', rfl⟩ := h
  · exact .inl hfull
  · exact .inr ⟨hlt, rest' ++ more, rfl⟩

/-- What was cut stays cut when the tape gets longer. -/
theorem Cuts.append {tape rest : Tape ρ} {loads : List (κ × List ρ)} (h : Cuts cap tape loads rest)
    (more : Tape ρ) : Cuts cap (tape ++ more) loads (rest ++ more) := by
  induction h with
  | start => exact .start
  | next hcuts hne hstops ih =>
    rw [List.append_assoc, List.append_assoc] at ih
    exact .next ih hne (hstops.append more)

theorem Stops.length_le {bound : Nat} {rs : List ρ} {rest : Tape ρ} (h : Stops bound rs rest) :
    rs.length ≤ bound := by
  obtain hfull | ⟨hlt, -⟩ := h
  · exact Nat.le_of_eq hfull
  · exact Nat.le_of_lt hlt

theorem Stops.tail {bound : Nat} {r : ρ} {rs : List ρ} {rest : Tape ρ}
    (h : Stops bound (r :: rs) rest) : Stops (bound - 1) rs rest := by
  rw [Stops, List.length_cons] at h
  obtain hfull | ⟨hlt, hmark⟩ := h
  · exact .inl (by omega)
  · exact .inr ⟨by omega, hmark⟩

theorem Stops.nil_not_item {bound : Nat} {r : ρ} {rs : List ρ} {rest : Tape ρ}
    (h : Stops bound [] (items (r :: rs) ++ rest)) : bound = 0 := by
  obtain hfull | ⟨-, rest', hrest⟩ := h
  · exact hfull.symm
  · cases hrest

theorem stops_unique {bound : Nat} {rs rs' : List ρ} {rest rest' : Tape ρ}
    (h : items rs ++ rest = items rs' ++ rest') (hs : Stops bound rs rest)
    (hs' : Stops bound rs' rest') : rs = rs' ∧ rest = rest' := by
  induction rs generalizing rs' bound with
  | nil =>
    cases rs' with
    | nil => exact ⟨rfl, h⟩
    | cons r rs' =>
      change rest = _ at h
      rw [h] at hs
      have hle := hs'.length_le
      rw [hs.nil_not_item] at hle
      exact absurd hle (Nat.not_succ_le_zero _)
  | cons r rs ih =>
    cases rs' with
    | nil =>
      change _ = rest' at h
      rw [← h] at hs'
      have hle := hs.length_le
      rw [hs'.nil_not_item] at hle
      exact absurd hle (Nat.not_succ_le_zero _)
    | cons r' rs' =>
      obtain ⟨hr, htail⟩ := List.cons.inj h
      obtain ⟨hrs, hrest⟩ := ih htail hs.tail hs'.tail
      exact ⟨by rw [Option.some.inj hr, hrs], hrest⟩

theorem marks_unique {n n' : Nat} {rs rs' : List ρ} {rest rest' : Tape ρ} (hne : rs ≠ [])
    (hne' : rs' ≠ []) (h : marks n ++ (items rs ++ rest) = marks n' ++ (items rs' ++ rest')) :
    items rs ++ rest = items rs' ++ rest' := by
  obtain ⟨r, rs, rfl⟩ := List.exists_cons_of_ne_nil hne
  obtain ⟨r', rs', rfl⟩ := List.exists_cons_of_ne_nil hne'
  induction n generalizing n' with
  | zero =>
    cases n' with
    | zero => exact h
    | succ n' => cases h
  | succ n ih =>
    cases n' with
    | zero => cases h
    | succ n' => exact ih (List.cons.inj h).2

/-- The tape and the kinds of the loads determine the loads. -/
theorem Cuts.unique {tape rest rest' : Tape ρ} {loads loads' : List (κ × List ρ)}
    (h : Cuts cap tape loads rest) (h' : Cuts cap tape loads' rest')
    (hkinds : loads.map Prod.fst = loads'.map Prod.fst) : loads = loads' ∧ rest = rest' := by
  induction h generalizing loads' rest' with
  | start =>
    obtain rfl : loads' = [] := List.map_eq_nil_iff.mp hkinds.symm
    generalize hnil : ([] : List (κ × List ρ)) = loads' at h'
    cases h' with
    | start => exact ⟨rfl, rfl⟩
    | next _ _ _ => exact absurd hnil.symm (List.append_ne_nil_of_right_ne_nil _ (List.cons_ne_nil _ _))
  | @next loads n kind rs rest hcuts hne hstops ih =>
    cases h' with
    | start => exact absurd hkinds (by simp)
    | @next loads₁ n₁ kind₁ rs₁ rest₁ hcuts₁ hne₁ hstops₁ =>
      rw [List.map_append, List.map_append] at hkinds
      obtain ⟨hbefore, hlast⟩ := List.append_inj' hkinds rfl
      obtain rfl : kind = kind₁ := List.singleton_inj.mp hlast
      obtain ⟨rfl, htape⟩ := ih hcuts₁ hbefore
      obtain ⟨rfl, rfl⟩ := stops_unique (marks_unique hne hne₁ htape) hstops hstops₁
      exact ⟨rfl, rfl⟩

/-- The tape has been cut into loads but for the items that still wait for
theirs to be closed. -/
def Packs (cap : κ → Nat) (tape : Tape ρ) (loads : List (κ × List ρ)) (waiting : List ρ) : Prop :=
  ∃ n, Cuts cap tape loads (marks n ++ items waiting)

theorem packs_nil : Packs cap ([] : Tape ρ) [] [] := ⟨0, .start⟩

theorem Packs.waiting_all {tape : Tape ρ} {waiting : List ρ} (h : Packs cap tape [] waiting) :
    tape.countP Option.isSome = waiting.length := by
  obtain ⟨n, hcuts⟩ := h
  generalize hl : ([] : List (κ × List ρ)) = loads at hcuts
  generalize hr : marks n ++ items waiting = rest at hcuts
  cases hcuts with
  | start =>
    rw [← hr, marks, items, List.countP_append, List.countP_replicate, List.countP_map]
    simp
  | next => simp at hl

theorem Packs.push {tape : Tape ρ} {loads : List (κ × List ρ)} {waiting : List ρ}
    (h : Packs cap tape loads waiting) (r : ρ) :
    Packs cap (tape ++ [some r]) loads (waiting ++ [r]) := by
  obtain ⟨n, hcuts⟩ := h
  have hmore := hcuts.append [some r]
  rw [List.append_assoc] at hmore
  refine ⟨n, ?_⟩
  rw [items_append]
  exact hmore

theorem Packs.close {tape : Tape ρ} {loads : List (κ × List ρ)} {waiting : List ρ} {kind : κ}
    (h : Packs cap tape loads waiting) (hne : waiting ≠ []) (hfull : waiting.length = cap kind) :
    Packs cap tape (loads ++ [(kind, waiting)]) [] := by
  obtain ⟨n, hcuts⟩ := h
  rw [← List.append_nil (items waiting)] at hcuts
  exact ⟨0, .next hcuts hne (.inl hfull)⟩

theorem Packs.closeMarked {tape : Tape ρ} {loads : List (κ × List ρ)} {waiting : List ρ} {kind : κ}
    (h : Packs cap tape loads waiting) (hne : waiting ≠ []) (hle : waiting.length ≤ cap kind) :
    Packs cap (tape ++ [none]) (loads ++ [(kind, waiting)]) [] := by
  obtain ⟨n, hcuts⟩ := h
  have hmore := hcuts.append [none]
  rw [List.append_assoc] at hmore
  have hstops : Stops (cap kind) waiting ([none] : Tape ρ) := by
    obtain hlt | heq := Nat.lt_or_eq_of_le hle
    · exact .inr ⟨hlt, [], rfl⟩
    · exact .inl heq
  exact ⟨1, .next hmore hne hstops⟩

theorem Packs.mark {tape : Tape ρ} {loads : List (κ × List ρ)} (h : Packs cap tape loads []) :
    Packs cap (tape ++ [none]) loads [] := by
  obtain ⟨n, hcuts⟩ := h
  have hmore := hcuts.append [none]
  refine ⟨n + 1, ?_⟩
  rw [marks, List.replicate_succ', List.append_assoc]
  rw [List.append_assoc] at hmore
  exact hmore

theorem Packs.unique {tape : Tape ρ} {loads loads' : List (κ × List ρ)} {waiting waiting' : List ρ}
    (h : Packs cap tape loads waiting) (h' : Packs cap tape loads' waiting')
    (hkinds : loads.map Prod.fst = loads'.map Prod.fst) : loads = loads' ∧ waiting = waiting' := by
  obtain ⟨n, hcuts⟩ := h
  obtain ⟨n', hcuts'⟩ := h'
  obtain ⟨hloads, hrest⟩ := hcuts.unique hcuts' hkinds
  have hitems := congrArg (List.filterMap id) hrest
  exact ⟨hloads, by simpa [marks, items] using hitems⟩

end NatStream.Lib.Tapes
