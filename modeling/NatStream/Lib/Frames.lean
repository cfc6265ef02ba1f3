import Mathlib.Data.List.Basic

namespace NatStream.Lib.Frames

variable {α σ : Type}

/-- Round up to a multiple of `k`, by clearing the remainder of `n + k - 1`. -/
def roundUp (k n : Nat) : Nat := n + k - 1 - (n + k - 1) % k

theorem le_roundUp {k : Nat} (hk : 0 < k) (n : Nat) : n ≤ roundUp k n := by
  have h := Nat.mod_lt (n + k - 1) hk
  rw [roundUp]
  omega

theorem dvd_roundUp (k n : Nat) : k ∣ roundUp k n := Nat.dvd_sub_mod _

theorem roundUp_add {k o : Nat} (hk : 0 < k) (ho : k ∣ o) (n : Nat) :
    roundUp k (o + n) = o + roundUp k n := by
  obtain ⟨m, rfl⟩ := ho
  have hsum : k * m + n + k - 1 = n + k - 1 + k * m := by omega
  have hle := Nat.mod_le (n + k - 1) k
  rw [roundUp, roundUp, hsum, Nat.add_mul_mod_self_left]
  omega

/-- How a byte string is cut into frames: each starts with a header that
holds the length of the frame, and the next one starts at the alignment. -/
structure Format where
  headerLen : Nat
  minLen : Nat
  alignment : Nat
  lengthOf : List UInt8 → Nat
  headerLen_le : headerLen ≤ minLen
  minLen_pos : 0 < minLen
  alignment_pos : 0 < alignment

/-- The frame at the front and what follows it. There is none when the header
is incomplete or its length is too small or reaches past the end. -/
def cut (fmt : Format) (data : List UInt8) : Option (List UInt8 × List UInt8) :=
  if fmt.headerLen ≤ data.length then
    let length := fmt.lengthOf (data.take fmt.headerLen)
    if length < fmt.minLen ∨ data.length < length then none
    else some (data.take length, data.drop (roundUp fmt.alignment length))
  else none

theorem cut_eq_some {fmt : Format} {data frame rest : List UInt8} (h : cut fmt data = some (frame, rest)) :
    fmt.minLen ≤ frame.length ∧ frame.length ≤ data.length ∧
      fmt.lengthOf (data.take fmt.headerLen) = frame.length ∧ frame = data.take frame.length ∧
      rest = data.drop (roundUp fmt.alignment frame.length) := by
  by_cases hh : fmt.headerLen ≤ data.length
  · by_cases hl : fmt.lengthOf (data.take fmt.headerLen) < fmt.minLen ∨
        data.length < fmt.lengthOf (data.take fmt.headerLen)
    · simp only [cut, if_pos hh, if_pos hl] at h
      cases h
    · simp only [cut, if_pos hh, if_neg hl, Option.some.injEq, Prod.mk.injEq] at h
      obtain ⟨rfl, rfl⟩ := h
      have hlen : (data.take (fmt.lengthOf (data.take fmt.headerLen))).length =
          fmt.lengthOf (data.take fmt.headerLen) := by
        rw [List.length_take]
        omega
      rw [hlen]
      exact ⟨by omega, by omega, rfl, rfl, rfl⟩
  · rw [cut, if_neg hh] at h
    cases h

theorem cut_of_length {fmt : Format} {data : List UInt8} (length : Nat)
    (hl : fmt.lengthOf (data.take fmt.headerLen) = length) (hmin : fmt.minLen ≤ length)
    (hle : length ≤ data.length) :
    cut fmt data = some (data.take length, data.drop (roundUp fmt.alignment length)) := by
  have hh := fmt.headerLen_le
  rw [cut, if_pos (by omega)]
  simp only [hl]
  rw [if_neg (by omega)]

theorem cut_shrinks {fmt : Format} {data frame rest : List UInt8}
    (h : cut fmt data = some (frame, rest)) : rest.length < data.length := by
  obtain ⟨hmin, hle, -, -, rfl⟩ := cut_eq_some h
  have hpos := fmt.minLen_pos
  have hr := le_roundUp fmt.alignment_pos frame.length
  rw [List.length_drop]
  omega

/-- All frames, up to the first place where none starts. -/
def frames (fmt : Format) (data : List UInt8) : List (List UInt8) :=
  match _h : cut fmt data with
  | none => []
  | some (frame, rest) => frame :: frames fmt rest
termination_by data.length
decreasing_by exact cut_shrinks _h

theorem frames_of_none {fmt : Format} {data : List UInt8} (h : cut fmt data = none) :
    frames fmt data = [] := by
  rw [frames]
  split
  · rfl
  · next heq => simp [h] at heq

theorem frames_of_some {fmt : Format} {data frame rest : List UInt8}
    (h : cut fmt data = some (frame, rest)) : frames fmt data = frame :: frames fmt rest := by
  rw [frames]
  split
  · next heq => simp [h] at heq
  · next heq =>
    rw [h] at heq
    cases heq
    rfl

theorem frames_nil (fmt : Format) : frames fmt [] = [] := by
  apply frames_of_none
  cases hc : cut fmt [] with
  | none => rfl
  | some p => simpa using cut_shrinks hc

theorem minLen_le_of_mem {fmt : Format} {data frame : List UInt8} (h : frame ∈ frames fmt data) :
    fmt.minLen ≤ frame.length := by
  cases hc : cut fmt data with
  | none => simp [frames_of_none hc] at h
  | some p =>
    obtain ⟨first, rest⟩ := p
    have hlt := cut_shrinks hc
    rw [frames_of_some hc] at h
    obtain h | h := List.mem_cons.mp h
    · subst h
      exact (cut_eq_some hc).1
    · exact minLen_le_of_mem h
termination_by data.length

/-- A frame whose header holds its own length. -/
structure WellFramed (fmt : Format) (frame : List UInt8) : Prop where
  minLen_le : fmt.minLen ≤ frame.length
  lengthOf_eq : fmt.lengthOf (frame.take fmt.headerLen) = frame.length

theorem cut_append {fmt : Format} {frame pad : List UInt8} (h : WellFramed fmt frame)
    (hp : frame.length + pad.length = roundUp fmt.alignment frame.length) (rest : List UInt8) :
    cut fmt (frame ++ pad ++ rest) = some (frame, rest) := by
  have hh := fmt.headerLen_le
  have hm := h.minLen_le
  have htake : (frame ++ pad ++ rest).take fmt.headerLen = frame.take fmt.headerLen := by
    rw [List.append_assoc, List.take_append_of_le_length (by omega)]
  rw [cut_of_length _ (by rw [htake, h.lengthOf_eq]) hm (by simp only [List.length_append]; omega),
    List.append_assoc, List.take_left' rfl, ← List.append_assoc,
    List.drop_left' (by rw [List.length_append]; omega)]

theorem frames_append {fmt : Format} {frame pad : List UInt8} (h : WellFramed fmt frame)
    (hp : frame.length + pad.length = roundUp fmt.alignment frame.length) (rest : List UInt8) :
    frames fmt (frame ++ pad ++ rest) = frame :: frames fmt rest :=
  frames_of_some (cut_append h hp rest)

/-- Put another frame where the `i`-th one stands. -/
def replaceFrame (fmt : Format) : Nat → List UInt8 → List UInt8 → List UInt8
  | 0, frame, data => frame ++ data.drop frame.length
  | i + 1, frame, data =>
    match cut fmt data with
    | none => data
    | some (first, rest) =>
      data.take (roundUp fmt.alignment first.length) ++ replaceFrame fmt i frame rest

theorem cut_replace_head {fmt : Format} {data frame frame' rest : List UInt8}
    (h : cut fmt data = some (frame, rest)) (hl : frame'.length = frame.length)
    (hh : frame'.take fmt.headerLen = frame.take fmt.headerLen) :
    cut fmt (frame' ++ data.drop frame'.length) = some (frame', rest) := by
  obtain ⟨hmin, hle, hlen, hframe, hrest⟩ := cut_eq_some h
  have hhead := fmt.headerLen_le
  have hup := le_roundUp fmt.alignment_pos frame.length
  have htake : (frame' ++ data.drop frame'.length).take fmt.headerLen =
      data.take fmt.headerLen := by
    rw [List.take_append_of_le_length (by omega), hh, hframe, List.take_take,
      Nat.min_eq_left (by omega)]
  have hsplit : roundUp fmt.alignment frame.length =
      frame'.length + (roundUp fmt.alignment frame.length - frame'.length) := by omega
  have hdrop : (frame' ++ data.drop frame'.length).drop (roundUp fmt.alignment frame.length) =
      rest := by
    rw [hsplit, ← List.drop_drop, List.drop_left' rfl, List.drop_drop, ← hsplit, ← hrest]
  rw [cut_of_length frame.length (by rw [htake, hlen]) hmin
    (by simp only [List.length_append, List.length_drop]; omega), hdrop, List.take_left' hl]

/-- Replacing a frame by one with the same header leaves the others alone. -/
theorem frames_replaceFrame {fmt : Format} {data frame frame' : List UInt8} {i : Nat}
    (hi : (frames fmt data)[i]? = some frame) (hl : frame'.length = frame.length)
    (hh : frame'.take fmt.headerLen = frame.take fmt.headerLen) :
    frames fmt (replaceFrame fmt i frame' data) = (frames fmt data).set i frame' := by
  induction i generalizing data with
  | zero =>
    cases hc : cut fmt data with
    | none => simp [frames_of_none hc] at hi
    | some p =>
      obtain ⟨first, rest⟩ := p
      rw [frames_of_some hc, List.getElem?_cons_zero, Option.some.injEq] at hi
      subst hi
      rw [frames_of_some hc, List.set_cons_zero, replaceFrame]
      exact frames_of_some (cut_replace_head hc hl hh)
  | succ i ih =>
    cases hc : cut fmt data with
    | none => simp [frames_of_none hc] at hi
    | some p =>
      obtain ⟨first, rest⟩ := p
      rw [frames_of_some hc, List.getElem?_cons_succ] at hi
      have hset := ih hi
      obtain ⟨hmin, hle, hlen, hfirst, hrest⟩ := cut_eq_some hc
      have hup := le_roundUp fmt.alignment_pos first.length
      have hhead := fmt.headerLen_le
      have hlong : roundUp fmt.alignment first.length ≤ data.length := by
        by_contra hshort
        have hempty : rest = [] := by
          rw [hrest]
          exact List.drop_of_length_le (by omega)
        simp [hempty, frames_nil] at hi
      have hr : (data.take (roundUp fmt.alignment first.length)).length =
          roundUp fmt.alignment first.length := by
        rw [List.length_take]
        omega
      have hcut : cut fmt (data.take (roundUp fmt.alignment first.length) ++
          replaceFrame fmt i frame' rest) = some (first, replaceFrame fmt i frame' rest) := by
        rw [cut_of_length first.length, List.drop_left' hr,
          List.take_append_of_le_length (by omega), List.take_take, Nat.min_eq_left hup, ← hfirst]
        · rw [List.take_append_of_le_length (by omega), List.take_take, Nat.min_eq_left (by omega),
            hlen]
        · exact hmin
        · rw [List.length_append]
          omega
      rw [frames_of_some hc, List.set_cons_succ, replaceFrame, hc]
      change frames fmt (data.take (roundUp fmt.alignment first.length) ++
        replaceFrame fmt i frame' rest) = _
      rw [frames_of_some hcut, hset]

theorem length_replaceFrame {fmt : Format} {data frame frame' : List UInt8} {i : Nat}
    (hi : (frames fmt data)[i]? = some frame) (hl : frame'.length = frame.length) :
    (replaceFrame fmt i frame' data).length = data.length := by
  induction i generalizing data with
  | zero =>
    cases hc : cut fmt data with
    | none => simp [frames_of_none hc] at hi
    | some p =>
      obtain ⟨first, rest⟩ := p
      obtain ⟨-, hle, -, -, -⟩ := cut_eq_some hc
      rw [frames_of_some hc, List.getElem?_cons_zero, Option.some.injEq] at hi
      subst hi
      rw [replaceFrame, List.length_append, List.length_drop]
      omega
  | succ i ih =>
    cases hc : cut fmt data with
    | none => simp [frames_of_none hc] at hi
    | some p =>
      obtain ⟨first, rest⟩ := p
      obtain ⟨-, -, -, -, hrest⟩ := cut_eq_some hc
      rw [frames_of_some hc, List.getElem?_cons_succ] at hi
      rw [replaceFrame, hc]
      change (data.take (roundUp fmt.alignment first.length) ++
        replaceFrame fmt i frame' rest).length = _
      rw [List.length_append, ih hi, hrest, ← List.length_append, List.take_append_drop]

/-- A loop over positions that either fails, stops, or yields an item and a
later position to go on from. -/
structure Walker (α : Type) where
  limit : Nat
  next : Nat → Option (Option (α × Nat))
  forward : ∀ {o : Nat} {a : α} {o' : Nat}, next o = some (some (a, o')) → o < o' ∧ o < limit

/-- Run the loop, threading a state through the items. -/
def scan (w : Walker α) (visit : σ → α → Option σ) (offset : Nat) (s : σ) : Option σ :=
  match _h : w.next offset with
  | none => none
  | some none => some s
  | some (some (a, offset')) => (visit s a).bind (fun s => scan w visit offset' s)
termination_by w.limit - offset
decreasing_by
  have hf := w.forward _h
  omega

/-- At aligned positions the walker does what cutting the next frame does. -/
def Follows (w : Walker α) (fmt : Format) (view : List UInt8 → α) (data : List UInt8) : Prop :=
  ∀ o, fmt.alignment ∣ o → w.next o = some ((cut fmt (data.drop o)).map
    (fun p => (view p.1, roundUp fmt.alignment (o + p.1.length))))

/-- The loop over positions is a fold over the frames. -/
theorem scan_eq_foldlM {w : Walker α} {fmt : Format} {view : List UInt8 → α} {data : List UInt8}
    (hw : Follows w fmt view data) (visit : σ → α → Option σ) (s : σ) {o : Nat}
    (ho : fmt.alignment ∣ o) :
    scan w visit o s = ((frames fmt (data.drop o)).map view).foldlM visit s := by
  have hnext := hw o ho
  cases hc : cut fmt (data.drop o) with
  | none =>
    rw [hc, Option.map_none] at hnext
    rw [frames_of_none hc, scan]
    split
    · next h => simp [hnext] at h
    · rfl
    · next h => simp [hnext] at h
  | some p =>
    obtain ⟨frame, rest⟩ := p
    obtain ⟨-, -, -, -, hrest⟩ := cut_eq_some hc
    rw [hc, Option.map_some] at hnext
    have hfwd := w.forward hnext
    have hdrop : data.drop (roundUp fmt.alignment (o + frame.length)) = rest := by
      rw [hrest, List.drop_drop, roundUp_add fmt.alignment_pos ho]
    rw [frames_of_some hc, scan]
    split
    · next h => simp [hnext] at h
    · next h => simp [hnext] at h
    · next a o' h =>
      rw [hnext] at h
      simp only [Option.some.injEq, Prod.mk.injEq] at h
      obtain ⟨rfl, rfl⟩ := h
      rw [List.map_cons, List.foldlM_cons]
      apply congrArg ((visit s (view frame)).bind)
      funext s'
      rw [scan_eq_foldlM hw visit s' (dvd_roundUp _ _), hdrop]
termination_by w.limit - o
decreasing_by
  simp only at hfwd
  omega

end NatStream.Lib.Frames
