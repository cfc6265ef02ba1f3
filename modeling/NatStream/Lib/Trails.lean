import NatStream.Lib.Frames

namespace NatStream.Lib.Trails

open NatStream.Lib.Frames

variable {α : Type}

/-- The positions a loop stops at to yield an item, with the items. -/
def trail (w : Walker α) (o : Nat) : List (Nat × α) :=
  match _h : w.next o with
  | none => []
  | some none => []
  | some (some (a, o')) => (o, a) :: trail w o'
termination_by w.limit - o
decreasing_by
  have hf := w.forward _h
  omega

theorem trail_of_stop {w : Walker α} {o : Nat} (h : w.next o = some none) : trail w o = [] := by
  rw [trail]
  split
  · rfl
  · rfl
  · next heq => simp [h] at heq

theorem trail_of_step {w : Walker α} {o o' : Nat} {a : α} (h : w.next o = some (some (a, o'))) :
    trail w o = (o, a) :: trail w o' := by
  rw [trail]
  split
  · next heq => simp [h] at heq
  · next heq => simp [h] at heq
  · next heq =>
    rw [h] at heq
    cases heq
    rfl

theorem le_of_mem_trail {w : Walker α} {o : Nat} {p : Nat × α} (h : p ∈ trail w o) : o ≤ p.1 := by
  match hn : w.next o with
  | none =>
    rw [trail] at h
    split at h
    · cases h
    · cases h
    · next heq => simp [hn] at heq
  | some none =>
    rw [trail_of_stop hn] at h
    cases h
  | some (some (a, o')) =>
    have hf := w.forward hn
    rw [trail_of_step hn] at h
    obtain rfl | h := List.mem_cons.mp h
    · exact Nat.le_refl _
    · have hle := le_of_mem_trail h
      omega
termination_by w.limit - o

section Truncation

variable {fmt : Format} {data frame rest : List UInt8} {k : Nat}

theorem header_take (hk : fmt.headerLen ≤ (data.take k).length) :
    (data.take k).take fmt.headerLen = data.take fmt.headerLen := by
  rw [List.length_take] at hk
  rw [List.take_take, Nat.min_eq_left (by omega)]

theorem cut_take_of_none (hc : cut fmt data = none) : cut fmt (data.take k) = none := by
  cases hk : cut fmt (data.take k) with
  | none => rfl
  | some p =>
    obtain ⟨frame, rest⟩ := p
    obtain ⟨hmin, hle, hlen, -, -⟩ := cut_eq_some hk
    have hhead := fmt.headerLen_le
    have hshort := List.length_take_le' k data
    rw [header_take (by omega)] at hlen
    rw [cut_of_length frame.length hlen hmin (by omega)] at hc
    cases hc

theorem cut_take_of_lt (hc : cut fmt data = some (frame, rest)) (hk : k < frame.length) :
    cut fmt (data.take k) = none := by
  obtain ⟨-, -, hlen, -, -⟩ := cut_eq_some hc
  have hshort := List.length_take_le k data
  by_cases hh : fmt.headerLen ≤ (data.take k).length
  · rw [cut, if_pos hh]
    simp only [header_take hh, hlen]
    exact if_pos (Or.inr (by omega))
  · rw [cut, if_neg hh]

theorem cut_take_of_le (hc : cut fmt data = some (frame, rest)) (hk : frame.length ≤ k) :
    cut fmt (data.take k) = some (frame, rest.take (k - roundUp fmt.alignment frame.length)) := by
  obtain ⟨hmin, hle, hlen, hframe, hrest⟩ := cut_eq_some hc
  have hhead := fmt.headerLen_le
  have hlong : frame.length ≤ (data.take k).length := by
    rw [List.length_take]
    omega
  rw [cut_of_length frame.length (by rw [header_take (by omega), hlen]) hmin hlong,
    List.take_take, Nat.min_eq_left hk, ← hframe, List.drop_take, hrest]

end Truncation

section Follows

variable {w : Walker α} {fmt : Format} {view : List UInt8 → α} {data : List UInt8}

theorem next_of_none (hw : Follows w fmt view data) {o : Nat} (ho : fmt.alignment ∣ o)
    (hc : cut fmt (data.drop o) = none) : w.next o = some none := by
  rw [hw o ho, hc, Option.map_none]

theorem next_of_some (hw : Follows w fmt view data) {o : Nat} (ho : fmt.alignment ∣ o)
    {frame rest : List UInt8} (hc : cut fmt (data.drop o) = some (frame, rest)) :
    w.next o = some (some (view frame, roundUp fmt.alignment (o + frame.length))) := by
  rw [hw o ho, hc, Option.map_some]

/-- To prove something of every aligned position, prove it where no frame
starts and carry it back over a frame. -/
theorem position_induction (hw : Follows w fmt view data) {P : ∀ o, fmt.alignment ∣ o → Prop}
    (stop : ∀ o ho, cut fmt (data.drop o) = none → P o ho)
    (step : ∀ o ho frame rest, cut fmt (data.drop o) = some (frame, rest) →
      data.drop (roundUp fmt.alignment (o + frame.length)) = rest →
      P (roundUp fmt.alignment (o + frame.length)) (dvd_roundUp _ _) → P o ho)
    (o : Nat) (ho : fmt.alignment ∣ o) : P o ho := by
  cases hc : cut fmt (data.drop o) with
  | none => exact stop o ho hc
  | some p =>
    obtain ⟨frame, rest⟩ := p
    obtain ⟨-, -, -, -, hrest⟩ := cut_eq_some hc
    have hf := w.forward (next_of_some hw ho hc)
    apply step o ho frame rest hc
    · rw [hrest, List.drop_drop, roundUp_add fmt.alignment_pos ho]
    · exact position_induction hw stop step _ (dvd_roundUp _ _)
termination_by w.limit - o

/-- The loop yields the frames, in order. -/
theorem map_snd_trail (hw : Follows w fmt view data) {o : Nat} (ho : fmt.alignment ∣ o) :
    (trail w o).map Prod.snd = (frames fmt (data.drop o)).map view := by
  induction o, ho using position_induction hw with
  | stop o ho hc => rw [trail_of_stop (next_of_none hw ho hc), frames_of_none hc]; rfl
  | step o ho frame rest hc hd ih =>
    rw [trail_of_step (next_of_some hw ho hc), frames_of_some hc, List.map_cons, List.map_cons, ih, hd]

theorem cut_of_mem_trail (hw : Follows w fmt view data) {o : Nat} (ho : fmt.alignment ∣ o)
    {p : Nat × α} (hp : p ∈ trail w o) :
    ∃ frame rest, cut fmt (data.drop p.1) = some (frame, rest) ∧ p.2 = view frame := by
  induction o, ho using position_induction hw with
  | stop o ho hc =>
    rw [trail_of_stop (next_of_none hw ho hc)] at hp
    cases hp
  | step o ho frame rest hc hd ih =>
    rw [trail_of_step (next_of_some hw ho hc)] at hp
    obtain rfl | hp := List.mem_cons.mp hp
    · exact ⟨frame, rest, hc, rfl⟩
    · exact ih hp

/-- Where the frame at a position ends, by the length in its header. -/
def endOf (fmt : Format) (data : List UInt8) (o : Nat) : Nat :=
  o + fmt.lengthOf ((data.drop o).take fmt.headerLen)

theorem endOf_eq {o : Nat} {frame rest : List UInt8}
    (hc : cut fmt (data.drop o) = some (frame, rest)) : endOf fmt data o = o + frame.length := by
  obtain ⟨-, -, hlen, -, -⟩ := cut_eq_some hc
  rw [endOf, hlen]

/-- On input that is cut short the loop yields the frames that end before the
cut, and stops. -/
theorem trail_take {w' : Walker α} {k : Nat} (hw : Follows w fmt view data)
    (hw' : Follows w' fmt view (data.take k)) {o : Nat} (ho : fmt.alignment ∣ o) :
    trail w' o = (trail w o).takeWhile fun p => endOf fmt data p.1 ≤ k := by
  induction o, ho using position_induction hw with
  | stop o ho hc =>
    have hc' : cut fmt ((data.take k).drop o) = none := by
      rw [List.drop_take]
      exact cut_take_of_none hc
    rw [trail_of_stop (next_of_none hw ho hc), trail_of_stop (next_of_none hw' ho hc')]
    rfl
  | step o ho frame rest hc hd ih =>
    have hend := endOf_eq hc
    rw [trail_of_step (next_of_some hw ho hc)]
    by_cases hk : endOf fmt data o ≤ k
    · have hc' := cut_take_of_le hc (k := k - o) (by omega)
      rw [← List.drop_take] at hc'
      rw [trail_of_step (next_of_some hw' ho hc'), List.takeWhile_cons_of_pos (by simpa using hk), ih]
    · obtain ⟨hmin, -, -, -, -⟩ := cut_eq_some hc
      have hc' : cut fmt ((data.take k).drop o) = none := by
        have hpos := fmt.minLen_pos
        rw [List.drop_take]
        exact cut_take_of_lt hc (by omega)
      rw [trail_of_stop (next_of_none hw' ho hc'), List.takeWhile_cons_of_neg (by simpa using hk)]

/-- Ends only grow along the way, so stopping at the first frame beyond a
bound leaves out all frames beyond it. -/
theorem takeWhile_trail (hw : Follows w fmt view data) (k : Nat) {o : Nat} (ho : fmt.alignment ∣ o) :
    (trail w o).takeWhile (fun p => endOf fmt data p.1 ≤ k) =
      (trail w o).filter fun p => endOf fmt data p.1 ≤ k := by
  induction o, ho using position_induction hw with
  | stop o ho hc => rw [trail_of_stop (next_of_none hw ho hc)]; rfl
  | step o ho frame rest hc hd ih =>
    rw [trail_of_step (next_of_some hw ho hc)]
    by_cases hk : endOf fmt data o ≤ k
    · rw [List.takeWhile_cons_of_pos (by simpa using hk), List.filter_cons_of_pos (by simpa using hk), ih]
    · rw [List.takeWhile_cons_of_neg (by simpa using hk), List.filter_cons_of_neg (by simpa using hk)]
      symm
      rw [List.filter_eq_nil_iff]
      intro p hp
      have hge := le_of_mem_trail hp
      have hup := le_roundUp fmt.alignment_pos (o + frame.length)
      rw [endOf_eq hc] at hk
      rw [decide_eq_true_eq, endOf]
      omega

/-- There are no more frames than fit, one minimal length each. -/
theorem length_frames_le (fmt : Format) (data : List UInt8) :
    fmt.minLen * (frames fmt data).length ≤ data.length := by
  cases hc : cut fmt data with
  | none => rw [frames_of_none hc]; exact Nat.zero_le _
  | some p =>
    obtain ⟨frame, rest⟩ := p
    obtain ⟨hmin, hle, -, -, hrest⟩ := cut_eq_some hc
    have hlt := cut_shrinks hc
    have hup := le_roundUp fmt.alignment_pos frame.length
    have ih := length_frames_le fmt rest
    have hlen : rest.length = data.length - roundUp fmt.alignment frame.length := by
      rw [hrest, List.length_drop]
    rw [frames_of_some hc, List.length_cons, Nat.mul_succ]
    omega
termination_by data.length

theorem length_trail_le (hw : Follows w fmt view data) :
    fmt.minLen * (trail w 0).length ≤ data.length := by
  have hmap := congrArg List.length (map_snd_trail hw (Nat.dvd_zero _))
  rw [List.length_map, List.length_map, List.drop_zero] at hmap
  rw [hmap]
  exact length_frames_le fmt data

end Follows

end NatStream.Lib.Trails
