import Mathlib.Order.Bounds.Basic
import NatStream.Export.Messages

namespace NatStream.Export.Capacity

open NatStream.Events NatStream.Export.Templates NatStream.Export.Encoders
open NatStream.Export.Resolved NatStream.Export.Layout NatStream.Export.Filling
open NatStream.Export.Messages

/-- How many records `addRecord` accepts into one message. -/
def capacity (t : Template) (flag : Bool) : Nat :=
  (maxMsgSize - baseLen t flag - setHeaderLen - (setAlignment t.protocol - 1)) / t.recordSize

theorem baseLen_le {t : Template} (hu : Usable t) (flag : Bool) : baseLen t flag ≤ 95 := by
  have hh := headerLen_le t.protocol
  have hs := hu.setSize_le
  cases flag <;> simp [baseLen] <;> omega

theorem hasRoom_iff_lt {t : Template} (hu : Usable t) (flag : Bool) (count : Nat) :
    hasRoom t flag count ↔ count < capacity t flag := by
  have hb := baseLen_le hu flag
  have ha := setAlignment_le t.protocol
  have hr := hu.recordSize_ge
  rw [capacity, Nat.lt_iff_add_one_le, Nat.le_div_iff_mul_le (by omega)]
  simp only [hasRoom, openLen, Nat.add_one_ne_zero, if_false, setHeaderLen, maxMsgSize]
  omega

theorem length_le_capacity {e : Encoder} {t : Template} {flag : Bool} {events : List ConntrackEvent}
    (hu : Usable t) (h : Holds e t flag events) : events.length ≤ capacity t flag := by
  cases hl : events.length with
  | zero => exact Nat.zero_le _
  | succ count =>
    have hroom := h.room
    rw [h.offset, hl] at hroom
    exact (hasRoom_iff_lt hu flag count).mp hroom

theorem dataSetSize_mono (t : Template) {m n : Nat} (h : m ≤ n) :
    dataSetSize t m ≤ dataSetSize t n := by
  have hmul := Nat.mul_le_mul_right t.recordSize h
  have hsum : setHeaderLen + m * t.recordSize + setAlignment t.protocol - 1 ≤
      setHeaderLen + n * t.recordSize + setAlignment t.protocol - 1 := by omega
  exact Nat.mul_le_mul_right _ (Nat.div_le_div_right hsum)

/-- The message is full, padding included, when `addRecord` refuses a record. -/
def Tight (t : Template) (flag : Bool) : Prop :=
  1 ≤ capacity t flag ∧ baseLen t flag + dataSetSize t (capacity t flag) ≤ maxMsgSize ∧
    maxMsgSize < baseLen t flag + dataSetSize t (capacity t flag + 1)

instance (t : Template) (flag : Bool) : Decidable (Tight t flag) :=
  inferInstanceAs (Decidable (_ ∧ _))

/-- The space `addRecord` holds back for padding costs no record in any of
the configurations. -/
theorem capacity_tight {p : Protocol} {profile : Profile} {w : CounterWidth} {id : UInt16}
    {t : Template} (h : resolve p profile w id = .ok t) (flag : Bool) : Tight t flag := by
  obtain ⟨-, rfl⟩ := resolve_ok h
  have hall : ∀ flag, Tight ⟨resolvedFields p profile w, totalLength (resolvedFields p profile w),
      256, p, profile, w⟩ flag := by
    cases p <;> cases profile <;> cases w <;> decide
  exact hall flag

theorem fits_iff_le_capacity {p : Protocol} {profile : Profile} {w : CounterWidth} {id : UInt16}
    {t : Template} (h : resolve p profile w id = .ok t) (flag : Bool) (n : Nat) :
    baseLen t flag + dataSetSize t n ≤ maxMsgSize ↔ n ≤ capacity t flag := by
  obtain ⟨-, hfits, hover⟩ := capacity_tight h flag
  constructor
  · intro hn
    by_contra hlt
    have hmono := dataSetSize_mono t (Nat.lt_of_not_le hlt)
    rw [Nat.succ_eq_add_one] at hmono
    omega
  · intro hn
    have hmono := dataSetSize_mono t hn
    omega

theorem capacity_isGreatest {p : Protocol} {profile : Profile} {w : CounterWidth} {id : UInt16}
    {t : Template} (h : resolve p profile w id = .ok t) (flag : Bool) :
    IsGreatest {n | baseLen t flag + dataSetSize t n ≤ maxMsgSize} (capacity t flag) :=
  ⟨(fits_iff_le_capacity h flag _).mpr (Nat.le_refl _), fun n hn => (fits_iff_le_capacity h flag n).mp hn⟩

theorem countRecords_eq {t : Template} {budget cap : Nat}
    (hcap : ∀ n, dataSetSize t n ≤ budget ↔ n ≤ cap) {rounds records : Nat} (hle : records ≤ cap)
    (hlt : cap < records + rounds) : countRecords t budget rounds records = some cap := by
  induction rounds generalizing records with
  | zero => omega
  | succ rounds ih =>
    rw [countRecords]
    by_cases hn : records + 1 ≤ cap
    · rw [if_pos ((hcap _).mpr hn)]
      exact ih hn (by omega)
    · rw [if_neg (fun hfit => hn ((hcap _).mp hfit)), Nat.le_antisymm hle (by omega)]

theorem maxRecordsPerMessage_eq {p : Protocol} {profile : Profile} {w : CounterWidth} {id : UInt16}
    {t : Template} (h : resolve p profile w id = .ok t) :
    maxRecordsPerMessage t = some (capacity t true) := by
  have hu := resolve_usable h
  have hb : headerLen t.protocol + setSize t ≤ 95 := baseLen_le hu true
  have hroom : capacity t true ≤ maxMsgSize - headerLen t.protocol - setSize t := by
    have hdiv := Nat.div_le_self (maxMsgSize - baseLen t true - setHeaderLen -
      (setAlignment t.protocol - 1)) t.recordSize
    rw [← capacity, baseLen, if_pos rfl] at hdiv
    omega
  rw [maxRecordsPerMessage, if_pos (by simp only [maxMsgSize]; omega)]
  apply countRecords_eq _ (Nat.zero_le _) (by omega)
  intro n
  have hfits := fits_iff_le_capacity h true n
  rw [baseLen, if_pos rfl] at hfits
  rw [← hfits]
  simp only [maxMsgSize]
  omega

/-- Offer events one after another, noting for each whether it was accepted. -/
def offer (e : Encoder) : List ConntrackEvent → Option (Encoder × List Bool)
  | [] => some (e, [])
  | event :: events => do
    let (e, accepted) ← addRecord e event
    let (e, answers) ← offer e events
    return (e, accepted :: answers)

/-- The answers of a message that takes `room` more records: yes to the first
`room` events, no to all that follow. -/
def answers (room offered : Nat) : List Bool := (List.range offered).map fun i => decide (i < room)

theorem answers_succ (room offered : Nat) :
    answers (room + 1) (offered + 1) = true :: answers room offered := by
  simp [answers, List.range_succ_eq_map, Function.comp_def]

theorem answers_zero (offered : Nat) : answers 0 (offered + 1) = false :: answers 0 offered := by
  simp [answers, List.range_succ_eq_map, Function.comp_def]

/-- A message accepts events while it has room and then refuses all others. -/
theorem offer_holds {e : Encoder} {t : Template} {flag : Bool} {events : List ConntrackEvent}
    (hu : Usable t) (h : Holds e t flag events) (offered : List ConntrackEvent) :
    ∃ e', offer e offered =
        some (e', answers (capacity t flag - events.length) offered.length) ∧
      Holds e' t flag (events ++ offered.take (capacity t flag - events.length)) ∧ Kept e e' := by
  induction offered generalizing e events with
  | nil => exact ⟨e, rfl, by simpa using h, rfl, rfl, rfl⟩
  | cons event offered ih =>
    by_cases hr : hasRoom t flag events.length
    · obtain ⟨e₁, ha, h₁, hk₁, -⟩ := addRecord_room hu h event hr
      obtain ⟨e₂, ho, h₂, hk₂⟩ := ih h₁
      have hroom : capacity t flag - events.length =
          capacity t flag - (events ++ [event]).length + 1 := by
        have hlt := (hasRoom_iff_lt hu flag events.length).mp hr
        rw [List.length_append, List.length_singleton]
        omega
      refine ⟨e₂, ?_, ?_, hk₁.trans hk₂⟩
      · rw [hroom, List.length_cons, answers_succ]
        simp [offer, ha, ho]
      · rw [hroom, List.take_succ_cons]
        simpa using h₂
    · obtain ⟨e₁, ho, h₁, hk₁⟩ := ih h
      have hroom : capacity t flag - events.length = 0 := by
        rw [hasRoom_iff_lt hu] at hr
        omega
      rw [hroom] at ho h₁ ⊢
      refine ⟨e₁, ?_, h₁, hk₁⟩
      rw [List.length_cons, answers_zero]
      simp [offer, addRecord_full h event hr, ho]

/-- A new message answers by its capacity, whatever state it was begun from. -/
theorem begin_offer {e : Encoder} (hu : Usable e.template) (flag : Bool)
    (offered : List ConntrackEvent) :
    ∃ e₀ e₁, beginMessage e flag = some e₀ ∧
      offer e₀ offered = some (e₁, answers (capacity e.template flag) offered.length) ∧
      Holds e₁ e.template flag (offered.take (capacity e.template flag)) ∧ Kept e e₁ := by
  obtain ⟨e₀, hb, h₀, hk₀, -⟩ := beginMessage_holds hu flag
  obtain ⟨e₁, ho, h₁, hk₁⟩ := offer_holds hu h₀ offered
  exact ⟨e₀, e₁, hb, ho, h₁, hk₀.trans hk₁⟩

end NatStream.Export.Capacity
