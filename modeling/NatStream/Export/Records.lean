import NatStream.Export.Templates
import NatStream.Lib.ByteBuffer

namespace NatStream.Export.Records

open NatStream.Lib.Bytes NatStream.Lib.Slice NatStream.Lib.ByteBuffer
open NatStream.Events NatStream.Export.Templates

variable {n : Nat}

/-- A field's value, before it is written at the width the template advertises. -/
inductive Value where
  | byte (v : UInt8)
  | port (v : UInt16)
  | addr (v : Ipv4Addr)
  | counter (v : UInt64)
  deriving DecidableEq, Repr

def valueOf (source : FieldSource) (event : ConntrackEvent) : Value :=
  match source with
  | .natEvent => .byte (natEventCode event.natEvent)
  | .protocol => .byte event.protocol
  | .srcIp => .addr event.srcIp
  | .dstIp => .addr event.dstIp
  | .srcPort => .port event.srcPort
  | .dstPort => .port event.dstPort
  | .postNatSrcIp => .addr event.postNatSrcIp
  | .postNatSrcPort => .port event.postNatSrcPort
  | .postNatDstIp => .addr event.postNatDstIp
  | .postNatDstPort => .port event.postNatDstPort
  | .origBytes => .counter event.origBytes
  | .origPackets => .counter event.origPackets
  | .replyBytes => .counter event.replyBytes
  | .replyPackets => .counter event.replyPackets

def counterMax (len : Nat) : UInt64 :=
  if len ≥ 8 then 0xFFFFFFFFFFFFFFFF else (1 <<< UInt64.ofNat (len * 8)) - 1

/-- Write one field and count it if its counter had to be clamped. -/
def emitField (c : Cursor n) (f : ResolvedField) (event : ConntrackEvent) :
    Option (Cursor n × Nat) := do
  let len := f.length.toNat
  match valueOf f.source event with
  | .byte v => return (← put c [v], 0)
  | .port v => return (← put c (beBytes 2 v.toNat), 0)
  | .addr v => return (← put c (octets v), 0)
  | .counter v =>
    let max := counterMax len
    let (v, saturated) := if v > max then (max, 1) else (v, 0)
    check (len ≤ 8)
    return (← put c ((beBytes 8 v.toNat).drop (8 - len)), saturated)

/-- The field with the debug assertion before it, which a release build leaves
out. The two write the same wherever the width is right. -/
def writeField (c : Cursor n) (f : ResolvedField) (event : ConntrackEvent) :
    Option (Cursor n × Nat) := do
  check ((naturalLen f.source).all (fun m => m.toNat = f.length.toNat))
  emitField c f event

/-- Write one record at the cursor, advancing it. The number returned is how
many counters the configured width could not hold. -/
def writeRecord (c : Cursor n) (fields : List ResolvedField) (event : ConntrackEvent) :
    Option (Cursor n × Nat) :=
  match fields with
  | [] => some (c, 0)
  | f :: fs => do
    let (c, saturated) ← writeField c f event
    let (c, more) ← writeRecord c fs event
    return (c, saturated + more)

/-- The widths `writeRecord` is prepared for: a fixed-size source at its own
size, and a counter at anything from one byte to eight. -/
def FieldFits (f : ResolvedField) : Prop :=
  naturalLen f.source = some f.length ∨
    naturalLen f.source = none ∧ 1 ≤ f.length.toNat ∧ f.length.toNat ≤ 8

def fieldBytes (event : ConntrackEvent) (f : ResolvedField) : List UInt8 :=
  match valueOf f.source event with
  | .byte v => [v]
  | .port v => beBytes 2 v.toNat
  | .addr v => octets v
  | .counter v => beBytes f.length.toNat (min v.toNat (256 ^ f.length.toNat - 1))

def recordBytes (fields : List ResolvedField) (event : ConntrackEvent) : List UInt8 :=
  fields.flatMap (fieldBytes event)

def exceeds (event : ConntrackEvent) (f : ResolvedField) : Bool :=
  match valueOf f.source event with
  | .counter v => 256 ^ f.length.toNat - 1 < v.toNat
  | _ => false

theorem toNat_counterMax {len : Nat} (h : len ≤ 8) : (counterMax len).toNat = 256 ^ len - 1 := by
  have hs : len = 0 ∨ len = 1 ∨ len = 2 ∨ len = 3 ∨ len = 4 ∨ len = 5 ∨ len = 6 ∨ len = 7 ∨
      len = 8 := by omega
  obtain rfl | rfl | rfl | rfl | rfl | rfl | rfl | rfl | rfl := hs <;> decide

theorem length_fieldBytes {f : ResolvedField} (event : ConntrackEvent) (h : FieldFits f) :
    (fieldBytes event f).length = f.length.toNat := by
  obtain ⟨id, pen, len, source⟩ := f
  obtain h | ⟨h, -, -⟩ := h
  · cases source <;> simp only [naturalLen, Option.some.injEq, reduceCtorEq] at h <;> subst h <;> rfl
  · cases source <;> simp [naturalLen] at h <;> simp [fieldBytes, valueOf]

theorem length_recordBytes {fields : List ResolvedField} (event : ConntrackEvent)
    (h : ∀ f ∈ fields, FieldFits f) :
    (recordBytes fields event).length = (fields.map (fun f => f.length.toNat)).sum := by
  rw [recordBytes, List.length_flatMap]
  exact congrArg List.sum (List.map_congr_left (fun f hf => length_fieldBytes event (h f hf)))

theorem writeField_counter (c : Cursor n) {f : ResolvedField} (event : ConntrackEvent)
    (hn : naturalLen f.source = none) (hl : f.length.toNat ≤ 8) (v : UInt64)
    (hv : valueOf f.source event = .counter v) :
    writeField c f event =
      (put c (fieldBytes event f)).map (fun c' => (c', if exceeds event f then 1 else 0)) := by
  have hm := toNat_counterMax hl
  have hd (w : Nat) : (beBytes 8 w).drop (8 - f.length.toNat) = beBytes f.length.toNat w := by
    have h8 : f.length.toNat + (8 - f.length.toNat) = 8 := by omega
    rw [← drop_beBytes f.length.toNat (8 - f.length.toNat), h8]
  by_cases hx : 256 ^ f.length.toNat - 1 < v.toNat
  · have hgt : v > counterMax f.length.toNat := by
      rw [gt_iff_lt, UInt64.lt_iff_toNat_lt, hm]
      exact hx
    have hmin : min v.toNat (256 ^ f.length.toNat - 1) = 256 ^ f.length.toNat - 1 := by omega
    simp [writeField, emitField, hn, hv, hgt, hm, hl, hd, fieldBytes, exceeds, hx, hmin, Option.map_eq_bind]
  · have hle : ¬ v > counterMax f.length.toNat := by
      rw [gt_iff_lt, UInt64.lt_iff_toNat_lt, hm]
      exact hx
    have hmin : min v.toNat (256 ^ f.length.toNat - 1) = v.toNat := by omega
    simp [writeField, emitField, hn, hv, hle, hl, hd, fieldBytes, exceeds, hx, hmin, Option.map_eq_bind]

theorem writeField_eq (c : Cursor n) {f : ResolvedField} (event : ConntrackEvent)
    (h : FieldFits f) :
    writeField c f event =
      (put c (fieldBytes event f)).map (fun c' => (c', if exceeds event f then 1 else 0)) := by
  obtain h | ⟨hn, -, hl⟩ := h
  · obtain ⟨id, pen, len, source⟩ := f
    cases source <;>
      simp_all [writeField, emitField, fieldBytes, exceeds, valueOf, naturalLen, Option.map_eq_bind]
  · obtain ⟨id, pen, len, source⟩ := f
    cases source with
    | origBytes | origPackets | replyBytes | replyPackets =>
      exact writeField_counter c event hn hl _ rfl
    | _ => simp [naturalLen] at hn

/-- Without the assertion a field that fits is written all the same. -/
theorem emitField_eq (c : Cursor n) {f : ResolvedField} (event : ConntrackEvent)
    (h : FieldFits f) :
    emitField c f event =
      (put c (fieldBytes event f)).map (fun c' => (c', if exceeds event f then 1 else 0)) := by
  have hcheck : (naturalLen f.source).all (fun m => m.toNat = f.length.toNat) = true := by
    obtain h | ⟨h, -⟩ := h <;> simp [h]
  have hwrite := writeField_eq c event h
  rwa [writeField, hcheck, check_true, Option.bind_eq_bind, Option.bind_some] at hwrite

theorem writeRecord_eq (c : Cursor n) (fields : List ResolvedField) (event : ConntrackEvent)
    (h : ∀ f ∈ fields, FieldFits f) (hc : c.offset ≤ n) :
    writeRecord c fields event =
      (put c (recordBytes fields event)).map (fun c' => (c', fields.countP (exceeds event))) := by
  induction fields generalizing c with
  | nil => simp [writeRecord, recordBytes, put_nil hc]
  | cons f fs ih =>
    have hf := writeField_eq c event (h f (by simp))
    rw [recordBytes, List.flatMap_cons, put_append]
    cases hd : put c (fieldBytes event f) with
    | none => simp [writeRecord, hf, hd]
    | some d =>
      have ih' := ih d (fun g hg => h g (by simp [hg])) (writes_of_put hd).fits
      cases he : put d (fs.flatMap (fieldBytes event)) with
      | none => simp [writeRecord, hf, hd, ih', recordBytes, he]
      | some e => simp [writeRecord, hf, hd, ih', recordBytes, he, List.countP_cons, Nat.add_comm]

end NatStream.Export.Records
