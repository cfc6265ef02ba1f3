import NatStream.Export.Encoders
import NatStream.Export.Resolved

namespace NatStream.Export.Layout

open NatStream.Lib.Bytes NatStream.Lib.Slice NatStream.Lib.ByteBuffer
open NatStream.Events NatStream.Export.Templates NatStream.Export.Records
open NatStream.Export.Encoders NatStream.Export.Resolved

variable {n : Nat}

def zeros (k : Nat) : List UInt8 := List.replicate k 0

@[simp] theorem length_zeros (k : Nat) : (zeros k).length = k := List.length_replicate

def specifierBytes (f : ResolvedField) : List UInt8 :=
  match f.pen with
  | some pen => beBytes 2 (f.id ||| enterpriseBit).toNat ++ beBytes 2 f.length.toNat ++
      beBytes 4 pen.toNat
  | none => beBytes 2 f.id.toNat ++ beBytes 2 f.length.toNat

def templateRecord (t : Template) : List UInt8 :=
  beBytes 2 (templateSetId t.protocol).toNat ++ beBytes 2 (setSize t) ++
    beBytes 2 t.templateId.toNat ++ beBytes 2 t.fields.length ++ t.fields.flatMap specifierBytes

/-- The template set as a collector sees it. -/
def templateSet (t : Template) : List UInt8 :=
  templateRecord t ++ zeros (setSize t - (templateRecord t).length)

def templatePart (t : Template) (flag : Bool) : List UInt8 := if flag then templateSet t else []

def records (t : Template) (events : List ConntrackEvent) : List UInt8 :=
  events.flatMap (recordBytes t.fields)

/-- The data set while records are still being added: its length field holds
a placeholder, and there is no set at all before the first record. -/
def openPart (t : Template) (events : List ConntrackEvent) : List UInt8 :=
  if events = [] then []
  else beBytes 2 t.templateId.toNat ++ beBytes 2 0 ++ records t events

def baseLen (t : Template) (flag : Bool) : Nat :=
  headerLen t.protocol + if flag then setSize t else 0

def openLen (t : Template) (count : Nat) : Nat :=
  if count = 0 then 0 else setHeaderLen + count * t.recordSize

/-- Whether a message that already holds `count` records takes another one. -/
def hasRoom (t : Template) (flag : Bool) (count : Nat) : Prop :=
  baseLen t flag + openLen t (count + 1) + (setAlignment t.protocol - 1) ≤ maxMsgSize

instance (t : Template) (flag : Bool) (count : Nat) : Decidable (hasRoom t flag count) :=
  inferInstanceAs (Decidable (_ ≤ _))

/-- The encoder is in the middle of a message that holds exactly these
records. The header bytes are whatever an earlier message left there. -/
structure Holds (e : Encoder) (t : Template) (flag : Bool) (events : List ConntrackEvent) : Prop where
  template : e.template = t
  included : e.templateIncluded = flag
  count : e.recordCount.toNat = events.length
  isOpen : e.dataSetOpen = !events.isEmpty
  offset : e.offset = baseLen t flag + openLen t events.length
  room : e.offset + (setAlignment t.protocol - 1) ≤ maxMsgSize
  start : events ≠ [] → e.dataSetOffset = baseLen t flag
  body : ∃ header, header.length = headerLen t.protocol ∧
    written (cursor e) = header ++ (templatePart t flag ++ openPart t events)

/-- The fields no message changes before it is finalized. -/
structure Kept (e e' : Encoder) : Prop where
  sequenceNumber : e'.sequenceNumber = e.sequenceNumber
  domain : e'.observationDomainId = e.observationDomainId
  started : e'.started = e.started

theorem Kept.trans {e e' e'' : Encoder} (h : Kept e e') (h' : Kept e' e'') : Kept e e'' :=
  ⟨h'.sequenceNumber.trans h.sequenceNumber, h'.domain.trans h.domain, h'.started.trans h.started⟩

theorem length_specifierBytes (f : ResolvedField) : (specifierBytes f).length = specifierLen f := by
  cases hp : f.pen <;> simp [specifierBytes, specifierLen, hp, fieldSpecifierLen, enterpriseNumberLen]

theorem length_specifiers (fields : List ResolvedField) :
    (fields.flatMap specifierBytes).length = (fields.map specifierLen).sum := by
  rw [List.length_flatMap]
  exact congrArg List.sum (List.map_congr_left (fun f _ => length_specifierBytes f))

theorem length_templateRecord (t : Template) :
    (templateRecord t).length = setHeaderLen + 4 + (t.fields.map specifierLen).sum := by
  simp only [templateRecord, List.length_append, length_beBytes, length_specifiers, setHeaderLen]

theorem length_templateSet (t : Template) : (templateSet t).length = setSize t := by
  have h := le_alignUp (templateRecord t).length (setAlignment_pos t.protocol)
  have hs : setSize t = alignUp (templateRecord t).length (setAlignment t.protocol) := by
    rw [length_templateRecord, setSize]
  rw [templateSet, List.length_append, length_zeros, hs]
  omega

theorem length_templatePart (t : Template) (flag : Bool) :
    (templatePart t flag).length = if flag then setSize t else 0 := by
  cases flag <;> simp [templatePart, length_templateSet]

theorem length_records {t : Template} (h : Usable t) (events : List ConntrackEvent) :
    (records t events).length = events.length * t.recordSize := by
  induction events with
  | nil => simp [records]
  | cons event events ih =>
    have hr := length_recordBytes event h.fits
    rw [← totalLength, ← h.recordSize_eq] at hr
    simp only [records, List.flatMap_cons, List.length_append, List.length_cons] at ih ⊢
    rw [hr, ih, Nat.add_mul, Nat.one_mul, Nat.add_comm]

theorem padSet_eq {e : Encoder} (c : Cursor maxMsgSize)
    (hc : put (cursor e) (zeros (alignUp e.offset (setAlignment e.template.protocol) - e.offset)) =
      some c) :
    padSet e = some (moved e c) := by
  have hle := le_alignUp e.offset (setAlignment_pos e.template.protocol)
  have hsum : e.offset + (alignUp e.offset (setAlignment e.template.protocol) - e.offset) =
      alignUp e.offset (setAlignment e.template.protocol) := by omega
  simp only [put, cursor, length_zeros, hsum, Option.bind_eq_bind, Option.bind_eq_some_iff,
    Option.some.injEq] at hc
  obtain ⟨buf, hb, rfl⟩ := hc
  simp only [padSet, fill, moved]
  rw [← zeros, hb]
  rfl

theorem writeSpecifier_eq (p : Protocol) (c : Cursor n) (f : ResolvedField)
    (hp : f.pen.isSome → supportsEnterprise p) :
    writeSpecifier p c f = put c (specifierBytes f) := by
  cases hpen : f.pen with
  | none => simp only [writeSpecifier, specifierBytes, hpen, putU16, put_append, Option.bind_eq_bind]
  | some pen =>
    have hs := hp (by simp [hpen])
    simp only [writeSpecifier, specifierBytes, hpen, hs, check_true, putU16, putU32, put_append,
      Option.bind_eq_bind, Option.bind_some, Option.bind_assoc]

theorem writeSpecifiers_eq (p : Protocol) (c : Cursor n) (fields : List ResolvedField)
    (hp : ∀ f ∈ fields, f.pen.isSome → supportsEnterprise p) (hc : c.offset ≤ n) :
    fields.foldlM (writeSpecifier p) c = put c (fields.flatMap specifierBytes) := by
  induction fields generalizing c with
  | nil => exact (put_nil hc).symm
  | cons f fs ih =>
    rw [List.foldlM_cons, writeSpecifier_eq p c f (hp f (by simp)), List.flatMap_cons, put_append]
    cases hd : put c (specifierBytes f) with
    | none => rfl
    | some d => exact ih d (fun g hg => hp g (by simp [hg])) (writes_of_put hd).fits

end NatStream.Export.Layout
