import NatStream.Netlink.Reference

namespace NatStream.Netlink.Locality

open NatStream.Lib.Bytes NatStream.Lib.Frames NatStream.Lib.LastWins
open NatStream.Events NatStream.Netlink.Parsers NatStream.Netlink.Attributes
open NatStream.Netlink.Reference

/-- The payload of the attribute at a position. -/
def payloadAt (en : Endian) : List Nat → List UInt8 → Option (List UInt8)
  | [], data => some data
  | i :: position, data => do
    let a ← (attributes en data)[i]?
    payloadAt en position a.2

/-- Put other bytes in the place of the payload at a position. All headers and
everything outside that payload stay as they are. -/
def overwrite (en : Endian) : List Nat → List UInt8 → List UInt8 → List UInt8
  | [], bytes, _ => bytes
  | i :: position, bytes, data =>
    match (frames (nlaFormat en) data)[i]? with
    | none => data
    | some frame => replaceFrame (nlaFormat en) i
        (frame.take nlaHdrlen ++ overwrite en position bytes (frame.drop nlaHdrlen)) data

/-- Neither position is inside the other. -/
def Apart (p q : List Nat) : Prop := ¬ p <+: q ∧ ¬ q <+: p

instance (p q : List Nat) : Decidable (Apart p q) := inferInstanceAs (Decidable (_ ∧ _))

theorem apart_cons (i : Nat) (p q : List Nat) : Apart (i :: p) (i :: q) ↔ Apart p q := by
  simp [Apart, List.cons_prefix_cons]

theorem not_apart_nil (p : List Nat) : ¬ Apart p [] := fun h => h.2 List.nil_prefix

theorem nil_not_apart (p : List Nat) : ¬ Apart [] p := fun h => h.1 List.nil_prefix

theorem nlaHdrlen_le_frame {en : Endian} {data frame : List UInt8}
    (h : frame ∈ frames (nlaFormat en) data) : nlaHdrlen ≤ frame.length :=
  minLen_le_of_mem h

theorem frame_of_attribute {en : Endian} {data : List UInt8} {i : Nat} {a : UInt16 × List UInt8}
    (h : (attributes en data)[i]? = some a) :
    ∃ frame, (frames (nlaFormat en) data)[i]? = some frame ∧ attributeOf en frame = a ∧
      nlaHdrlen ≤ frame.length := by
  rw [attributes, List.getElem?_map, Option.map_eq_some_iff] at h
  obtain ⟨frame, hf, ha⟩ := h
  exact ⟨frame, hf, ha, nlaHdrlen_le_frame (List.mem_of_getElem? hf)⟩

theorem length_overwrite {en : Endian} {position : List Nat} {bytes data payload : List UInt8}
    (h : payloadAt en position data = some payload) (hl : bytes.length = payload.length) :
    (overwrite en position bytes data).length = data.length := by
  induction position generalizing data with
  | nil =>
    cases h
    exact hl
  | cons i position ih =>
    obtain ⟨a, ha, hp⟩ := Option.bind_eq_some_iff.mp h
    obtain ⟨frame, hf, rfl, hle⟩ := frame_of_attribute ha
    have ih' := ih hp
    rw [overwrite, hf]
    apply length_replaceFrame hf
    change (overwrite en position bytes (frame.drop nlaHdrlen)).length = _ at ih'
    rw [List.length_append, List.length_take, ih', attributeOf, List.length_drop]
    omega

theorem attributes_overwrite {en : Endian} {i : Nat} {position : List Nat}
    {bytes data payload : List UInt8} {a : UInt16 × List UInt8}
    (ha : (attributes en data)[i]? = some a) (hp : payloadAt en position a.2 = some payload)
    (hl : bytes.length = payload.length) :
    attributes en (overwrite en (i :: position) bytes data) =
      (attributes en data).set i (a.1, overwrite en position bytes a.2) := by
  obtain ⟨frame, hf, rfl, hle⟩ := frame_of_attribute ha
  have hlen := length_overwrite hp hl
  change (overwrite en position bytes (frame.drop nlaHdrlen)).length =
    (frame.drop nlaHdrlen).length at hlen
  have hhead : (frame.take nlaHdrlen).length = nlaHdrlen := by
    rw [List.length_take]
    omega
  have hframe : (frame.take nlaHdrlen ++
      overwrite en position bytes (frame.drop nlaHdrlen)).length = frame.length := by
    rw [List.length_append, hlen, hhead, List.length_drop]
    omega
  have hattr : attributeOf en (frame.take nlaHdrlen ++
      overwrite en position bytes (frame.drop nlaHdrlen)) =
      ((attributeOf en frame).1, overwrite en position bytes (attributeOf en frame).2) := by
    have htype : ((frame.take nlaHdrlen ++ overwrite en position bytes (frame.drop nlaHdrlen)).drop
        2).take 2 = (frame.drop 2).take 2 := by
      rw [List.take_drop, List.take_drop, List.take_append_of_le_length (by rw [hhead]; decide),
        List.take_take]
      rfl
    simp only [attributeOf, htype, List.drop_left' hhead]
  rw [overwrite, hf]
  change (frames _ (replaceFrame _ i _ data)).map _ = _
  rw [frames_replaceFrame hf hframe (List.take_left' hhead), List.map_set, hattr]
  rfl

/-- Outside the overwritten attribute every value at a path is where it was. -/
theorem locatedAt_overwrite {en : Endian} {position : List Nat} {bytes data payload : List UInt8}
    (h : payloadAt en position data = some payload) (hl : bytes.length = payload.length)
    (path : List UInt16) :
    (locatedAt en path (overwrite en position bytes data)).filter (fun q => Apart position q.1) =
      (locatedAt en path data).filter (fun q => Apart position q.1) := by
  induction path generalizing position data with
  | nil => simp [locatedAt, not_apart_nil]
  | cons type path ih =>
    cases position with
    | nil => simp [nil_not_apart]
    | cons i position =>
      obtain ⟨a, ha, hp⟩ := Option.bind_eq_some_iff.mp h
      have hset : ((attributes en data).set i (a.1, overwrite en position bytes a.2)).zipIdx =
          (attributes en data).zipIdx.set i ((a.1, overwrite en position bytes a.2), i) := by
        apply List.ext_getElem?
        intro j
        rw [List.getElem?_zipIdx, List.getElem?_set, List.getElem?_set, List.getElem?_zipIdx,
          List.length_zipIdx]
        split
        · split <;> simp_all
        · rfl
      have hget : (attributes en data).zipIdx[i]? = some (a, i) := by
        rw [List.getElem?_zipIdx, ha]
        simp
      rw [locatedAt, locatedAt, attributes_overwrite ha hp hl, hset, List.filter_flatMap,
        List.filter_flatMap]
      apply flatMap_set_of_eq hget
      by_cases ht : a.1 = type
      · simp only [if_pos ht, List.filter_map, Function.comp_def, apart_cons]
        rw [ih hp]
      · simp only [if_neg ht]

/-- A field that is decided elsewhere does not notice what is inside an attribute. -/
theorem decidedAt_overwrite {en : Endian} {position : List Nat} {bytes data payload : List UInt8}
    (h : payloadAt en position data = some payload) (hl : bytes.length = payload.length)
    (path : List UInt16) (width : Nat)
    (hbefore : ∀ d ∈ decidedAt en path width data, Apart position d.1)
    (hafter : ∀ d ∈ decidedAt en path width (overwrite en position bytes data), Apart position d.1) :
    decidedAt en path width (overwrite en position bytes data) = decidedAt en path width data := by
  have hb := getLast?_filter (p := fun q => Apart position q.1)
    (l := (locatedAt en path data).filter (fun q => width ≤ q.2.length))
    (fun d hd => by simpa using hbefore d hd)
  have ha := getLast?_filter (p := fun q => Apart position q.1)
    (l := (locatedAt en path (overwrite en position bytes data)).filter
      (fun q => width ≤ q.2.length)) (fun d hd => by simpa using hafter d hd)
  rw [List.filter_comm] at hb ha
  rw [decidedAt, decidedAt, ← ha, ← hb, locatedAt_overwrite h hl path]

theorem isSome_referenceEvent (en : Endian) (natEvent : NatEventType) (data : List UInt8) :
    (referenceEvent en natEvent data).isSome ↔ ∃ payload, decided en [ctaStatus] 4 data = some payload ∧
      (be32Of payload &&& ipsSrcNat ≠ 0 ∨ be32Of payload &&& ipsDstNat ≠ 0) := by
  rw [referenceEvent]
  change (Option.isSome (match decided en [ctaStatus] 4 data with | none => _ | some payload => _)) ↔ _
  cases decided en [ctaStatus] 4 data with
  | none => simp
  | some payload =>
    by_cases hn : be32Of payload &&& ipsSrcNat ≠ 0 ∨ be32Of payload &&& ipsDstNat ≠ 0
    · simp only [if_pos hn, Option.isSome_some, true_iff]
      exact ⟨payload, rfl, hn⟩
    · simp only [if_neg hn, Option.isSome_none, Bool.false_eq_true, false_iff, not_exists, not_and,
        Option.some.injEq]
      rintro q rfl
      exact hn

/-- The attribute loops together compute the reference meaning of any bytes:
nothing is reported without a NAT status, each field comes from the attribute
that decides it, and the bytes of an attribute matter to no other field. -/
theorem parseNlaTree_meets_reference (en : Endian) (natEvent : NatEventType) (data : List UInt8) :
    parseNlaTree en natEvent data = some (referenceEvent en natEvent data) ∧
    ((referenceEvent en natEvent data).isSome ↔
      ∃ payload, decided en [ctaStatus] 4 data = some payload ∧
        (be32Of payload &&& ipsSrcNat ≠ 0 ∨ be32Of payload &&& ipsDstNat ≠ 0)) ∧
    ∀ position payload bytes, payloadAt en position data = some payload →
      bytes.length = payload.length → ∀ part,
      (∀ d ∈ decidedAt en (path part) (width part) data, Apart position d.1) →
      (∀ d ∈ decidedAt en (path part) (width part) (overwrite en position bytes data),
        Apart position d.1) →
      decidedAt en (path part) (width part) (overwrite en position bytes data) =
        decidedAt en (path part) (width part) data := by
  refine ⟨parseNlaTree_eq en natEvent data, isSome_referenceEvent en natEvent data, ?_⟩
  intro position payload bytes hp hl part hbefore hafter
  exact decidedAt_overwrite hp hl _ _ hbefore hafter

theorem parseNlaTree_meets_reference_sample :
    parseNlaTree .little .create [8, 0, 3, 0, 0, 0, 0, 16, 8, 0, 1, 0, 1, 2, 3, 4] =
      some (referenceEvent .little .create [8, 0, 3, 0, 0, 0, 0, 16, 8, 0, 1, 0, 1, 2, 3, 4]) ∧
    decidedAt .little (path .status) (width .status)
        (overwrite .little [1] [255, 255, 255, 255] [8, 0, 3, 0, 0, 0, 0, 16, 8, 0, 1, 0, 1, 2, 3, 4]) =
      decidedAt .little (path .status) (width .status)
        [8, 0, 3, 0, 0, 0, 0, 16, 8, 0, 1, 0, 1, 2, 3, 4] := by
  have h := parseNlaTree_meets_reference .little .create
    [8, 0, 3, 0, 0, 0, 0, 16, 8, 0, 1, 0, 1, 2, 3, 4]
  refine ⟨h.1, h.2.2 [1] [1, 2, 3, 4] [255, 255, 255, 255] ?_ rfl .status ?_ ?_⟩
  · decide +kernel
  · decide +kernel
  · decide +kernel

end NatStream.Netlink.Locality
