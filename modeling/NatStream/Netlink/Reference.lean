import NatStream.Netlink.Attributes

namespace NatStream.Netlink.Reference

open NatStream.Lib.Bytes NatStream.Lib.Slice NatStream.Lib.LastWins
open NatStream.Events NatStream.Netlink.Parsers NatStream.Netlink.Attributes

variable {β σ : Type}

/-- Every attribute at a path of types, in walk order: its position, as one
index for each level, and its payload. -/
def locatedAt (en : Endian) : List UInt16 → List UInt8 → List (List Nat × List UInt8)
  | [], data => [([], data)]
  | type :: path, data => (attributes en data).zipIdx.flatMap (fun p =>
      if p.1.1 = type then (locatedAt en path p.1.2).map (fun q => (p.2 :: q.1, q.2)) else [])

/-- The attribute that decides a field: the last one at its path whose payload
is long enough. -/
def decidedAt (en : Endian) (path : List UInt16) (width : Nat) (data : List UInt8) :
    Option (List Nat × List UInt8) :=
  ((locatedAt en path data).filter (fun q => width ≤ q.2.length)).getLast?

def decided (en : Endian) (path : List UInt16) (width : Nat) (data : List UInt8) :
    Option (List UInt8) :=
  (decidedAt en path width data).map Prod.snd

/-- What is read from a message: the status word and the fields of an event. -/
inductive Part where
  | status
  | protocol
  | srcIp
  | dstIp
  | srcPort
  | dstPort
  | postNatSrcIp
  | postNatSrcPort
  | postNatDstIp
  | postNatDstPort
  | origBytes
  | origPackets
  | replyBytes
  | replyPackets
  deriving DecidableEq, Repr

def path : Part → List UInt16
  | .status => [ctaStatus]
  | .protocol => [ctaTupleOrig, ctaTupleProto, ctaProtoNum]
  | .srcIp => [ctaTupleOrig, ctaTupleIp, ctaIpV4Src]
  | .dstIp => [ctaTupleOrig, ctaTupleIp, ctaIpV4Dst]
  | .srcPort => [ctaTupleOrig, ctaTupleProto, ctaProtoSrcPort]
  | .dstPort => [ctaTupleOrig, ctaTupleProto, ctaProtoDstPort]
  | .postNatSrcIp => [ctaTupleReply, ctaTupleIp, ctaIpV4Dst]
  | .postNatSrcPort => [ctaTupleReply, ctaTupleProto, ctaProtoDstPort]
  | .postNatDstIp => [ctaTupleReply, ctaTupleIp, ctaIpV4Src]
  | .postNatDstPort => [ctaTupleReply, ctaTupleProto, ctaProtoSrcPort]
  | .origBytes => [ctaCountersOrig, ctaCountersBytes]
  | .origPackets => [ctaCountersOrig, ctaCountersPackets]
  | .replyBytes => [ctaCountersReply, ctaCountersBytes]
  | .replyPackets => [ctaCountersReply, ctaCountersPackets]

def width : Part → Nat
  | .status => 4
  | .protocol => 1
  | .srcIp | .dstIp | .postNatSrcIp | .postNatDstIp => 4
  | .srcPort | .dstPort | .postNatSrcPort | .postNatDstPort => 2
  | .origBytes | .origPackets | .replyBytes | .replyPackets => 8

def addressOf (payload : List UInt8) : Ipv4Addr :=
  ⟨payload.getD 0 0, payload.getD 1 0, payload.getD 2 0, payload.getD 3 0⟩

def byteOf (payload : List UInt8) : UInt8 := payload.getD 0 0

def be16Of (payload : List UInt8) : UInt16 := UInt16.ofNat (beNat (payload.take 2))

def be32Of (payload : List UInt8) : UInt32 := UInt32.ofNat (beNat (payload.take 4))

def be64Of (payload : List UInt8) : UInt64 := UInt64.ofNat (beNat (payload.take 8))

/-- A field of the event, or its default if no attribute decides it. -/
def fieldOf (en : Endian) (data : List UInt8) (part : Part) (read : List UInt8 → β) (default : β) : β :=
  ((decided en (path part) (width part) data).map read).getD default

/-- The meaning of an attribute tree. -/
def referenceEvent (en : Endian) (natEvent : NatEventType) (data : List UInt8) :
    Option ConntrackEvent :=
  match decided en (path .status) (width .status) data with
  | none => none
  | some payload =>
    if be32Of payload &&& ipsSrcNat ≠ 0 ∨ be32Of payload &&& ipsDstNat ≠ 0 then
      some {
        natEvent
        protocol := fieldOf en data .protocol byteOf 0
        srcIp := fieldOf en data .srcIp addressOf unspecified
        dstIp := fieldOf en data .dstIp addressOf unspecified
        srcPort := fieldOf en data .srcPort be16Of 0
        dstPort := fieldOf en data .dstPort be16Of 0
        postNatSrcIp := fieldOf en data .postNatSrcIp addressOf unspecified
        postNatSrcPort := fieldOf en data .postNatSrcPort be16Of 0
        postNatDstIp := fieldOf en data .postNatDstIp addressOf unspecified
        postNatDstPort := fieldOf en data .postNatDstPort be16Of 0
        origBytes := fieldOf en data .origBytes be64Of 0
        origPackets := fieldOf en data .origPackets be64Of 0
        replyBytes := fieldOf en data .replyBytes be64Of 0
        replyPackets := fieldOf en data .replyPackets be64Of 0 }
    else none

theorem decidedAt_nil (en : Endian) (width : Nat) (data : List UInt8) :
    decidedAt en [] width data = if width ≤ data.length then some ([], data) else none := by
  by_cases h : width ≤ data.length <;> simp [decidedAt, locatedAt, h]

theorem map_getLast?_zipIdx {α γ : Type} (l : List α) (k : Nat) (f : α → Nat → Option γ)
    (g : α → Option β) (view : γ → β) (h : ∀ a i, (f a i).map view = g a) :
    (lastOf (fun p => f p.1 p.2) (l.zipIdx k)).map view = lastOf g l := by
  induction l generalizing k with
  | nil => rfl
  | cons a l ih =>
    rw [List.zipIdx_cons, lastOf_cons, lastOf_cons, ← ih (k + 1), ← h a k]
    cases lastOf (fun p : α × Nat => f p.1 p.2) (l.zipIdx (k + 1)) <;> rfl

/-- A field below a container is decided by the last such container that
decides it at all. -/
theorem decided_cons (en : Endian) (type : UInt16) (path : List UInt16) (width : Nat)
    (data : List UInt8) :
    decided en (type :: path) width data =
      lastOf (fun a => if a.1 = type then decided en path width a.2 else none)
        (attributes en data) := by
  rw [decided, decidedAt, locatedAt, List.filter_flatMap, getLast?_flatMap]
  refine map_getLast?_zipIdx _ 0 (fun (a : UInt16 × List UInt8) i => (List.filter (fun q => width ≤ q.2.length)
    (if a.1 = type then (locatedAt en path a.2).map (fun q => (i :: q.1, q.2)) else [])).getLast?)
    _ Prod.snd ?_
  intro a i
  by_cases h : a.1 = type
  · rw [if_pos h, if_pos h, decided, decidedAt, List.filter_map, List.getLast?_map, Option.map_map]
    rfl
  · rw [if_neg h, if_neg h]
    rfl

/-- An attribute of the given type with a long enough payload. -/
def leaf (type : UInt16) (width : Nat) (a : UInt16 × List UInt8) : Option (List UInt8) :=
  if a.1 = type ∧ width ≤ a.2.length then some a.2 else none

/-- What a container of the given type decides for a path below it. -/
def below (en : Endian) (type : UInt16) (path : List UInt16) (width : Nat)
    (a : UInt16 × List UInt8) : Option (List UInt8) :=
  if a.1 = type then decided en path width a.2 else none

theorem decided_leaf (en : Endian) (type : UInt16) (width : Nat) (data : List UInt8) :
    decided en [type] width data = lastOf (leaf type width) (attributes en data) := by
  rw [decided_cons]
  apply congrArg (fun pick => lastOf pick (attributes en data))
  funext a
  by_cases h : a.1 = type <;> by_cases hw : width ≤ a.2.length <;>
    simp [decided, decidedAt_nil, leaf, h, hw]

theorem readAddr_of_le {payload : List UInt8} (h : 4 ≤ payload.length) :
    readAddr payload = some (addressOf payload) := by
  match payload, h with
  | a :: b :: c :: d :: rest, _ => rfl

theorem readU16Be_of_le {payload : List UInt8} (h : 2 ≤ payload.length) :
    readU16Be payload = some (be16Of payload) := by
  simp [readU16Be, slice_of_le (Nat.zero_le 2) h, be16Of]

theorem readU32Be_of_le {payload : List UInt8} (h : 4 ≤ payload.length) :
    readU32Be payload = some (be32Of payload) := by
  simp [readU32Be, slice_of_le (Nat.zero_le 4) h, be32Of]

theorem readU64Be_of_le {payload : List UInt8} (h : 8 ≤ payload.length) :
    readU64Be payload = some (be64Of payload) := by
  simp [readU64Be, slice_of_le (Nat.zero_le 8) h, be64Of]

def overIp (l : List (UInt16 × List UInt8)) (t : Tuple) : Tuple :=
  { t with
    srcIp := overlaid (leaf ctaIpV4Src 4) addressOf l t.srcIp
    dstIp := overlaid (leaf ctaIpV4Dst 4) addressOf l t.dstIp }

theorem leaf_pos {type : UInt16} {width : Nat} {a : UInt16 × List UInt8}
    (h : a.1 = type ∧ width ≤ a.2.length) : leaf type width a = some a.2 := if_pos h

theorem leaf_neg {type : UInt16} {width : Nat} {a : UInt16 × List UInt8}
    (h : ¬ (a.1 = type ∧ width ≤ a.2.length)) : leaf type width a = none := if_neg h

/-- An attribute of one type is no leaf of another. -/
theorem leaf_other {type type' : UInt16} {width : Nat} {a : UInt16 × List UInt8}
    (h : a.1 = type) (hne : type ≠ type') : leaf type' width a = none :=
  leaf_neg (fun hh => hne (h.symm.trans hh.1))

theorem below_pos {en : Endian} {type : UInt16} {path : List UInt16} {width : Nat}
    {a : UInt16 × List UInt8} (h : a.1 = type) :
    below en type path width a = decided en path width a.2 := if_pos h

theorem below_neg {en : Endian} {type : UInt16} {path : List UInt16} {width : Nat}
    {a : UInt16 × List UInt8} (h : a.1 ≠ type) : below en type path width a = none := if_neg h

theorem visitTupleIp_eq (t : Tuple) (a : UInt16 × List UInt8) :
    visitTupleIp t a = some (overIp [a] t) := by
  simp only [overIp, overlaid_cons, overlaid_nil]
  by_cases hs : a.1 = ctaIpV4Src ∧ 4 ≤ a.2.length
  · rw [visitTupleIp, if_pos hs, leaf_pos hs, leaf_other hs.1 (by decide), readAddr_of_le hs.2]
    rfl
  · rw [visitTupleIp, if_neg hs, leaf_neg hs]
    by_cases hd : a.1 = ctaIpV4Dst ∧ 4 ≤ a.2.length
    · rw [if_pos hd, leaf_pos hd, readAddr_of_le hd.2]
      rfl
    · rw [if_neg hd, leaf_neg hd]
      rfl

theorem parseTupleIp_eq (en : Endian) (data : List UInt8) (t : Tuple) :
    parseTupleIp en data t = some (overIp (attributes en data) t) := by
  rw [parseTupleIp, walkNlas_eq]
  refine foldlM_overlay (fun t => rfl) ?_ _ _
  intro a l t
  refine ⟨_, visitTupleIp_eq t a, ?_⟩
  simp only [overIp, overlaid_cons, overlaid_nil]

def overProto (l : List (UInt16 × List UInt8)) (t : Tuple) : Tuple :=
  { t with
    protocol := overlaid (leaf ctaProtoNum 1) byteOf l t.protocol
    srcPort := overlaid (leaf ctaProtoSrcPort 2) be16Of l t.srcPort
    dstPort := overlaid (leaf ctaProtoDstPort 2) be16Of l t.dstPort }

theorem visitTupleProto_eq (t : Tuple) (a : UInt16 × List UInt8) :
    visitTupleProto t a = some (overProto [a] t) := by
  have hiff : (a.1 = ctaProtoNum ∧ ¬ a.2.isEmpty) ↔ (a.1 = ctaProtoNum ∧ 1 ≤ a.2.length) := by
    cases a.2 <;> simp
  simp only [overProto, overlaid_cons, overlaid_nil]
  by_cases hp : a.1 = ctaProtoNum ∧ 1 ≤ a.2.length
  · have hbyte : a.2[0]? = some (byteOf a.2) := by
      match ha : a.2, hp.2 with
      | b :: rest, _ => rfl
    rw [visitTupleProto, if_pos (hiff.mpr hp), leaf_pos hp, leaf_other hp.1 (by decide),
      leaf_other hp.1 (by decide), hbyte]
    rfl
  · rw [visitTupleProto, if_neg (fun h => hp (hiff.mp h)), leaf_neg hp]
    by_cases hs : a.1 = ctaProtoSrcPort ∧ 2 ≤ a.2.length
    · rw [if_pos hs, leaf_pos hs, leaf_other hs.1 (by decide), readU16Be_of_le hs.2]
      rfl
    · rw [if_neg hs, leaf_neg hs]
      by_cases hd : a.1 = ctaProtoDstPort ∧ 2 ≤ a.2.length
      · rw [if_pos hd, leaf_pos hd, readU16Be_of_le hd.2]
        rfl
      · rw [if_neg hd, leaf_neg hd]
        rfl

theorem parseTupleProto_eq (en : Endian) (data : List UInt8) (t : Tuple) :
    parseTupleProto en data t = some (overProto (attributes en data) t) := by
  rw [parseTupleProto, walkNlas_eq]
  refine foldlM_overlay (fun t => rfl) ?_ _ _
  intro a l t
  refine ⟨_, visitTupleProto_eq t a, ?_⟩
  simp only [overProto, overlaid_cons, overlaid_nil]

def overTuple (en : Endian) (l : List (UInt16 × List UInt8)) (t : Tuple) : Tuple where
  srcIp := overlaid (below en ctaTupleIp [ctaIpV4Src] 4) addressOf l t.srcIp
  dstIp := overlaid (below en ctaTupleIp [ctaIpV4Dst] 4) addressOf l t.dstIp
  protocol := overlaid (below en ctaTupleProto [ctaProtoNum] 1) byteOf l t.protocol
  srcPort := overlaid (below en ctaTupleProto [ctaProtoSrcPort] 2) be16Of l t.srcPort
  dstPort := overlaid (below en ctaTupleProto [ctaProtoDstPort] 2) be16Of l t.dstPort

theorem visitTuple_eq (en : Endian) (t : Tuple) (a : UInt16 × List UInt8) :
    visitTuple en t a = some (overTuple en [a] t) := by
  simp only [overTuple, overlaid_cons, overlaid_nil]
  by_cases hi : a.1 = ctaTupleIp
  · have hp : a.1 ≠ ctaTupleProto := fun h => absurd (hi.symm.trans h) (by decide)
    rw [visitTuple, if_pos hi, parseTupleIp_eq]
    simp only [below_pos hi, below_neg hp, decided_leaf]
    rfl
  · rw [visitTuple, if_neg hi]
    by_cases hp : a.1 = ctaTupleProto
    · rw [if_pos hp, parseTupleProto_eq]
      simp only [below_pos hp, below_neg hi, decided_leaf]
      rfl
    · rw [if_neg hp]
      simp only [below_neg hp, below_neg hi]
      rfl

theorem parseTuple_eq (en : Endian) (data : List UInt8) (t : Tuple) :
    parseTuple en data t = some (overTuple en (attributes en data) t) := by
  rw [parseTuple, walkNlas_eq]
  refine foldlM_overlay (fun t => rfl) ?_ _ _
  intro a l t
  refine ⟨_, visitTuple_eq en t a, ?_⟩
  simp only [overTuple, overlaid_cons, overlaid_nil]

def overCounters (l : List (UInt16 × List UInt8)) (c : Counters) : Counters where
  bytes := overlaid (leaf ctaCountersBytes 8) be64Of l c.bytes
  packets := overlaid (leaf ctaCountersPackets 8) be64Of l c.packets

theorem visitCounters_eq (c : Counters) (a : UInt16 × List UInt8) :
    visitCounters c a = some (overCounters [a] c) := by
  simp only [overCounters, overlaid_cons, overlaid_nil]
  by_cases hp : a.1 = ctaCountersPackets ∧ 8 ≤ a.2.length
  · rw [visitCounters, if_pos hp, leaf_pos hp, leaf_other hp.1 (by decide), readU64Be_of_le hp.2]
    rfl
  · rw [visitCounters, if_neg hp, leaf_neg hp]
    by_cases hb : a.1 = ctaCountersBytes ∧ 8 ≤ a.2.length
    · rw [if_pos hb, leaf_pos hb, readU64Be_of_le hb.2]
      rfl
    · rw [if_neg hb, leaf_neg hb]
      rfl

theorem parseCounters_eq (en : Endian) (data : List UInt8) (c : Counters) :
    parseCounters en data c = some (overCounters (attributes en data) c) := by
  rw [parseCounters, walkNlas_eq]
  refine foldlM_overlay (fun c => rfl) ?_ _ _
  intro a l c
  refine ⟨_, visitCounters_eq c a, ?_⟩
  simp only [overCounters, overlaid_cons, overlaid_nil]

theorem decided_below (en : Endian) (type : UInt16) (path : List UInt16) (width : Nat)
    (data : List UInt8) :
    decided en (type :: path) width data =
      lastOf (below en type path width) (attributes en data) :=
  decided_cons en type path width data

def overTree (en : Endian) (l : List (UInt16 × List UInt8)) (s : Locals) : Locals where
  srcIp := overlaid (below en ctaTupleOrig [ctaTupleIp, ctaIpV4Src] 4) addressOf l s.srcIp
  dstIp := overlaid (below en ctaTupleOrig [ctaTupleIp, ctaIpV4Dst] 4) addressOf l s.dstIp
  protocol := overlaid (below en ctaTupleOrig [ctaTupleProto, ctaProtoNum] 1) byteOf l s.protocol
  srcPort := overlaid (below en ctaTupleOrig [ctaTupleProto, ctaProtoSrcPort] 2) be16Of l s.srcPort
  dstPort := overlaid (below en ctaTupleOrig [ctaTupleProto, ctaProtoDstPort] 2) be16Of l s.dstPort
  postNatSrcIp :=
    overlaid (below en ctaTupleReply [ctaTupleIp, ctaIpV4Dst] 4) addressOf l s.postNatSrcIp
  postNatSrcPort :=
    overlaid (below en ctaTupleReply [ctaTupleProto, ctaProtoDstPort] 2) be16Of l s.postNatSrcPort
  postNatDstIp :=
    overlaid (below en ctaTupleReply [ctaTupleIp, ctaIpV4Src] 4) addressOf l s.postNatDstIp
  postNatDstPort :=
    overlaid (below en ctaTupleReply [ctaTupleProto, ctaProtoSrcPort] 2) be16Of l s.postNatDstPort
  status := overlaid (leaf ctaStatus 4) be32Of l s.status
  origBytes := overlaid (below en ctaCountersOrig [ctaCountersBytes] 8) be64Of l s.origBytes
  origPackets := overlaid (below en ctaCountersOrig [ctaCountersPackets] 8) be64Of l s.origPackets
  replyBytes := overlaid (below en ctaCountersReply [ctaCountersBytes] 8) be64Of l s.replyBytes
  replyPackets := overlaid (below en ctaCountersReply [ctaCountersPackets] 8) be64Of l s.replyPackets
  hasStatus := overlaid (leaf ctaStatus 4) (fun _ => true) l s.hasStatus

theorem ne_of_type {a : UInt16 × List UInt8} {type type' : UInt16} (h : a.1 = type)
    (hne : type ≠ type') : a.1 ≠ type' := fun h' => hne (h.symm.trans h')

theorem visitTree_eq (en : Endian) (s : Locals) (a : UInt16 × List UInt8) :
    visitTree en s a = some (overTree en [a] s) := by
  simp only [overTree, overlaid_cons, overlaid_nil]
  by_cases ho : a.1 = ctaTupleOrig
  · have hr : a.1 ≠ ctaTupleReply := ne_of_type ho (by decide)
    have hco : a.1 ≠ ctaCountersOrig := ne_of_type ho (by decide)
    have hcr : a.1 ≠ ctaCountersReply := ne_of_type ho (by decide)
    rw [visitTree, if_pos ho, parseTuple_eq, leaf_other ho (by decide)]
    simp only [below_pos ho, below_neg hr, below_neg hco, below_neg hcr, decided_below]
    rfl
  rw [visitTree, if_neg ho]
  by_cases hr : a.1 = ctaTupleReply
  · have hco : a.1 ≠ ctaCountersOrig := ne_of_type hr (by decide)
    have hcr : a.1 ≠ ctaCountersReply := ne_of_type hr (by decide)
    rw [if_pos hr, parseTuple_eq, leaf_other hr (by decide)]
    simp only [below_neg ho, below_pos hr, below_neg hco, below_neg hcr, decided_below]
    rfl
  rw [if_neg hr]
  by_cases hs : a.1 = ctaStatus
  · have hco : a.1 ≠ ctaCountersOrig := ne_of_type hs (by decide)
    have hcr : a.1 ≠ ctaCountersReply := ne_of_type hs (by decide)
    simp only [if_pos hs, below_neg ho, below_neg hr, below_neg hco, below_neg hcr]
    by_cases hw : 4 ≤ a.2.length
    · rw [if_pos hw, leaf_pos ⟨hs, hw⟩, readU32Be_of_le hw]
      rfl
    · rw [if_neg hw, leaf_neg (fun h => hw h.2)]
      rfl
  rw [if_neg hs, leaf_neg (fun h => hs h.1)]
  by_cases hco : a.1 = ctaCountersOrig
  · have hcr : a.1 ≠ ctaCountersReply := ne_of_type hco (by decide)
    rw [if_pos hco, parseCounters_eq]
    simp only [below_neg ho, below_neg hr, below_pos hco, below_neg hcr, decided_leaf]
    rfl
  rw [if_neg hco]
  by_cases hcr : a.1 = ctaCountersReply
  · rw [if_pos hcr, parseCounters_eq]
    simp only [below_neg ho, below_neg hr, below_neg hco, below_pos hcr, decided_leaf]
    rfl
  · rw [if_neg hcr]
    simp only [below_neg ho, below_neg hr, below_neg hco, below_neg hcr]
    rfl

theorem walk_tree (en : Endian) (data : List UInt8) :
    walkNlas en (visitTree en) data initialLocals =
      some (overTree en (attributes en data) initialLocals) := by
  rw [walkNlas_eq]
  refine foldlM_overlay (fun s => rfl) ?_ _ _
  intro a l s
  refine ⟨_, visitTree_eq en s a, ?_⟩
  simp only [overTree, overlaid_cons, overlaid_nil]

theorem and_ipsNatMask (status : UInt32) :
    status &&& ipsNatMask = 0 ↔ ¬ (status &&& ipsSrcNat ≠ 0 ∨ status &&& ipsDstNat ≠ 0) := by
  have hdistrib : status &&& ipsNatMask = (status &&& ipsSrcNat) ||| (status &&& ipsDstNat) :=
    UInt32.toBitVec_inj.mp BitVec.and_or_distrib_left
  rw [hdistrib, UInt32.or_eq_zero_iff]
  constructor
  · rintro ⟨hs, hd⟩ (h | h)
    · exact h hs
    · exact h hd
  · intro h
    exact ⟨by_contra (fun hs => h (Or.inl hs)), by_contra (fun hd => h (Or.inr hd))⟩

theorem parseNlaTree_eq (en : Endian) (natEvent : NatEventType) (data : List UInt8) :
    parseNlaTree en natEvent data = some (referenceEvent en natEvent data) := by
  rw [parseNlaTree, walk_tree]
  change (if !(overTree en (attributes en data) initialLocals).hasStatus ∨
    (overTree en (attributes en data) initialLocals).status &&& ipsNatMask = 0 then some none
    else _) = _
  have hstatus : decided en (path .status) (width .status) data =
      lastOf (leaf ctaStatus 4) (attributes en data) := decided_leaf en ctaStatus 4 data
  rw [referenceEvent, hstatus]
  cases hl : lastOf (leaf ctaStatus 4) (attributes en data) with
  | none =>
    refine if_pos (Or.inl ?_)
    simp [overTree, overlaid, hl, initialLocals]
  | some payload =>
    have hval : (overTree en (attributes en data) initialLocals).status = be32Of payload := by
      simp [overTree, overlaid, hl]
    have hhas : (overTree en (attributes en data) initialLocals).hasStatus = true := by
      simp [overTree, overlaid, hl]
    rw [hval, hhas]
    by_cases hn : be32Of payload &&& ipsSrcNat ≠ 0 ∨ be32Of payload &&& ipsDstNat ≠ 0
    · have hmask : ¬ ((!true) = true ∨ be32Of payload &&& ipsNatMask = 0) := by
        rintro (h | h)
        · cases h
        · exact (and_ipsNatMask _).mp h hn
      rw [if_neg hmask]
      simp only [if_pos hn, fieldOf, path, width, decided_below en ctaTupleOrig,
        decided_below en ctaTupleReply, decided_below en ctaCountersOrig,
        decided_below en ctaCountersReply]
      rfl
    · rw [if_pos (Or.inr ((and_ipsNatMask _).mpr hn))]
      simp only [if_neg hn]

end NatStream.Netlink.Reference
