import NatStream.Events
import NatStream.Lib.Frames
import NatStream.Lib.Slice

namespace NatStream.Netlink.Parsers

open NatStream.Lib.Bytes NatStream.Lib.Slice NatStream.Lib.Frames NatStream.Events

variable {σ : Type}

def nfprotoIpv4 : UInt8 := 2
def nfnlSubsysCtnetlink : UInt16 := 1
def nlmsgMinType : UInt16 := 0x10
def ipctnlMsgCtNew : UInt8 := 0
def ipctnlMsgCtDelete : UInt8 := 2

def ctaTupleOrig : UInt16 := 1
def ctaTupleReply : UInt16 := 2
def ctaStatus : UInt16 := 3
def ctaCountersOrig : UInt16 := 9
def ctaCountersReply : UInt16 := 10
def ctaTupleIp : UInt16 := 1
def ctaTupleProto : UInt16 := 2
def ctaIpV4Src : UInt16 := 1
def ctaIpV4Dst : UInt16 := 2
def ctaProtoNum : UInt16 := 1
def ctaProtoSrcPort : UInt16 := 2
def ctaProtoDstPort : UInt16 := 3
def ctaCountersPackets : UInt16 := 1
def ctaCountersBytes : UInt16 := 2

def ipsSrcNat : UInt32 := (1 : UInt32) <<< 4
def ipsDstNat : UInt32 := (1 : UInt32) <<< 5
def ipsNatMask : UInt32 := ipsSrcNat ||| ipsDstNat

def nlaAlignto : Nat := 4
def nlaTypeMask : UInt16 := 0x3FFF
def nlmsgHdrlen : Nat := 16
def nfgenmsgLen : Nat := 4
def nlaHdrlen : Nat := 4

def readU16 (en : Endian) (data : List UInt8) : Option UInt16 := do
  let bytes ← slice data 0 2
  return UInt16.ofNat (neNat en bytes)

def readU32 (en : Endian) (data : List UInt8) : Option UInt32 := do
  let bytes ← slice data 0 4
  return UInt32.ofNat (neNat en bytes)

def readU16Be (data : List UInt8) : Option UInt16 := do
  let bytes ← slice data 0 2
  return UInt16.ofNat (beNat bytes)

def readU32Be (data : List UInt8) : Option UInt32 := do
  let bytes ← slice data 0 4
  return UInt32.ofNat (beNat bytes)

def readU64Be (data : List UInt8) : Option UInt64 := do
  let bytes ← slice data 0 8
  return UInt64.ofNat (beNat bytes)

def readAddr (data : List UInt8) : Option Ipv4Addr := do
  return ⟨← data[0]?, ← data[1]?, ← data[2]?, ← data[3]?⟩

/-- Clearing the two low bits is clearing the remainder modulo four. -/
def nlaAlign (len : Nat) : Nat := roundUp nlaAlignto len

theorem lt_nlaAlign {offset len : Nat} (h : nlaHdrlen ≤ len) : offset < nlaAlign (offset + len) := by
  have hle : offset + len ≤ nlaAlign (offset + len) := le_roundUp (by decide) _
  simp only [nlaHdrlen] at h
  omega

/-- The head of each of the five attribute loops: the type and payload of the
attribute at `offset`, and where the next one starts. -/
def nextNla (en : Endian) (data : List UInt8) (offset : Nat) :
    Option (Option ((UInt16 × List UInt8) × Nat)) :=
  if offset + nlaHdrlen ≤ data.length then do
    let nlaLen := (← readU16 en (← sliceFrom data offset)).toNat
    let nlaType := (← readU16 en (← sliceFrom data (offset + 2))) &&& nlaTypeMask
    if nlaLen < nlaHdrlen ∨ offset + nlaLen > data.length then return none
    else
      let payload ← slice data (offset + nlaHdrlen) (offset + nlaLen)
      return some ((nlaType, payload), nlaAlign (offset + nlaLen))
  else some none

theorem nextNla_forward {en : Endian} {data : List UInt8} {offset offset' : Nat}
    {a : UInt16 × List UInt8} (h : nextNla en data offset = some (some (a, offset'))) :
    offset < offset' ∧ offset < data.length := by
  by_cases hh : offset + nlaHdrlen ≤ data.length
  · rw [nextNla, if_pos hh] at h
    simp only [Option.bind_eq_bind, Option.bind_eq_some_iff, Option.pure_def] at h
    obtain ⟨d, -, len, -, d', -, ty, -, h⟩ := h
    by_cases hl : len.toNat < nlaHdrlen ∨ offset + len.toNat > data.length
    · rw [if_pos hl] at h
      cases h
    · rw [if_neg hl] at h
      obtain ⟨payload, -, h⟩ := Option.bind_eq_some_iff.mp h
      cases h
      have hlt : offset < nlaAlign (offset + len.toNat) := lt_nlaAlign (by omega)
      simp only [nlaHdrlen] at hh
      exact ⟨hlt, by omega⟩
  · rw [nextNla, if_neg hh] at h
    cases h

def nlaWalker (en : Endian) (data : List UInt8) : Walker (UInt16 × List UInt8) where
  limit := data.length
  next := nextNla en data
  forward := nextNla_forward

/-- The attribute loop, with what is done for each attribute as a parameter. -/
def walkNlas (en : Endian) (visit : σ → UInt16 × List UInt8 → Option σ) (data : List UInt8) (s : σ) :
    Option σ :=
  scan (nlaWalker en data) visit 0 s

/-- The five places a tuple is parsed into. -/
structure Tuple where
  srcIp : Ipv4Addr
  dstIp : Ipv4Addr
  protocol : UInt8
  srcPort : UInt16
  dstPort : UInt16
  deriving DecidableEq, Repr

structure Counters where
  bytes : UInt64
  packets : UInt64
  deriving DecidableEq, Repr

def visitTupleIp (t : Tuple) (a : UInt16 × List UInt8) : Option Tuple :=
  if a.1 = ctaIpV4Src ∧ a.2.length ≥ 4 then do return { t with srcIp := ← readAddr a.2 }
  else if a.1 = ctaIpV4Dst ∧ a.2.length ≥ 4 then do return { t with dstIp := ← readAddr a.2 }
  else some t

def parseTupleIp (en : Endian) (data : List UInt8) (t : Tuple) : Option Tuple :=
  walkNlas en visitTupleIp data t

def visitTupleProto (t : Tuple) (a : UInt16 × List UInt8) : Option Tuple :=
  if a.1 = ctaProtoNum ∧ ¬ a.2.isEmpty then do return { t with protocol := ← a.2[0]? }
  else if a.1 = ctaProtoSrcPort ∧ a.2.length ≥ 2 then do return { t with srcPort := ← readU16Be a.2 }
  else if a.1 = ctaProtoDstPort ∧ a.2.length ≥ 2 then do return { t with dstPort := ← readU16Be a.2 }
  else some t

def parseTupleProto (en : Endian) (data : List UInt8) (t : Tuple) : Option Tuple :=
  walkNlas en visitTupleProto data t

def visitTuple (en : Endian) (t : Tuple) (a : UInt16 × List UInt8) : Option Tuple :=
  if a.1 = ctaTupleIp then parseTupleIp en a.2 t
  else if a.1 = ctaTupleProto then parseTupleProto en a.2 t
  else some t

def parseTuple (en : Endian) (data : List UInt8) (t : Tuple) : Option Tuple :=
  walkNlas en (visitTuple en) data t

def visitCounters (c : Counters) (a : UInt16 × List UInt8) : Option Counters :=
  if a.1 = ctaCountersPackets ∧ a.2.length ≥ 8 then do return { c with packets := ← readU64Be a.2 }
  else if a.1 = ctaCountersBytes ∧ a.2.length ≥ 8 then do return { c with bytes := ← readU64Be a.2 }
  else some c

def parseCounters (en : Endian) (data : List UInt8) (c : Counters) : Option Counters :=
  walkNlas en visitCounters data c

/-- The local variables of `parseNlaTree`. -/
structure Locals where
  srcIp : Ipv4Addr
  dstIp : Ipv4Addr
  protocol : UInt8
  srcPort : UInt16
  dstPort : UInt16
  postNatSrcIp : Ipv4Addr
  postNatSrcPort : UInt16
  postNatDstIp : Ipv4Addr
  postNatDstPort : UInt16
  status : UInt32
  origBytes : UInt64
  origPackets : UInt64
  replyBytes : UInt64
  replyPackets : UInt64
  hasStatus : Bool
  deriving DecidableEq, Repr

def initialLocals : Locals :=
  ⟨unspecified, unspecified, 0, 0, 0, unspecified, 0, unspecified, 0, 0, 0, 0, 0, 0, false⟩

/-- The reply tuple is the original one with both translations applied and
the direction swapped, so its source is stored as the translated destination
and the other way round. Its protocol goes nowhere. -/
def visitTree (en : Endian) (l : Locals) (a : UInt16 × List UInt8) : Option Locals :=
  if a.1 = ctaTupleOrig then do
    let t ← parseTuple en a.2 ⟨l.srcIp, l.dstIp, l.protocol, l.srcPort, l.dstPort⟩
    return { l with
      srcIp := t.srcIp
      dstIp := t.dstIp
      protocol := t.protocol
      srcPort := t.srcPort
      dstPort := t.dstPort }
  else if a.1 = ctaTupleReply then do
    let t ← parseTuple en a.2 ⟨l.postNatDstIp, l.postNatSrcIp, 0, l.postNatDstPort, l.postNatSrcPort⟩
    return { l with
      postNatDstIp := t.srcIp
      postNatSrcIp := t.dstIp
      postNatDstPort := t.srcPort
      postNatSrcPort := t.dstPort }
  else if a.1 = ctaStatus then
    if a.2.length ≥ 4 then do return { l with status := ← readU32Be a.2, hasStatus := true }
    else some l
  else if a.1 = ctaCountersOrig then do
    let c ← parseCounters en a.2 ⟨l.origBytes, l.origPackets⟩
    return { l with origBytes := c.bytes, origPackets := c.packets }
  else if a.1 = ctaCountersReply then do
    let c ← parseCounters en a.2 ⟨l.replyBytes, l.replyPackets⟩
    return { l with replyBytes := c.bytes, replyPackets := c.packets }
  else some l

def parseNlaTree (en : Endian) (natEvent : NatEventType) (data : List UInt8) :
    Option (Option ConntrackEvent) := do
  let l ← walkNlas en (visitTree en) data initialLocals
  if !l.hasStatus ∨ l.status &&& ipsNatMask = 0 then return none
  else
    return some ⟨natEvent, l.protocol, l.srcIp, l.dstIp, l.srcPort, l.dstPort, l.postNatSrcIp,
      l.postNatSrcPort, l.postNatDstIp, l.postNatDstPort, l.origBytes, l.origPackets, l.replyBytes,
      l.replyPackets⟩

/-- What the message loop makes of the message that starts at `offset` and is
`nlmsgLen` long. -/
def parseMessage (en : Endian) (buf : List UInt8) (offset nlmsgLen : Nat) (nlmsgType : UInt16) :
    Option (Option ConntrackEvent) :=
  if nlmsgType < nlmsgMinType ∨ nlmsgType >>> 8 ≠ nfnlSubsysCtnetlink then some none
  else
    let msgType := (nlmsgType &&& 0xFF).toUInt8
    match if msgType = ipctnlMsgCtNew then some NatEventType.create
      else if msgType = ipctnlMsgCtDelete then some NatEventType.delete else none with
    | none => some none
    | some natEvent => do
      let nfgenFamily ← buf[offset + nlmsgHdrlen]?
      if nfgenFamily ≠ nfprotoIpv4 then return none
      else
        let attributes ← slice buf (offset + nlmsgHdrlen + nfgenmsgLen) (offset + nlmsgLen)
        parseNlaTree en natEvent attributes

/-- The head of the message loop: what the message at `offset` reports and
where the next one starts. -/
def nextMessage (en : Endian) (buf : List UInt8) (offset : Nat) :
    Option (Option (Option ConntrackEvent × Nat)) :=
  if offset + nlmsgHdrlen ≤ buf.length then do
    let nlmsgLen := (← readU32 en (← sliceFrom buf offset)).toNat
    let nlmsgType ← readU16 en (← sliceFrom buf (offset + 4))
    if nlmsgLen < nlmsgHdrlen + nfgenmsgLen ∨ offset + nlmsgLen > buf.length then return none
    else
      let event ← parseMessage en buf offset nlmsgLen nlmsgType
      return some (event, nlaAlign (offset + nlmsgLen))
  else some none

theorem nextMessage_forward {en : Endian} {buf : List UInt8} {offset offset' : Nat}
    {a : Option ConntrackEvent} (h : nextMessage en buf offset = some (some (a, offset'))) :
    offset < offset' ∧ offset < buf.length := by
  by_cases hh : offset + nlmsgHdrlen ≤ buf.length
  · rw [nextMessage, if_pos hh] at h
    simp only [Option.bind_eq_bind, Option.bind_eq_some_iff, Option.pure_def] at h
    obtain ⟨d, -, len, -, d', -, ty, -, h⟩ := h
    by_cases hl : len.toNat < nlmsgHdrlen + nfgenmsgLen ∨ offset + len.toNat > buf.length
    · rw [if_pos hl] at h
      cases h
    · rw [if_neg hl] at h
      obtain ⟨event, -, h⟩ := Option.bind_eq_some_iff.mp h
      cases h
      simp only [nlmsgHdrlen, nfgenmsgLen] at hh hl
      have hlt : offset < nlaAlign (offset + len.toNat) :=
        lt_nlaAlign (by simp only [nlaHdrlen]; omega)
      exact ⟨hlt, by omega⟩
  · rw [nextMessage, if_neg hh] at h
    cases h

def messageWalker (en : Endian) (buf : List UInt8) : Walker (Option ConntrackEvent) where
  limit := buf.length
  next := nextMessage en buf
  forward := nextMessage_forward

/-- Parse all conntrack messages of a receive buffer, calling back for each
NAT event. The callback is a step on a state, and may fail. -/
def parseConntrackMessages (en : Endian) (buf : List UInt8) (callback : σ → ConntrackEvent → Option σ)
    (s : σ) : Option σ :=
  scan (messageWalker en buf) (fun s event => match event with
    | some event => callback s event
    | none => some s) 0 s

end NatStream.Netlink.Parsers
