import NatStream.Events

namespace NatStream.Export.Templates

def ipfixVersion : UInt16 := 10
def ipfixHeaderLen : Nat := 16
def ipfixTemplateSetId : UInt16 := 2
def netflow9Version : UInt16 := 9
def netflow9HeaderLen : Nat := 20
def netflow9TemplateFlowsetId : UInt16 := 0
def netflow9Alignment : Nat := 4
def v9OutBytes : UInt16 := 23
def v9OutPkts : UInt16 := 24
def setHeaderLen : Nat := 4
def fieldSpecifierLen : Nat := 4
def enterpriseNumberLen : Nat := 4
def enterpriseBit : UInt16 := 0x8000
def maxMsgSize : Nat := 1472
def minTemplateId : UInt16 := 256
def reverseInformationElementPen : UInt32 := 29305

def ieOctetDeltaCount : UInt16 := 1
def iePacketDeltaCount : UInt16 := 2
def ieProtocolIdentifier : UInt16 := 4
def ieSourceTransportPort : UInt16 := 7
def ieSourceIpv4Address : UInt16 := 8
def ieDestinationTransportPort : UInt16 := 11
def ieDestinationIpv4Address : UInt16 := 12
def iePostNatSourceIpv4Address : UInt16 := 225
def iePostNatDestinationIpv4Address : UInt16 := 226
def iePostNaptSourceTransportPort : UInt16 := 227
def iePostNaptDestinationTransportPort : UInt16 := 228
def ieNatEvent : UInt16 := 230

/-- Which value of a conntrack event a field carries. -/
inductive FieldSource where
  | natEvent
  | protocol
  | srcIp
  | dstIp
  | srcPort
  | dstPort
  | postNatSrcIp
  | postNatSrcPort
  | postNatDstIp
  | postNatDstPort
  | origBytes
  | origPackets
  | replyBytes
  | replyPackets
  deriving DecidableEq, Repr

def naturalLen : FieldSource → Option UInt16
  | .natEvent | .protocol => some 1
  | .srcPort | .dstPort | .postNatSrcPort | .postNatDstPort => some 2
  | .srcIp | .dstIp | .postNatSrcIp | .postNatDstIp => some 4
  | .origBytes | .origPackets | .replyBytes | .replyPackets => none

structure Element where
  id : UInt16
  pen : Option UInt32
  deriving DecidableEq, Repr

def ie (id : UInt16) : Element := ⟨id, none⟩

def reverseIe (id : UInt16) : Element := ⟨id, some reverseInformationElementPen⟩

inductive Width where
  | fixed (n : UInt16)
  | counter
  deriving DecidableEq, Repr

structure FieldShape where
  source : FieldSource
  ipfix : Element
  width : Width
  deriving DecidableEq, Repr

def profileFull : List FieldShape := [
  ⟨.natEvent, ie ieNatEvent, .fixed 1⟩,
  ⟨.protocol, ie ieProtocolIdentifier, .fixed 1⟩,
  ⟨.srcIp, ie ieSourceIpv4Address, .fixed 4⟩,
  ⟨.dstIp, ie ieDestinationIpv4Address, .fixed 4⟩,
  ⟨.srcPort, ie ieSourceTransportPort, .fixed 2⟩,
  ⟨.dstPort, ie ieDestinationTransportPort, .fixed 2⟩,
  ⟨.postNatSrcIp, ie iePostNatSourceIpv4Address, .fixed 4⟩,
  ⟨.postNatSrcPort, ie iePostNaptSourceTransportPort, .fixed 2⟩,
  ⟨.postNatDstIp, ie iePostNatDestinationIpv4Address, .fixed 4⟩,
  ⟨.postNatDstPort, ie iePostNaptDestinationTransportPort, .fixed 2⟩,
  ⟨.origBytes, ie ieOctetDeltaCount, .counter⟩,
  ⟨.origPackets, ie iePacketDeltaCount, .counter⟩,
  ⟨.replyBytes, reverseIe ieOctetDeltaCount, .counter⟩,
  ⟨.replyPackets, reverseIe iePacketDeltaCount, .counter⟩]

def profileNatSource : List FieldShape := [
  ⟨.natEvent, ie ieNatEvent, .fixed 1⟩,
  ⟨.protocol, ie ieProtocolIdentifier, .fixed 1⟩,
  ⟨.srcIp, ie ieSourceIpv4Address, .fixed 4⟩,
  ⟨.dstIp, ie ieDestinationIpv4Address, .fixed 4⟩,
  ⟨.srcPort, ie ieSourceTransportPort, .fixed 2⟩,
  ⟨.dstPort, ie ieDestinationTransportPort, .fixed 2⟩,
  ⟨.postNatSrcIp, ie iePostNatSourceIpv4Address, .fixed 4⟩,
  ⟨.postNatSrcPort, ie iePostNaptSourceTransportPort, .fixed 2⟩,
  ⟨.origBytes, ie ieOctetDeltaCount, .counter⟩,
  ⟨.origPackets, ie iePacketDeltaCount, .counter⟩,
  ⟨.replyBytes, reverseIe ieOctetDeltaCount, .counter⟩,
  ⟨.replyPackets, reverseIe iePacketDeltaCount, .counter⟩]

def profileFlowOnly : List FieldShape := [
  ⟨.protocol, ie ieProtocolIdentifier, .fixed 1⟩,
  ⟨.srcIp, ie ieSourceIpv4Address, .fixed 4⟩,
  ⟨.dstIp, ie ieDestinationIpv4Address, .fixed 4⟩,
  ⟨.srcPort, ie ieSourceTransportPort, .fixed 2⟩,
  ⟨.dstPort, ie ieDestinationTransportPort, .fixed 2⟩,
  ⟨.origBytes, ie ieOctetDeltaCount, .counter⟩,
  ⟨.origPackets, ie iePacketDeltaCount, .counter⟩,
  ⟨.replyBytes, reverseIe ieOctetDeltaCount, .counter⟩,
  ⟨.replyPackets, reverseIe iePacketDeltaCount, .counter⟩]

inductive Protocol where
  | ipfix
  | netflow9
  deriving DecidableEq, Repr

def version : Protocol → UInt16
  | .ipfix => ipfixVersion
  | .netflow9 => netflow9Version

def headerLen : Protocol → Nat
  | .ipfix => ipfixHeaderLen
  | .netflow9 => netflow9HeaderLen

def templateSetId : Protocol → UInt16
  | .ipfix => ipfixTemplateSetId
  | .netflow9 => netflow9TemplateFlowsetId

def supportsEnterprise : Protocol → Bool
  | .ipfix => true
  | .netflow9 => false

def setAlignment : Protocol → Nat
  | .ipfix => 1
  | .netflow9 => netflow9Alignment

/-- NetFlow v9 has no enterprise mechanism, so the reverse counters become the
dedicated outgoing types. Every other element keeps its number. -/
def netflow9Type (source : FieldSource) (ipfixId : UInt16) : UInt16 :=
  match source with
  | .replyBytes => v9OutBytes
  | .replyPackets => v9OutPkts
  | _ => ipfixId

inductive Profile where
  | full
  | natSource
  | flowOnly
  deriving DecidableEq, Repr

def shapes : Profile → List FieldShape
  | .full => profileFull
  | .natSource => profileNatSource
  | .flowOnly => profileFlowOnly

inductive CounterWidth where
  | four
  | eight
  deriving DecidableEq, Repr

def CounterWidth.bytes : CounterWidth → UInt16
  | .four => 4
  | .eight => 8

inductive ConfigError where
  | counterWidth (got : UInt8)
  | templateIdTooSmall (got : UInt16)
  | doesNotFit (recordSize setSize : Nat)
  deriving DecidableEq, Repr

def CounterWidth.fromBytes (bytes : UInt8) : Except ConfigError CounterWidth :=
  if bytes = 4 then .ok .four
  else if bytes = 8 then .ok .eight
  else .error (.counterWidth bytes)

structure ResolvedField where
  id : UInt16
  pen : Option UInt32
  length : UInt16
  source : FieldSource
  deriving DecidableEq, Repr

/-- A profile resolved against a counter width: the exact fields the encoder
writes and the template it advertises. -/
structure Template where
  fields : List ResolvedField
  recordSize : Nat
  templateId : UInt16
  protocol : Protocol
  profile : Profile
  counterWidth : CounterWidth
  deriving DecidableEq, Repr

def alignUp (value alignment : Nat) : Nat := (value + alignment - 1) / alignment * alignment

def specifierLen (f : ResolvedField) : Nat :=
  match f.pen with
  | some _ => fieldSpecifierLen + enterpriseNumberLen
  | none => fieldSpecifierLen

def setSize (t : Template) : Nat :=
  alignUp (setHeaderLen + 4 + (t.fields.map specifierLen).sum) (setAlignment t.protocol)

def dataSetSize (t : Template) (records : Nat) : Nat :=
  alignUp (setHeaderLen + records * t.recordSize) (setAlignment t.protocol)

/-- The count of fields as a 16-bit number; `none` is the failed conversion. -/
def fieldCount (t : Template) : Option UInt16 :=
  if t.fields.length < 65536 then some (UInt16.ofNat t.fields.length) else none

/-- The loop of `maxRecordsPerMessage`, for a number of rounds. A result `none`
says that it would go on, as it does for ever if a record takes no space. -/
def countRecords (t : Template) (budget : Nat) : Nat → Nat → Option Nat
  | 0, _ => none
  | rounds + 1, records =>
    if dataSetSize t (records + 1) ≤ budget then countRecords t budget rounds (records + 1)
    else some records

/-- Records that fit in a message that also carries the template. The budget
is a subtraction that must not go below zero. -/
def maxRecordsPerMessage (t : Template) : Option Nat :=
  if headerLen t.protocol + setSize t ≤ maxMsgSize then
    let budget := maxMsgSize - headerLen t.protocol - setSize t
    countRecords t budget (budget + 1) 0
  else none

def resolveField (protocol : Protocol) (width : CounterWidth) (shape : FieldShape) : ResolvedField :=
  let (id, pen) := match protocol with
    | .ipfix => (shape.ipfix.id, shape.ipfix.pen)
    | .netflow9 => (netflow9Type shape.source shape.ipfix.id, none)
  { id, pen, source := shape.source,
    length := match shape.width with
      | .fixed n => n
      | .counter => width.bytes }

def resolve (protocol : Protocol) (profile : Profile) (counterWidth : CounterWidth)
    (templateId : UInt16) : Except ConfigError Template :=
  if templateId < minTemplateId then .error (.templateIdTooSmall templateId)
  else
    let fields := (shapes profile).map (resolveField protocol counterWidth)
    let recordSize := (fields.map (fun f => f.length.toNat)).sum
    let template : Template := { fields, recordSize, templateId, protocol, profile, counterWidth }
    let smallestUseful := headerLen protocol + setSize template + dataSetSize template 1
    if smallestUseful > maxMsgSize then .error (.doesNotFit recordSize (setSize template))
    else .ok template

end NatStream.Export.Templates
