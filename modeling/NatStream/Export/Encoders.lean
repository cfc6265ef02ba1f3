import NatStream.Export.Records
import NatStream.Lib.Time

namespace NatStream.Export.Encoders

open NatStream.Lib.Bytes NatStream.Lib.Slice NatStream.Lib.ByteBuffer NatStream.Lib.Time
open NatStream.Events NatStream.Export.Templates NatStream.Export.Records

variable {n : Nat}

def putU16 (c : Cursor n) (value : UInt16) : Option (Cursor n) := put c (beBytes 2 value.toNat)

def putU32 (c : Cursor n) (value : UInt32) : Option (Cursor n) := put c (beBytes 4 value.toNat)

/-- Narrow a length to the 16-bit field both protocols carry it in; `none` is
the panic of a length that does not fit. -/
def messageLen (value : Nat) : Option UInt16 :=
  if value < 65536 then some (UInt16.ofNat value) else none

/-- One buffer, reused for every message. The clamp counter is a 64-bit
number in the program and is kept unbounded here. -/
structure Encoder where
  buf : Buffer maxMsgSize
  offset : Nat
  recordCount : UInt32
  dataSetOffset : Nat
  dataSetOpen : Bool
  templateIncluded : Bool
  sequenceNumber : UInt32
  observationDomainId : UInt32
  template : Template
  saturatedCounters : Nat
  started : Instant
  deriving DecidableEq

def newEncoder (observationDomainId : UInt32) (template : Template) (started : Instant) : Encoder where
  buf := zeroed maxMsgSize
  offset := 0
  recordCount := 0
  dataSetOffset := 0
  dataSetOpen := false
  templateIncluded := false
  sequenceNumber := 0
  observationDomainId
  template
  saturatedCounters := 0
  started

def cursor (e : Encoder) : Cursor maxMsgSize := ⟨e.buf, e.offset⟩

def moved (e : Encoder) (c : Cursor maxMsgSize) : Encoder := { e with buf := c.buf, offset := c.offset }

def padSet (e : Encoder) : Option Encoder := do
  let padded := alignUp e.offset (setAlignment e.template.protocol)
  let buf ← fill e.buf e.offset padded 0
  return { e with buf, offset := padded }

def writeSpecifier (protocol : Protocol) (c : Cursor n) (f : ResolvedField) : Option (Cursor n) :=
  match f.pen with
  | some pen => do
    check (supportsEnterprise protocol)
    let c ← putU16 c (f.id ||| enterpriseBit)
    let c ← putU16 c f.length
    putU32 c pen
  | none => do
    let c ← putU16 c f.id
    putU16 c f.length

/-- Set header, template record header and field specifiers. -/
def writeTemplateRecord (t : Template) (c : Cursor n) : Option (Cursor n) := do
  let c ← putU16 c (templateSetId t.protocol)
  let c ← putU16 c (← messageLen (setSize t))
  let c ← putU16 c t.templateId
  let c ← putU16 c (← fieldCount t)
  t.fields.foldlM (writeSpecifier t.protocol) c

def writeTemplateSet (e : Encoder) : Option Encoder := do
  let setStart := e.offset
  let c ← writeTemplateRecord e.template (cursor e)
  let e ← padSet (moved e c)
  check (e.offset - setStart = setSize e.template)
  return e

def reserveHeader (e : Encoder) (includeTemplate : Bool) : Encoder :=
  { e with
    recordCount := 0
    dataSetOpen := false
    templateIncluded := includeTemplate
    offset := headerLen e.template.protocol }

def beginMessage (e : Encoder) (includeTemplate : Bool) : Option Encoder :=
  let e := reserveHeader e includeTemplate
  if includeTemplate then writeTemplateSet e else some e

/-- Open the data set for the first record of a message. Its length is a
placeholder until the message is finalized. -/
def openDataSet (e : Encoder) : Option Encoder :=
  if e.dataSetOpen then some e
  else do
    let c ← putU16 (cursor e) e.template.templateId
    let c ← putU16 c 0
    return { moved e c with dataSetOffset := e.offset, dataSetOpen := true }

def addRecord (e : Encoder) (event : ConntrackEvent) : Option (Encoder × Bool) :=
  let paddingReserve := setAlignment e.template.protocol - 1
  let needed := if e.dataSetOpen then e.template.recordSize
    else setHeaderLen + e.template.recordSize
  if e.offset + needed + paddingReserve > maxMsgSize then some (e, false)
  else do
    let e ← openDataSet e
    let (c, saturated) ← writeRecord (cursor e) e.template.fields event
    return ({ moved e c with
      saturatedCounters := e.saturatedCounters + saturated
      recordCount := e.recordCount + 1 }, true)

def hasPendingOutput (e : Encoder) : Bool := e.recordCount > 0 || e.templateIncluded

def closeDataSet (e : Encoder) : Option Encoder :=
  if e.dataSetOpen then do
    let e ← padSet e
    let dataSetLen ← messageLen (e.offset - e.dataSetOffset)
    let buf ← copyFromSlice e.buf (e.dataSetOffset + 2) (e.dataSetOffset + 4)
      (beBytes 2 dataSetLen.toNat)
    return { e with buf }
  else some e

/-- The two clocks `finalize` looks at: seconds since the Unix epoch, negative
for a clock set before it, and the monotonic clock. -/
structure Stamp where
  systemTime : Int
  now : Instant
  deriving DecidableEq

def unixSecs (stamp : Stamp) : UInt32 := UInt32.ofNat stamp.systemTime.toNat

def uptimeMs (started : Instant) (stamp : Stamp) : UInt32 :=
  UInt32.ofNat (asMillis (durationSince stamp.now started))

def finalizeIpfix (e : Encoder) (stamp : Stamp) : Option Encoder := do
  let buf ← copyFromSlice e.buf 0 2 (beBytes 2 ipfixVersion.toNat)
  let buf ← copyFromSlice buf 2 4 (beBytes 2 (← messageLen e.offset).toNat)
  let buf ← copyFromSlice buf 4 8 (beBytes 4 (unixSecs stamp).toNat)
  let buf ← copyFromSlice buf 8 12 (beBytes 4 e.sequenceNumber.toNat)
  let buf ← copyFromSlice buf 12 16 (beBytes 4 e.observationDomainId.toNat)
  return { e with buf, sequenceNumber := e.sequenceNumber + e.recordCount }

def finalizeNetflow9 (e : Encoder) (stamp : Stamp) : Option Encoder := do
  let buf ← copyFromSlice e.buf 0 2 (beBytes 2 netflow9Version.toNat)
  let recordTotal ← messageLen (e.recordCount + e.templateIncluded.toUInt32).toNat
  let buf ← copyFromSlice buf 2 4 (beBytes 2 recordTotal.toNat)
  let buf ← copyFromSlice buf 4 8 (beBytes 4 (uptimeMs e.started stamp).toNat)
  let buf ← copyFromSlice buf 8 12 (beBytes 4 (unixSecs stamp).toNat)
  let buf ← copyFromSlice buf 12 16 (beBytes 4 e.sequenceNumber.toNat)
  let buf ← copyFromSlice buf 16 20 (beBytes 4 e.observationDomainId.toNat)
  return { e with buf, sequenceNumber := e.sequenceNumber + 1 }

/-- Close the data set and fill in the header. The bytes returned are the
message that goes to the socket, the number is its count of records. -/
def finalize (e : Encoder) (stamp : Stamp) : Option (Encoder × List UInt8 × UInt32) := do
  let e ← closeDataSet e
  let count := e.recordCount
  let e ← match e.template.protocol with
    | .ipfix => finalizeIpfix e stamp
    | .netflow9 => finalizeNetflow9 e stamp
  return (e, ← slice e.buf.bytes 0 e.offset, count)

end NatStream.Export.Encoders
