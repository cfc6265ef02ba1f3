import NatStream.Lib.Bytes

namespace NatStream.Collector.FlowDecode

open NatStream.Lib.Bytes

def ipfixVersion : Nat := 10
def netflow9Version : Nat := 9
def ipfixHeaderLen : Nat := 16
def netflow9HeaderLen : Nat := 20
def ipfixTemplateSetId : Nat := 2
def netflow9TemplateFlowsetId : Nat := 0
def enterpriseBit : Nat := 0x8000
def reversePen : Nat := 29305

/-- The logical names of the decoded fields. The last two stand for elements
that are in neither table. -/
inductive ElementName where
  | octetDeltaCount
  | packetDeltaCount
  | protocolIdentifier
  | sourceTransportPort
  | sourceIPv4Address
  | destinationTransportPort
  | destinationIPv4Address
  | postNATSourceIPv4Address
  | postNATDestinationIPv4Address
  | postNAPTSourceTransportPort
  | postNAPTDestinationTransportPort
  | natEvent
  | reverseOctetDeltaCount
  | reversePacketDeltaCount
  | enterprise (pen id : Nat)
  | element (id : Nat)
  deriving DecidableEq, Repr

/-- An insertion-ordered dictionary. Setting a key that is present replaces
its value and keeps its place. -/
abbrev Dict (κ ν : Type) := List (κ × ν)

section Dictionary

variable {κ ν : Type} [DecidableEq κ]

def Dict.get? (d : Dict κ ν) (k : κ) : Option ν := (d.find? (fun p => p.1 = k)).map Prod.snd

def Dict.set (d : Dict κ ν) (k : κ) (v : ν) : Dict κ ν :=
  if d.any (fun p => p.1 = k) then d.map (fun p => if p.1 = k then (k, v) else p)
  else d ++ [(k, v)]

end Dictionary

def ipfixElements : Dict (Option Nat × Nat) ElementName := [
  ((none, 1), .octetDeltaCount),
  ((none, 2), .packetDeltaCount),
  ((none, 4), .protocolIdentifier),
  ((none, 7), .sourceTransportPort),
  ((none, 8), .sourceIPv4Address),
  ((none, 11), .destinationTransportPort),
  ((none, 12), .destinationIPv4Address),
  ((none, 225), .postNATSourceIPv4Address),
  ((none, 226), .postNATDestinationIPv4Address),
  ((none, 227), .postNAPTSourceTransportPort),
  ((none, 228), .postNAPTDestinationTransportPort),
  ((none, 230), .natEvent),
  ((some reversePen, 1), .reverseOctetDeltaCount),
  ((some reversePen, 2), .reversePacketDeltaCount)]

def netflow9Elements : Dict Nat ElementName := [
  (23, .reverseOctetDeltaCount),
  (24, .reversePacketDeltaCount)]

def addressFields : List ElementName := [
  .sourceIPv4Address,
  .destinationIPv4Address,
  .postNATSourceIPv4Address,
  .postNATDestinationIPv4Address]

inductive DecodeError where
  | shortDatagram (len : Nat)
  | shortIpfixHeader
  | lengthMismatch (claimed actual : Nat)
  | shortNetflow9Header
  | unknownVersion (version : Nat)
  | setTooShort (setId setLength : Nat)
  | setOverrun (setId : Nat)
  | reservedSet (setId : Nat)
  | templateOverrun
  | enterpriseOverrun
  | netflow9Enterprise (rawId : Nat)
  | zeroByteRecord (templateId : Nat)
  | addressWidth (name : ElementName) (len : Nat)
  deriving DecidableEq, Repr

structure Field where
  name : ElementName
  length : Nat
  elementId : Nat
  pen : Option Nat
  deriving DecidableEq, Repr

structure Template where
  templateId : Nat
  fields : List Field
  deriving DecidableEq, Repr

def recordSize (t : Template) : Nat := (t.fields.map (fun f => f.length)).sum

/-- A decoded value: dotted text for an address, a number otherwise. -/
inductive Value where
  | text (s : String)
  | number (v : Nat)
  deriving DecidableEq, Repr

abbrev Record := Dict ElementName Value

structure Message where
  version : Nat
  sequenceNumber : Nat
  domainId : Nat
  exportTime : Nat
  count : Option Nat
  templates : List Template
  records : List Record
  raw : List UInt8
  deriving DecidableEq, Repr

def elementName (elementId : Nat) (pen : Option Nat) (version : Nat) : ElementName :=
  match if version = netflow9Version then netflow9Elements.get? elementId else none with
  | some name => name
  | none =>
    match ipfixElements.get? (pen, elementId), pen with
    | some name, _ => name
    | none, some pen => .enterprise pen elementId
    | none, none => .element elementId

def dotted (raw : List UInt8) : String := ".".intercalate (raw.map (fun b => toString b.toNat))

def decodeValue (name : ElementName) (raw : List UInt8) : Except DecodeError Value :=
  if name ∈ addressFields then
    if raw.length ≠ 4 then .error (.addressWidth name raw.length) else .ok (.text (dotted raw))
  else .ok (.number (beNat raw))

/-- The 16-bit number at an offset, in network order. -/
def u16At (bytes : List UInt8) (offset : Nat) : Nat := beNat ((bytes.drop offset).take 2)

def u32At (bytes : List UInt8) (offset : Nat) : Nat := beNat ((bytes.drop offset).take 4)

/-- One field specifier at the front of `rest`, with the bytes it takes. -/
def parseSpecifier (version : Nat) (rest : List UInt8) : Except DecodeError (Field × Nat) :=
  if rest.length < 4 then .error .templateOverrun
  else
    let rawId := u16At rest 0
    let length := u16At rest 2
    if version = ipfixVersion ∧ rawId &&& enterpriseBit ≠ 0 then
      if rest.length < 8 then .error .enterpriseOverrun
      else
        let elementId := rawId &&& (enterpriseBit - 1)
        let pen := u32At rest 4
        .ok (⟨elementName elementId (some pen) version, length, elementId, some pen⟩, 8)
    else if version = netflow9Version ∧ rawId &&& enterpriseBit ≠ 0 then
      .error (.netflow9Enterprise rawId)
    else .ok (⟨elementName rawId none version, length, rawId, none⟩, 4)

def parseFields (version : Nat) : Nat → List UInt8 → Except DecodeError (List Field × Nat)
  | 0, _ => .ok ([], 0)
  | count + 1, rest => do
    let (field, taken) ← parseSpecifier version rest
    let (fields, more) ← parseFields version count (rest.drop taken)
    return (field :: fields, taken + more)

/-- Parse a template set body. A trailing run of padding zeros is not another
template record. -/
def parseTemplateSet (version : Nat) (payload : List UInt8) : Except DecodeError (List Template) :=
  if _h : 4 ≤ payload.length ∧ payload.take 4 ≠ [0, 0, 0, 0] then do
    let templateId := u16At payload 0
    let fieldCount := u16At payload 2
    let (fields, taken) ← parseFields version fieldCount (payload.drop 4)
    let templates ← parseTemplateSet version (payload.drop (4 + taken))
    return ⟨templateId, fields⟩ :: templates
  else .ok []
termination_by payload.length
decreasing_by simp only [List.length_drop]; omega

def parseRecord (record : Record) : List Field → List UInt8 → Except DecodeError Record
  | [], _ => .ok record
  | field :: fields, rest => do
    let value ← decodeValue field.name (rest.take field.length)
    parseRecord (Dict.set record field.name value) fields (rest.drop field.length)

/-- The records of a data set. Anything shorter than a whole record is the
set's padding. -/
def parseRecords (t : Template) (hpos : 0 < recordSize t) (payload : List UInt8) :
    Except DecodeError (List Record) :=
  if _h : recordSize t ≤ payload.length then do
    let record ← parseRecord [] t.fields payload
    let records ← parseRecords t hpos (payload.drop (recordSize t))
    return record :: records
  else .ok []
termination_by payload.length
decreasing_by simp only [List.length_drop]; omega

def parseDataSet (payload : List UInt8) (t : Template) : Except DecodeError (List Record) :=
  if h : 0 < recordSize t then parseRecords t h payload else .error (.zeroByteRecord t.templateId)

abbrev Table := Dict Nat Template

def learn (table : Table) (templates : List Template) : Table :=
  templates.foldl (fun table t => Dict.set table t.templateId t) table

/-- One set: what the table becomes, the templates it defines and the records in
it. A data set whose template is not known is skipped. -/
def handleSet (version templateSetId : Nat) (table : Table) (setId : Nat) (payload : List UInt8) :
    Except DecodeError (Table × List Template × List Record) :=
  if setId = templateSetId then do
    let templates ← parseTemplateSet version payload
    return (learn table templates, templates, [])
  else if setId < 256 then .error (.reservedSet setId)
  else
    match Dict.get? table setId with
    | none => .ok (table, [], [])
    | some template => do
      let records ← parseDataSet payload template
      return (table, [], records)

/-- Walk the sets of a packet. The table is there also when a set raises: the
templates of earlier sets stay learned. -/
def decodeSets (version templateSetId : Nat) (table : Table) (newTemplates : List Template)
    (records : List Record) (rest : List UInt8) :
    Table × Except DecodeError (List Template × List Record) :=
  if _h : 4 ≤ rest.length then
    let setId := u16At rest 0
    let setLength := u16At rest 2
    if _h4 : setLength < 4 then (table, .error (.setTooShort setId setLength))
    else if setLength > rest.length then (table, .error (.setOverrun setId))
    else
      match handleSet version templateSetId table setId ((rest.take setLength).drop 4) with
      | .error e => (table, .error e)
      | .ok (table', templates, more) => decodeSets version templateSetId table'
          (newTemplates ++ templates) (records ++ more) (rest.drop setLength)
  else (table, .ok (newTemplates, records))
termination_by rest.length
decreasing_by simp only [List.length_drop]; omega

/-- What the headers of both protocols come to, and where the sets begin. -/
structure Header where
  version : Nat
  sequenceNumber : Nat
  domainId : Nat
  exportTime : Nat
  count : Option Nat
  templateSetId : Nat
  offset : Nat
  deriving DecidableEq, Repr

def parseHeader (datagram : List UInt8) : Except DecodeError Header :=
  if datagram.length < 4 then .error (.shortDatagram datagram.length)
  else
    let version := u16At datagram 0
    if version = ipfixVersion then
      if datagram.length < ipfixHeaderLen then .error .shortIpfixHeader
      else
        let length := u16At datagram 2
        if length ≠ datagram.length then .error (.lengthMismatch length datagram.length)
        else .ok ⟨version, u32At datagram 8, u32At datagram 12, u32At datagram 4, none,
          ipfixTemplateSetId, ipfixHeaderLen⟩
    else if version = netflow9Version then
      if datagram.length < netflow9HeaderLen then .error .shortNetflow9Header
      else .ok ⟨version, u32At datagram 12, u32At datagram 16, u32At datagram 8,
        some (u16At datagram 2), netflow9TemplateFlowsetId, netflow9HeaderLen⟩
    else .error (.unknownVersion version)

/-- Decode one export packet. The table is updated in place, so it is part of
the outcome whether or not the packet could be decoded. -/
def receive (table : Table) (datagram : List UInt8) : Table × Except DecodeError Message :=
  match parseHeader datagram with
  | .error e => (table, .error e)
  | .ok h =>
    let (table', sets) := decodeSets h.version h.templateSetId table [] [] (datagram.drop h.offset)
    (table', sets.map fun (templates, records) =>
      ⟨h.version, h.sequenceNumber, h.domainId, h.exportTime, h.count, templates, records,
        datagram⟩)

/-- The message and the table with which `receive` succeeds. -/
def decode (datagram : List UInt8) (table : Table) : Except DecodeError (Message × Table) :=
  (receive table datagram).2.map fun message => (message, (receive table datagram).1)

end NatStream.Collector.FlowDecode
