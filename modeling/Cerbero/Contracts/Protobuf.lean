import Cerbero.Contracts.Envelope

/-!
# Contracts/Protobuf — the protobuf form of the bus messages

Deterministic marshalling of the messages the services write: fields in the order of their numbers,
values at their default left out.
-/

namespace Cerbero

namespace Protobuf

open Text

/-! ## Fields -/

/-- A base-128 number; 64 bits take at most ten bytes. -/
def varintBytes : ℕ → ℕ → List UInt8
  | 0, _ => []
  | fuel + 1, n =>
    if n < 128 then [UInt8.ofNat n] else UInt8.ofNat (n % 128 + 128) :: varintBytes fuel (n / 128)

/-- A base 128 varint of a number below `2 ^ 64`, which takes ten bytes at most. -/
def varint (n : ℕ) : List UInt8 := varintBytes 10 n

/-- A signed number as its 64-bit two's complement. -/
def signed (n : ℤ) : ℕ := (n % UInt64.size).toNat

/-- A length-delimited field. -/
def delimited (number : ℕ) (value : List UInt8) : List UInt8 :=
  varint (number * 8 + 2) ++ varint value.length ++ value

/-- A length-delimited field; proto3 leaves out an empty one. -/
def bytesField (number : ℕ) (value : List UInt8) : List UInt8 :=
  if value = [] then [] else delimited number value

/-- A text is written as its UTF-8 bytes. -/
def stringField (number : ℕ) (value : String) : List UInt8 := bytesField number (bytes value)

/-- An embedded message is written where it is set, also if its own encoding is empty. -/
def messageField (number : ℕ) (value : Option (List UInt8)) : List UInt8 :=
  (value.map (delimited number)).getD []

/-- A field with presence is written where it is set, zero included. -/
def optionalUint64 (number : ℕ) (value : Option ℕ) : List UInt8 :=
  (value.map fun n => varint (number * 8) ++ varint n).getD []

/-- A number without presence is left out if it is zero. -/
def uint64Field (number value : ℕ) : List UInt8 :=
  if value = 0 then [] else optionalUint64 number (some value)

/-! ## Messages -/

/-- `google.protobuf.Timestamp`: seconds and nanos, both as two's complement varints. -/
def marshalTimestamp (timestamp : Timestamp) : List UInt8 :=
  uint64Field 1 (signed timestamp.seconds) ++ uint64Field 2 (signed timestamp.nanos)

def marshalProducer (producer : Producer) : List UInt8 :=
  stringField 1 producer.component ++ stringField 2 producer.componentVersion ++
    stringField 3 producer.instanceId

def marshalAny (any : AnyMessage) : List UInt8 :=
  stringField 1 any.typeUrl ++ bytesField 2 any.value

/-- `proto.Marshal` of a `CerberoEnvelope`. -/
def marshalEnvelope (envelope : CerberoEnvelope) : List UInt8 :=
  stringField 1 envelope.contractVersion ++ stringField 2 envelope.messageId ++
    stringField 3 envelope.messageType ++ stringField 4 envelope.tenantId ++
    messageField 5 (envelope.producer.map marshalProducer) ++
    messageField 6 (envelope.emittedAt.map marshalTimestamp) ++ stringField 7 envelope.traceId ++
    stringField 8 envelope.causationId ++ stringField 9 envelope.correlationId ++
    stringField 10 envelope.payloadSchema ++ messageField 11 (envelope.payload.map marshalAny)

/-- The number of each status in the enumeration of the schema. -/
def integrityNumber : IntegrityStatus → ℕ
  | .unspecified => 0
  | .unverified => 1
  | .valid => 2
  | .invalid => 3

/-- `proto.Marshal` of a `RawEvent`. -/
def marshalRawEvent (event : RawEvent) : List UInt8 :=
  stringField 1 event.eventId ++ stringField 2 event.tenantId ++ stringField 3 event.sourceId ++
    stringField 4 event.sensorId ++ messageField 5 (event.eventTime.map marshalTimestamp) ++
    messageField 6 (event.ingestTime.map marshalTimestamp) ++ stringField 7 event.contentType ++
    stringField 8 event.encoding ++ bytesField 9 event.rawPayload ++
    uint64Field 10 event.rawSize ++ stringField 11 event.rawHashAlgorithm ++
    stringField 12 event.rawHash ++ stringField 13 event.transport ++
    stringField 14 event.remoteIdentity ++ optionalUint64 15 event.sequenceNumber ++
    uint64Field 16 (integrityNumber event.integrityStatus) ++
    stringField 17 event.pipelineVersion

/-- `proto.Marshal` of a `RawEventPersisted`. -/
def marshalRawEventPersisted (event : RawEventPersisted) : List UInt8 :=
  stringField 1 event.eventId ++ stringField 2 event.tenantId ++ stringField 3 event.sourceId ++
    stringField 4 event.sensorId ++ messageField 5 (event.eventTime.map marshalTimestamp) ++
    messageField 6 (event.ingestTime.map marshalTimestamp) ++ stringField 7 event.contentType ++
    stringField 8 event.encoding ++ uint64Field 9 event.rawSize ++
    stringField 10 event.rawHashAlgorithm ++ stringField 11 event.rawHash ++
    stringField 12 event.transport ++ stringField 13 event.remoteIdentity ++
    optionalUint64 14 event.sequenceNumber ++
    uint64Field 15 (integrityNumber event.integrityStatus) ++
    stringField 16 event.pipelineVersion ++ stringField 17 event.storageUri ++
    stringField 18 event.segmentId ++ uint64Field 19 event.offset ++ uint64Field 20 event.length ++
    messageField 21 (event.persistedAt.map marshalTimestamp)

/-- An envelope with a contract version has a first field. -/
theorem marshalEnvelope_ne_nil {envelope : CerberoEnvelope}
    (h : envelope.contractVersion ≠ "") : marshalEnvelope envelope ≠ [] := by
  have hbytes : bytes envelope.contractVersion ≠ [] := fun hnil => h (bytes_injective hnil)
  simp [marshalEnvelope, stringField, bytesField, delimited, hbytes]

end Protobuf

end Cerbero
