/-
  File:      Resolver/Ipc.lean
  Subject:   THE HELPER'S PACKET CODEC (resolver/ipc.c).

  A packet is a byte list.  A decoder is a reader over the unread bytes; it returns the message
  or the `resolver_ipc_codec_status` of the failure.  An encoder returns the bytes it wrote into
  a buffer of the given capacity.

  * `Carries` -- a packet that `packetInspect` and the decoder of its kind both understand;
  * `beginBody_encode`, `cnameBody_encode`, ... -- the fields of each kind are read back.
-/
import MinecraftRelay.Library.BigEndian
import MinecraftRelay.Timeutil
import MinecraftRelay.Resolver.Records

namespace MinecraftRelay

open BigEndian

/-! ## 1. Codes and fields -/

/-- `resolver_ipc_codec_status` other than `OK`. -/
inductive CodecStatus where
  | badArgument | limit | malformed | unsupported
deriving Repr, DecidableEq

/-- `RESOLVER_IPC_MAGIC`. -/
def ipcMagic : Nat := 0x4D525350

/-- `RESOLVER_IPC_PROTOCOL_VERSION`. -/
def ipcProtocolVersion : Nat := 1

/-- `RESOLVER_IPC_HEADER_SIZE`. -/
def ipcHeaderSize : Nat := 20

/-- `RESOLVER_IPC_PACKET_BYTE_LIMIT`. -/
def ipcPacketByteLimit : Nat := 4096

/-- `ns_c_in`. -/
def classIn : Nat := 1

/-- `resolver_ipc_packet_kind`. -/
inductive PacketKind where
  | request | responseBegin | responseCname | responseAddress | responseSrv | responseEnd
deriving Repr, DecidableEq

namespace PacketKind

/-- `resolver_ipc_packet_kind_encode`. -/
def encode : PacketKind → Nat
  | .request => 1
  | .responseBegin => 2
  | .responseCname => 3
  | .responseAddress => 4
  | .responseSrv => 5
  | .responseEnd => 6

/-- `resolver_ipc_packet_kind_decode`. -/
def decode : Nat → Option PacketKind
  | 1 => some .request
  | 2 => some .responseBegin
  | 3 => some .responseCname
  | 4 => some .responseAddress
  | 5 => some .responseSrv
  | 6 => some .responseEnd
  | _ => none

@[simp] theorem decode_encode (k : PacketKind) : decode k.encode = some k := by
  cases k <;> rfl

theorem encode_lt (k : PacketKind) : k.encode < 256 ^ 2 := by
  cases k <;> decide

end PacketKind

namespace LookupStatus

/-- The wire code of a status (`resolver_ipc_status_encode`). -/
def encode : LookupStatus → Nat
  | .ok => 1
  | .badArgument => 2
  | .limit => 3
  | .malformed => 4
  | .memory => 5
  | .nodata => 6
  | .notFound => 7
  | .permanentError => 8
  | .temporaryError => 9
  | .truncated => 10

/-- `resolver_ipc_status_decode`. -/
def decode : Nat → Option LookupStatus
  | 1 => some .ok
  | 2 => some .badArgument
  | 3 => some .limit
  | 4 => some .malformed
  | 5 => some .memory
  | 6 => some .nodata
  | 7 => some .notFound
  | 8 => some .permanentError
  | 9 => some .temporaryError
  | 10 => some .truncated
  | _ => none

@[simp] theorem decode_encode (s : LookupStatus) : decode s.encode = some s := by
  cases s <;> rfl

theorem encode_lt (s : LookupStatus) : s.encode < 256 ^ 2 := by
  cases s <;> decide

end LookupStatus

theorem QueryType.code_lt (q : QueryType) : q.code < 256 ^ 2 := by
  cases q <;> decide

namespace Family

/-- `resolver_ipc_address_family_encode`. -/
def encode : Family → Nat
  | .inet => 1
  | .inet6 => 2

/-- `resolver_ipc_address_family_decode`. -/
def decode : Nat → Option Family
  | 1 => some .inet
  | 2 => some .inet6
  | _ => none

@[simp] theorem decode_encode (f : Family) : decode f.encode = some f := by
  cases f <;> rfl

theorem encode_lt (f : Family) : f.encode < 256 ^ 2 := by
  cases f <;> decide

end Family

/-- `resolver_ipc_name_size`. -/
def ipcNameSize (name : Bytes) (allowEmpty : Bool) : Option Nat :=
  let size := (cString name).length
  if size ≥ nsMaxdname ∨ (¬ allowEmpty ∧ size = 0) then none else some size

/-- `resolver_ipc_reader_name`. -/
def readerName (size : Nat) (allowEmpty : Bool) (reader : Bytes) : Option (Bytes × Bytes) := do
  if size ≥ nsMaxdname ∨ (¬ allowEmpty ∧ size = 0) then none
  else
    let (source, reader) ← takeBytes size reader
    if (0 : UInt8) ∈ source then none else some (source, reader)

/-- `resolver_ipc_negative_valid`. -/
def ipcNegativeValid (negative : NegativeRecord) : Bool :=
  if ¬ negative.valid then
    decide (negative.effectiveTtl = 0 ∧ negative.minimum = 0 ∧ cString negative.owner = [] ∧
      negative.recordTtl = 0)
  else
    (ipcNameSize negative.owner false).isSome &&
      decide (negative.effectiveTtl ≤ negative.minimum) &&
      decide (negative.effectiveTtl ≤ negative.recordTtl)

/-- `resolver_ipc_response_count_valid`. -/
def responseCountValid (queryType : QueryType) (cnameCount recordCount : Nat) : Bool :=
  if cnameCount > cnameDepthLimit then false
  else if queryType = .srv then decide (recordCount ≤ srvRecordLimit)
  else decide (recordCount ≤ addressRecordLimit)

/-- `resolver_ipc_time_decode`. -/
def timeDecode (seconds nanoseconds : Nat) : Option Timespec :=
  if nanoseconds ≥ 1000000000 ∨ (seconds : Int) > timeMax then none
  else some ⟨seconds, nanoseconds⟩

/-- `resolver_ipc_time_encode`. -/
def timeEncode (source : Timespec) : Option (Nat × Nat) :=
  if timeutilValid source then some (source.sec.toNat, source.nsec.toNat) else none

/-! ## 2. The header -/

/-- `resolver_ipc_packet_header`. -/
structure PacketHeader where
  kind : PacketKind
  queryId : Nat
deriving Repr, DecidableEq

/-- The six fields of a header, and what follows them. -/
def headerFields (packet : Bytes) : Option (Nat × Nat × Nat × Nat × Nat × Nat × Bytes) := do
  let (magic, reader) ← read 4 packet
  let (version, reader) ← read 2 reader
  let (kind, reader) ← read 2 reader
  let (size, reader) ← read 2 reader
  let (reserved, reader) ← read 2 reader
  let (queryId, reader) ← read 8 reader
  some (magic, version, kind, size, reserved, queryId, reader)

/-- `resolver_ipc_header_decode`; no expected kind is the source's `0`. -/
def headerDecode (packet : Bytes) (expected : Option PacketKind) :
    Except CodecStatus (PacketHeader × Bytes) :=
  if packet.length > ipcPacketByteLimit then .error .limit
  else if packet.length < ipcHeaderSize then .error .malformed
  else
    match headerFields packet with
    | none => .error .malformed
    | some (magic, version, encodedKind, size, reserved, queryId, reader) =>
      if magic ≠ ipcMagic ∨ size ≠ packet.length ∨ reserved ≠ 0 ∨ queryId = 0 then
        .error .malformed
      else if version ≠ ipcProtocolVersion then .error .unsupported
      else
        match PacketKind.decode encodedKind with
        | none => .error .unsupported
        | some kind =>
          if expected ≠ none ∧ expected ≠ some kind then .error .malformed
          else .ok (⟨kind, queryId⟩, reader)

/-- `resolver_ipc_header_encode`, with the body that the caller writes after it. -/
def headerEncode (kind : PacketKind) (queryId : Nat) (packetCapacity : Nat) (body : Bytes) :
    Except CodecStatus Bytes :=
  let packetSize := ipcHeaderSize + body.length
  if queryId = 0 then .error .badArgument
  else if packetSize > ipcPacketByteLimit ∨ packetSize > 65535 ∨ packetCapacity < packetSize then
    .error .limit
  else
    .ok (encode 4 ipcMagic ++ encode 2 ipcProtocolVersion ++ encode 2 kind.encode ++
      encode 2 packetSize ++ encode 2 0 ++ encode 8 queryId ++ body)

/-- `resolver_ipc_packet_inspect`. -/
def packetInspect (packet : Bytes) : Except CodecStatus PacketHeader :=
  (headerDecode packet none).map (·.1)

/-- A decoder: its header, then its body, whose every failure is `MALFORMED`. -/
def packetDecode {α : Type} (kind : PacketKind) (body : Nat → Bytes → Option α) (packet : Bytes) :
    Except CodecStatus α :=
  match headerDecode packet (some kind) with
  | .error status => .error status
  | .ok (header, reader) =>
    match body header.queryId reader with
    | none => .error .malformed
    | some message => .ok message

/-! ## 3. The messages -/

/-- `resolver_ipc_request`; `resolver_ipc_query_type_valid` holds of every query type here. -/
structure Request where
  queryName : Bytes
  queryClass : Nat
  queryId : Nat
  queryType : QueryType
deriving Repr, DecidableEq

/-- The body of `resolver_ipc_request_decode`. -/
def requestBody (queryId : Nat) (reader : Bytes) : Option Request := do
  let (queryClass, reader) ← read 2 reader
  let (encodedType, reader) ← read 2 reader
  let (nameSize, reader) ← read 2 reader
  guard (queryClass = classIn)
  let queryType ← QueryType.ofCode encodedType
  let (queryName, reader) ← readerName nameSize false reader
  guard (reader = [])
  some { queryName, queryClass, queryId, queryType }

/-- `resolver_ipc_request_decode`. -/
def requestDecode : Bytes → Except CodecStatus Request := packetDecode .request requestBody

/-- `resolver_ipc_request_encode`. -/
def requestEncode (request : Request) (packetCapacity : Nat) : Except CodecStatus Bytes :=
  if request.queryClass ≠ classIn then .error .badArgument
  else
    match ipcNameSize request.queryName false with
    | none => .error .badArgument
    | some nameSize =>
      headerEncode .request request.queryId packetCapacity
        (encode 2 request.queryClass ++ encode 2 request.queryType.code ++ encode 2 nameSize ++
          cString request.queryName)

/-- `resolver_ipc_response_address`. -/
structure ResponseAddress where
  index : Nat
  queryId : Nat
  record : AddressRecord
deriving Repr, DecidableEq

/-- The body of `resolver_ipc_response_address_decode`. -/
def addressBody (queryId : Nat) (reader : Bytes) : Option ResponseAddress := do
  let (index, reader) ← read 2 reader
  let (encodedFamily, reader) ← read 2 reader
  let (recordTtl, reader) ← read 4 reader
  let (effectiveTtl, reader) ← read 4 reader
  let (addressSize, reader) ← read 2 reader
  guard (index < addressRecordLimit)
  guard (effectiveTtl ≤ recordTtl)
  let family ← Family.decode encodedFamily
  let (data, reader) ← takeBytes addressSize reader
  guard (reader = [])
  if h : data.length = family.size then
    some { index, queryId, record := {
      address := ⟨family, data, h⟩
      effectiveTtl := UInt32.ofNat effectiveTtl
      recordTtl := UInt32.ofNat recordTtl } }
  else none

/-- `resolver_ipc_response_address_decode`. -/
def addressDecode : Bytes → Except CodecStatus ResponseAddress :=
  packetDecode .responseAddress addressBody

/-- `resolver_ipc_response_address_encode`. -/
def addressEncode (response : ResponseAddress) (packetCapacity : Nat) : Except CodecStatus Bytes :=
  let record := response.record
  if response.index ≥ addressRecordLimit ∨ record.effectiveTtl > record.recordTtl then
    .error .badArgument
  else
    headerEncode .responseAddress response.queryId packetCapacity
      (encode 2 response.index ++ encode 2 record.address.family.encode ++
        encode 4 record.recordTtl.toNat ++ encode 4 record.effectiveTtl.toNat ++
        encode 2 record.address.family.size ++ record.address.data)

/-- `resolver_ipc_response_begin`. -/
structure ResponseBegin where
  canonicalName : Bytes
  cnameCount : Nat
  completedAt : Timespec
  negative : NegativeRecord
  questionName : Bytes
  queryClass : Nat
  queryId : Nat
  queryType : QueryType
  rcode : UInt8
  recordCount : Nat
  status : LookupStatus
deriving Repr, DecidableEq

/-- The body of `resolver_ipc_response_begin_decode`. -/
def beginBody (queryId : Nat) (reader : Bytes) : Option ResponseBegin := do
  let (queryClass, reader) ← read 2 reader
  let (encodedType, reader) ← read 2 reader
  let (encodedStatus, reader) ← read 2 reader
  let (rcode, reader) ← read 1 reader
  let (negativeValid, reader) ← read 1 reader
  let (seconds, reader) ← read 8 reader
  let (nanoseconds, reader) ← read 4 reader
  let (cnameCount, reader) ← read 2 reader
  let (recordCount, reader) ← read 2 reader
  let (questionSize, reader) ← read 2 reader
  let (canonicalSize, reader) ← read 2 reader
  let (negativeOwnerSize, reader) ← read 2 reader
  let (effectiveTtl, reader) ← read 4 reader
  let (minimum, reader) ← read 4 reader
  let (recordTtl, reader) ← read 4 reader
  guard (queryClass = classIn)
  let queryType ← QueryType.ofCode encodedType
  let status ← LookupStatus.decode encodedStatus
  guard (rcode ≤ 15)
  guard (negativeValid ≤ 1)
  let completedAt ← timeDecode seconds nanoseconds
  guard (responseCountValid queryType cnameCount recordCount)
  let (questionName, reader) ← readerName questionSize true reader
  let (canonicalName, reader) ← readerName canonicalSize true reader
  let (owner, reader) ← readerName negativeOwnerSize (decide (negativeValid = 0)) reader
  guard (reader = [])
  let negative : NegativeRecord := {
    effectiveTtl := UInt32.ofNat effectiveTtl
    minimum := UInt32.ofNat minimum
    owner
    recordTtl := UInt32.ofNat recordTtl
    valid := decide (negativeValid ≠ 0) }
  guard (ipcNegativeValid negative)
  some { canonicalName, cnameCount, completedAt, negative, questionName, queryClass, queryId,
         queryType, rcode := UInt8.ofNat rcode, recordCount, status }

/-- `resolver_ipc_response_begin_decode`. -/
def beginDecode : Bytes → Except CodecStatus ResponseBegin := packetDecode .responseBegin beginBody

/-- `resolver_ipc_response_begin_encode`. -/
def beginEncode (response : ResponseBegin) (packetCapacity : Nat) : Except CodecStatus Bytes :=
  let negative := response.negative
  if response.queryClass ≠ classIn ∨ response.rcode > 15 ∨ ¬ ipcNegativeValid negative ∨
      ¬ responseCountValid response.queryType response.cnameCount response.recordCount then
    .error .badArgument
  else
    match timeEncode response.completedAt, ipcNameSize response.questionName true,
        ipcNameSize response.canonicalName true, ipcNameSize negative.owner (!negative.valid) with
    | some (seconds, nanoseconds), some questionSize, some canonicalSize,
        some negativeOwnerSize =>
      headerEncode .responseBegin response.queryId packetCapacity
        (encode 2 response.queryClass ++ encode 2 response.queryType.code ++
          encode 2 response.status.encode ++ encode 1 response.rcode.toNat ++
          encode 1 (if negative.valid then 1 else 0) ++ encode 8 seconds ++
          encode 4 nanoseconds ++ encode 2 response.cnameCount ++
          encode 2 response.recordCount ++ encode 2 questionSize ++ encode 2 canonicalSize ++
          encode 2 negativeOwnerSize ++ encode 4 negative.effectiveTtl.toNat ++
          encode 4 negative.minimum.toNat ++ encode 4 negative.recordTtl.toNat ++
          cString response.questionName ++ cString response.canonicalName ++
          cString negative.owner)
    | _, _, _, _ => .error .badArgument

/-- `resolver_ipc_response_cname`. -/
structure ResponseCname where
  record : CnameRecord
  index : Nat
  queryId : Nat
deriving Repr, DecidableEq

/-- The body of `resolver_ipc_response_cname_decode`. -/
def cnameBody (queryId : Nat) (reader : Bytes) : Option ResponseCname := do
  let (index, reader) ← read 2 reader
  let (ttl, reader) ← read 4 reader
  let (ownerSize, reader) ← read 2 reader
  let (targetSize, reader) ← read 2 reader
  guard (index < cnameDepthLimit)
  let (owner, reader) ← readerName ownerSize false reader
  let (target, reader) ← readerName targetSize false reader
  guard (reader = [])
  some { record := { owner, target, ttl := UInt32.ofNat ttl }, index, queryId }

/-- `resolver_ipc_response_cname_decode`. -/
def cnameDecode : Bytes → Except CodecStatus ResponseCname := packetDecode .responseCname cnameBody

/-- `resolver_ipc_response_cname_encode`. -/
def cnameEncode (response : ResponseCname) (packetCapacity : Nat) : Except CodecStatus Bytes :=
  if response.index ≥ cnameDepthLimit then .error .badArgument
  else
    match ipcNameSize response.record.owner false, ipcNameSize response.record.target false with
    | some ownerSize, some targetSize =>
      headerEncode .responseCname response.queryId packetCapacity
        (encode 2 response.index ++ encode 4 response.record.ttl.toNat ++ encode 2 ownerSize ++
          encode 2 targetSize ++ cString response.record.owner ++ cString response.record.target)
    | _, _ => .error .badArgument

/-- `resolver_ipc_response_end`. -/
structure ResponseEnd where
  cnameCount : Nat
  queryId : Nat
  recordCount : Nat
deriving Repr, DecidableEq

/-- The counts both codecs of the END packet accept. -/
def endCountValid (cnameCount recordCount : Nat) : Bool :=
  decide (cnameCount ≤ cnameDepthLimit) &&
    (decide (recordCount ≤ addressRecordLimit) || decide (recordCount ≤ srvRecordLimit))

/-- The body of `resolver_ipc_response_end_decode`. -/
def endBody (queryId : Nat) (reader : Bytes) : Option ResponseEnd := do
  let (cnameCount, reader) ← read 2 reader
  let (recordCount, reader) ← read 2 reader
  guard (endCountValid cnameCount recordCount)
  guard (reader = [])
  some { cnameCount, queryId, recordCount }

/-- `resolver_ipc_response_end_decode`. -/
def endDecode : Bytes → Except CodecStatus ResponseEnd := packetDecode .responseEnd endBody

/-- `resolver_ipc_response_end_encode`. -/
def endEncode (response : ResponseEnd) (packetCapacity : Nat) : Except CodecStatus Bytes :=
  if ¬ endCountValid response.cnameCount response.recordCount then .error .badArgument
  else
    headerEncode .responseEnd response.queryId packetCapacity
      (encode 2 response.cnameCount ++ encode 2 response.recordCount)

/-- `resolver_ipc_response_srv`. -/
structure ResponseSrv where
  index : Nat
  queryId : Nat
  record : SrvRecord
deriving Repr, DecidableEq

/-- The body of `resolver_ipc_response_srv_decode`. -/
def srvBody (queryId : Nat) (reader : Bytes) : Option ResponseSrv := do
  let (index, reader) ← read 2 reader
  let (priority, reader) ← read 2 reader
  let (weight, reader) ← read 2 reader
  let (port, reader) ← read 2 reader
  let (recordTtl, reader) ← read 4 reader
  let (effectiveTtl, reader) ← read 4 reader
  let (targetSize, reader) ← read 2 reader
  guard (index < srvRecordLimit)
  guard (effectiveTtl ≤ recordTtl)
  let (target, reader) ← readerName targetSize false reader
  guard (reader = [])
  some { index, queryId, record := {
    priority := UInt16.ofNat priority
    weight := UInt16.ofNat weight
    port := UInt16.ofNat port
    target
    recordTtl := UInt32.ofNat recordTtl
    effectiveTtl := UInt32.ofNat effectiveTtl } }

/-- `resolver_ipc_response_srv_decode`. -/
def srvDecode : Bytes → Except CodecStatus ResponseSrv := packetDecode .responseSrv srvBody

/-- `resolver_ipc_response_srv_encode`. -/
def srvEncode (response : ResponseSrv) (packetCapacity : Nat) : Except CodecStatus Bytes :=
  let record := response.record
  if response.index ≥ srvRecordLimit ∨ record.effectiveTtl > record.recordTtl then
    .error .badArgument
  else
    match ipcNameSize record.target false with
    | none => .error .badArgument
    | some targetSize =>
      headerEncode .responseSrv response.queryId packetCapacity
        (encode 2 response.index ++ encode 2 record.priority.toNat ++
          encode 2 record.weight.toNat ++ encode 2 record.port.toNat ++
          encode 4 record.recordTtl.toNat ++ encode 4 record.effectiveTtl.toNat ++
          encode 2 targetSize ++ cString record.target)

/-! ## 4. Round trips -/

/-- The packet is of the kind and the query, and is decoded to the message. -/
structure Carries {α : Type} (packet : Bytes) (kind : PacketKind) (queryId : Nat)
    (decode : Bytes → Except CodecStatus α) (message : α) : Prop where
  inspected : packetInspect packet = .ok ⟨kind, queryId⟩
  decoded : decode packet = .ok message

/-- The query ids a packet can hold: `uint64_t`s other than zero. -/
def QueryIdValid (queryId : Nat) : Prop := queryId ≠ 0 ∧ queryId < 256 ^ 8

theorem headerFields_encode {version kind size queryId : Nat} (hv : version < 256 ^ 2)
    (hk : kind < 256 ^ 2) (hs : size < 256 ^ 2) (hid : queryId < 256 ^ 8) (body : Bytes) :
    headerFields (encode 4 ipcMagic ++ encode 2 version ++ encode 2 kind ++ encode 2 size ++
        encode 2 0 ++ encode 8 queryId ++ body) =
      some (ipcMagic, version, kind, size, 0, queryId, body) := by
  have hm : ipcMagic < 256 ^ 4 := by decide
  have h0 : 0 < 256 ^ 2 := by decide
  simp only [headerFields, List.append_assoc, read_encode hm, read_encode hv, read_encode hk,
    read_encode hs, read_encode h0, read_encode hid, Option.bind_eq_bind, Option.bind_some]

/-- A name a packet can hold: the C string of a name buffer. -/
structure NameFits (name : Bytes) : Prop where
  no_nul : (0 : UInt8) ∉ name
  length_lt : name.length < nsMaxdname

theorem Normalized.fits {name : Bytes} (h : Normalized name) : NameFits name :=
  ⟨h.no_nul, h.length_lt⟩

theorem NameFits.nil : NameFits [] := ⟨nofun, by decide⟩

theorem NameFits.length_lt_word {name : Bytes} (h : NameFits name) : name.length < 256 ^ 2 :=
  h.length_lt.trans (by decide)

section Names

variable {name reader rest : Bytes} {allowEmpty : Bool} {size : Nat}

/-- The names an encoder accepts: their C string fits. -/
theorem ipcNameSize_iff : ipcNameSize name allowEmpty = some size ↔
    size = (cString name).length ∧ NameFits (cString name) ∧
      (allowEmpty = true ∨ cString name ≠ []) := by
  have hfits : NameFits (cString name) ↔ (cString name).length < nsMaxdname :=
    ⟨(·.length_lt), fun h => ⟨not_mem_cString name, h⟩⟩
  rw [ipcNameSize, Option.ite_none_left_eq_some, hfits, not_or, not_and_or, not_le, not_not,
    List.length_eq_zero_iff, Option.some_inj, @eq_comm _ size]
  exact and_comm

/-- The names a decoder accepts, and what they are read from. -/
theorem readerName_iff : readerName size allowEmpty reader = some (name, rest) ↔
    size = name.length ∧ NameFits name ∧ (allowEmpty = true ∨ name ≠ []) ∧
      reader = name ++ rest := by
  constructor
  · intro h
    unfold readerName at h
    split at h
    · cases h
    rename_i hgood
    simp only [Option.bind_eq_bind, Option.bind_eq_some_iff, Prod.exists] at h
    obtain ⟨source, tail, htake, h⟩ := h
    split at h
    · cases h
    rename_i hnul
    cases h
    obtain ⟨rfl, rfl⟩ := takeBytes_some htake
    rw [not_or, not_and_or, Bool.not_eq_true] at hgood
    exact ⟨rfl, ⟨hnul, by omega⟩, by simpa using hgood.2, rfl⟩
  · rintro ⟨rfl, hfits, hne, rfl⟩
    simp [readerName, hfits.no_nul, hfits.length_lt]
    simpa [or_iff_not_imp_left] using hne

variable (h : NameFits name) (he : allowEmpty = true ∨ name ≠ [])

include h he

theorem NameFits.readerName_append (rest : Bytes) :
    readerName name.length allowEmpty (name ++ rest) = some (name, rest) :=
  readerName_iff.2 ⟨rfl, h, he, rfl⟩

theorem NameFits.readerName_self : readerName name.length allowEmpty name = some (name, []) :=
  readerName_iff.2 ⟨rfl, h, he, (List.append_nil name).symm⟩

/-- A name that fits is its own C string, of its own size. -/
theorem NameFits.ipcNameSize_of :
    cString name = name ∧ ipcNameSize name allowEmpty = some name.length := by
  have hstring := cString_of_not_mem h.no_nul
  exact ⟨hstring, ipcNameSize_iff.2 (by rw [hstring]; exact ⟨rfl, h, he⟩)⟩

end Names

/-- The fields of a request are read back. -/
theorem requestBody_encode {request : Request} (hclass : request.queryClass = classIn)
    (hn : NameFits request.queryName) (hn' : request.queryName ≠ []) :
    requestBody request.queryId
      (encode 2 request.queryClass ++ encode 2 request.queryType.code ++
        encode 2 request.queryName.length ++ request.queryName) = some request := by
  have hc : request.queryClass < 256 ^ 2 := by
    rw [hclass]
    decide
  simp only [requestBody, List.append_assoc, read_encode hc, read_encode request.queryType.code_lt,
    read_encode hn.length_lt_word, Option.bind_eq_bind, Option.bind_some,
    QueryType.ofCode_code, hn.readerName_self (Or.inr hn')]
  simp only [hclass, guard, if_true]
  rw [← hclass]
  rfl

theorem half_lt (v : UInt16) : v.toNat < 256 ^ 2 := v.toNat_lt

theorem word_lt (v : UInt32) : v.toNat < 256 ^ 4 := v.toNat_lt

/-- The fields of a CNAME packet are read back. -/
theorem cnameBody_encode {response : ResponseCname} (hindex : response.index < cnameDepthLimit)
    (ho : NameFits response.record.owner) (ho' : response.record.owner ≠ [])
    (ht : NameFits response.record.target) (ht' : response.record.target ≠ []) :
    cnameBody response.queryId
      (encode 2 response.index ++ encode 4 response.record.ttl.toNat ++
        encode 2 response.record.owner.length ++ encode 2 response.record.target.length ++
        response.record.owner ++ response.record.target) = some response := by
  have hdepth : cnameDepthLimit = 16 := rfl
  have hi : response.index < 256 ^ 2 := by omega
  simp only [cnameBody, List.append_assoc, read_encode hi, read_encode (word_lt _),
    read_encode ho.length_lt_word, read_encode ht.length_lt_word, Option.bind_eq_bind,
    Option.bind_some, ho.readerName_append (Or.inr ho'), ht.readerName_self (Or.inr ht'), hindex]
  simp

theorem endCountValid_le {cnameCount recordCount : Nat}
    (h : endCountValid cnameCount recordCount = true) : cnameCount ≤ 16 ∧ recordCount ≤ 128 := by
  simp only [endCountValid, Bool.and_eq_true, Bool.or_eq_true, decide_eq_true_eq] at h
  exact ⟨h.1, h.2.elim id id⟩

/-- The fields of an END packet are read back. -/
theorem endBody_encode {response : ResponseEnd}
    (hvalid : endCountValid response.cnameCount response.recordCount = true) :
    endBody response.queryId (encode 2 response.cnameCount ++ encode 2 response.recordCount) =
      some response := by
  obtain ⟨hc, hr⟩ := endCountValid_le hvalid
  have hc' : response.cnameCount < 256 ^ 2 := by omega
  have hr' : response.recordCount < 256 ^ 2 := by omega
  simp only [endBody, read_encode hc', read_encode_self hr', Option.bind_eq_bind,
    Option.bind_some, hvalid]
  simp

theorem Family.size_le (family : Family) : family.size ≤ 16 := by
  cases family <;> decide

/-- The fields of an address packet are read back. -/
theorem addressBody_encode {response : ResponseAddress}
    (hindex : response.index < addressRecordLimit)
    (httl : response.record.effectiveTtl ≤ response.record.recordTtl) :
    addressBody response.queryId
      (encode 2 response.index ++ encode 2 response.record.address.family.encode ++
        encode 4 response.record.recordTtl.toNat ++ encode 4 response.record.effectiveTtl.toNat ++
        encode 2 response.record.address.family.size ++ response.record.address.data) =
      some response := by
  have hlimit : addressRecordLimit = 128 := rfl
  have hi : response.index < 256 ^ 2 := by omega
  have hf := response.record.address.family.encode_lt
  have hdata := response.record.address.data_length
  have hs : response.record.address.family.size < 256 ^ 2 := by
    have := response.record.address.family.size_le
    omega
  have hle : response.record.effectiveTtl.toNat ≤ response.record.recordTtl.toNat :=
    UInt32.le_iff_toNat_le.1 httl
  have htake : takeBytes response.record.address.family.size response.record.address.data =
      some (response.record.address.data, []) := by
    have := takeBytes_append_of_length hdata []
    rwa [List.append_nil] at this
  simp only [addressBody, List.append_assoc, read_encode hi, read_encode hf,
    read_encode (word_lt _), read_encode hs, Option.bind_eq_bind, Option.bind_some, htake, hindex,
    hle, Family.decode_encode, hdata, dite_true]
  simp

/-- The fields of an SRV packet are read back. -/
theorem srvBody_encode {response : ResponseSrv} (hindex : response.index < srvRecordLimit)
    (httl : response.record.effectiveTtl ≤ response.record.recordTtl)
    (ht : NameFits response.record.target) (ht' : response.record.target ≠ []) :
    srvBody response.queryId
      (encode 2 response.index ++ encode 2 response.record.priority.toNat ++
        encode 2 response.record.weight.toNat ++ encode 2 response.record.port.toNat ++
        encode 4 response.record.recordTtl.toNat ++ encode 4 response.record.effectiveTtl.toNat ++
        encode 2 response.record.target.length ++ response.record.target) = some response := by
  have hlimit : srvRecordLimit = 128 := rfl
  have hi : response.index < 256 ^ 2 := by omega
  have hle : response.record.effectiveTtl.toNat ≤ response.record.recordTtl.toNat :=
    UInt32.le_iff_toNat_le.1 httl
  simp only [srvBody, List.append_assoc, read_encode hi, read_encode (half_lt _),
    read_encode (word_lt _), read_encode ht.length_lt_word,
    Option.bind_eq_bind, Option.bind_some, hindex, hle, ht.readerName_self (Or.inr ht')]
  simp

/-- A time the clock can return: a valid timestamp whose seconds are a `time_t`. -/
def ClockTime (t : Timespec) : Prop := timeutilValid t = true ∧ t.sec ≤ timeMax

theorem ClockTime.encode_decode {t : Timespec} (h : ClockTime t) :
    ∃ seconds nanoseconds, timeEncode t = some (seconds, nanoseconds) ∧ seconds < 256 ^ 8 ∧
      nanoseconds < 256 ^ 4 ∧ timeDecode seconds nanoseconds = some t := by
  obtain ⟨hvalid, hmax⟩ := h
  refine ⟨t.sec.toNat, t.nsec.toNat, ?_, ?_, ?_, ?_⟩
  · rw [timeEncode, if_pos hvalid]
  all_goals
    simp only [timeutilValid, Bool.and_eq_true, decide_eq_true_eq, timeMax] at hvalid hmax
  · omega
  · omega
  · unfold timeDecode
    rw [if_neg (by unfold timeMax; omega)]
    congr 1
    ext
    · exact Int.toNat_of_nonneg (by omega)
    · exact Int.toNat_of_nonneg (by omega)

/-- What `resolver_ipc_response_begin_encode` asks of its message. -/
structure ResponseBegin.Encodable (response : ResponseBegin) : Prop where
  queryClass : response.queryClass = classIn
  queryId : QueryIdValid response.queryId
  rcode : response.rcode ≤ 15
  negative : ipcNegativeValid response.negative = true
  counts : responseCountValid response.queryType response.cnameCount response.recordCount = true
  completedAt : ClockTime response.completedAt
  question : NameFits response.questionName
  canonical : NameFits response.canonicalName
  owner : NameFits response.negative.owner

theorem responseCountValid_le {queryType : QueryType} {cnameCount recordCount : Nat}
    (h : responseCountValid queryType cnameCount recordCount = true) :
    cnameCount ≤ 16 ∧ recordCount ≤ 128 := by
  unfold responseCountValid at h
  split at h
  · cases h
  · have hdepth : cnameDepthLimit = 16 := rfl
    split at h
    · exact ⟨by omega, of_decide_eq_true h⟩
    · exact ⟨by omega, of_decide_eq_true h⟩

/-- The flag byte of a negative record. -/
theorem negativeFlag_lt (negative : NegativeRecord) :
    (if negative.valid then 1 else 0) < 256 ^ 1 := by
  split <;> decide

theorem negativeFlag_spec (negative : NegativeRecord) :
    decide ((if negative.valid then 1 else 0) = 0) = !negative.valid ∧
      decide ((if negative.valid then 1 else 0) ≠ 0) = negative.valid ∧
      (if negative.valid then 1 else 0) ≤ 1 := by
  cases negative.valid <;> decide

/-- The owner of a negative record is empty only when the record is not valid. -/
theorem ipcNegativeValid_owner {negative : NegativeRecord} (h : ipcNegativeValid negative = true) :
    (!negative.valid) = true ∨ negative.owner ≠ [] := by
  cases hv : negative.valid with
  | false => exact Or.inl rfl
  | true =>
    refine Or.inr ?_
    intro hnil
    simp [ipcNegativeValid, hv, hnil, ipcNameSize, cString] at h

/-- The body of a BEGIN packet is read back. -/
theorem beginBody_encode {response : ResponseBegin} (h : response.Encodable)
    {seconds nanoseconds : Nat} (hsec : seconds < 256 ^ 8) (hnsec : nanoseconds < 256 ^ 4)
    (htime : timeDecode seconds nanoseconds = some response.completedAt) :
    beginBody response.queryId
      (encode 2 response.queryClass ++ encode 2 response.queryType.code ++
        encode 2 response.status.encode ++ encode 1 response.rcode.toNat ++
        encode 1 (if response.negative.valid then 1 else 0) ++ encode 8 seconds ++
        encode 4 nanoseconds ++ encode 2 response.cnameCount ++ encode 2 response.recordCount ++
        encode 2 response.questionName.length ++ encode 2 response.canonicalName.length ++
        encode 2 response.negative.owner.length ++ encode 4 response.negative.effectiveTtl.toNat ++
        encode 4 response.negative.minimum.toNat ++ encode 4 response.negative.recordTtl.toNat ++
        response.questionName ++ response.canonicalName ++ response.negative.owner) =
      some response := by
  obtain ⟨hcnames, hrecords⟩ := responseCountValid_le h.counts
  obtain ⟨hflag, hflag', hflagle⟩ := negativeFlag_spec response.negative
  have hclass : response.queryClass < 256 ^ 2 := by
    rw [h.queryClass]
    decide
  have hrcode : response.rcode.toNat ≤ 15 := UInt8.le_iff_toNat_le.1 h.rcode
  have hrcode' : response.rcode.toNat < 256 ^ 1 := by omega
  have hc : response.cnameCount < 256 ^ 2 := by omega
  have hr : response.recordCount < 256 ^ 2 := by omega
  simp only [List.append_assoc]
  unfold beginBody
  dsimp only [Option.bind_eq_bind]
  -- the fixed fields, in the order of the packet
  rw [read_bind hclass, read_bind response.queryType.code_lt, read_bind response.status.encode_lt,
    read_bind hrcode', read_bind (negativeFlag_lt response.negative), read_bind hsec,
    read_bind hnsec, read_bind hc, read_bind hr, read_bind h.question.length_lt_word,
    read_bind h.canonical.length_lt_word, read_bind h.owner.length_lt_word,
    read_bind (word_lt _), read_bind (word_lt _), read_bind (word_lt _)]
  rw [h.queryClass, QueryType.ofCode_code, LookupStatus.decode_encode, htime]
  simp only [hrcode, hflagle, guard, if_true, Option.bind_some, h.counts, pure]
  -- the three names
  simp only [h.question.readerName_append (Or.inl rfl),
    h.canonical.readerName_append (Or.inl rfl), Option.bind_some]
  rw [hflag, h.owner.readerName_self (ipcNegativeValid_owner h.negative), Option.bind_some]
  rw [hflag', UInt32.ofNat_toNat, UInt32.ofNat_toNat, UInt32.ofNat_toNat, UInt8.ofNat_toNat]
  simp only [if_true, Option.bind_some]
  rw [if_pos h.negative, Option.bind_some, ← h.queryClass]

end MinecraftRelay
