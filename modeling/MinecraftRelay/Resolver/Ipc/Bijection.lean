/-
  File:      Resolver/Ipc/Bijection.lean
  Subject:   THE SIX PACKET CODECS ARE BIJECTIONS.

  An encoder checks its message and writes the header in front of the fields; a decoder reads the
  header and then the fields.  A codec whose fields are read back exactly is a bijection between the
  messages it accepts and the packets it accepts.

  * `Codec` -- the two functions of one packet kind, over the header that all kinds share;
  * `FieldsBijective`, `CodecBijective` -- the two directions, on the fields and on packets;
  * `Codec.bijective` -- the first gives the second; `Codec.carries` -- what an encoder makes;
  * `ipc_codecs_bijective` -- for each of the six kinds.

  A name in a message is a buffer: the codec keeps its C string (`trimmed`).
-/
import MinecraftRelay.Resolver.Ipc

namespace MinecraftRelay

open BigEndian

variable {kind : PacketKind} {packet : Bytes} {allowEmpty : Bool} {name : Bytes} {code : Nat}
  {size : Nat}

/-! ## 1. The header -/

theorem PacketKind.encode_of_decode
    (h : PacketKind.decode code = some kind) : kind.encode = code := by
  unfold PacketKind.decode at h
  split at h <;> cases h <;> rfl

/-- The bytes of a header. -/
def ipcHeaderBytes (kind : PacketKind) (queryId packetSize : Nat) : Bytes :=
  encode 4 ipcMagic ++ encode 2 ipcProtocolVersion ++ encode 2 kind.encode ++
    encode 2 packetSize ++ encode 2 0 ++ encode 8 queryId

theorem ipcHeaderBytes_length (kind : PacketKind) (queryId packetSize : Nat) :
    (ipcHeaderBytes kind queryId packetSize).length = ipcHeaderSize := by
  rfl

theorem headerEncode_ok_iff {queryId capacity : Nat} {body packet : Bytes} :
    headerEncode kind queryId capacity body = .ok packet ↔
      queryId ≠ 0 ∧ packet.length ≤ ipcPacketByteLimit ∧ packet.length ≤ capacity ∧
        packet = ipcHeaderBytes kind queryId (ipcHeaderSize + body.length) ++ body := by
  have hlimit : ipcPacketByteLimit = 4096 := rfl
  have hlength : ∀ size, (ipcHeaderBytes kind queryId size ++ body).length =
      ipcHeaderSize + body.length := by
    intro size
    rw [List.length_append, ipcHeaderBytes_length]
  unfold headerEncode
  dsimp only
  constructor
  · intro h
    split at h
    · cases h
    · rename_i hid
      split at h
      · cases h
      · cases h
        refine ⟨hid, ?_, ?_, rfl⟩
        all_goals
          show (ipcHeaderBytes kind queryId (ipcHeaderSize + body.length) ++ body).length ≤ _
          rw [hlength]
          omega
  · rintro ⟨hid, hsize, hcapacity, rfl⟩
    rw [hlength] at hsize hcapacity
    rw [if_neg hid, if_neg (by omega)]
    rfl

theorem headerDecode_ipcHeaderBytes {queryId : Nat} {body : Bytes} {expected : Option PacketKind}
    (hid : queryId ≠ 0) (hfits : queryId < 256 ^ 8)
    (hsize : ipcHeaderSize + body.length ≤ ipcPacketByteLimit)
    (hexpected : expected = none ∨ expected = some kind) :
    headerDecode (ipcHeaderBytes kind queryId (ipcHeaderSize + body.length) ++ body) expected =
      .ok (⟨kind, queryId⟩, body) := by
  have hlimit : ipcPacketByteLimit = 4096 := rfl
  have hlength : (ipcHeaderBytes kind queryId (ipcHeaderSize + body.length) ++ body).length =
      ipcHeaderSize + body.length := by
    rw [List.length_append, ipcHeaderBytes_length]
  have hfields :
      headerFields (ipcHeaderBytes kind queryId (ipcHeaderSize + body.length) ++ body) = _ :=
    headerFields_encode (by decide : ipcProtocolVersion < 256 ^ 2) kind.encode_lt
      (by omega : ipcHeaderSize + body.length < 256 ^ 2) hfits body
  unfold headerDecode
  rw [hlength, if_neg (by omega), if_neg (by omega), hfields]
  dsimp only
  rw [if_neg (by simp [hid]), if_neg (by simp), PacketKind.decode_encode]
  dsimp only
  rw [if_neg]
  rintro ⟨hsome, hother⟩
  exact hexpected.elim hsome hother

/-- What a header that is accepted looks like. -/
theorem headerDecode_ok {packet body : Bytes} {header : PacketHeader}
    (h : headerDecode packet (some kind) = .ok (header, body)) :
    header.kind = kind ∧ header.queryId ≠ 0 ∧ header.queryId < 256 ^ 8 ∧
      packet.length ≤ ipcPacketByteLimit ∧
      packet = ipcHeaderBytes kind header.queryId (ipcHeaderSize + body.length) ++ body := by
  unfold headerDecode at h
  split at h
  · cases h
  rename_i hlong
  split at h
  · cases h
  split at h
  · cases h
  rename_i magic version encodedKind size reserved queryId reader hfields
  split at h
  · cases h
  rename_i hchecks
  split at h
  · cases h
  rename_i hversion
  split at h
  · cases h
  rename_i decoded hkind
  split at h
  · cases h
  rename_i hexpected
  cases h
  -- the six fields, read back from the bytes
  simp only [headerFields, Option.bind_eq_bind, Option.bind_eq_some_iff, Prod.exists,
    Option.some.injEq, Prod.mk.injEq] at hfields
  obtain ⟨_, _, hmagic, _, _, hversion', _, _, hkind', _, _, hsize, _, _, hreserved, _, tail,
    hid, rfl, rfl, rfl, rfl, rfl, rfl, rfl⟩ := hfields
  obtain ⟨_, rfl⟩ := read_some hmagic
  obtain ⟨_, rfl⟩ := read_some hversion'
  obtain ⟨_, rfl⟩ := read_some hkind'
  obtain ⟨_, rfl⟩ := read_some hsize
  obtain ⟨_, rfl⟩ := read_some hreserved
  obtain ⟨hfits, rfl⟩ := read_some hid
  simp only [not_or, Decidable.not_not] at hchecks hversion
  obtain ⟨rfl, hlength, rfl, hne⟩ := hchecks
  have hk : kind = decoded := by simpa using hexpected
  subst hk
  have hcode := PacketKind.encode_of_decode hkind
  subst hcode hversion
  refine ⟨rfl, hne, hfits, Nat.not_lt.1 hlong, ?_⟩
  rw [List.length_append, List.length_append, List.length_append, List.length_append,
    List.length_append, List.length_append] at hlength
  simp only [encode_length] at hlength
  have hheader : ipcHeaderSize = 20 := rfl
  have hsum : 4 + (2 + (2 + (2 + (2 + (8 + tail.length))))) = ipcHeaderSize + tail.length := by
    omega
  unfold ipcHeaderBytes
  simp only [List.append_assoc]
  rw [hlength, hsum]

/-- Two headers in front of the same bytes hold the same length. -/
theorem ipcHeaderBytes_append_inj {queryId queryId' : Nat} {body body' : Bytes}
    (hid : queryId < 256 ^ 8) (hid' : queryId' < 256 ^ 8) {size size' : Nat}
    (hsize : size < 256 ^ 2) (hsize' : size' < 256 ^ 2)
    (h : ipcHeaderBytes kind queryId size ++ body = ipcHeaderBytes kind queryId' size' ++ body') :
    size = size' := by
  have hversion : ipcProtocolVersion < 256 ^ 2 := by decide
  have hfields : headerFields (ipcHeaderBytes kind queryId size ++ body) = _ :=
    headerFields_encode hversion kind.encode_lt hsize hid body
  have hfields' : headerFields (ipcHeaderBytes kind queryId' size' ++ body') = _ :=
    headerFields_encode hversion kind.encode_lt hsize' hid' body'
  rw [h, hfields'] at hfields
  simp only [Option.some.injEq, Prod.mk.injEq] at hfields
  exact hfields.2.2.2.1.symm

/-! ## 2. Codecs -/

/-- The two functions of one packet kind; `read` is what the decoder makes of the fields behind the
    header. -/
structure Codec (α : Type) where
  kind : PacketKind
  queryId : α → Nat
  encode : α → Nat → Except CodecStatus Bytes
  read : Nat → Bytes → Option α

/-- The decoder. -/
def Codec.decode {α : Type} (codec : Codec α) : Bytes → Except CodecStatus α :=
  packetDecode codec.kind codec.read

/-- The fields of a message are read back as they were written, up to `trim`, and fields that are
    accepted are those of the message. -/
structure FieldsBijective {α : Type} (typed : α → Prop) (trim : α → α) (codec : Codec α) :
    Prop where
  read_write : ∀ message capacity packet, typed message →
    codec.encode message capacity = .ok packet →
    ∃ body, headerEncode codec.kind (codec.queryId message) capacity body = .ok packet ∧
      codec.read (codec.queryId message) body = some (trim message)
  write_read : ∀ queryId body message, queryId < 256 ^ 8 → codec.read queryId body = some message →
    codec.queryId message = queryId ∧
      (∀ capacity, codec.encode message capacity = headerEncode codec.kind queryId capacity body) ∧
      typed message ∧ trim message = message

/-- **A codec that is a bijection**: between the messages it accepts, names taken as C strings, and
    the packets it accepts. -/
structure CodecBijective {α : Type} (typed : α → Prop) (trim : α → α)
    (encode : α → Nat → Except CodecStatus Bytes) (decode : Bytes → Except CodecStatus α) :
      Prop where
  /-- What was encoded is decoded to the same message. -/
  decode_encode : ∀ message capacity packet, typed message → encode message capacity = .ok packet →
    decode packet = .ok (trim message)
  /-- What was decoded is encoded to the same bytes, into any buffer that holds them. -/
  encode_decode : ∀ packet message capacity, decode packet = .ok message →
    packet.length ≤ capacity → encode message capacity = .ok packet
  /-- What was decoded is a value of the type, with the names as they stand. -/
  decoded : ∀ packet message, decode packet = .ok message → typed message ∧ trim message = message
  /-- No two packets are decoded to the same message. -/
  decode_injective : ∀ packet packet' message, decode packet = .ok message →
    decode packet' = .ok message → packet = packet'
  /-- No packet is accepted with bytes behind it. -/
  no_trailing : ∀ packet message rest message', decode packet = .ok message → rest ≠ [] →
    decode (packet ++ rest) ≠ .ok message'

theorem packetDecode_ok {α : Type} {body : Nat → Bytes → Option α}
    {message : α} (h : packetDecode kind body packet = .ok message) :
    ∃ header rest, headerDecode packet (some kind) = .ok (header, rest) ∧
      body header.queryId rest = some message := by
  unfold packetDecode at h
  split at h
  · cases h
  rename_i header reader hheader
  split at h
  · cases h
  rename_i hbody
  cases h
  exact ⟨header, reader, hheader, hbody⟩

namespace Codec

variable {α : Type} {typed : α → Prop} {trim : α → α} {codec : Codec α}

section

variable (h : FieldsBijective typed trim codec)

include h

theorem decode_encode
    (hid : ∀ message, typed message → codec.queryId message < 256 ^ 8) {message : α}
    {capacity : Nat} (ht : typed message) (he : codec.encode message capacity = .ok packet) :
    codec.decode packet = .ok (trim message) := by
  obtain ⟨body, hheader, hread⟩ := h.read_write message capacity packet ht he
  obtain ⟨hne, hsize, _, rfl⟩ := headerEncode_ok_iff.1 hheader
  rw [List.length_append, ipcHeaderBytes_length] at hsize
  unfold Codec.decode packetDecode
  rw [headerDecode_ipcHeaderBytes hne (hid message ht) hsize (Or.inr rfl)]
  dsimp only
  rw [hread]

theorem encode_decode {message : α} (hd : codec.decode packet = .ok message) :
    typed message ∧ trim message = message ∧
      ∀ capacity, packet.length ≤ capacity → codec.encode message capacity = .ok packet := by
  obtain ⟨header, body, hheader, hbody⟩ := packetDecode_ok hd
  obtain ⟨_, hne, hfits, hsize, hpacket⟩ := headerDecode_ok hheader
  obtain ⟨_, hwrite, ht, htrim⟩ := h.write_read header.queryId body message hfits hbody
  refine ⟨ht, htrim, fun capacity hcapacity => ?_⟩
  rw [hwrite]
  exact headerEncode_ok_iff.2 ⟨hne, hsize, hcapacity, hpacket⟩

/-- A message whose fields fit and are read back makes a packet that carries it. -/
theorem carries {message : α} {body : Bytes} (hid : QueryIdValid (codec.queryId message))
    (hread : codec.read (codec.queryId message) body = some message)
    (hsize : ipcHeaderSize + body.length ≤ ipcPacketByteLimit) :
    ∃ packet, codec.encode message ipcPacketByteLimit = .ok packet ∧
      Carries packet codec.kind (codec.queryId message) codec.decode message := by
  obtain ⟨_, hwrite, _⟩ := h.write_read _ _ _ hid.2 hread
  have hheader : ∀ expected, expected = none ∨ expected = some codec.kind → _ :=
    fun _ => headerDecode_ipcHeaderBytes hid.1 hid.2 hsize
  rw [hwrite]
  refine ⟨_, headerEncode_ok_iff.2 ⟨hid.1, ?_, ?_, rfl⟩, ?_, ?_⟩
  · rwa [List.length_append, ipcHeaderBytes_length]
  · rwa [List.length_append, ipcHeaderBytes_length]
  · rw [packetInspect, hheader none (Or.inl rfl)]
    rfl
  · rw [Codec.decode, packetDecode, hheader _ (Or.inr rfl)]
    dsimp only
    rw [hread]

/-- **Fields that are read back exactly make a bijection.** -/
theorem bijective (hid : ∀ message, typed message → codec.queryId message < 256 ^ 8) :
    CodecBijective typed trim codec.encode codec.decode where
  decode_encode _ _ _ ht he := decode_encode h hid ht he
  encode_decode _ _ capacity hd hcapacity := (encode_decode h hd).2.2 capacity hcapacity
  decoded _ _ hd := ⟨(encode_decode h hd).1, (encode_decode h hd).2.1⟩
  decode_injective packet packet' message hd hd' := by
    have he := (encode_decode h hd).2.2 (max packet.length packet'.length) (Nat.le_max_left ..)
    have he' := (encode_decode h hd').2.2 (max packet.length packet'.length) (Nat.le_max_right ..)
    rw [he] at he'
    exact Except.ok.inj he'
  no_trailing packet message rest message' hd hrest hd' := by
    -- the header of a packet holds the packet's own length
    obtain ⟨header, body, hheader, _⟩ := packetDecode_ok hd
    obtain ⟨header', body', hheader', _⟩ := packetDecode_ok hd'
    obtain ⟨_, _, hfits, hsize, hpacket⟩ := headerDecode_ok hheader
    obtain ⟨_, _, hfits', hsize', hpacket'⟩ := headerDecode_ok hheader'
    have hlength := congrArg List.length hpacket
    have hlength' := congrArg List.length hpacket'
    simp only [List.length_append, ipcHeaderBytes_length] at hlength hlength' hsize'
    rw [hpacket, List.append_assoc] at hpacket'
    have hlimit : ipcPacketByteLimit = 4096 := rfl
    have hequal := ipcHeaderBytes_append_inj hfits hfits' (by omega) (by omega) hpacket'
    exact hrest (List.length_eq_zero_iff.1 (by omega))

end

end Codec

/-- A name in a chain of readers that accepts. -/
@[elab_as_elim]
theorem readerName_bind_elim {α : Type} {f : Bytes × Bytes → Option α} {a : α}
    {motive : Nat → Bytes → Prop} {reader : Bytes}
    (h : (readerName size allowEmpty reader >>= f) = some a)
    (next : ∀ name rest, NameFits name → (allowEmpty = true ∨ name ≠ []) →
      f (name, rest) = some a → motive name.length (name ++ rest)) : motive size reader := by
  obtain ⟨⟨name, rest⟩, hname, hf⟩ := Option.bind_eq_some_iff.1 h
  obtain ⟨rfl, hfits, hne, rfl⟩ := readerName_iff.1 hname
  exact next name rest hfits hne hf

/-! ## 3. The six kinds -/

/-- The values of `resolver_ipc_request`: `query_id` is a `uint64_t`. -/
def Request.Typed (request : Request) : Prop := request.queryId < 256 ^ 8

def Request.trimmed (request : Request) : Request :=
  { request with queryName := cString request.queryName }

def requestCodec : Codec Request :=
  ⟨.request, Request.queryId, requestEncode, requestBody⟩

theorem requestCodec_fields : FieldsBijective Request.Typed Request.trimmed requestCodec where
  read_write request capacity packet _ hencode := by
    dsimp only [requestCodec] at hencode ⊢
    unfold requestEncode at hencode
    split at hencode
    · cases hencode
    rename_i hclass
    split at hencode
    · cases hencode
    rename_i nameSize hsize
    obtain ⟨rfl, hname, hne⟩ := ipcNameSize_iff.1 hsize
    have hread : requestBody request.trimmed.queryId _ = some request.trimmed :=
      requestBody_encode (Decidable.not_not.1 hclass) hname (hne.resolve_left nofun)
    exact ⟨_, hencode, hread⟩
  write_read queryId body request hid hread := by
    dsimp only [requestCodec] at hread ⊢
    refine read_bind_elim hread fun queryClass _ _ hread => ?_
    refine read_bind_elim hread fun code _ _ hread => ?_
    refine read_bind_elim hread fun size _ _ hread => ?_
    obtain ⟨_, hread⟩ := guard_bind_some hread
    obtain ⟨queryType, htype, hread⟩ := Option.bind_eq_some_iff.1 hread
    refine readerName_bind_elim hread fun name _ hfits hne hread => ?_
    obtain ⟨_, hread⟩ := guard_bind_some hread
    obtain rfl := Option.some.inj hread
    subst_vars
    have hcode := QueryType.code_of_ofCode htype
    subst hcode
    obtain ⟨hstring, hsize⟩ := hfits.ipcNameSize_of hne
    refine ⟨rfl, fun capacity => ?_, hid, ?_⟩
    · rw [requestEncode, if_neg (by simp), hsize, hstring]
      simp only [List.append_assoc, List.append_nil]
    · rw [Request.trimmed, hstring]

/-- The values of `resolver_ipc_response_begin`: `query_id` is a `uint64_t`, the seconds are a
    `time_t`. -/
def ResponseBegin.Typed (response : ResponseBegin) : Prop :=
  response.queryId < 256 ^ 8 ∧ response.completedAt.sec ≤ timeMax

def NegativeRecord.trimmed (negative : NegativeRecord) : NegativeRecord :=
  { negative with owner := cString negative.owner }

def ResponseBegin.trimmed (response : ResponseBegin) : ResponseBegin :=
  { response with
    canonicalName := cString response.canonicalName
    questionName := cString response.questionName
    negative := response.negative.trimmed }

def beginCodec : Codec ResponseBegin :=
  ⟨.responseBegin, ResponseBegin.queryId, beginEncode, beginBody⟩

theorem ipcNegativeValid_trimmed (negative : NegativeRecord) :
    ipcNegativeValid negative.trimmed = ipcNegativeValid negative := by
  simp only [ipcNegativeValid, NegativeRecord.trimmed, ipcNameSize,
    cString_of_not_mem (not_mem_cString negative.owner)]
  rfl

/-- A time is read back from the two fields it is written to. -/
theorem timeEncode_some {t : Timespec} {seconds nanoseconds : Nat}
    (h : timeEncode t = some (seconds, nanoseconds)) (hmax : t.sec ≤ timeMax) :
    ClockTime t ∧ seconds < 256 ^ 8 ∧ nanoseconds < 256 ^ 4 ∧
      timeDecode seconds nanoseconds = some t := by
  have hclock : ClockTime t := by
    unfold timeEncode at h
    split at h
    · rename_i hvalid
      exact ⟨hvalid, hmax⟩
    · cases h
  obtain ⟨_, _, htime, hsec, hnsec, hdecode⟩ := hclock.encode_decode
  rw [htime] at h
  cases h
  exact ⟨hclock, hsec, hnsec, hdecode⟩

/-- A time that was read is written to the two fields it was read from. -/
theorem timeDecode_some {t : Timespec} {seconds nanoseconds : Nat}
    (h : timeDecode seconds nanoseconds = some t) :
    timeEncode t = some (seconds, nanoseconds) ∧ t.sec ≤ timeMax := by
  unfold timeDecode at h
  split at h
  · cases h
  rename_i hgood
  cases h
  refine ⟨?_, (not_or.1 hgood).2 |> Int.not_lt.1⟩
  rw [timeEncode, if_pos]
  · rfl
  · simp only [timeutilValid, Bool.and_eq_true, decide_eq_true_eq]
    omega

/-- The flag byte of a negative record is written as it was read. -/
theorem negativeFlag_of_le {flag : Nat} (h : flag ≤ 1) :
    (if decide (flag ≠ 0) = true then 1 else 0) = flag ∧
      (!decide (flag ≠ 0)) = decide (flag = 0) := by
  obtain rfl | rfl := Nat.le_one_iff_eq_zero_or_eq_one.1 h <;> decide

theorem LookupStatus.encode_of_decode {status : LookupStatus}
    (h : LookupStatus.decode code = some status) : status.encode = code := by
  unfold LookupStatus.decode at h
  split at h <;> cases h <;> rfl

/-- What the encoder accepts can be sent, once the names are C strings, and is read back. -/
theorem beginEncode_ok {response : ResponseBegin} {capacity : Nat} (htyped : response.Typed)
    (hencode : beginEncode response capacity = .ok packet) :
    response.trimmed.Encodable ∧ ∃ body,
      headerEncode .responseBegin response.queryId capacity body = .ok packet ∧
        beginBody response.queryId body = some response.trimmed := by
  unfold beginEncode at hencode
  dsimp only at hencode
  split at hencode
  · cases hencode
  rename_i hgood
  split at hencode
  · rename_i seconds nanoseconds _ _ _ htime hquestion hcanonical howner
    obtain ⟨hclock, hsec, hnsec, hdecode⟩ := timeEncode_some htime htyped.2
    obtain ⟨rfl, hquestion, _⟩ := ipcNameSize_iff.1 hquestion
    obtain ⟨rfl, hcanonical, _⟩ := ipcNameSize_iff.1 hcanonical
    obtain ⟨rfl, howner, _⟩ := ipcNameSize_iff.1 howner
    simp only [not_or, Decidable.not_not] at hgood
    obtain ⟨hclass, hrcode, hnegative, hcounts⟩ := hgood
    have hencodable : response.trimmed.Encodable := {
      queryClass := hclass
      queryId := ⟨(headerEncode_ok_iff.1 hencode).1, htyped.1⟩
      rcode := UInt8.not_lt.1 hrcode
      negative := (ipcNegativeValid_trimmed response.negative).trans hnegative
      counts := hcounts
      completedAt := hclock
      question := hquestion
      canonical := hcanonical
      owner := howner }
    exact ⟨hencodable, _, hencode, beginBody_encode hencodable hsec hnsec hdecode⟩
  · cases hencode

theorem beginCodec_fields :
    FieldsBijective ResponseBegin.Typed ResponseBegin.trimmed beginCodec where
  read_write _ _ _ htyped hencode := (beginEncode_ok htyped hencode).2
  write_read queryId body response hid hread := by
    dsimp only [beginCodec] at hread ⊢
    -- the fixed fields, in the order of the packet
    refine read_bind_elim hread fun queryClass _ _ hread => ?_
    refine read_bind_elim hread fun code _ _ hread => ?_
    refine read_bind_elim hread fun encodedStatus _ _ hread => ?_
    refine read_bind_elim hread fun rcode _ hrcode hread => ?_
    refine read_bind_elim hread fun flag _ _ hread => ?_
    refine read_bind_elim hread fun seconds _ _ hread => ?_
    refine read_bind_elim hread fun nanoseconds _ _ hread => ?_
    refine read_bind_elim hread fun cnameCount _ _ hread => ?_
    refine read_bind_elim hread fun recordCount _ _ hread => ?_
    refine read_bind_elim hread fun questionSize _ _ hread => ?_
    refine read_bind_elim hread fun canonicalSize _ _ hread => ?_
    refine read_bind_elim hread fun ownerSize _ _ hread => ?_
    refine read_bind_elim hread fun effectiveTtl _ heffective hread => ?_
    refine read_bind_elim hread fun minimum _ hminimum hread => ?_
    refine read_bind_elim hread fun recordTtl _ hrecord hread => ?_
    -- the checks, and the three names
    obtain ⟨_, hread⟩ := guard_bind_some hread
    obtain ⟨queryType, htype, hread⟩ := Option.bind_eq_some_iff.1 hread
    obtain ⟨status, hstatus, hread⟩ := Option.bind_eq_some_iff.1 hread
    obtain ⟨hrcodele, hread⟩ := guard_bind_some hread
    obtain ⟨hflag, hread⟩ := guard_bind_some hread
    obtain ⟨completedAt, htime, hread⟩ := Option.bind_eq_some_iff.1 hread
    obtain ⟨hcounts, hread⟩ := guard_bind_some hread
    refine readerName_bind_elim hread fun question _ hqfits _ hread => ?_
    refine readerName_bind_elim hread fun canonical _ hcfits _ hread => ?_
    refine readerName_bind_elim hread fun owner _ hofits hone hread => ?_
    obtain ⟨_, hread⟩ := guard_bind_some hread
    obtain ⟨hnegative, hread⟩ := guard_bind_some hread
    obtain rfl := Option.some.inj hread
    subst_vars
    obtain rfl := QueryType.code_of_ofCode htype
    obtain rfl := LookupStatus.encode_of_decode hstatus
    obtain ⟨htime, hmax⟩ := timeDecode_some htime
    obtain ⟨hflag, hflag'⟩ := negativeFlag_of_le hflag
    obtain ⟨hqstring, hqsize⟩ := hqfits.ipcNameSize_of (Or.inl rfl)
    obtain ⟨hcstring, hcsize⟩ := hcfits.ipcNameSize_of (Or.inl rfl)
    obtain ⟨hostring, hosize⟩ := hofits.ipcNameSize_of hone
    refine ⟨rfl, fun capacity => ?_, ⟨hid, hmax⟩, ?_⟩
    · unfold beginEncode
      rw [if_neg, htime, hqsize, hcsize, hflag', hosize]
      · rw [hqstring, hcstring, hostring, hflag, UInt8.toNat_ofNat_of_lt' hrcode,
          UInt32.toNat_ofNat_of_lt' heffective, UInt32.toNat_ofNat_of_lt' hminimum,
          UInt32.toNat_ofNat_of_lt' hrecord]
        simp only [List.append_assoc, List.append_nil]
      simp only [not_or, Decidable.not_not]
      refine ⟨trivial, ?_, hnegative, hcounts⟩
      rw [gt_iff_lt, UInt8.not_lt, UInt8.le_iff_toNat_le, UInt8.toNat_ofNat_of_lt' hrcode]
      exact hrcodele
    · simp only [ResponseBegin.trimmed, NegativeRecord.trimmed, hqstring, hcstring, hostring]

/-- The values of `resolver_ipc_response_cname`. -/
def ResponseCname.Typed (response : ResponseCname) : Prop := response.queryId < 256 ^ 8

def ResponseCname.trimmed (response : ResponseCname) : ResponseCname :=
  { response with record := { response.record with
      owner := cString response.record.owner
      target := cString response.record.target } }

def cnameCodec : Codec ResponseCname :=
  ⟨.responseCname, ResponseCname.queryId, cnameEncode, cnameBody⟩

theorem cnameCodec_fields :
    FieldsBijective ResponseCname.Typed ResponseCname.trimmed cnameCodec where
  read_write response capacity packet _ hencode := by
    dsimp only [cnameCodec] at hencode ⊢
    unfold cnameEncode at hencode
    split at hencode
    · cases hencode
    rename_i hindex
    split at hencode
    · rename_i _ _ howner htarget
      obtain ⟨rfl, howner, hone⟩ := ipcNameSize_iff.1 howner
      obtain ⟨rfl, htarget, htne⟩ := ipcNameSize_iff.1 htarget
      have hread : cnameBody response.trimmed.queryId _ = some response.trimmed :=
        cnameBody_encode (Nat.not_le.1 hindex) howner (hone.resolve_left nofun) htarget
          (htne.resolve_left nofun)
      exact ⟨_, hencode, hread⟩
    · cases hencode
  write_read queryId body response hid hread := by
    dsimp only [cnameCodec] at hread ⊢
    refine read_bind_elim hread fun index _ _ hread => ?_
    refine read_bind_elim hread fun ttl _ httl hread => ?_
    refine read_bind_elim hread fun ownerSize _ _ hread => ?_
    refine read_bind_elim hread fun targetSize _ _ hread => ?_
    obtain ⟨hindex, hread⟩ := guard_bind_some hread
    refine readerName_bind_elim hread fun owner _ hofits hone hread => ?_
    refine readerName_bind_elim hread fun target _ htfits htne hread => ?_
    obtain ⟨_, hread⟩ := guard_bind_some hread
    obtain rfl := Option.some.inj hread
    subst_vars
    obtain ⟨hostring, hosize⟩ := hofits.ipcNameSize_of hone
    obtain ⟨htstring, htsize⟩ := htfits.ipcNameSize_of htne
    refine ⟨rfl, fun capacity => ?_, hid, ?_⟩
    · rw [cnameEncode, if_neg (Nat.not_le.2 hindex), hosize, htsize]
      rw [hostring, htstring, UInt32.toNat_ofNat_of_lt' httl]
      simp only [List.append_assoc, List.append_nil]
    · simp only [ResponseCname.trimmed, hostring, htstring]

/-- The values of `resolver_ipc_response_address`. -/
def ResponseAddress.Typed (response : ResponseAddress) : Prop := response.queryId < 256 ^ 8

def addressCodec : Codec ResponseAddress :=
  ⟨.responseAddress, ResponseAddress.queryId, addressEncode, addressBody⟩

theorem Family.encode_of_decode {family : Family}
    (h : Family.decode code = some family) : family.encode = code := by
  unfold Family.decode at h
  split at h <;> cases h <;> rfl

/-- TTLs read from four bytes each compare as they were read. -/
theorem ttl_not_lt_of_le {effectiveTtl recordTtl : Nat} (heffective : effectiveTtl < 256 ^ 4)
    (hrecord : recordTtl < 256 ^ 4) (h : effectiveTtl ≤ recordTtl) :
    ¬ UInt32.ofNat effectiveTtl > UInt32.ofNat recordTtl := by
  rw [gt_iff_lt, UInt32.not_lt, UInt32.le_iff_toNat_le, UInt32.toNat_ofNat_of_lt' heffective,
    UInt32.toNat_ofNat_of_lt' hrecord]
  exact h

theorem addressCodec_fields : FieldsBijective ResponseAddress.Typed id addressCodec where
  read_write response capacity packet _ hencode := by
    dsimp only [addressCodec] at hencode ⊢
    unfold addressEncode at hencode
    dsimp only at hencode
    split at hencode
    · cases hencode
    rename_i hgood
    rw [not_or] at hgood
    exact ⟨_, hencode, addressBody_encode (Nat.not_le.1 hgood.1) (UInt32.not_lt.1 hgood.2)⟩
  write_read queryId body response hid hread := by
    dsimp only [addressCodec] at hread ⊢
    refine read_bind_elim hread fun index _ _ hread => ?_
    refine read_bind_elim hread fun code _ _ hread => ?_
    refine read_bind_elim hread fun recordTtl _ hrecord hread => ?_
    refine read_bind_elim hread fun effectiveTtl _ heffective hread => ?_
    refine read_bind_elim hread fun size _ _ hread => ?_
    obtain ⟨hindex, hread⟩ := guard_bind_some hread
    obtain ⟨hle, hread⟩ := guard_bind_some hread
    obtain ⟨family, hfamily, hread⟩ := Option.bind_eq_some_iff.1 hread
    obtain ⟨⟨data, _⟩, htake, hread⟩ := Option.bind_eq_some_iff.1 hread
    obtain ⟨_, hread⟩ := guard_bind_some hread
    obtain ⟨hsize, _⟩ := takeBytes_some htake
    split at hread
    · rename_i hdata
      replace hsize := hsize.symm.trans hdata
      obtain rfl := Option.some.inj hread
      obtain rfl := Family.encode_of_decode hfamily
      subst_vars
      refine ⟨rfl, fun capacity => ?_, hid, rfl⟩
      unfold addressEncode
      rw [if_neg (not_or.2 ⟨Nat.not_le.2 hindex, ttl_not_lt_of_le heffective hrecord hle⟩),
        UInt32.toNat_ofNat_of_lt' hrecord, UInt32.toNat_ofNat_of_lt' heffective]
      simp only [List.append_assoc, List.append_nil]
    · cases hread

/-- The values of `resolver_ipc_response_srv`. -/
def ResponseSrv.Typed (response : ResponseSrv) : Prop := response.queryId < 256 ^ 8

def ResponseSrv.trimmed (response : ResponseSrv) : ResponseSrv :=
  { response with record := { response.record with target := cString response.record.target } }

def srvCodec : Codec ResponseSrv :=
  ⟨.responseSrv, ResponseSrv.queryId, srvEncode, srvBody⟩

theorem srvCodec_fields : FieldsBijective ResponseSrv.Typed ResponseSrv.trimmed srvCodec where
  read_write response capacity packet _ hencode := by
    dsimp only [srvCodec] at hencode ⊢
    unfold srvEncode at hencode
    dsimp only at hencode
    split at hencode
    · cases hencode
    rename_i hgood
    split at hencode
    · cases hencode
    rename_i hsize
    obtain ⟨rfl, htarget, hne⟩ := ipcNameSize_iff.1 hsize
    rw [not_or] at hgood
    have hread : srvBody response.trimmed.queryId _ = some response.trimmed :=
      srvBody_encode (Nat.not_le.1 hgood.1) (UInt32.not_lt.1 hgood.2) htarget
        (hne.resolve_left nofun)
    exact ⟨_, hencode, hread⟩
  write_read queryId body response hid hread := by
    dsimp only [srvCodec] at hread ⊢
    refine read_bind_elim hread fun index _ _ hread => ?_
    refine read_bind_elim hread fun priority _ hpriority hread => ?_
    refine read_bind_elim hread fun weight _ hweight hread => ?_
    refine read_bind_elim hread fun port _ hport hread => ?_
    refine read_bind_elim hread fun recordTtl _ hrecord hread => ?_
    refine read_bind_elim hread fun effectiveTtl _ heffective hread => ?_
    refine read_bind_elim hread fun size _ _ hread => ?_
    obtain ⟨hindex, hread⟩ := guard_bind_some hread
    obtain ⟨hle, hread⟩ := guard_bind_some hread
    refine readerName_bind_elim hread fun target _ hfits hne hread => ?_
    obtain ⟨_, hread⟩ := guard_bind_some hread
    obtain rfl := Option.some.inj hread
    subst_vars
    obtain ⟨hstring, hsize⟩ := hfits.ipcNameSize_of hne
    refine ⟨rfl, fun capacity => ?_, hid, by rw [ResponseSrv.trimmed, hstring]⟩
    unfold srvEncode
    rw [if_neg (not_or.2 ⟨Nat.not_le.2 hindex, ttl_not_lt_of_le heffective hrecord hle⟩), hsize]
    rw [hstring, UInt32.toNat_ofNat_of_lt' hrecord, UInt32.toNat_ofNat_of_lt' heffective,
      UInt16.toNat_ofNat_of_lt' hpriority, UInt16.toNat_ofNat_of_lt' hweight,
      UInt16.toNat_ofNat_of_lt' hport]
    simp only [List.append_assoc, List.append_nil]

/-- The values of `resolver_ipc_response_end`. -/
def ResponseEnd.Typed (response : ResponseEnd) : Prop := response.queryId < 256 ^ 8

def endCodec : Codec ResponseEnd :=
  ⟨.responseEnd, ResponseEnd.queryId, endEncode, endBody⟩

theorem endCodec_fields : FieldsBijective ResponseEnd.Typed id endCodec where
  read_write response capacity packet _ hencode := by
    dsimp only [endCodec] at hencode ⊢
    unfold endEncode at hencode
    split at hencode
    · cases hencode
    rename_i hgood
    exact ⟨_, hencode, endBody_encode (Decidable.not_not.1 hgood)⟩
  write_read queryId body response hid hread := by
    dsimp only [endCodec] at hread ⊢
    refine read_bind_elim hread fun cnameCount _ _ hread => ?_
    refine read_bind_elim hread fun recordCount _ _ hread => ?_
    obtain ⟨hvalid, hread⟩ := guard_bind_some hread
    obtain ⟨_, hread⟩ := guard_bind_some hread
    obtain rfl := Option.some.inj hread
    subst_vars
    refine ⟨rfl, fun capacity => ?_, hid, rfl⟩
    rw [endEncode, if_neg (Decidable.not_not.2 hvalid), List.append_nil]

/-! ## 4. What a decoder accepts -/

theorem not_mem_of_cString_eq (h : cString name = name) : (0 : UInt8) ∉ name :=
  h ▸ not_mem_cString name

/-- A BEGIN packet that is accepted holds a message that can be sent. -/
theorem beginDecode_encodable {b : ResponseBegin} (h : beginDecode packet = .ok b) :
    b.Encodable := by
  have hdecode : beginCodec.decode packet = .ok b := h
  obtain ⟨htyped, htrim, hencode⟩ := Codec.encode_decode beginCodec_fields hdecode
  exact htrim ▸ (beginEncode_ok htyped (hencode _ (Nat.le_refl _))).1

/-- The names of an alias that is accepted hold no NUL. -/
theorem cnameDecode_no_nul {response : ResponseCname} (h : cnameDecode packet = .ok response) :
    (0 : UInt8) ∉ response.record.owner ∧ (0 : UInt8) ∉ response.record.target := by
  have hdecode : cnameCodec.decode packet = .ok response := h
  obtain ⟨_, htrim, _⟩ := Codec.encode_decode cnameCodec_fields hdecode
  have hrecord := congrArg ResponseCname.record htrim
  exact ⟨not_mem_of_cString_eq (congrArg CnameRecord.owner hrecord),
    not_mem_of_cString_eq (congrArg CnameRecord.target hrecord)⟩

/-- The target of an SRV record that is accepted holds no NUL. -/
theorem srvDecode_no_nul {response : ResponseSrv}
    (h : srvDecode packet = .ok response) : (0 : UInt8) ∉ response.record.target := by
  have hdecode : srvCodec.decode packet = .ok response := h
  obtain ⟨_, htrim, _⟩ := Codec.encode_decode srvCodec_fields hdecode
  exact not_mem_of_cString_eq (congrArg (fun r => SrvRecord.target r.record) htrim)

/-! ## 5. What an encoder makes -/

theorem cnameEncode_carries (response : ResponseCname) (hid : QueryIdValid response.queryId)
    (hindex : response.index < cnameDepthLimit) (ho : Normalized response.record.owner)
    (ht : Normalized response.record.target) :
    ∃ packet, cnameEncode response ipcPacketByteLimit = .ok packet ∧
      Carries packet .responseCname response.queryId cnameDecode response := by
  refine Codec.carries cnameCodec_fields hid
    (cnameBody_encode hindex ho.fits ho.ne_nil ht.fits ht.ne_nil) ?_
  have hlo := ho.length_lt
  have hlt := ht.length_lt
  simp only [List.length_append, encode_length, ipcHeaderSize, ipcPacketByteLimit, nsMaxdname] at *
  omega

theorem addressEncode_carries (response : ResponseAddress) (hid : QueryIdValid response.queryId)
    (hindex : response.index < addressRecordLimit)
    (httl : response.record.effectiveTtl ≤ response.record.recordTtl) :
    ∃ packet, addressEncode response ipcPacketByteLimit = .ok packet ∧
      Carries packet .responseAddress response.queryId addressDecode response := by
  refine Codec.carries addressCodec_fields hid (addressBody_encode hindex httl) ?_
  have hfamily := response.record.address.family.size_le
  simp only [List.length_append, encode_length, ipcHeaderSize, ipcPacketByteLimit,
    response.record.address.data_length]
  omega

theorem srvEncode_carries (response : ResponseSrv) (hid : QueryIdValid response.queryId)
    (hindex : response.index < srvRecordLimit)
    (httl : response.record.effectiveTtl ≤ response.record.recordTtl)
    (ht : Normalized response.record.target) :
    ∃ packet, srvEncode response ipcPacketByteLimit = .ok packet ∧
      Carries packet .responseSrv response.queryId srvDecode response := by
  refine Codec.carries srvCodec_fields hid (srvBody_encode hindex httl ht.fits ht.ne_nil) ?_
  have hlt := ht.length_lt
  simp only [List.length_append, encode_length, ipcHeaderSize, ipcPacketByteLimit, nsMaxdname] at *
  omega

theorem beginEncode_carries (response : ResponseBegin) (h : response.Encodable) :
    ∃ packet, beginEncode response ipcPacketByteLimit = .ok packet ∧
      Carries packet .responseBegin response.queryId beginDecode response := by
  obtain ⟨_, _, _, hsec, hnsec, hdecode⟩ := h.completedAt.encode_decode
  refine Codec.carries beginCodec_fields h.queryId (beginBody_encode h hsec hnsec hdecode) ?_
  have hlq := h.question.length_lt
  have hlc := h.canonical.length_lt
  have hlo := h.owner.length_lt
  simp only [List.length_append, encode_length, ipcHeaderSize, ipcPacketByteLimit, nsMaxdname] at *
  omega

theorem endEncode_carries (response : ResponseEnd) (hid : QueryIdValid response.queryId)
    (hc : response.cnameCount ≤ cnameDepthLimit) (hr : response.recordCount ≤ addressRecordLimit) :
    ∃ packet, endEncode response ipcPacketByteLimit = .ok packet ∧
      Carries packet .responseEnd response.queryId endDecode response :=
  Codec.carries endCodec_fields hid (endBody_encode (by simp [endCountValid, hc, hr]))
    (by simp [ipcHeaderSize, ipcPacketByteLimit])

/-! ## 6. The protocol -/

/-- The six codecs of the protocol are bijections. -/
structure IpcBijective : Prop where
  request : CodecBijective Request.Typed Request.trimmed requestEncode requestDecode
  responseBegin : CodecBijective ResponseBegin.Typed ResponseBegin.trimmed beginEncode beginDecode
  responseCname : CodecBijective ResponseCname.Typed ResponseCname.trimmed cnameEncode cnameDecode
  responseAddress : CodecBijective ResponseAddress.Typed id addressEncode addressDecode
  responseSrv : CodecBijective ResponseSrv.Typed ResponseSrv.trimmed srvEncode srvDecode
  responseEnd : CodecBijective ResponseEnd.Typed id endEncode endDecode

/-- **Every codec of the protocol is a bijection.** -/
theorem ipc_codecs_bijective : IpcBijective where
  request := Codec.bijective requestCodec_fields fun _ h => h
  responseBegin := Codec.bijective beginCodec_fields fun _ h => h.1
  responseCname := Codec.bijective cnameCodec_fields fun _ h => h
  responseAddress := Codec.bijective addressCodec_fields fun _ h => h
  responseSrv := Codec.bijective srvCodec_fields fun _ h => h
  responseEnd := Codec.bijective endCodec_fields fun _ h => h

end MinecraftRelay
