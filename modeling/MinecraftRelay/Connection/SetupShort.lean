/-
  File:      Connection/SetupShort.lean
  Subject:   connection/setup_short.c: the plan for a status request, made by the listener.

  The plan holds the bytes for the upstream and the answer for a client whose upstream cannot be
  reached. The copies of snapshot and inbound address in it are the arguments. Allocation succeeds:
  where it fails the source answers ABORT.

  The request of a rewritten handshake is built by `packet_write`, which appends a second frame also
  to a status request; the plan takes only the first packet of what it wrote.

  * `ShortPrepared` -- everything `connection_setup_short_prepare` checked before CONNECT;
  * `requestModern_kept`, `requestLegacy_kept` -- one rewritten packet, then the bytes behind it;
  * `connectionSetupShortPrepare_request` -- no byte of the client is lost, doubled or moved.
-/
import MinecraftRelay.Connection.Setup
import MinecraftRelay.Protocol.LegacyPing
import MinecraftRelay.Protocol.Roundtrip

namespace MinecraftRelay

variable {endpoint : RouteEndpointSnapshot} {snapshot : SetupSnapshot} {plan plan' : ShortPlan}
  {ntop : InetNtop} {size : Nat}

/-! ## 1. The plan -/

/-- `connection_setup_short_action`. -/
inductive ShortAction where
  | abort
  | connect
  | respond
  deriving DecidableEq, Repr

/-- `connection_setup_short_plan`, as it is after its `memset`. -/
structure ShortPlan where
  protocol : ProtocolVersion := .unident
  intent : Intent := .unspecified
  pheader : Bytes := []
  request : Option Bytes := none
  response : Option Bytes := none
  result : SetupStatus := .eabort
  deriving DecidableEq, Repr

/-- `CONNECTION_SETUP_SHORT_PACKET_SCRATCH_SIZE`. -/
def shortPacketScratchSize : Nat := bufsiz + routeEndpointTextSize + 32

/-- `connection_setup_short_packet_complete`. -/
def shortPacketComplete (initial : Bytes) (protocol : ProtocolVersion) : Prop :=
  ((protocol = .legacyM1 ∨ protocol = .legacyM2) ∧
      ((packetLength initial).1 = .ambiguous ∨ (packetLength initial).1 = .complete)) ∨
    ((packetLength initial).1 = .complete ∧ (packetLength initial).2 ≤ initial.length)

instance (initial : Bytes) (protocol : ProtocolVersion) :
    Decidable (shortPacketComplete initial protocol) :=
  inferInstanceAs (Decidable ((_ ∧ _) ∨ (_ ∧ _)))

/-- `connection_setup_short_plan_endpoint_valid`. -/
def shortPlanEndpointValid (endpoint : RouteEndpointSnapshot) : Prop :=
  setupAddressValid endpoint.address ∧ endpoint.port ≠ 0 ∧ endpoint.generationIdentity ≠ 0 ∧
    endpoint.configuredAddress.Terminated ∧ endpoint.targetName.Terminated ∧
    endpoint.vhost.Terminated ∧ endpoint.configuredAddress.text ≠ [] ∧ endpoint.vhost.text ≠ [] ∧
    (endpoint.pheader = true → setupAddressValid endpoint.inboundProxy.srcaddr ∧
      setupAddressValid endpoint.inboundProxy.dstaddr ∧
      endpoint.inboundProxy.family = endpoint.inboundProxy.srcaddr.family ∧
      endpoint.inboundProxy.family = endpoint.inboundProxy.dstaddr.family)

instance (endpoint : RouteEndpointSnapshot) : Decidable (shortPlanEndpointValid endpoint) :=
  inferInstanceAs (Decidable (_ ∧ _ ∧ _ ∧ _ ∧ _ ∧ _ ∧ _ ∧ _ ∧ (_ → _)))

/-! ## 2. The request -/

/-- `connection_setup_short_plan_request_payload`. -/
def shortPlanRequestPayload (pheader payload : Bytes) : Option Bytes :=
  if pheader.length > sizeMax - payload.length then none else some (pheader ++ payload)

/-- `connection_setup_short_plan_request_legacy`. -/
def shortPlanRequestLegacy (pheader initial : Bytes) (packetSize : Nat)
    (endpoint : RouteEndpointSnapshot) : Option Bytes :=
  if packetSize > initial.length then none
  else
    let packet := packetReadLegacyMotd (initial.take packetSize)
    packet.address.bind fun address =>
      if (cString address).length ≥ routeEndpointTextSize then none
      else if endpoint.rewrite = false then shortPlanRequestPayload pheader initial
      else
        let destination := setupDestination endpoint
        if destination.length > 0xFFFF then none
        else
          let payload := packetWriteLegacyMotd packet.version destination endpoint.port
          if payload.length ≠ 36 + destination.length * 2 then none
          else shortPlanRequestPayload pheader (payload ++ initial.drop packetSize)

/-- `connection_setup_short_plan_request_modern`. -/
def shortPlanRequestModern (pheader initial : Bytes) (packetSize : Nat)
    (endpoint : RouteEndpointSnapshot) : Option Bytes :=
  if packetSize > initial.length then none
  else if endpoint.rewrite = false then shortPlanRequestPayload pheader initial
  else
    (packetRead initial).bind fun packet =>
      if packet.nextstate ≠ Intent.status.toByte.toUInt32 then none
      else
        (packetWrite shortPacketScratchSize
            { packet with address := setupDestination endpoint, port := endpoint.port }).bind
          fun payload =>
            let rewrittenPacketSize := (packetLength payload).2
            if (packetLength payload).1 = .complete ∧ rewrittenPacketSize ≤ payload.length then
              shortPlanRequestPayload pheader
                (payload.take rewrittenPacketSize ++ initial.drop packetSize)
            else none

/-! ## 3. The response -/

/-- `connection_setup_short_plan_response_legacy`. -/
def shortPlanResponseLegacy (message : Bytes) (motdVersion : ProtocolVersion) (version : UInt8) :
    Option Bytes :=
  makeMotdLegacy bufsiz message motdVersion version

/-- `connection_setup_short_plan_response_modern`. -/
def shortPlanResponseModern (snapshot : SetupSnapshot) (message : Bytes) (version : Varint) :
    Option Bytes :=
  if snapshot.iconB64.Terminated then makeMotd bufsiz message version snapshot.iconB64.bytes
    else none

/-- `connection_setup_short_plan_response_unavailable`. -/
def shortPlanResponseUnavailable (snapshot : SetupSnapshot) (protocol : ProtocolVersion)
    (modernVersion : Varint) (legacyVersion : UInt8) : Option Bytes :=
  let message := ascii "[Proxy] Server Temporarily Unavailable."
  if protocol = .legacyM3 then shortPlanResponseLegacy message protocol legacyVersion
  else shortPlanResponseModern snapshot message modernVersion

/-- RESPOND with an answer that could be made, ABORT otherwise. -/
def shortRespond (plan : ShortPlan) (response : Option Bytes) : ShortAction × ShortPlan :=
  match response with
  | some response => (.respond, { plan with response := some response })
  | none => (.abort, plan)

/-! ## 4. `connection_setup_short_prepare` -/

/-- `connection_setup_short_result_for_route`. -/
def shortResultForRoute (snapshot : SetupSnapshot) : SetupStatus :=
  if snapshot.routeStatus = .noRoute then .enovhost else .enorecord

/-- `connection_setup_short_route_prepare`. -/
def shortRoutePrepare (plan : ShortPlan) (snapshot : SetupSnapshot) (modernVersion : Varint)
    (legacyVersion : UInt8) : ShortAction × ShortPlan :=
  if snapshot.routeStatus ≠ .ready then
    shortRespond { plan with result := shortResultForRoute snapshot }
      (shortPlanResponseUnavailable snapshot plan.protocol modernVersion legacyVersion)
  else (if shortPlanEndpointValid snapshot.endpoint then .connect else .abort, plan)

/-- The header of the request: none unless asked for; `none` when it cannot be written. -/
def shortPheader (ntop : InetNtop) (endpoint : RouteEndpointSnapshot) : Option Bytes :=
  if endpoint.pheader = true then
    (protocolProxyWrite ntop endpoint.inboundProxy).bind fun pheader =>
      if pheader.length > protoproxyPacketMaxLen then none else some pheader
  else some []

/-- What follows the decoding of either protocol. -/
def shortPlanFinish (ntop : InetNtop) (plan : ShortPlan) (snapshot : SetupSnapshot)
    (initial : Bytes) (packetSize : Nat) (modernVersion : Varint) (legacyVersion : UInt8) :
    ShortAction × ShortPlan :=
  match shortRoutePrepare plan snapshot modernVersion legacyVersion with
  | (.connect, plan) =>
      match shortPheader ntop snapshot.endpoint with
      | none => (.abort, plan)
      | some pheader =>
          let plan := { plan with pheader }
          let request :=
            if plan.protocol = .legacyM3 then
              shortPlanRequestLegacy pheader initial packetSize snapshot.endpoint
            else shortPlanRequestModern pheader initial packetSize snapshot.endpoint
          match request with
          | none => (.abort, plan)
          | some request =>
              let plan := { plan with request := some request }
              match shortPlanResponseUnavailable snapshot plan.protocol modernVersion
                legacyVersion with
              | none => (.abort, plan)
              | some response => (.connect, { plan with response := some response, result := .ok })
  | routed => routed

/-- `connection_setup_short_prepare`. -/
def connectionSetupShortPrepare (ntop : InetNtop) (snapshot : SetupSnapshot)
    (inboundAddress : NetAddrBundle) (initial : Bytes) : ShortAction × ShortPlan :=
  if ¬ setupSnapshotValid snapshot ∨ ¬ setupBundleValid inboundAddress ∨ initial.length = 0 ∨
      initial.length > bufsiz then (.abort, {})
  else
    let protocol := (protocolIdentify initial).1
    let intent := (protocolIdentify initial).2
    let plan : ShortPlan := { protocol, intent }
    let packetSize := (packetLength initial).2
    if protocol = .unident ∨ ¬ shortPacketComplete initial protocol then (.abort, plan)
    else
      match protocol with
      | .legacyM1 | .legacyM2 =>
          shortRespond { plan with result := .eoldclient }
            (shortPlanResponseLegacy (ascii "Proxy: Please use direct connect.") protocol 0)
      | .modern1 =>
          if intent ≠ .status then (.abort, plan)
          else
            shortRespond { plan with result := .eoldclient }
              (shortPlanResponseModern snapshot (ascii "[Proxy] Use 13w42a or later to play!") 0)
      | .legacyM3 =>
          let packet := packetReadLegacyMotd (initial.take packetSize)
          match packet.address with
          | none => (.abort, plan)
          | some address =>
              if (cString address).length ≥ routeEndpointTextSize then (.abort, plan)
              else shortPlanFinish ntop plan snapshot initial packetSize 0 packet.version
      | .modern2 =>
          match packetRead initial with
          | none => (.abort, plan)
          | some packet =>
              if packet.nextstate ≠ Intent.status.toByte.toUInt32 then (.abort, plan)
              else shortPlanFinish ntop plan snapshot initial packetSize packet.version 0
      | _ => (.abort, plan)

/-! ## 5. What CONNECT means -/

/-- A request of the client, rewritten: one packet of the same protocol, which that protocol decodes
    to the same request with the destination's address and port. `size` is the client's packet. -/
structure RequestRewritten (initial : Bytes) (size : Nat) (destination : Bytes) (port : UInt16)
    (packet : Bytes) : Prop where
  frame : packetLength packet = (.complete, packet.length)
  identified : protocolIdentify packet = protocolIdentify initial
  decoded : ((protocolIdentify initial).1 = .modern2 ∧ ∃ h, packetRead initial = some h ∧
      packetRead packet = some { h with address := destination, port }) ∨
    ((protocolIdentify initial).1 = .legacyM3 ∧ ∃ address port' version,
      packetReadLegacyMotd (initial.take size) = ⟨some address, port', version⟩ ∧
      packetReadLegacyMotd packet = ⟨some destination, port, version⟩)

/-- The bytes for the upstream behind the header: the client's own, or its first packet rewritten
    and the rest of its own. -/
def BytesConserved (initial : Bytes) (endpoint : RouteEndpointSnapshot) (body : Bytes) : Prop :=
  (endpoint.rewrite = false → body = initial) ∧
    (endpoint.rewrite = true → ∃ size packet, packetLength initial = (.complete, size) ∧
      size ≤ initial.length ∧
      RequestRewritten initial size (setupDestination endpoint) endpoint.port packet ∧
      body = packet ++ initial.drop size)

theorem shortPheader_some {header : Bytes}
    (h : shortPheader ntop endpoint = some header) : HeaderWritten ntop endpoint header := by
  unfold shortPheader at h
  split at h
  · rename_i hp
    rw [Option.bind_eq_some_iff] at h
    obtain ⟨pheader, hwrite, h⟩ := h
    split at h
    · cases h
    · cases h
      exact ⟨fun e => absurd (e.symm.trans hp) (by decide), fun _ => hwrite⟩
  · rename_i hp
    cases h
    exact ⟨fun _ => rfl, fun e => absurd e hp⟩

theorem shortPlanRequestPayload_some {pheader payload request : Bytes}
    (h : shortPlanRequestPayload pheader payload = some request) :
    request = pheader ++ payload := by
  unfold shortPlanRequestPayload at h
  split at h
  · cases h
  · exact (Option.some.inj h).symm

/-- Everything that was checked before the request of a plan was built. -/
structure ShortPrepared (ntop : InetNtop) (snapshot : SetupSnapshot) (initial : Bytes)
    (plan : ShortPlan) : Prop where
  complete : ∃ size, packetLength initial = (.complete, size) ∧ size ≤ initial.length ∧
    ∃ header request, HeaderWritten ntop snapshot.endpoint header ∧
      plan.request = some request ∧
      (((protocolIdentify initial).1 = .legacyM3 ∧
          shortPlanRequestLegacy header initial size snapshot.endpoint = some request) ∨
        ((protocolIdentify initial).1 = .modern2 ∧
          shortPlanRequestModern header initial size snapshot.endpoint = some request))
  endpoint : shortPlanEndpointValid snapshot.endpoint

theorem shortRespond_ne_connect {response : Option Bytes} :
    shortRespond plan response ≠ (.connect, plan') := by
  unfold shortRespond
  split <;> exact nofun

theorem shortRoutePrepare_connect {modernVersion : Varint} {legacyVersion : UInt8}
    (h : shortRoutePrepare plan snapshot modernVersion legacyVersion = (.connect, plan')) :
    plan' = plan ∧ shortPlanEndpointValid snapshot.endpoint := by
  unfold shortRoutePrepare at h
  split at h
  · exact absurd h shortRespond_ne_connect
  · simp only [Prod.mk.injEq] at h
    obtain ⟨haction, rfl⟩ := h
    split at haction
    · rename_i hvalid
      exact ⟨rfl, hvalid⟩
    · cases haction

theorem shortPlanFinish_connect {initial : Bytes} {modernVersion : Varint} {legacyVersion : UInt8}
    (h : shortPlanFinish ntop plan snapshot initial size modernVersion legacyVersion =
      (.connect, plan')) :
    shortPlanEndpointValid snapshot.endpoint ∧
      ∃ header request, HeaderWritten ntop snapshot.endpoint header ∧
        plan'.request = some request ∧
        (if plan.protocol = .legacyM3 then
          shortPlanRequestLegacy header initial size snapshot.endpoint
        else shortPlanRequestModern header initial size snapshot.endpoint) = some request := by
  unfold shortPlanFinish at h
  split at h
  · rename_i routed hroute
    obtain ⟨rfl, hvalid⟩ := shortRoutePrepare_connect hroute
    refine ⟨hvalid, ?_⟩
    split at h
    · cases h
    rename_i header hheader
    dsimp only at h
    split at h
    · cases h
    rename_i request hrequest
    split at h
    · cases h
    cases h
    exact ⟨header, request, shortPheader_some hheader, rfl, hrequest⟩
  · rename_i routed hne
    exact absurd h (hne plan')

/-- **What was checked before CONNECT.** -/
theorem connectionSetupShortPrepare_connect
    {inboundAddress : NetAddrBundle} {initial : Bytes} {plan : ShortPlan}
    (h : connectionSetupShortPrepare ntop snapshot inboundAddress initial = (.connect, plan)) :
    ShortPrepared ntop snapshot initial plan := by
  unfold connectionSetupShortPrepare at h
  split at h
  · cases h
  dsimp only at h
  split at h
  · cases h
  rename_i hcomplete
  rw [not_or, not_not] at hcomplete
  -- the two pings without a frame are answered, so what connects is framed
  have hframed : (protocolIdentify initial).1 ≠ .legacyM1 →
      (protocolIdentify initial).1 ≠ .legacyM2 →
      packetLength initial = (.complete, (packetLength initial).2) ∧
        (packetLength initial).2 ≤ initial.length := by
    intro h1 h2
    rcases hcomplete.2 with ⟨e | e, _⟩ | ⟨e, hle⟩
    · exact absurd e h1
    · exact absurd e h2
    · exact ⟨by rw [← e], hle⟩
  split at h
  · exact absurd h shortRespond_ne_connect
  · exact absurd h shortRespond_ne_connect
  · split at h
    · cases h
    · exact absurd h shortRespond_ne_connect
  · rename_i hprotocol
    obtain ⟨hlen, hle⟩ := hframed (by rw [hprotocol]; decide) (by rw [hprotocol]; decide)
    split at h
    · cases h
    split at h
    · cases h
    obtain ⟨hvalid, header, request, hheader, hplan, hrequest⟩ := shortPlanFinish_connect h
    rw [if_pos hprotocol] at hrequest
    exact ⟨⟨_, hlen, hle, header, request, hheader, hplan, Or.inl ⟨hprotocol, hrequest⟩⟩, hvalid⟩
  · rename_i hprotocol
    obtain ⟨hlen, hle⟩ := hframed (by rw [hprotocol]; decide) (by rw [hprotocol]; decide)
    split at h
    · cases h
    split at h
    · cases h
    obtain ⟨hvalid, header, request, hheader, hplan, hrequest⟩ := shortPlanFinish_connect h
    dsimp only at hrequest
    rw [hprotocol, if_neg (by decide)] at hrequest
    exact ⟨⟨_, hlen, hle, header, request, hheader, hplan, Or.inr ⟨hprotocol, hrequest⟩⟩, hvalid⟩
  · cases h

/-! ## 6. The two rewritings -/

theorem setupDestination_ne_nil (h : shortPlanEndpointValid endpoint) :
    setupDestination endpoint ≠ [] := by
  unfold setupDestination
  split
  · exact h.2.2.2.2.2.2.1
  · rename_i hne
    exact hne

/-- A ping is rewritten to one ping. -/
theorem requestLegacy_kept {header initial request : Bytes}
    (hlen : packetLength initial = (.complete, size))
    (hle : size ≤ initial.length) (hid : protocolIdentify initial = (.legacyM3, .unspecified))
    (h : shortPlanRequestLegacy header initial size endpoint = some request) :
    ∃ body, request = header ++ body ∧ BytesConserved initial endpoint body := by
  unfold shortPlanRequestLegacy at h
  rw [if_neg (Nat.not_lt.2 hle), Option.bind_eq_some_iff] at h
  obtain ⟨address, haddress, h⟩ := h
  split at h
  · cases h
  split at h
  · rename_i hrewrite
    exact ⟨initial, shortPlanRequestPayload_some h, fun _ => rfl,
      fun e => absurd (hrewrite.symm.trans e) (by decide)⟩
  rename_i hrewrite
  dsimp only at h
  split at h
  · cases h
  rename_i hsize
  split at h
  · cases h
  refine ⟨_, shortPlanRequestPayload_some h, fun e => absurd e hrewrite, fun _ => ?_⟩
  have h0 := not_mem_setupDestination endpoint
  obtain ⟨hframe, hident⟩ := packetLength_ping h0 (Nat.not_lt.1 hsize)
    (packetReadLegacyMotd (initial.take size)).version endpoint.port
  refine ⟨size, _, hlen, hle, ⟨hframe, by rw [hident, hid], Or.inr ⟨by rw [hid], address,
    (packetReadLegacyMotd (initial.take size)).port, _, ?_,
    packetReadLegacyMotd_write h0 (Nat.not_lt.1 hsize) _ _⟩⟩, rfl⟩
  rw [← haddress]

/-- **A status handshake is rewritten to one packet**: the second frame the writer appended is cut
    off, and the first one decodes to the same request. -/
theorem requestModern_kept {header initial request : Bytes} {intent : Intent}
    (hlen : packetLength initial = (.complete, size))
    (hle : size ≤ initial.length) (hid : protocolIdentify initial = (.modern2, intent))
    (hvalid : setupDestination endpoint ≠ [])
    (hquery : endpoint.rewrite = true → questionMark ∉ setupDestination endpoint)
    (h : shortPlanRequestModern header initial size endpoint = some request) :
    ∃ body, request = header ++ body ∧ BytesConserved initial endpoint body := by
  unfold shortPlanRequestModern at h
  rw [if_neg (Nat.not_lt.2 hle)] at h
  split at h
  · rename_i hrewrite
    exact ⟨initial, shortPlanRequestPayload_some h, fun _ => rfl,
      fun e => absurd (hrewrite.symm.trans e) (by decide)⟩
  rename_i hrewrite
  rw [Option.bind_eq_some_iff] at h
  obtain ⟨packet, hread, h⟩ := h
  split at h
  · cases h
  rename_i hstatus
  rw [not_not] at hstatus
  rw [Option.bind_eq_some_iff] at h
  obtain ⟨payload, hwrite, h⟩ := h
  dsimp only at h
  split at h
  swap
  · cases h
  have hquery := hquery (by simpa using hrewrite)
  have h0 := not_mem_setupDestination endpoint
  -- the three parsers agree on the client's packet, so it is a status request
  obtain ⟨_, hagrees⟩ := packetRead_agrees initial size intent hlen hid
  obtain ⟨hid1, hversion, _, hintent⟩ := hagrees packet hread
  have hsame := hintent (Or.inl hstatus)
  have hi : intent = .status := by
    rw [hstatus] at hsame
    cases intent <;> first | rfl | exact absurd hsame (by decide)
  subst hi
  have hclosed : ¬ opensLogin packet.nextstate := by
    rw [hstatus]
    decide
  obtain ⟨hid2, huser, hsignature⟩ := packetRead_closed hread hclosed
  generalize hg : ({ packet with address := setupDestination endpoint, port := endpoint.port } :
    PHandshake) = g at hwrite
  have hgaddress : g.address = setupDestination endpoint := by rw [← hg]
  have hgnext : g.nextstate = Intent.status.toByte.toUInt32 := by rw [← hg, ← hstatus]
  have hgid : g.idPart1 = 0 := by rw [← hg, ← hid1]
  have hgversion : g.version ≠ 0 := by rw [← hg]; exact hversion
  obtain ⟨hrefused, hw, t, hpayload⟩ := packetWrite_closed (by rw [hgnext]; decide)
    (by rw [← hg]; exact hsignature) hwrite
  -- the written packet is its first frame
  have hspecified : Intent.status ≠ .unspecified := by decide
  have hframe := packetLength_wire_eq (w := wireOf g [] hw) hgid hgversion hspecified hgnext
  have hident := protocolIdentify_wire (w := wireOf g [] hw) hgid hgversion hspecified hgnext
  simp only [if_true] at hframe
  have hcut : (packetLength payload).2 = (packetFrame (wireOf g [] hw).part1).length := by
    rw [hpayload, hframe]
  have hdecoded : packetRead (packetFrame (wireOf g [] hw).part1) = some g := by
    have hwire : (wireOf g [] hw).wireAddress = g.address ++ g.addressExtra := by
      show cString g.address ++ g.addressExtra = _
      rw [cString_of_not_mem (by rw [hgaddress]; exact h0)]
    have haddress := hw.address
    rw [cString_of_not_mem (by rw [hgaddress]; exact h0)] at haddress
    have hread := packetRead_frame (wireOf g [] hw) []
    rw [List.append_nil, if_neg, if_neg (show ¬ opensLogin (wireOf g [] hw).nextstate by
      rw [show (wireOf g [] hw).nextstate = g.nextstate from rfl, hgnext]; decide)] at hread
    · rw [hread, wireHandshake_wireOf hw (by rw [← hg]; exact hid2) (by rw [← hg]; exact huser)
        (by rw [← hg]; exact hsignature) hrefused (by rw [hgaddress]; exact h0)
        (by rw [hgaddress]; exact hquery)]
    · rw [hwire, List.length_append]
      rintro (e | e)
      · omega
      · exact hvalid (hgaddress ▸ (List.append_eq_nil_iff.1 e).1)
  have hrequest := shortPlanRequestPayload_some h
  rw [hcut, hpayload, List.take_left] at hrequest
  refine ⟨_, hrequest, fun e => absurd e hrewrite, fun _ => ⟨size, _, hlen, hle, ⟨?_, ?_, ?_⟩, rfl⟩⟩
  · simpa using hframe []
  · rw [hid]
    simpa using hident []
  · exact Or.inl ⟨by rw [hid], packet, hread, by rw [hdecoded, hg]⟩

/-- **Byte conservation**: whenever a plan connects, its request is the PROXY header, there exactly
    when it is asked for, and behind it the client's bytes, or its first packet rewritten to the
    destination and then the rest of its bytes. -/
theorem connectionSetupShortPrepare_request (ntop : InetNtop) (snapshot : SetupSnapshot)
    (inboundAddress : NetAddrBundle) (initial : Bytes) (plan : ShortPlan)
    (h : connectionSetupShortPrepare ntop snapshot inboundAddress initial = (.connect, plan))
    (hquery : snapshot.endpoint.rewrite = true →
      questionMark ∉ setupDestination snapshot.endpoint) :
    ∃ header body, plan.request = some (header ++ body) ∧
      HeaderWritten ntop snapshot.endpoint header ∧
      BytesConserved initial snapshot.endpoint body := by
  obtain ⟨⟨size, hlen, hle, header, request, hheader, hplan, hrequest⟩, hvalid⟩ :=
    connectionSetupShortPrepare_connect h
  have hne := setupDestination_ne_nil hvalid
  rcases hid : protocolIdentify initial with ⟨protocol, intent⟩
  rw [hid] at hrequest
  obtain ⟨body, rfl, hbody⟩ : ∃ body, request = header ++ body ∧
      BytesConserved initial snapshot.endpoint body := by
    rcases hrequest with ⟨rfl, hrequest⟩ | ⟨rfl, hrequest⟩
    · cases protocolIdentify_legacyM3 hid
      exact requestLegacy_kept hlen hle hid hrequest
    · exact requestModern_kept hlen hle hid hne hquery hrequest
  exact ⟨header, body, hplan, hheader, hbody⟩

def statusClient : NetAddrBundle where
  family := some .inet
  address := CharArray.ofText _ [] (by decide)
  addressClean := CharArray.ofText _ [] (by decide)
  port := 40000

/-- A status handshake for `a` with the status request behind it. -/
def statusInitial : Bytes := [0x07, 0x00, 0x05, 0x01, 0x61, 0x63, 0xDD, 0x01, 0x01, 0x00]

theorem connectionSetupShortPrepare_request_status :
    (connectionSetupShortPrepare sampleNtop sampleSnapshot statusClient statusInitial).1 =
      .connect ∧
    ∃ header body,
      (connectionSetupShortPrepare sampleNtop sampleSnapshot statusClient statusInitial).2.request =
        some (header ++ body) ∧
      HeaderWritten sampleNtop sampleSnapshot.endpoint header ∧
      BytesConserved statusInitial sampleSnapshot.endpoint body := by
  have hconnect : (connectionSetupShortPrepare sampleNtop sampleSnapshot statusClient
      statusInitial).1 = .connect := by
    decide +kernel
  have hprepared : connectionSetupShortPrepare sampleNtop sampleSnapshot statusClient
      statusInitial = (.connect, (connectionSetupShortPrepare sampleNtop sampleSnapshot statusClient
        statusInitial).2) := by
    rw [← hconnect]
  exact ⟨hconnect, connectionSetupShortPrepare_request sampleNtop sampleSnapshot statusClient
    statusInitial _ hprepared (by decide +kernel)⟩

end MinecraftRelay
