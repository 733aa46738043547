/-
  File:      Connection/SetupLong.lean
  Subject:   connection/setup_long.c: what a worker sends to the upstream before it relays.

  The seed is the optional PROXY header and the client's first bytes, with the first packet
  rewritten when the route asks for it. It has to fit the buffer the relay starts from.

  Whether the connection to the upstream comes up before its deadline, and whether the client's
  socket can be made nonblocking, is decided outside. What a failed setup leaves in the seed is
  dropped by the worker, so a failed outcome has none. Of a log line only its status is kept.

  * `longSeedModern_done` -- a login that is rewritten fits the seed, to the byte in order;
  * `connectionSetupLongPrepared_login` -- no login is turned away for its size but by the writer;
  * `connectionSetupLongPrepared_forwards` -- what the upstream reads.
-/
import MinecraftRelay.Connection.Setup
import MinecraftRelay.Protocol.Growth
import MinecraftRelay.Protocol.HandshakeLegacy

namespace MinecraftRelay

/-! ## 1. The seed -/

/-- `CONNECTION_SETUP_LONG_REWRITE_BUFFER_SIZE`. -/
def longRewriteBufferSize : Nat := bufsiz + routeEndpointTextSize + 32

/-- `CONNECTION_SETUP_LONG_PENDING_MAX`. -/
def longPendingMax : Nat := protoproxyPacketMaxLen + bufsiz + routeEndpointTextSize + 32

/-- `connection_setup_long_seed_append`. -/
def longSeedAppend (seed data : Bytes) : Option Bytes :=
  if seed.length > longPendingMax ∨ data.length > longPendingMax - seed.length then none
  else some (seed ++ data)

variable (env : LongEnv) (snapshot : SetupSnapshot) (ntop : InetNtop) (inbound : Bytes)

/-- `connection_setup_long_seed_proxy_header`. -/
def longSeedProxyHeader (seed : Bytes) (endpoint : RouteEndpointSnapshot) : Option Bytes :=
  (protocolProxyWrite ntop endpoint.inboundProxy).bind fun pheader =>
    if pheader.length > protoproxyPacketMaxLen then none else longSeedAppend seed pheader

/-- `connection_setup_long_seed_tail`: the bytes behind the first packet. -/
def longSeedTail (seed inbound : Bytes) : Option Bytes :=
  if (packetLength inbound).1 ≠ .complete ∨ (packetLength inbound).2 > inbound.length then none
  else longSeedAppend seed (inbound.drop (packetLength inbound).2)

/-- How building a seed ends. -/
inductive SeedResult where
  | done (seed : Bytes)
  | overflow
  | rewriteFailed
  deriving DecidableEq, Repr

/-- The seed, or an overflow. -/
def SeedResult.ofOption : Option Bytes → SeedResult
  | some seed => .done seed
  | none => .overflow

/-- The PROXY header, when the route asks for one. -/
def longSeedHeader (endpoint : RouteEndpointSnapshot) : Option Bytes :=
  if endpoint.pheader = true then longSeedProxyHeader ntop [] endpoint else some []

/-- The seed of a modern login. -/
def longSeedModern (endpoint : RouteEndpointSnapshot) (info : PHandshake)
    (inbound : Bytes) : SeedResult :=
  match longSeedHeader ntop endpoint with
  | none => .overflow
  | some seed =>
      if endpoint.rewrite = true then
        match packetWrite longRewriteBufferSize
          (readdressed info (setupDestination endpoint) endpoint.port) with
        | none => .rewriteFailed
        | some rewrited =>
            .ofOption ((longSeedAppend seed rewrited).bind fun seed => longSeedTail seed inbound)
      else .ofOption (longSeedAppend seed inbound)

/-- The seed of a legacy login. Its address has to fit the array it is copied to. -/
def longSeedLegacy (endpoint : RouteEndpointSnapshot) (info : PLoginLegacy)
    (inbound : Bytes) : SeedResult :=
  match longSeedHeader ntop endpoint with
  | none => .overflow
  | some seed =>
      if endpoint.rewrite = true then
        if (setupDestination endpoint).length ≥ loginFieldSize then .overflow
        else
          let rewrited := packetWriteLegacyLogin { info with
            address := setupDestination endpoint
            port := endpoint.port }
          .ofOption ((longSeedAppend seed rewrited).bind fun seed => longSeedTail seed inbound)
      else .ofOption (longSeedAppend seed inbound)

/-! ## 2. The handlers -/

/-- The statuses of the log lines. -/
inductive LongLog where
  | accept
  | rejectUnidentproto
  | rejectGamerelayOldclient
  | rejectGamerelay12w17a
  | rejectGamerelay13w41
  | rejectVhostinvalid
  | rejectSeedoverflow
  | rejectRewritefailed
  | rejectDstnoresolve
  | rejectDstnoconnect
  deriving DecidableEq, Repr

/-- What a setup hands to the worker. `client` is what was sent to a client that is turned away,
    `upstream` whether the connection to the upstream is still open. -/
structure LongOutcome where
  status : SetupStatus
  upstream : Bool := false
  seed : Bytes := []
  client : Bytes := []
  log : List LongLog := []
  deriving DecidableEq, Repr

/-- What is decided outside. -/
structure LongEnv where
  ntop : InetNtop
  nonblocking : Bool
  connected : Bool

/-- The results of `connection_setup_long_connect_outbound`. -/
inductive LongConnect where
  | ok
  | enorecord
  | econnect
  deriving DecidableEq, Repr

/-- `connection_setup_long_connect_outbound`. -/
def longConnectOutbound : LongConnect :=
  if snapshot.routeStatus ≠ .ready then .enorecord
  else if ¬ setupAddressValid snapshot.endpoint.address ∨ snapshot.endpoint.port = 0 then .enorecord
  else if env.connected then .ok
  else .econnect

/-- `connection_setup_long_proxyinfo_prepare`: whether there is a route to speak of. -/
def longProxyinfoValid : Prop :=
  snapshot.routeStatus ≠ .bypass ∧ snapshot.routeStatus ≠ .noRoute ∧
    snapshot.endpoint.configuredAddress.Terminated ∧ snapshot.endpoint.targetName.Terminated

instance (snapshot : SetupSnapshot) : Decidable (longProxyinfoValid snapshot) :=
  inferInstanceAs (Decidable (_ ∧ _ ∧ _ ∧ _))

/-- The end of both handlers. `kick` writes the packet for a client that is turned away. -/
def longHandlerFinish (kick : Bytes → Option Bytes) (seed : SeedResult) : LongOutcome :=
  if ¬ longProxyinfoValid snapshot then
    { status := .enovhost
      client := (kick (ascii "Proxy: Please use a legit name to connect!")).getD []
      log := [.rejectVhostinvalid] }
  else
    match longConnectOutbound env snapshot with
    | .ok =>
        match seed with
        | .done seed => { status := .ok, upstream := true, seed, log := [.accept] }
        | .overflow => { status := .eabort, log := [.accept, .rejectSeedoverflow] }
        | .rewriteFailed => { status := .eabort, log := [.accept, .rejectRewritefailed] }
    | .enorecord =>
        { status := .enorecord
          client := (kick (ascii "Proxy(Internal): Temporarily failed to resolve the address for the target server, please try again later.")).getD []
          log := [.rejectDstnoresolve] }
    | .econnect =>
        { status := .enoconnect
          client := (kick (ascii "Proxy(Internal): Failed to connect to the target server, please try again later.")).getD []
          log := [.rejectDstnoconnect] }

/-- `connection_setup_long_handle_legacy_login`. -/
def longHandleLegacyLogin : LongOutcome :=
  let kick := makeKickreasonLegacy bufsiz
  match (protocolIdentify inbound).1 with
  | .legacyL1 =>
      { status := .eoldclient
        client := (kick (ascii "Proxy: Unsupported client, use 12w04a or later!")).getD []
        log := [.rejectGamerelayOldclient] }
  | .legacyL3 =>
      { status := .eoldclient
        client := (kick (ascii "Proxy: Unsupported client, use 12w18a or later!")).getD []
        log := [.rejectGamerelay12w17a] }
  | .legacyL2 =>
      longHandlerFinish env snapshot kick (longSeedLegacy env.ntop snapshot.endpoint
        (packetReadLegacyLogin inbound .legacyL2) inbound)
  | .legacyL4 =>
      longHandlerFinish env snapshot kick (longSeedLegacy env.ntop snapshot.endpoint
        (packetReadLegacyLogin inbound .legacyL4) inbound)
  | _ => { status := .eabort }

/-- `connection_setup_long_handle_modern_handshake`. -/
def longHandleModernHandshake : LongOutcome :=
  match packetRead inbound with
  | none => { status := .eabort }
  | some info =>
      if ¬ opensLogin info.nextstate ∨ info.username = none then { status := .eabort }
      else
        longHandlerFinish env snapshot (makeKickreason longRewriteBufferSize)
          (longSeedModern env.ntop snapshot.endpoint info inbound)

/-- `connection_setup_long_reject_modern1`. -/
def longRejectModern1 : LongOutcome where
  status := .eoldclient
  client :=
    (makeKickreason bufsiz (ascii "Proxy: Unsupported client, use 13w42a or later!")).getD []
  log := [.rejectGamerelay13w41]

/-- `connection_setup_long_prepared_run`. -/
def longPreparedRun : LongOutcome :=
  if inbound.length = 0 ∨ inbound.length > bufsiz then { status := .eabort }
  else if env.nonblocking = false then { status := .eabort }
  else
    match protocolIdentify inbound with
    | (.unident, _) => { status := .eunident, log := [.rejectUnidentproto] }
    | (.legacyL1, _) | (.legacyL2, _) | (.legacyL3, _) | (.legacyL4, _) =>
        longHandleLegacyLogin env snapshot inbound
    | (.modern1, intent) =>
        if intent = .login ∨ intent = .transfer then longRejectModern1 else { status := .eabort }
    | (.modern2, intent) =>
        if intent = .login ∨ intent = .transfer then longHandleModernHandshake env snapshot inbound
        else { status := .eabort }
    | (.origpro, _) => { status := .eoldclient }
    | _ => { status := .eabort }

/-- `connection_setup_long_prepared`. -/
def connectionSetupLongPrepared : LongOutcome :=
  if ¬ setupSnapshotValid snapshot then { status := .eabort }
  else longPreparedRun env snapshot inbound

/-! ## 3. The seed of a rewritten login -/

theorem longSeedAppend_of_le {seed data : Bytes} (h : (seed ++ data).length ≤ longPendingMax) :
    longSeedAppend seed data = some (seed ++ data) := by
  rw [List.length_append] at h
  rw [longSeedAppend, if_neg (by omega)]

theorem longSeedTail_complete {seed inbound : Bytes} {n : Nat}
    (hn : packetLength inbound = (.complete, n)) :
    longSeedTail seed inbound = longSeedAppend seed (inbound.drop n) := by
  have hle := (packetLength_lawfulAt inbound).complete n hn |>.1
  rw [longSeedTail, hn, if_neg]
  rintro (e | e)
  · exact e rfl
  · exact absurd hle (Nat.not_le.2 e)

/-- The header is there when its family is. -/
theorem longSeedHeader_written {endpoint : RouteEndpointSnapshot}
    (h : endpoint.pheader = true → endpoint.inboundProxy.family.isSome) :
    ∃ header, longSeedHeader ntop endpoint = some header ∧
      header.length ≤ protoproxyPacketMaxLen ∧ HeaderWritten ntop endpoint header := by
  unfold longSeedHeader
  split
  · rename_i hp
    obtain ⟨family, hfamily⟩ := Option.isSome_iff_exists.1 (h hp)
    obtain ⟨header, hheader⟩ : ∃ header, protocolProxyWrite ntop endpoint.inboundProxy =
        some header := ⟨_, by rw [protocolProxyWrite, hfamily, Option.map_some]⟩
    have hle := (protocolProxyWrite_length_le hheader).2
    have happend : longSeedAppend [] header = some header := by
      refine longSeedAppend_of_le ?_
      rw [List.nil_append]
      unfold longPendingMax
      omega
    refine ⟨header, ?_, hle, fun e => absurd (e.symm.trans hp) (by decide), fun _ => hheader⟩
    rw [longSeedProxyHeader, hheader, Option.bind_some, if_neg (Nat.not_lt.2 hle), happend]
  · rename_i hp
    exact ⟨[], rfl, Nat.zero_le _, fun _ => rfl, fun e => absurd e hp⟩

/-- What the seed of a rewritten login is. -/
structure SeedBuilt (ntop : InetNtop) (endpoint : RouteEndpointSnapshot) (info : PHandshake)
    (inbound : Bytes) (n : Nat) (header packet : Bytes) : Prop where
  asked : HeaderWritten ntop endpoint header
  written : packetWrite longRewriteBufferSize
    (readdressed info (setupDestination endpoint) endpoint.port) = some packet
  header_fits : header.length ≤ longPendingMax
  packet_fits : (header ++ packet).length ≤ longPendingMax
  tail_fits : (header ++ packet ++ inbound.drop n).length ≤ longPendingMax
  done : longSeedModern ntop endpoint info inbound =
    .done (header ++ packet ++ inbound.drop n)

section Login

variable (ntop : InetNtop) {endpoint : RouteEndpointSnapshot} {inbound : Bytes} {h : PHandshake}
  {n : Nat} {intent : Intent}

/-- **The seed holds header, rewritten packet and the rest of the client's bytes**, and every append
    fits. -/
theorem longSeedModern_done (hlen : inbound.length ≤ bufsiz)
    (hframe : packetLength inbound = (.complete, n)) (hread : packetRead inbound = some h)
    (hopen : opensLogin h.nextstate) (hid : protocolIdentify inbound = (.modern2, intent))
    (hdestination : (setupDestination endpoint).length ≤ addressMaxlen)
    (hrewrite : endpoint.rewrite = true)
    (hheader : endpoint.pheader = true → endpoint.inboundProxy.family.isSome)
    (hfits : (setupDestination endpoint).length + h.addressExtra.length ≤ addressMaxLen) :
    ∃ header packet, SeedBuilt ntop endpoint h inbound n header packet := by
  obtain ⟨name, end2, hsizes, hend⟩ := packetRead_sizes hread hopen
  have hn := hend n intent hframe hid
  have h0 := not_mem_setupDestination endpoint
  obtain ⟨header, hseed, hle, hwritten⟩ := longSeedHeader_written ntop hheader
  have hsome : packetWrite longRewriteBufferSize
      (readdressed h (setupDestination endpoint) endpoint.port) ≠ none := by
    rw [Ne, packetWrite_readdressed_iff hsizes h0 hdestination hlen hopen (by decide)]
    omega
  obtain ⟨packet, hpacket⟩ := Option.ne_none_iff_exists'.1 hsome
  have hgrowth := packetWrite_readdressed_length hsizes h0 hdestination hlen hopen hpacket
  have hinside := hsizes.inside
  have hmax : longPendingMax = 9377 := rfl
  have hheaderMax : protoproxyPacketMaxLen = 128 := rfl
  have hbuf : bufsiz = 8192 := rfl
  have hpacketFits : (header ++ packet).length ≤ longPendingMax := by
    rw [List.length_append]
    omega
  have htailFits : (header ++ packet ++ inbound.drop n).length ≤ longPendingMax := by
    rw [List.length_append, List.length_append, List.length_drop]
    omega
  refine ⟨header, packet, hwritten, hpacket, by omega, hpacketFits, htailFits, ?_⟩
  unfold longSeedModern
  rw [hseed]
  dsimp only
  rw [if_pos hrewrite, hpacket]
  dsimp only
  rw [longSeedAppend_of_le hpacketFits, Option.bind_some, longSeedTail_complete hframe,
    longSeedAppend_of_le htailFits]
  rfl

/-- A login that the modern reader decodes is no legacy login: its first frame is longer than 2. -/
theorem packetRead_not_legacy (hread : packetRead inbound = some h) :
    byteAt inbound 0 ≠ 0x02 := by
  obtain ⟨size, cursor, h1, hv, hlen, hp, _⟩ := packetRead_some hread
  obtain ⟨hsizes, _⟩ := packetReadPart1_sizes hp
  rw [List.length_take, Nat.min_eq_left hlen] at hsizes
  intro e
  match inbound with
  | [] => cases hv
  | b :: tail =>
    have hb : b = 0x02 := e
    subst hb
    cases hv
    exact absurd hsizes (by
      show ¬ _ ≤ 2
      omega)

end Login

/-! ## 4. No login overflows the seed -/

theorem longHandlerFinish_overflow {env : LongEnv} {snapshot : SetupSnapshot}
    {kick : Bytes → Option Bytes} {seed : SeedResult}
    (h : LongLog.rejectSeedoverflow ∈ (longHandlerFinish env snapshot kick seed).log) :
    seed = .overflow ∧ longProxyinfoValid snapshot := by
  unfold longHandlerFinish at h
  split at h
  · simp at h
  · rename_i hvalid
    rw [not_not] at hvalid
    split at h
    · split at h
      · simp at h
      · exact ⟨rfl, hvalid⟩
      · simp at h
    · simp at h
    · simp at h

section Dispatch

variable {env : LongEnv} {snapshot : SetupSnapshot} {inbound : Bytes} {h : PHandshake}

section

variable (hread : packetRead inbound = some h)

include hread

theorem protocolIdentify_ne_legacy (type : ProtocolVersion)
    (intent : Intent) (hid : protocolIdentify inbound = (type, intent)) :
    ¬ (type = .legacyL1 ∨ type = .legacyL2 ∨ type = .legacyL3 ∨ type = .legacyL4) :=
  mt (protocolIdentify_legacyLogin hid) (packetRead_not_legacy hread)

/-- Only the modern handler gets as far as a seed. -/
theorem connectionSetupLongPrepared_modern :
    (∃ intent, protocolIdentify inbound = (.modern2, intent) ∧ opensLogin h.nextstate ∧
      connectionSetupLongPrepared env snapshot inbound =
        longHandlerFinish env snapshot (makeKickreason longRewriteBufferSize)
          (longSeedModern env.ntop snapshot.endpoint h inbound)) ∨
    (connectionSetupLongPrepared env snapshot inbound).status ≠ .ok ∧
      LongLog.rejectSeedoverflow ∉ (connectionSetupLongPrepared env snapshot inbound).log := by
  have hlegacy := protocolIdentify_ne_legacy hread
  unfold connectionSetupLongPrepared longPreparedRun longRejectModern1 longHandleModernHandshake
  grind

theorem connectionSetupLongPrepared_ok
    (hok : (connectionSetupLongPrepared env snapshot inbound).status = .ok) :
    opensLogin h.nextstate ∧ longSeedModern env.ntop snapshot.endpoint h inbound =
      .done (connectionSetupLongPrepared env snapshot inbound).seed := by
  obtain ⟨intent, _, hopen, heq⟩ | ⟨hnot, _⟩ := connectionSetupLongPrepared_modern hread
  · rw [heq] at hok ⊢
    unfold longHandlerFinish at *
    grind
  · exact absurd hok hnot

theorem connectionSetupLongPrepared_overflow
    (hlog : LongLog.rejectSeedoverflow ∈ (connectionSetupLongPrepared env snapshot inbound).log) :
    ∃ intent, protocolIdentify inbound = (.modern2, intent) ∧
      longSeedModern env.ntop snapshot.endpoint h inbound = .overflow := by
  obtain ⟨intent, hid, _, heq⟩ | ⟨_, hnot⟩ := connectionSetupLongPrepared_modern hread
  · rw [heq] at hlog
    exact ⟨intent, hid, (longHandlerFinish_overflow hlog).1⟩
  · exact absurd hlog hnot

end

end Dispatch

/-- What becomes of a login of the client. -/
structure LoginSetUp (env : LongEnv) (snapshot : SetupSnapshot) (inbound : Bytes) (n : Nat)
    (h : PHandshake) : Prop where
  /-- The writer refuses exactly an address that is too long with its extra data. -/
  refused_iff : packetWrite longRewriteBufferSize
      (readdressed h (setupDestination snapshot.endpoint) snapshot.endpoint.port) = none ↔
    addressMaxLen < (setupDestination snapshot.endpoint).length + h.addressExtra.length
  /-- The seed never overflows. -/
  no_overflow : LongLog.rejectSeedoverflow ∉ (connectionSetupLongPrepared env snapshot inbound).log
  /-- Every login the worker takes has its seed built. -/
  seed : ∀ intent, protocolIdentify inbound = (.modern2, intent) →
    (setupDestination snapshot.endpoint).length + h.addressExtra.length ≤ addressMaxLen →
    ∃ header packet, SeedBuilt env.ntop snapshot.endpoint h inbound n header packet ∧
      (setupSnapshotValid snapshot → env.nonblocking = true →
        longConnectOutbound env snapshot = .ok →
        connectionSetupLongPrepared env snapshot inbound =
          { status := .ok, upstream := true, seed := header ++ packet ++ inbound.drop n,
            log := [.accept] })

/-- **No login is turned away for its size but by the writer**, and that exactly when the
    destination and the extra data do not fit an address together. -/
theorem connectionSetupLongPrepared_login (env : LongEnv) (snapshot : SetupSnapshot)
    (inbound : Bytes) (n : Nat) (h : PHandshake) (hlen : inbound.length ≤ bufsiz)
    (hframe : packetLength inbound = (.complete, n)) (hread : packetRead inbound = some h)
    (hopen : opensLogin h.nextstate) (hconfigured : snapshot.endpoint.configuredAddress.Terminated)
    (htarget : snapshot.endpoint.targetName.Terminated)
    (hrewrite : snapshot.endpoint.rewrite = true)
    (hheader : snapshot.endpoint.pheader = true → snapshot.endpoint.inboundProxy.family.isSome) :
    LoginSetUp env snapshot inbound n h := by
  obtain ⟨name, end2, hsizes, hend⟩ := packetRead_sizes hread hopen
  have hdestination := setupDestination_length_le hconfigured htarget
  have hrefused := packetWrite_readdressed_iff hsizes
    (not_mem_setupDestination snapshot.endpoint) hdestination hlen hopen
    (show bufsiz + 1028 ≤ longRewriteBufferSize by decide) snapshot.endpoint.port
  have hbuilt := fun intent (hid : protocolIdentify inbound = (.modern2, intent)) hfits =>
    longSeedModern_done env.ntop hlen hframe hread hopen hid hdestination hrewrite hheader hfits
  have hnonempty : inbound.length ≠ 0 := by
    intro e
    rw [packetLength, if_pos e] at hframe
    cases hframe
  -- a login that is identified at all is identified with its own intent
  have hintent : ∀ intent, protocolIdentify inbound = (.modern2, intent) →
      intent = .login ∨ intent = .transfer := by
    intro intent hid
    obtain ⟨_, _, _, hsame⟩ := (packetRead_agrees inbound n intent hframe hid).2 h hread
    have := hsame (Or.inr hopen)
    rw [this] at hopen
    cases intent with
    | unspecified => exact absurd hopen (by decide)
    | status => exact absurd hopen (by decide)
    | login => exact Or.inl rfl
    | transfer => exact Or.inr rfl
  refine ⟨hrefused, fun hlog => ?_, ?_⟩
  · obtain ⟨intent, hid, hseed⟩ := connectionSetupLongPrepared_overflow hread hlog
    by_cases hfits : (setupDestination snapshot.endpoint).length + h.addressExtra.length ≤
        addressMaxLen
    · obtain ⟨header, packet, hdone⟩ := hbuilt intent hid hfits
      rw [hdone.done] at hseed
      cases hseed
    · obtain ⟨header, hwritten, _⟩ := longSeedHeader_written env.ntop hheader
      have hnone := hrefused.2 (Nat.lt_of_not_le hfits)
      unfold longSeedModern at hseed
      rw [hwritten] at hseed
      dsimp only at hseed
      rw [if_pos hrewrite, hnone] at hseed
      cases hseed
  · intro intent hid hfits
    obtain ⟨header, packet, hdone⟩ := hbuilt intent hid hfits
    refine ⟨header, packet, hdone, fun hvalid hnonblocking hconnect => ?_⟩
    have hproxy : longProxyinfoValid snapshot := by
      have hready : snapshot.routeStatus = .ready := by
        unfold longConnectOutbound at hconnect
        split at hconnect
        · cases hconnect
        · rename_i hready
          simpa using hready
      exact ⟨by rw [hready]; decide, by rw [hready]; decide, hconfigured, htarget⟩
    have huser : ¬ (¬ opensLogin h.nextstate ∨ h.username = none) := by
      rw [hsizes.username]
      simpa using hopen
    rw [connectionSetupLongPrepared, if_neg (not_not.2 hvalid), longPreparedRun,
      if_neg (by omega), hnonblocking, if_neg (by decide), hid]
    dsimp only
    rw [if_pos (hintent intent hid), longHandleModernHandshake, hread]
    dsimp only
    rw [if_neg huser]
    unfold longHandlerFinish
    rw [if_neg (not_not.2 hproxy), hconnect, hdone.done]

def loginEnv : LongEnv where
  ntop := sampleNtop
  nonblocking := true
  connected := true

/-- A login of `b` for host `a`, version 5, with a byte of the next packet behind it. -/
def loginInbound : Bytes :=
  [0x07, 0x00, 0x05, 0x01, 0x61, 0x63, 0xDD, 0x02, 0x03, 0x00, 0x01, 0x62, 0xFF]

theorem connectionSetupLongPrepared_login_accepted :
    LoginSetUp loginEnv sampleSnapshot loginInbound 12
      ⟨0, 0, 2, 5, [0x61], [], some [0x62], [], 25565⟩ :=
  connectionSetupLongPrepared_login loginEnv sampleSnapshot loginInbound 12
    ⟨0, 0, 2, 5, [0x61], [], some [0x62], [], 25565⟩ (by decide) (by decide) (by decide) (by decide)
    (by decide +kernel) (by decide +kernel) rfl (by decide)

/-- The same login with version 0, as 13w41a sends it. -/
def versionZeroInbound : Bytes :=
  [0x07, 0x00, 0x00, 0x01, 0x61, 0x63, 0xDD, 0x02, 0x03, 0x00, 0x01, 0x62]

/-- **A login of version 0 has no seed**: it is turned away before it is read, though it is framed,
    decodes as a login, and would fit. -/
theorem connectionSetupLongPrepared_versionZero :
    packetLength versionZeroInbound = (.complete, 8) ∧
      packetRead versionZeroInbound = some ⟨0, 0, 2, 0, [0x61], [], some [0x62], [], 25565⟩ ∧
      opensLogin 2 ∧ sampleSnapshot.endpoint.rewrite = true ∧ setupSnapshotValid sampleSnapshot ∧
      longConnectOutbound loginEnv sampleSnapshot = .ok ∧
      (setupDestination sampleSnapshot.endpoint).length ≤ addressMaxLen ∧
      connectionSetupLongPrepared loginEnv sampleSnapshot versionZeroInbound = longRejectModern1 ∧
      longRejectModern1.seed = [] := by
  decide +kernel

/-! ## 5. What the upstream reads -/

/-- The reader takes back what the writer wrote, whatever follows it. -/
theorem packetRead_written_append {dstCapacity : Nat} {h : PHandshake} {b name : Bytes}
    (hwrite : packetWrite dstCapacity h = some b) (hopen : opensLogin h.nextstate)
    (hnul : (0 : UInt8) ∉ h.address) (hquery : questionMark ∉ h.address) (hne : h.address ≠ [])
    (huser : h.username = some name) (hname : (0 : UInt8) ∉ name) (t : Bytes) :
    packetRead (b ++ t) = some h := by
  obtain ⟨buffer, hbuffer, hrefused, hw, rfl⟩ := packetWrite_wire hopen hwrite
  obtain rfl := Option.some.inj (huser.symm.trans hbuffer)
  generalize hu : cString name = u at hw
  obtain rfl : name = u := (cString_of_not_mem hname).symm.trans hu
  have hv := varint2int_frame (wireOf h name hw).part2 []
  have hlong := hw.address
  rw [List.append_nil, List.append_nil] at hv
  rw [LoginWire.bytes, List.append_assoc, packetRead_frame,
    packetReadPart2_append hv (ofNat_toNat_of_lt (wireOf h name hw).part2_lt).le,
    ← packetRead_frame, ← LoginWire.bytes, packetRead_bytes,
    wireLogin_wireOf hw huser hrefused hnul hquery]
  simp only [wireOf, cString_of_not_mem hnul] at hlong ⊢
  simp [hne, hopen, hw.username, hlong]

/-- **The upstream reads the client's login**, with the route's address when that is rewritten, and
    then every byte the client sent after it. -/
theorem connectionSetupLongPrepared_forwards (env : LongEnv) (snapshot : SetupSnapshot)
    (inbound : Bytes) (h : PHandshake) (hread : packetRead inbound = some h)
    (hok : (connectionSetupLongPrepared env snapshot inbound).status = .ok)
    (hne : setupDestination snapshot.endpoint ≠ [])
    (hquery : questionMark ∉ setupDestination snapshot.endpoint)
    (hname : ∀ name, h.username = some name → (0 : UInt8) ∉ name) :
    ∃ header body, (connectionSetupLongPrepared env snapshot inbound).seed = header ++ body ∧
      longSeedHeader env.ntop snapshot.endpoint = some header ∧
      if snapshot.endpoint.rewrite = true then
        ∃ packet n, packetLength inbound = (.complete, n) ∧ body = packet ++ inbound.drop n ∧
          ∀ t, packetRead (packet ++ t) = some (readdressed h (setupDestination snapshot.endpoint)
            snapshot.endpoint.port)
      else body = inbound := by
  obtain ⟨hopen, hseed⟩ := connectionSetupLongPrepared_ok hread hok
  obtain ⟨name, _, hsizes, _⟩ := packetRead_sizes hread hopen
  unfold longSeedModern longSeedTail longSeedAppend at hseed
  split at hseed
  · cases hseed
  rename_i header hheader
  by_cases hrewrite : snapshot.endpoint.rewrite = true
  · simp only [hrewrite, if_true] at hseed ⊢
    split at hseed
    · cases hseed
    rename_i packet hwrite
    have hreads := packetRead_written_append hwrite hopen (not_mem_setupDestination _) hquery hne
      hsizes.username (hname name hsizes.username)
    refine ⟨header, _, ?_, hheader, packet, (packetLength inbound).2, ?_, rfl, hreads⟩ <;>
      grind [SeedResult.ofOption]
  · exact ⟨header, inbound, by grind [SeedResult.ofOption]⟩

theorem connectionSetupLongPrepared_forwards_accepted :
    ∃ header body,
      (connectionSetupLongPrepared loginEnv sampleSnapshot loginInbound).seed = header ++ body ∧
      packetRead body = some ⟨0, 0, 2, 5, setupDestination sampleSnapshot.endpoint, [],
        some [0x62], [], sampleSnapshot.endpoint.port⟩ := by
  obtain ⟨header, _, hseed, -, packet, n, -, rfl, hreads⟩ := connectionSetupLongPrepared_forwards
    loginEnv sampleSnapshot loginInbound ⟨0, 0, 2, 5, [0x61], [], some [0x62], [], 25565⟩
      (by decide)
    (by decide +kernel) (by decide +kernel) (by decide +kernel) (by simp)
  exact ⟨header, _, hseed, hreads _⟩

end MinecraftRelay
