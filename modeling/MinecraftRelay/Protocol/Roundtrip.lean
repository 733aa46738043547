/-
  File:      Protocol/Roundtrip.lean
  Subject:   What `packet_write` writes, read by the three parsers: decoded, identified, framed.

  The writer's frames are a `LoginWire`, so the reader's answer is known from `packetRead_bytes`.
  What is left is the cut between address and extra data, the marker of old login data, and that a
  frame length never passes for a legacy packet: its first byte is neither 01 nor 02, and behind
  FE 01 comes the packet id 0 and not FA.

  * `packetWrite_wire` -- the frames of an accepted handshake;
  * `protocolIdentify_wire`, `packetLength_wire` -- how they are identified and framed, whatever
    follows;
  * `packetRead_packetWrite` -- the round trip.
-/
import MinecraftRelay.Protocol.Agreement
import MinecraftRelay.Protocol.Rewrite

namespace MinecraftRelay

open Groups Framing

/-! ## 1. The frames of an accepted handshake -/

/-- What the writer puts behind the username. -/
def stagedData (h : PHandshake) : Bytes :=
  if h.signatureData ≠ [] then
    (if marksLoginData h.version then int2varint 1 else []) ++ h.signatureData
  else []

theorem stagedData_length_le (h : PHandshake) :
    (stagedData h).length ≤ h.signatureData.length + 1 := by
  have hone : (int2varint 1).length = 1 := by decide
  unfold stagedData
  split
  · rw [List.length_append]
    split
    · omega
    · rw [List.length_nil]
      omega
  · exact Nat.zero_le _

/-- The bounds the writer checks. -/
structure Writable (h : PHandshake) (username : Bytes) : Prop where
  address : (cString h.address).length + h.addressExtra.length ≤ addressMaxLen
  username : username.length ≤ usernameMaxLen
  signature : h.signatureData.length ≤ bufsiz

/-- The two frames `packet_write` writes. -/
def wireOf (h : PHandshake) (username : Bytes) (hw : Writable h username) : LoginWire where
  idPart1 := h.idPart1
  version := h.version
  wireAddress := cString h.address ++ h.addressExtra
  port := h.port
  nextstate := h.nextstate
  idPart2 := h.idPart2
  username
  loginData := stagedData h
  part1_fits := by
    have h1 := int2varint_length_le h.idPart1
    have h2 := int2varint_length_le h.version
    have h3 := int2varint_length_le
      (UInt32.ofNat (cString h.address ++ h.addressExtra).length)
    have h4 := int2varint_length_le h.nextstate
    have hport : (uint16Write h.port).length = 2 := rfl
    have haddress := hw.address
    have hmax : addressMaxLen = 3072 := rfl
    simp only [List.length_append] at h3 ⊢
    omega
  part2_fits := by
    have h1 := int2varint_length_le h.idPart2
    have h2 := int2varint_length_le (UInt32.ofNat username.length)
    have h3 := stagedData_length_le h
    have hu := hw.username
    have hs := hw.signature
    have hmax : usernameMaxLen = 128 := rfl
    have hbuf : bufsiz = 8192 := rfl
    simp only [List.length_append]
    omega

section Written

variable {h : PHandshake} {username b : Bytes} {dstCapacity : Nat}

theorem packetPart1_wireOf (hw : Writable h username) :
    packetPart1 h = (wireOf h username hw).part1 := by
  simp only [packetPart1, LoginWire.part1, wireOf, List.length_append, List.append_assoc]

theorem packetPart2_wireOf (hw : Writable h username) (hopen : opensLogin h.nextstate) :
    packetPart2 h username = (wireOf h username hw).part2 := by
  rw [packetPart2, if_pos hopen]
  simp only [LoginWire.part2, wireOf, List.append_assoc]
  rfl

/-- The username an accepted login is written with. -/
theorem loginUsername_some (hopen : opensLogin h.nextstate) (hu : loginUsername h = some username) :
    ∃ buffer, h.username = some buffer ∧ username = cString buffer ∧
      username.length ≤ usernameMaxLen ∧
      h.signatureData.length ≤ bufsiz - username.length - 8 := by
  unfold loginUsername at hu
  rw [if_pos hopen, Option.bind_eq_some_iff] at hu
  obtain ⟨buffer, hbuffer, hu⟩ := hu
  dsimp only at hu
  split at hu
  · cases hu
  · cases hu
    exact ⟨buffer, hbuffer, rfl, by omega, by omega⟩

/-- **Everything the writer writes for a login is two such frames.** -/
theorem packetWrite_wire (hopen : opensLogin h.nextstate)
    (hwrite : packetWrite dstCapacity h = some b) :
    ∃ buffer, h.username = some buffer ∧ ¬ addressRefused h ∧
      ∃ hw : Writable h (cString buffer), b = (wireOf h (cString buffer) hw).bytes := by
  unfold packetWrite at hwrite
  split at hwrite
  · cases hwrite
  rename_i haddress
  rw [Option.bind_eq_some_iff] at hwrite
  obtain ⟨username, hu, hwrite⟩ := hwrite
  obtain ⟨buffer, hbuffer, rfl, hlong, hsignature⟩ := loginUsername_some hopen hu
  dsimp only at hwrite
  split at hwrite
  · cases hwrite
  cases hwrite
  have hw : Writable h (cString buffer) := by
    refine ⟨?_, hlong, by omega⟩
    unfold addressRefused at haddress
    omega
  refine ⟨buffer, hbuffer, haddress, hw, ?_⟩
  rw [packetPart1_wireOf hw, packetPart2_wireOf hw hopen]
  rfl

/-- Without a login the writer still appends a second frame. -/
theorem packetWrite_closed (hclosed : ¬ opensLogin h.nextstate) (hsignature : h.signatureData = [])
    (hwrite : packetWrite dstCapacity h = some b) :
    ¬ addressRefused h ∧ ∃ (hw : Writable h []) (t : Bytes),
      b = packetFrame (wireOf h [] hw).part1 ++ t := by
  unfold packetWrite at hwrite
  split at hwrite
  · cases hwrite
  rename_i haddress
  rw [loginUsername, if_neg hclosed, Option.bind_some] at hwrite
  dsimp only at hwrite
  split at hwrite
  · cases hwrite
  cases hwrite
  have hw : Writable h [] := by
    refine ⟨?_, Nat.zero_le _, by rw [hsignature]; exact Nat.zero_le _⟩
    unfold addressRefused at haddress
    omega
  exact ⟨haddress, hw, packetFrame (packetPart2 h []), by rw [packetPart1_wireOf hw]⟩

/-! ## 2. They decode to the handshake -/

/-- The cut between address and extra data is found again. -/
theorem addressExtraStart_append {address extra : Bytes} (hnul : (0 : UInt8) ∉ address)
    (hquery : questionMark ∉ address)
    (hextra : extra ≠ [] → byteAt extra 0 = 0 ∨ byteAt extra 0 = questionMark) :
    (addressExtraStart (address ++ extra)).getD (address ++ extra).length = address.length := by
  -- looking for a byte the address does not have goes on in the extra data
  have hskip : ∀ c : UInt8, c ∉ address →
      (address ++ extra).idxOf? c = (extra.idxOf? c).map (· + address.length) := by
    intro c hc
    induction address with
    | nil => simp
    | cons a address ih =>
      obtain ⟨hca, hc⟩ := not_or.1 (fun hm => hc (List.mem_cons.2 hm))
      rw [List.cons_append, List.idxOf?_cons, ih (fun hm => hnul (List.mem_cons_of_mem _ hm))
        (fun hm => hquery (List.mem_cons_of_mem _ hm)) hc]
      rw [if_neg (by simpa using fun e => hca e.symm)]
      cases extra.idxOf? c with
      | none => rfl
      | some i =>
        simp only [Option.map_some, List.length_cons, Option.some.injEq]
        omega
  unfold addressExtraStart
  rw [hskip 0 hnul, hskip questionMark hquery]
  cases extra with
  | nil => simp
  | cons c extra =>
    have hfirst : c = 0 ∨ c = questionMark := hextra (List.cons_ne_nil _ _)
    rcases hfirst with rfl | rfl
    · have hz : (0 :: extra : Bytes).idxOf? 0 = some 0 := by simp [List.idxOf?_cons]
      rw [hz]
      cases hq : (0 :: extra : Bytes).idxOf? questionMark with
      | none => simp
      | some q => simp
    · have hq : (questionMark :: extra : Bytes).idxOf? questionMark = some 0 := by
        simp [List.idxOf?_cons]
      rw [hq]
      cases hz : (questionMark :: extra : Bytes).idxOf? 0 with
      | none => simp
      | some z =>
        have hpos : z ≠ 0 := by
          rintro rfl
          rw [List.idxOf?_cons] at hz
          simp [questionMark] at hz
        simp only [Option.map_some, zero_add]
        rw [if_pos (by omega)]
        rfl

/-- The marker the writer adds is the one the reader drops. -/
theorem wireSignature_wireOf (hw : Writable h username) :
    wireSignature (wireOf h username hw) = h.signatureData := by
  have hone : int2varint 1 = [1] := by decide
  show (if stagedData h ≠ [] ∧ marksLoginData h.version ∧ byteAt (stagedData h) 0 = 1 then
    (stagedData h).drop 1 else stagedData h) = h.signatureData
  unfold stagedData
  rw [hone]
  by_cases hs : h.signatureData = []
  · simp [hs]
  · by_cases hm : marksLoginData h.version
    · simp [hs, hm, byteAt]
    · simp [hs, hm]

/-- The cut an accepted handshake is written with. -/
theorem addressExtraStart_wireOf (hw : Writable h username) (hrefused : ¬ addressRefused h)
    (hnul : (0 : UInt8) ∉ h.address) (hquery : questionMark ∉ h.address) :
    (wireHandshake (wireOf h username hw)).address = h.address ∧
      (wireHandshake (wireOf h username hw)).addressExtra = h.addressExtra := by
  have hextra : h.addressExtra ≠ [] →
      byteAt h.addressExtra 0 = 0 ∨ byteAt h.addressExtra 0 = questionMark := by
    intro hne
    by_contra hfirst
    exact hrefused (Or.inr (Or.inr ⟨hne, fun e => hfirst (Or.inl e), fun e => hfirst (Or.inr e)⟩))
  have hcut := addressExtraStart_append hnul hquery hextra
  simp only [wireHandshake, wireOf, cString_of_not_mem hnul, hcut, List.take_left, List.drop_left,
    and_self]

/-- **The frames decode to the handshake they were written for.** -/
theorem wireLogin_wireOf {username : Bytes} (hw : Writable h username)
    (huser : h.username = some username) (hrefused : ¬ addressRefused h)
    (hnul : (0 : UInt8) ∉ h.address) (hquery : questionMark ∉ h.address) :
    wireLogin (wireOf h username hw) = h := by
  obtain ⟨haddress, hextra⟩ := addressExtraStart_wireOf hw hrefused hnul hquery
  have hsignature := wireSignature_wireOf hw
  cases h with
  | mk idPart1 idPart2 nextstate version address addressExtra username' signatureData port =>
    rw [PHandshake.mk.injEq]
    exact ⟨rfl, rfl, rfl, rfl, haddress, hextra, huser.symm, hsignature, rfl⟩

/-- A handshake without a login is decoded from the first frame alone. -/
theorem wireHandshake_wireOf (hw : Writable h username) (hid : h.idPart2 = 0)
    (huser : h.username = none) (hsignature : h.signatureData = [])
    (hrefused : ¬ addressRefused h) (hnul : (0 : UInt8) ∉ h.address)
    (hquery : questionMark ∉ h.address) : wireHandshake (wireOf h username hw) = h := by
  obtain ⟨haddress, hextra⟩ := addressExtraStart_wireOf hw hrefused hnul hquery
  cases h with
  | mk idPart1 idPart2 nextstate version address addressExtra username' signatureData port =>
    subst hid huser hsignature
    rw [PHandshake.mk.injEq]
    exact ⟨rfl, rfl, rfl, rfl, haddress, hextra, rfl, rfl, rfl⟩

end Written

/-! ## 3. They are identified and framed as what they are -/

/-- A frame of three bytes or more that starts with 0 is no legacy packet, whatever its length
    bytes look like. -/
theorem frame_not_legacy {s cursor : Bytes} {frameSize : Varint}
    (hv : varint2int s = .complete frameSize cursor) (hsize : 3 ≤ frameSize.toNat)
    (hne : cursor ≠ []) (hfirst : byteAt cursor 0 = 0) :
    protocolIdentify s = identifyModern s ∧ packetLength s = packetLengthModern s := by
  match s with
  | [] => cases hv
  | b :: tail =>
    have hlen : (b :: tail).length ≠ 0 := Nat.succ_ne_zero _
    -- a length byte 01 or 02 would be the whole length
    have hone : b ≠ 0x01 := by
      rintro rfl
      cases hv
      exact absurd hsize (by decide)
    have htwo : b ≠ 0x02 := by
      rintro rfl
      cases hv
      exact absurd hsize (by decide)
    have hfe : b = 0xFE → ¬ ((b :: tail).length = 1 ∨ ((b :: tail).length = 2 ∧
        byteAt (b :: tail) 1 = 0x01)) ∧
        ¬ (byteAt (b :: tail) 1 = 0x01 ∧ byteAt (b :: tail) 2 = 0xFA) := by
      rintro rfl
      have hrest := ungroup_complete_two (varint2int_complete_iff.mp hv) (by decide)
      match tail with
      | [] => simp at hrest
      | c :: tail =>
        -- behind FE 01, the length 254, comes the frame and its first byte
        have hc : c = 0x01 → tail = cursor := by
          rintro rfl
          cases hv
          rfl
        constructor
        · rintro (hl | ⟨hl, e⟩)
          · simp at hl
          · rw [hc e] at hl
            simp only [List.length_cons] at hl
            exact hne (List.eq_nil_of_length_eq_zero (by omega))
        · rintro ⟨e, hfa⟩
          have h2 : byteAt cursor 0 = 0xFA := by
            rw [← hc e]
            exact hfa
          rw [hfirst] at h2
          exact absurd h2 (by decide)
    exact ⟨protocolIdentify_of_modern hlen hone htwo hfe,
      packetLength_of_modern hlen hone htwo hfe⟩

theorem int2varint_toByte (intent : Intent) :
    int2varint intent.toByte.toUInt32 = [intent.toByte] := by
  cases intent <;> decide

theorem frameIntent_toByte {intent : Intent} (h : intent ≠ .unspecified) :
    frameIntent intent.toByte = some intent := by
  cases intent with
  | unspecified => exact absurd rfl h
  | status => rfl
  | login => rfl
  | transfer => rfl

section Identified

variable {w : LoginWire} {intent : Intent}

theorem part1_length_ge (w : LoginWire) : 6 ≤ w.part1.length := by
  have h1 := int2varint_length_pos w.idPart1
  have h2 := int2varint_length_pos w.version
  have h3 := int2varint_length_pos (UInt32.ofNat w.wireAddress.length)
  have h4 := int2varint_length_pos w.nextstate
  have hport : (uint16Write w.port).length = 2 := rfl
  simp only [LoginWire.part1, List.length_append]
  omega

theorem varint2int_frame (part t : Bytes) :
    varint2int (packetFrame part ++ t) = .complete (UInt32.ofNat part.length) (part ++ t) := by
  rw [packetFrame, List.append_assoc]
  exact varint2int_int2varint _ _

/-- The handshake frame as the identification reads it. -/
theorem modernFrame_wire (hid : w.idPart1 = 0) (hi : intent ≠ .unspecified)
    (hnext : w.nextstate = intent.toByte.toUInt32) (t : Bytes) :
    modernFrame (packetFrame w.part1 ++ t) = some (w.version, intent) := by
  have hlen := ofNat_toNat_of_lt w.part1_lt
  have hge := part1_length_ge w
  have hzero : ¬ UInt32.ofNat w.part1.length = 0 := by
    intro e
    rw [e] at hlen
    simp only [UInt32.toNat_zero] at hlen
    omega
  obtain ⟨tail, hpart⟩ : ∃ tail, w.part1 = int2varint 0 ++ (int2varint w.version ++ tail) ∧
      tail ≠ [] ∧ ∃ lead, w.part1 = lead ++ ([] ++ [intent.toByte]) := by
    refine ⟨int2varint (UInt32.ofNat w.wireAddress.length) ++ (w.wireAddress ++
      (uint16Write w.port ++ [intent.toByte])), ?_, ?_, int2varint 0 ++ (int2varint w.version ++
      (int2varint (UInt32.ofNat w.wireAddress.length) ++ (w.wireAddress ++ uint16Write w.port))),
      ?_⟩
    · simp only [LoginWire.part1, hid, hnext, int2varint_toByte, List.append_assoc]
    · simp
    · simp only [LoginWire.part1, hid, hnext, int2varint_toByte, List.append_assoc,
        List.nil_append]
  obtain ⟨hpart, htail, lead, hlast⟩ := hpart
  have hbyte : byteAt w.part1 (w.part1.length - 1) = intent.toByte := by
    rw [hlast]
    exact byteAt_append_last lead [] intent.toByte
  have hid0 : varint2int w.part1 = .complete 0 (int2varint w.version ++ tail) := by
    rw [hpart]
    exact varint2int_int2varint _ _
  have hlong : ¬ w.part1.length > (w.part1 ++ t).length := by
    rw [List.length_append]
    omega
  unfold modernFrame
  rw [varint2int_frame]
  simp only [hlen, hzero, hlong, or_self, if_false, List.take_left, hid0, ne_eq,
    not_true_eq_false, varint2int_int2varint, htail, hbyte, frameIntent_toByte hi,
    Option.map_some]

/-- The handshake frame is no legacy packet. -/
theorem wire_not_legacy (hid : w.idPart1 = 0) (t : Bytes) :
    protocolIdentify (packetFrame w.part1 ++ t) = identifyModern (packetFrame w.part1 ++ t) ∧
      packetLength (packetFrame w.part1 ++ t) =
        packetLengthModern (packetFrame w.part1 ++ t) := by
  have hlen := ofNat_toNat_of_lt w.part1_lt
  have hge := part1_length_ge w
  have hzero : int2varint 0 = [0] := by decide
  refine frame_not_legacy (varint2int_frame w.part1 t) (by omega) ?_ ?_
  · intro e
    have := congrArg List.length e
    rw [List.length_append, List.length_nil] at this
    omega
  · simp only [LoginWire.part1, hid, hzero, List.append_assoc, List.singleton_append]
    rfl

section

variable (hid : w.idPart1 = 0) (hver : w.version ≠ 0) (hi : intent ≠ .unspecified)
  (hnext : w.nextstate = intent.toByte.toUInt32) (t : Bytes)

include hid hver hi hnext

/-- **The frame is identified as MODERN2 with its intent**, whatever follows it. -/
theorem protocolIdentify_wire :
    protocolIdentify (packetFrame w.part1 ++ t) = (.modern2, intent) := by
  rw [(wire_not_legacy hid t).1, identifyModern, modernFrame_wire hid hi hnext t]
  simp only [ne_eq, hver, not_false_eq_true, if_true]

/-- How the framing goes on behind the handshake frame. -/
theorem packetLength_wire_eq :
    packetLength (packetFrame w.part1 ++ t) =
      if intent = .status then (.complete, (packetFrame w.part1).length)
      else packetLengthSecond (packetFrame w.part1 ++ t) (packetFrame w.part1).length := by
  have hlen := ofNat_toNat_of_lt w.part1_lt
  have hlt := w.part1_lt
  have hge := part1_length_ge w
  have hsmall := int2varint_length_le (UInt32.ofNat w.part1.length)
  have hzero : ¬ UInt32.ofNat w.part1.length = 0 := by
    intro e
    rw [e] at hlen
    simp only [UInt32.toNat_zero] at hlen
    omega
  have hframe : (packetFrame w.part1).length =
      (int2varint (UInt32.ofNat w.part1.length)).length + w.part1.length := by
    rw [packetFrame, List.length_append]
  have hcut : (packetFrame w.part1 ++ t).length - (w.part1 ++ t).length =
      (int2varint (UInt32.ofNat w.part1.length)).length := by
    simp only [List.length_append]
    omega
  have hmax : ¬ w.part1.length > sizeMax - (int2varint (UInt32.ofNat w.part1.length)).length := by
    unfold sizeMax
    omega
  have hthere : ¬ (packetFrame w.part1 ++ t).length < (packetFrame w.part1).length := by
    rw [List.length_append]
    omega
  have hfirst : protocolIdentify (packetFrame w.part1) = (.modern2, intent) := by
    simpa using protocolIdentify_wire hid hver hi hnext []
  rw [(wire_not_legacy hid t).2, packetLengthModern, varint2int_frame]
  simp only [hlen, hzero, hcut, hmax, or_self, if_false, ← hframe, hthere, List.take_left, hfirst,
    reduceCtorEq, false_or]

end

/-- A frame that has arrived ends the packet, whatever follows it. -/
theorem packetLengthSecond_frame {first part : Bytes} (hfirst : first.length ≤ 2 ^ 32 + 5)
    (hpos : 0 < part.length) (hlt : part.length < 2 ^ 32) (t : Bytes) :
    packetLengthSecond (first ++ (packetFrame part ++ t)) first.length =
      (.complete, (first ++ packetFrame part).length) := by
  have hlen := ofNat_toNat_of_lt hlt
  have hsmall := int2varint_length_le (UInt32.ofNat part.length)
  have hzero : ¬ UInt32.ofNat part.length = 0 := by
    intro e
    rw [e] at hlen
    simp only [UInt32.toNat_zero] at hlen
    omega
  have hframe : (packetFrame part).length =
      (int2varint (UInt32.ofNat part.length)).length + part.length := by
    rw [packetFrame, List.length_append]
  have hcut : (packetFrame part ++ t).length - (part ++ t).length =
      (int2varint (UInt32.ofNat part.length)).length := by
    simp only [List.length_append]
    omega
  have hbad : ¬ (UInt32.ofNat part.length = 0 ∨
      (int2varint (UInt32.ofNat part.length)).length > sizeMax - first.length ∨
      part.length > sizeMax - first.length -
        (int2varint (UInt32.ofNat part.length)).length) := by
    rintro (e | e | e)
    · exact hzero e
    · unfold sizeMax at e
      omega
    · unfold sizeMax at e
      omega
  rw [packetLengthSecond, List.drop_left, varint2int_frame]
  simp only [hlen, hcut, if_neg hbad]
  rw [List.length_append, List.length_append, List.length_append, hframe,
    if_neg (by omega), Nat.add_assoc]

/-- A login is framed by both frames, whatever follows them. -/
theorem packetLength_wire (hid : w.idPart1 = 0) (hver : w.version ≠ 0)
    (hi : intent ≠ .unspecified) (hstatus : intent ≠ .status)
    (hnext : w.nextstate = intent.toByte.toUInt32) (t : Bytes) :
    packetLength (w.bytes ++ t) = (.complete, w.bytes.length) := by
  have hpos := int2varint_length_pos w.idPart2
  have hlt := w.part1_lt
  have hsmall := int2varint_length_le (UInt32.ofNat w.part1.length)
  rw [LoginWire.bytes, List.append_assoc, packetLength_wire_eq hid hver hi hnext, if_neg hstatus]
  refine packetLengthSecond_frame ?_ ?_ w.part2_lt t
  · rw [packetFrame, List.length_append]
    omega
  · simp only [LoginWire.part2, List.length_append]
    omega

end Identified

/-! ## 4. The round trip -/

/-- **What `packet_write` accepts reads back**: decoded by `packet_read` as it was, and, for a
    handshake id 0 and a version other than 0, identified with its intent and framed to the byte. -/
theorem packetRead_packetWrite (dstCapacity : Nat) (h : PHandshake) (b username : Bytes)
    (intent : Intent) (hwrite : packetWrite dstCapacity h = some b)
    (hintent : intent = .login ∨ intent = .transfer) (hnext : h.nextstate = intent.toByte.toUInt32)
    (hnul : (0 : UInt8) ∉ h.address) (hquery : questionMark ∉ h.address)
    (hne : h.address ++ h.addressExtra ≠ [])
    (huser : h.username = some username) (husername : (0 : UInt8) ∉ username) :
    packetRead b = some h ∧
      (h.idPart1 = 0 → h.version ≠ 0 →
        protocolIdentify b = (.modern2, intent) ∧ packetLength b = (.complete, b.length)) := by
  have hopen : opensLogin h.nextstate := by
    rw [hnext]
    rcases hintent with rfl | rfl
    · exact Or.inl rfl
    · exact Or.inr rfl
  obtain ⟨buffer, hbuffer, hrefused, hw, rfl⟩ := packetWrite_wire hopen hwrite
  have hsame : cString buffer = username := by
    rw [huser, Option.some.injEq] at hbuffer
    rw [← hbuffer]
    exact cString_of_not_mem husername
  generalize cString buffer = u at hsame hw
  subst hsame
  constructor
  · have haddress := hw.address
    have hlong := hw.username
    rw [cString_of_not_mem hnul] at haddress
    rw [packetRead_bytes, if_neg, if_pos (show opensLogin (wireOf h u hw).nextstate from hopen),
      if_neg (show ¬ (wireOf h u hw).username.length > usernameMaxLen from Nat.not_lt.2 hlong),
      wireLogin_wireOf hw huser hrefused hnul hquery]
    rintro (hl | hl)
    · simp only [wireOf, cString_of_not_mem hnul, List.length_append] at hl
      omega
    · simp only [wireOf, cString_of_not_mem hnul] at hl
      exact hne hl
  · intro hid hver
    have hi : intent ≠ .unspecified := by rcases hintent with rfl | rfl <;> decide
    have hstatus : intent ≠ .status := by rcases hintent with rfl | rfl <;> decide
    constructor
    · exact protocolIdentify_wire hid hver hi hnext _
    · simpa using packetLength_wire hid hver hi hstatus hnext []

/-- A login of `b` for host `a`, with the address of a forwarded client behind the host name and old
    login data. -/
def forwardedLogin : PHandshake where
  idPart1 := 0
  idPart2 := 0
  nextstate := 2
  version := 5
  address := [0x61]
  addressExtra := [0x00, 0x46]
  username := some [0x62]
  signatureData := [0x01, 0x02]
  port := 25565

theorem packetRead_packetWrite_forwarded :
    packetWrite 64 forwardedLogin =
      some [0x09, 0x00, 0x05, 0x03, 0x61, 0x00, 0x46, 0x63, 0xDD, 0x02,
      0x06, 0x00, 0x01, 0x62, 0x01, 0x01, 0x02] ∧
    packetRead [0x09, 0x00, 0x05, 0x03, 0x61, 0x00, 0x46, 0x63, 0xDD, 0x02,
      0x06, 0x00, 0x01, 0x62, 0x01, 0x01, 0x02] = some forwardedLogin :=
  ⟨by decide, (packetRead_packetWrite 64 forwardedLogin _ [0x62] .login (by decide)
    (Or.inl rfl) rfl (by decide) (by decide) (by decide) rfl (by decide)).1⟩

end MinecraftRelay
