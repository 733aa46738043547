/-
  File:      Protocol/Common.lean
  Subject:   `protocol_identify` and `protocol_packet_length` (protocol/common.c): which protocol
             a client speaks, and how long its first packet is.

  A received buffer is the list of its bytes. `protocol_identify` writes the intent through a
  pointer and returns the protocol: here it returns both. `protocol_packet_length` writes the size
  and returns the status: here it returns both.

  * `packetLength_lawfulAt` -- the answer at `s` binds every extension of `s`;
  * `protocolIdentify_append_of_complete` -- a complete packet is identified from its own bytes.
-/
import MinecraftRelay.Library.Framing
import MinecraftRelay.Protocol.Varint

namespace MinecraftRelay

open Groups Framing

variable {s : Bytes} {f : Bytes → PacketStatus × Nat} {n : Nat} {v : Varint} {p : Bytes}

/-- `intent_t`, in wire-value order. -/
inductive Intent where
  | unspecified
  | status
  | login
  | transfer
  deriving DecidableEq, Repr

/-- The wire value of an intent. -/
def Intent.toByte : Intent → UInt8
  | .unspecified => 0
  | .status => 1
  | .login => 2
  | .transfer => 3

/-- `protocol_version`. -/
inductive ProtocolVersion where
  | unident
  | origpro
  | legacyL1
  | legacyL2
  | legacyL3
  | legacyL4
  | legacyM1
  | legacyM2
  | legacyM3
  | modern1
  | modern2
  deriving DecidableEq, Repr

/-- `protocol_packet_status`. -/
abbrev PacketStatus := Framing.Status

variable (source : Bytes)

/-- The byte at an index; every read of the source is behind a length test. -/
def byteAt (i : Nat) : UInt8 := source.getD i 0

/-- `protocol_uint16_read`: two bytes in network order. -/
def uint16Read (i : Nat) : UInt16 :=
  UInt16.ofNat ((byteAt source i).toNat * 256 + (byteAt source (i + 1)).toNat)

/-- The two characters a legacy login with an address carries. -/
def semicolon : UInt8 := 0x3B

@[inherit_doc semicolon]
def colon : UInt8 := 0x3A

/-! ## 1. Identification -/

/-- The intents a handshake frame may end on. -/
def frameIntent (byte : UInt8) : Option Intent :=
  if byte = Intent.status.toByte then some .status
  else if byte = Intent.login.toByte then some .login
  else if byte = Intent.transfer.toByte then some .transfer
  else none

/-- The default branch of `protocol_identify`: the version and the intent of an acceptable modern
    first frame. The intent is the LAST byte of the frame, not a decoded field. -/
def modernFrame : Option (Varint × Intent) :=
  match varint2int source with
  | .complete frameSize frameStart =>
      if frameSize = 0 ∨ frameSize.toNat > frameStart.length then none
      else
        let frame := frameStart.take frameSize.toNat
        match varint2int frame with
        | .complete packetId cursor =>
            if packetId ≠ 0 then none
            else
              match varint2int cursor with
              | .complete version cursor =>
                  if cursor = [] then none
                  else (frameIntent (byteAt frame (frame.length - 1))).map fun i => (version, i)
              | _ => none
        | _ => none
  | _ => none

/-- The default branch as `protocol_identify` answers it. -/
def identifyModern : ProtocolVersion × Intent :=
  match modernFrame source with
  | some (version, intent) => (if version ≠ 0 then .modern2 else .modern1, intent)
  | none => (.unident, .unspecified)

/-- The `02` branch: legacy logins. The `02 00` case scans ALL bytes after the third. -/
def identifyLegacyLogin : ProtocolVersion :=
  if source.length < 2 then .unident
  else if byteAt source 1 = 0x00 then
    if source.length < 3 then .unident
    else if semicolon ∈ source.drop 3 ∧ colon ∈ source.drop 3 then .legacyL2
    else .legacyL1
  else if byteAt source 1 = 0x1F then .legacyL3
  else .legacyL4

/-- `protocol_identify`. -/
def protocolIdentify : ProtocolVersion × Intent :=
  if source.length = 0 then (.unident, .unspecified)
  else if byteAt source 0 = 0x01 then (.origpro, .unspecified)
  else if byteAt source 0 = 0x02 then (identifyLegacyLogin source, .unspecified)
  else if byteAt source 0 = 0xFE then
    if source.length = 1 then (.legacyM1, .unspecified)
    else if byteAt source 1 = 0x01 ∧ source.length = 2 then (.legacyM2, .unspecified)
    else if byteAt source 1 = 0x01 ∧ byteAt source 2 = 0xFA then (.legacyM3, .unspecified)
    else identifyModern source
  else identifyModern source

/-! ## 2. Packet length -/

/-- The tail of the modern branch: the login frame behind the handshake frame. -/
def packetLengthSecond (firstFrameSize : Nat) : PacketStatus × Nat :=
  match varint2int (source.drop firstFrameSize) with
  | .incomplete => (.incomplete, if source.length < sizeMax then source.length + 1 else 0)
  | .invalid => (.invalid, 0)
  | .complete frameSize cursor =>
      let framePrefixSize := (source.drop firstFrameSize).length - cursor.length
      if frameSize = 0 ∨ framePrefixSize > sizeMax - firstFrameSize ∨
          frameSize.toNat > sizeMax - firstFrameSize - framePrefixSize then
        (.invalid, firstFrameSize)
      else
        let packetSize := firstFrameSize + framePrefixSize + frameSize.toNat
        (if source.length < packetSize then .incomplete else .complete, packetSize)

/-- The default branch of `protocol_packet_length`: modern framing. -/
def packetLengthModern : PacketStatus × Nat :=
  match varint2int source with
  | .incomplete => (.incomplete, if source.length < sizeMax then source.length + 1 else 0)
  | .invalid => (.invalid, 0)
  | .complete frameSize cursor =>
      let framePrefixSize := source.length - cursor.length
      if frameSize = 0 ∨ frameSize.toNat > sizeMax - framePrefixSize then (.invalid, 0)
      else
        let firstFrameSize := framePrefixSize + frameSize.toNat
        if source.length < firstFrameSize then (.incomplete, firstFrameSize)
        else
          let (protocol, intent) := protocolIdentify (source.take firstFrameSize)
          if protocol = .unident then (.invalid, firstFrameSize)
          else if protocol = .modern1 ∨ intent = .status then (.complete, firstFrameSize)
          else packetLengthSecond source firstFrameSize

/-- The `02` branch of `protocol_packet_length`. -/
def packetLengthLegacyLogin : PacketStatus × Nat :=
  if source.length < 2 then (.incomplete, 2)
  else if source.length < 4 then (.incomplete, 4)
  else if byteAt source 1 = 0 then
    let characterSize := if byteAt source 3 = 0 then 2 else 1
    let packetSize := 3 + (byteAt source 2).toNat * characterSize
    (if source.length < packetSize then .incomplete else .complete, packetSize)
  else
    let usernameEnd := 4 + (uint16Read source 2).toNat * 2
    if byteAt source 1 = 0x1F then
      (if source.length < usernameEnd then .incomplete else .complete, usernameEnd)
    else if source.length < usernameEnd + 2 then (.incomplete, usernameEnd + 2)
    else
      let packetSize := usernameEnd + 2 + (uint16Read source usernameEnd).toNat * 2 + 4
      (if source.length < packetSize then .incomplete else .complete, packetSize)

/-- The `FE 01 FA` branch of `protocol_packet_length`. -/
def packetLengthLegacyPing : PacketStatus × Nat :=
  if source.length < 0x20 then (.incomplete, 0x20)
  else
    let packetSize := 0x20 + (uint16Read source 0x1E).toNat * 2 + 4
    (if source.length < packetSize then .incomplete else .complete, packetSize)

/-- `protocol_packet_length`. -/
def packetLength : PacketStatus × Nat :=
  if source.length = 0 then (.incomplete, 1)
  else if byteAt source 0 = 0x01 then (.complete, 1)
  else if byteAt source 0 = 0x02 then packetLengthLegacyLogin source
  else if byteAt source 0 = 0xFE then
    if source.length = 1 ∨ (source.length = 2 ∧ byteAt source 1 = 0x01) then (.ambiguous, 3)
    else if byteAt source 1 = 0x01 ∧ byteAt source 2 = 0xFA then packetLengthLegacyPing source
    else packetLengthModern source
  else packetLengthModern source

/-! ## 3. Reads inside what has arrived -/

theorem byteAt_append {i : Nat} (t : Bytes) (h : i < s.length) :
    byteAt (s ++ t) i = byteAt s i := by
  unfold byteAt
  rw [List.getD_eq_getElem?_getD, List.getD_eq_getElem?_getD, List.getElem?_append_left h]

theorem uint16Read_append {i : Nat} (t : Bytes) (h : i + 1 < s.length) :
    uint16Read (s ++ t) i = uint16Read s i := by
  unfold uint16Read
  rw [byteAt_append t (by omega), byteAt_append t h]

theorem varint2int_append {s rest : Bytes} (h : varint2int s = .complete v rest)
    (t : Bytes) : varint2int (s ++ t) = .complete v (rest ++ t) := by
  rw [varint2int_complete_iff] at h ⊢
  exact ungroup_complete_append h t

theorem varint2int_invalid_append (h : varint2int s = .invalid) (t : Bytes) :
    varint2int (s ++ t) = .invalid := by
  rw [varint2int_invalid_iff] at h ⊢
  exact ungroup_invalid_append h t

theorem varint2int_rest {s rest : Bytes} (h : varint2int s = .complete v rest) :
    ∃ pre, s = pre ++ rest ∧ 0 < pre.length ∧ pre.length ≤ 5 := by
  rw [varint2int_complete_iff] at h
  obtain ⟨pre, rfl, hpos, hlen, _⟩ := ungroup_complete h
  exact ⟨pre, rfl, hpos, hlen⟩

/-- A varint survives a cut behind it. -/
theorem varint2int_take {s rest : Bytes} (h : varint2int s = .complete v rest)
    {k : Nat} (hk : s.length - rest.length ≤ k) :
    varint2int (s.take k) = .complete v (rest.take (k - (s.length - rest.length))) := by
  rw [varint2int_complete_iff] at h ⊢
  obtain ⟨pre, rfl, _, _, hext⟩ := ungroup_complete h
  have hpre : (pre ++ rest).length - rest.length = pre.length := by
    rw [List.length_append]
    omega
  rw [hpre] at hk ⊢
  rw [List.take_append, List.take_of_length_le hk]
  exact hext _

theorem varint2int_incomplete_length (h : varint2int s = .incomplete) :
    s.length ≤ 4 :=
  ungroup_incomplete_length (varint2int_incomplete_iff.mp h)

/-! ## 4. The streaming law -/

/-- The login frame behind a handshake frame that has arrived. -/
theorem packetLengthSecond_lawful (first : Nat) (hs : first ≤ s.length)
    (hfirst : first ≤ 2 ^ 32 + 5)
    (hf : ∀ t, f (s ++ t) = packetLengthSecond (s ++ t) first) : LawfulAt f s := by
  have hf0 : f s = packetLengthSecond s first := by simpa using hf []
  have hdrop : ∀ t, (s ++ t).drop first = s.drop first ++ t := fun t =>
    List.drop_append_of_le_length hs
  cases hv : varint2int (s.drop first) with
  | incomplete =>
    -- a handshake frame and four bytes are far below `SIZE_MAX`
    have hlen := varint2int_incomplete_length hv
    rw [List.length_drop] at hlen
    have hmax : s.length < sizeMax := by
      unfold sizeMax
      omega
    refine LawfulAt.of_next ?_
    rw [hf0, packetLengthSecond, hv]
    simp only [if_pos hmax]
  | invalid =>
    refine LawfulAt.of_invalid fun t => ?_
    rw [hf, packetLengthSecond, hdrop, varint2int_invalid_append hv t]
  | complete frameSize cursor =>
    obtain ⟨pre, hpre, _, hprelen⟩ := varint2int_rest hv
    have hsize : ∀ t, (s.drop first ++ t).length - (cursor ++ t).length = pre.length := by
      intro t
      simp only [hpre, List.length_append]
      omega
    by_cases hbad : frameSize = 0 ∨ pre.length > sizeMax - first ∨
        frameSize.toNat > sizeMax - first - pre.length
    · refine LawfulAt.of_invalid fun t => ?_
      rw [hf, packetLengthSecond, hdrop, varint2int_append hv t]
      simp only [hsize, if_pos hbad]
    · refine LawfulAt.of_sized (n := first + pre.length + frameSize.toNat) fun t => ?_
      rw [hf, packetLengthSecond, hdrop, varint2int_append hv t]
      simp only [hsize, if_neg hbad]

/-- Modern framing obeys the streaming law. -/
theorem packetLengthModern_lawful
    (hf : ∀ t, f (s ++ t) = packetLengthModern (s ++ t)) : LawfulAt f s := by
  have hf0 : f s = packetLengthModern s := by simpa using hf []
  cases hv : varint2int s with
  | incomplete =>
    have hlen := varint2int_incomplete_length hv
    have hmax : s.length < sizeMax := by
      unfold sizeMax
      omega
    refine LawfulAt.of_next ?_
    rw [hf0, packetLengthModern, hv]
    simp only [if_pos hmax]
  | invalid =>
    refine LawfulAt.of_invalid fun t => ?_
    rw [hf, packetLengthModern, varint2int_invalid_append hv t]
  | complete frameSize cursor =>
    obtain ⟨pre, hpre, hpos, hprelen⟩ := varint2int_rest hv
    have hsize : ∀ t, (s ++ t).length - (cursor ++ t).length = pre.length := by
      intro t
      simp only [hpre, List.length_append]
      omega
    have hle : pre.length + frameSize.toNat ≤ 2 ^ 32 + 5 := by
      have := frameSize.toNat_lt
      omega
    have hstep : ∀ t, f (s ++ t) =
        if frameSize = 0 ∨ frameSize.toNat > sizeMax - pre.length then (.invalid, 0)
        else if (s ++ t).length < pre.length + frameSize.toNat then
          (.incomplete, pre.length + frameSize.toNat)
        else
          let (protocol, intent) :=
            protocolIdentify ((s ++ t).take (pre.length + frameSize.toNat))
          if protocol = .unident then (.invalid, pre.length + frameSize.toNat)
          else if protocol = .modern1 ∨ intent = .status then
            (.complete, pre.length + frameSize.toNat)
          else packetLengthSecond (s ++ t) (pre.length + frameSize.toNat) := by
      intro t
      rw [hf, packetLengthModern, varint2int_append hv t]
      simp only [hsize]
    generalize pre.length + frameSize.toNat = first at hstep hle
    by_cases hbad : frameSize = 0 ∨ frameSize.toNat > sizeMax - pre.length
    · exact LawfulAt.of_invalid fun t => by rw [hstep, if_pos hbad]
    by_cases hshort : s.length < first
    · exact LawfulAt.of_await hshort fun t ht => by rw [hstep, if_neg hbad, if_pos ht]
    -- the first frame is there: its identification no longer depends on what follows
    have hlong : ∀ t, ¬ (s ++ t).length < first := by
      intro t
      rw [List.length_append]
      omega
    have hstep' : ∀ t, f (s ++ t) =
        if (protocolIdentify (s.take first)).1 = .unident then (.invalid, first)
        else if (protocolIdentify (s.take first)).1 = .modern1 ∨
            (protocolIdentify (s.take first)).2 = .status then (.complete, first)
        else packetLengthSecond (s ++ t) first := by
      intro t
      rw [hstep, if_neg hbad, if_neg (hlong t), List.take_append_of_le_length (by omega)]
    by_cases hun : (protocolIdentify (s.take first)).1 = .unident
    · exact LawfulAt.of_invalid fun t => by rw [hstep', if_pos hun]
    by_cases hone : (protocolIdentify (s.take first)).1 = .modern1 ∨
        (protocolIdentify (s.take first)).2 = .status
    · refine LawfulAt.of_complete (n := first) (by omega) fun t => ?_
      rw [hstep', if_neg hun, if_pos hone]
    · exact packetLengthSecond_lawful first (by omega) hle
        fun t => by rw [hstep', if_neg hun, if_neg hone]

/-- Legacy logins obey the streaming law. -/
theorem packetLengthLegacyLogin_lawful
    (hf : ∀ t, f (s ++ t) = packetLengthLegacyLogin (s ++ t)) : LawfulAt f s := by
  by_cases h2 : s.length < 2
  · exact LawfulAt.of_await h2 fun t ht => by rw [hf, packetLengthLegacyLogin, if_pos ht]
  have h2' : ∀ t, ¬ (s ++ t).length < 2 := fun t => by rw [List.length_append]; omega
  by_cases h4 : s.length < 4
  · exact LawfulAt.of_await h4 fun t ht => by
      rw [hf, packetLengthLegacyLogin, if_neg (h2' t), if_pos ht]
  have h4' : ∀ t, ¬ (s ++ t).length < 4 := fun t => by rw [List.length_append]; omega
  have hstep : ∀ t, f (s ++ t) =
      if byteAt s 1 = 0 then
        (if (s ++ t).length < 3 + (byteAt s 2).toNat * (if byteAt s 3 = 0 then 2 else 1) then
          .incomplete else .complete, 3 + (byteAt s 2).toNat * (if byteAt s 3 = 0 then 2 else 1))
      else if byteAt s 1 = 0x1F then
        (if (s ++ t).length < 4 + (uint16Read s 2).toNat * 2 then .incomplete else .complete,
          4 + (uint16Read s 2).toNat * 2)
      else if (s ++ t).length < 4 + (uint16Read s 2).toNat * 2 + 2 then
        (.incomplete, 4 + (uint16Read s 2).toNat * 2 + 2)
      else
        let packetSize := 4 + (uint16Read s 2).toNat * 2 + 2 +
          (uint16Read (s ++ t) (4 + (uint16Read s 2).toNat * 2)).toNat * 2 + 4
        (if (s ++ t).length < packetSize then .incomplete else .complete, packetSize) := by
    intro t
    rw [hf, packetLengthLegacyLogin, if_neg (h2' t), if_neg (h4' t),
      byteAt_append t (by omega : 1 < s.length), byteAt_append t (by omega : 2 < s.length),
      byteAt_append t (by omega : 3 < s.length), uint16Read_append t (by omega : 2 + 1 < s.length)]
  generalize 3 + (byteAt s 2).toNat * (if byteAt s 3 = 0 then 2 else 1) = l1 at hstep
  generalize 4 + (uint16Read s 2).toNat * 2 = first at hstep
  by_cases hb0 : byteAt s 1 = 0
  · exact LawfulAt.of_sized (n := l1) fun t => by rw [hstep, if_pos hb0]
  by_cases hb1 : byteAt s 1 = 0x1F
  · exact LawfulAt.of_sized (n := first) fun t => by rw [hstep, if_neg hb0, if_pos hb1]
  by_cases hu : s.length < first + 2
  · exact LawfulAt.of_await hu fun t ht => by rw [hstep, if_neg hb0, if_neg hb1, if_pos ht]
  · refine LawfulAt.of_sized (n := first + 2 + (uint16Read s first).toNat * 2 + 4) fun t => ?_
    rw [hstep, if_neg hb0, if_neg hb1, if_neg (by rw [List.length_append]; omega),
      uint16Read_append t (by omega : first + 1 < s.length)]

/-- The legacy ping with a payload obeys the streaming law. -/
theorem packetLengthLegacyPing_lawful
    (hf : ∀ t, f (s ++ t) = packetLengthLegacyPing (s ++ t)) : LawfulAt f s := by
  by_cases h : s.length < 0x20
  · exact LawfulAt.of_await h fun t ht => by rw [hf, packetLengthLegacyPing, if_pos ht]
  · refine LawfulAt.of_sized (n := 0x20 + (uint16Read s 0x1E).toNat * 2 + 4) fun t => ?_
    rw [hf, packetLengthLegacyPing, if_neg (by rw [List.length_append]; omega),
      uint16Read_append t (by omega : 0x1E + 1 < s.length)]

section

variable (h0 : s.length ≠ 0) (h1 : byteAt s 0 ≠ 0x01) (h2 : byteAt s 0 ≠ 0x02)
  (hfe : byteAt s 0 = 0xFE → ¬ (s.length = 1 ∨ (s.length = 2 ∧ byteAt s 1 = 0x01)) ∧
    ¬ (byteAt s 1 = 0x01 ∧ byteAt s 2 = 0xFA))

include h0 h1 h2 hfe

theorem packetLength_of_modern :
    packetLength s = packetLengthModern s := by
  unfold packetLength
  rw [if_neg h0, if_neg h1, if_neg h2]
  split
  · rename_i h
    rw [if_neg (hfe h).1, if_neg (hfe h).2]
  · rfl

theorem protocolIdentify_of_modern :
    protocolIdentify s = identifyModern s := by
  unfold protocolIdentify
  rw [if_neg h0, if_neg h1, if_neg h2]
  split
  · rename_i h
    obtain ⟨hshort, hping⟩ := hfe h
    rw [if_neg fun e => hshort (Or.inl e), if_neg fun e => hshort (Or.inr ⟨e.2, e.1⟩),
      if_neg hping]
  · rfl

end

/-- **The answer of `protocol_packet_length` binds every extension**, at every byte string. -/
theorem packetLength_lawfulAt (s : Bytes) : LawfulAt packetLength s := by
  by_cases h0 : s.length = 0
  · refine LawfulAt.of_next ?_
    rw [packetLength, if_pos h0, h0]
  have h0' : ∀ t, (s ++ t).length ≠ 0 := fun t => by rw [List.length_append]; omega
  have hb : ∀ t, byteAt (s ++ t) 0 = byteAt s 0 := fun t => byteAt_append t (by omega)
  by_cases h1 : byteAt s 0 = 0x01
  · refine LawfulAt.of_complete (n := 1) (by omega) fun t => ?_
    rw [packetLength, if_neg (h0' t), hb, if_pos h1]
  by_cases h2 : byteAt s 0 = 0x02
  · refine packetLengthLegacyLogin_lawful fun t => ?_
    rw [packetLength, if_neg (h0' t), hb, if_neg h1, if_pos h2]
  by_cases hfe : byteAt s 0 = 0xFE
  · by_cases ham : s.length = 1 ∨ (s.length = 2 ∧ byteAt s 1 = 0x01)
    · refine LawfulAt.of_ambiguous (n := 3) ?_
      rw [packetLength, if_neg h0, if_neg h1, if_neg h2, if_pos hfe, if_pos ham]
    have hb1 : ∀ t, byteAt (s ++ t) 1 = byteAt s 1 := fun t => byteAt_append t (by omega)
    have ham' : ∀ t, ¬ ((s ++ t).length = 1 ∨
        ((s ++ t).length = 2 ∧ byteAt (s ++ t) 1 = 0x01)) := by
      intro t
      rw [hb1, List.length_append]
      rintro (h | ⟨h, hb1'⟩)
      · omega
      · exact ham (Or.inr ⟨by omega, hb1'⟩)
    have hlen : byteAt s 1 = 0x01 → 2 < s.length := by
      intro h01
      by_contra hc
      rcases (by omega : s.length = 1 ∨ s.length = 2) with hl | hl
      · exact ham (Or.inl hl)
      · exact ham (Or.inr ⟨hl, h01⟩)
    by_cases hping : byteAt s 1 = 0x01 ∧ byteAt s 2 = 0xFA
    · refine packetLengthLegacyPing_lawful fun t => ?_
      rw [packetLength, if_neg (h0' t), hb, if_neg h1, if_neg h2, if_pos hfe, if_neg (ham' t),
        hb1, byteAt_append t (hlen hping.1), if_pos hping]
    · refine packetLengthModern_lawful fun t => packetLength_of_modern (h0' t)
        (by rw [hb]; exact h1) (by rw [hb]; exact h2) fun _ => ⟨ham' t, ?_⟩
      rw [hb1]
      rintro ⟨h01, hfa⟩
      rw [byteAt_append t (hlen h01)] at hfa
      exact hping ⟨h01, hfa⟩
  · refine packetLengthModern_lawful fun t => packetLength_of_modern (h0' t)
      (by rw [hb]; exact h1) (by rw [hb]; exact h2) fun h => absurd h ?_
    rw [hb]
    exact hfe

theorem packetLengthSecond_ne_ambiguous (s : Bytes) (first : Nat) :
    (packetLengthSecond s first).1 ≠ .ambiguous := by
  unfold packetLengthSecond
  grind

theorem packetLengthModern_ne_ambiguous (s : Bytes) : (packetLengthModern s).1 ≠ .ambiguous := by
  unfold packetLengthModern
  grind [packetLengthSecond_ne_ambiguous]

theorem packetLengthLegacyLogin_ne_ambiguous (s : Bytes) :
    (packetLengthLegacyLogin s).1 ≠ .ambiguous := by
  unfold packetLengthLegacyLogin
  grind

theorem packetLengthLegacyPing_ne_ambiguous (s : Bytes) :
    (packetLengthLegacyPing s).1 ≠ .ambiguous := by
  unfold packetLengthLegacyPing
  grind

/-- `FE` and `FE 01` are the only strings that may still become two different packets. -/
theorem packetLength_ambiguous_iff (s : Bytes) :
    (packetLength s).1 = .ambiguous ↔ s = [0xFE] ∨ s = [0xFE, 0x01] := by
  constructor
  · intro h
    unfold packetLength at h
    split at h
    · cases h
    split at h
    · cases h
    split at h
    · exact absurd h (packetLengthLegacyLogin_ne_ambiguous s)
    split at h
    · rename_i hfe
      split at h
      · rename_i ham
        match s, hfe, ham with
        | [b], hfe, _ =>
          left
          have hb : b = 0xFE := hfe
          rw [hb]
        | [b, c], hfe, ham =>
          right
          have hb : b = 0xFE := hfe
          have hc : c = 0x01 := by simpa [byteAt] using ham
          rw [hb, hc]
        | [], _, ham => simp at ham
        | _ :: _ :: _ :: _, _, ham => simp at ham
      split at h
      · exact absurd h (packetLengthLegacyPing_ne_ambiguous s)
      · exact absurd h (packetLengthModern_ne_ambiguous s)
    · exact absurd h (packetLengthModern_ne_ambiguous s)
  · rintro (rfl | rfl) <;> rfl

/-- **The framing is a streaming function**: a complete or a refused answer is final, and an
    incomplete one names a length below which nothing is complete. -/
theorem packetLength_streaming (s : Bytes) :
    (∀ n, packetLength s = (.complete, n) →
      n ≤ s.length ∧ ∀ t, packetLength (s ++ t) = (.complete, n)) ∧
    ((packetLength s).1 = .invalid → ∀ t, (packetLength (s ++ t)).1 = .invalid) ∧
    (∀ n, packetLength s = (.incomplete, n) →
      s.length < n ∧ ∀ t, (s ++ t).length < n → (packetLength (s ++ t)).1 ≠ .complete) ∧
    ((packetLength s).1 = .ambiguous ↔ s = [0xFE] ∨ s = [0xFE, 0x01]) :=
  ⟨(packetLength_lawfulAt s).complete, (packetLength_lawfulAt s).invalid,
    (packetLength_lawfulAt s).incomplete, packetLength_ambiguous_iff s⟩

/-! ## 5. Identification against the first packet -/

/-- Only the `02` branch answers a legacy login. -/
theorem protocolIdentify_legacyLogin {protocol : ProtocolVersion} {intent : Intent}
    (h : protocolIdentify s = (protocol, intent))
    (hp : protocol = .legacyL1 ∨ protocol = .legacyL2 ∨ protocol = .legacyL3 ∨
      protocol = .legacyL4) : byteAt s 0 = 0x02 := by
  have hmodern : identifyModern s ≠ (protocol, intent) := by
    unfold identifyModern
    rintro e
    rcases hp with rfl | rfl | rfl | rfl <;> (repeat' split at e) <;> cases e
  by_contra hne
  unfold protocolIdentify at h
  rcases hp with rfl | rfl | rfl | rfl <;> (repeat' split at h) <;>
    first | cases h | exact hmodern h

/-- Only a modern frame carries an intent. -/
theorem protocolIdentify_legacyM3 {intent : Intent}
    (h : protocolIdentify s = (.legacyM3, intent)) : intent = .unspecified := by
  have hmodern : identifyModern s ≠ (.legacyM3, intent) := by
    unfold identifyModern
    split
    · split <;> exact nofun
    · exact nofun
  unfold protocolIdentify at h
  repeat' split at h
  all_goals first | exact (Prod.mk.inj h).2.symm | exact absurd h hmodern

/-- A modern frame that has arrived is identified from its own bytes. -/
theorem modernFrame_append {s cursor : Bytes} {frameSize : Varint}
    (hv : varint2int s = .complete frameSize cursor) (hlen : frameSize.toNat ≤ cursor.length)
    (t : Bytes) : modernFrame (s ++ t) = modernFrame s := by
  have hlen' : ¬ frameSize.toNat > (cursor ++ t).length := by
    rw [List.length_append]
    omega
  have hcond : (frameSize = 0 ∨ frameSize.toNat > (cursor ++ t).length) ↔
      (frameSize = 0 ∨ frameSize.toNat > cursor.length) := by
    simp only [hlen', or_false, not_lt.mpr hlen]
  unfold modernFrame
  rw [varint2int_append hv t, hv]
  simp only [hcond, List.take_append_of_le_length hlen]

/-- A complete modern answer has its first frame in the buffer, and identification accepts it. -/
theorem packetLengthModern_complete
    (h : packetLengthModern s = (.complete, n)) :
    ∃ frameSize cursor, varint2int s = .complete frameSize cursor ∧
      frameSize.toNat ≤ cursor.length ∧
      s.length - cursor.length + frameSize.toNat ≤ n ∧
      (protocolIdentify (s.take (s.length - cursor.length + frameSize.toNat))).1 ≠ .unident := by
  unfold packetLengthModern at h
  split at h
  · cases h
  · cases h
  · rename_i frameSize cursor hv
    obtain ⟨pre, hpre, _, _⟩ := varint2int_rest hv
    simp only [] at h
    split at h
    · cases h
    split at h
    · cases h
    split at h
    · cases h
    rename_i hshort hun
    refine ⟨frameSize, cursor, hv, by omega, ?_, hun⟩
    split at h
    · simp only [Prod.mk.injEq, true_and] at h
      omega
    · unfold packetLengthSecond at h
      split at h
      · cases h
      · cases h
      · simp only [] at h
        split at h
        · cases h
        · simp only [Prod.mk.injEq] at h
          omega

/-- The `;` and `:` of a later packet arrive behind a legacy login that has none of its own. -/
def DelimitersArrive (p t : Bytes) : Prop :=
  byteAt p 0 = 0x02 ∧ byteAt p 1 = 0x00 ∧
    ¬ (semicolon ∈ p.drop 3 ∧ colon ∈ p.drop 3) ∧
    (semicolon ∈ (p ++ t).drop 3 ∧ colon ∈ (p ++ t).drop 3)

instance (p t : Bytes) : Decidable (DelimitersArrive p t) :=
  inferInstanceAs (Decidable (_ ∧ _ ∧ ¬ (_ ∧ _) ∧ _ ∧ _))

/-- The `02` branch sees later bytes exactly through the delimiter scan. -/
theorem identifyLegacyLogin_append_iff (t : Bytes) (h0 : byteAt p 0 = 0x02) (hlen : 4 ≤ p.length) :
    identifyLegacyLogin (p ++ t) = identifyLegacyLogin p ↔ ¬ DelimitersArrive p t := by
  have h2 : ¬ (p ++ t).length < 2 := by rw [List.length_append]; omega
  have h3 : ¬ (p ++ t).length < 3 := by rw [List.length_append]; omega
  have hb1 : byteAt (p ++ t) 1 = byteAt p 1 := byteAt_append t (by omega)
  have hdrop : (p ++ t).drop 3 = p.drop 3 ++ t := List.drop_append_of_le_length (by omega)
  unfold identifyLegacyLogin DelimitersArrive
  rw [if_neg h2, if_neg h3, if_neg (by omega : ¬ p.length < 2), if_neg (by omega : ¬ p.length < 3),
    hb1, hdrop]
  by_cases h1 : byteAt p 1 = 0x00
  · -- a delimiter that is already there stays there, so only the missing case can change
    have hmono : semicolon ∈ p.drop 3 ∧ colon ∈ p.drop 3 →
        semicolon ∈ p.drop 3 ++ t ∧ colon ∈ p.drop 3 ++ t := fun ⟨a, b⟩ =>
      ⟨List.mem_append_left t a, List.mem_append_left t b⟩
    simp only [h0, h1, true_and, if_true]
    by_cases hold : semicolon ∈ p.drop 3 ∧ colon ∈ p.drop 3
    · simp [hold, hmono hold]
    · by_cases hnew : semicolon ∈ p.drop 3 ++ t ∧ colon ∈ p.drop 3 ++ t
      · rw [if_neg hold, if_pos hnew]
        exact iff_of_false (by simp) fun h => h ⟨hold, hnew⟩
      · rw [if_neg hold, if_neg hnew]
        exact iff_of_true rfl fun h => hnew h.2
  · simp only [h1, false_and, and_false, not_false_eq_true, if_false]

/-- Every branch but the `02` one is decided by a packet that has arrived. -/
theorem protocolIdentify_append_of_complete
    (h : packetLength p = (.complete, n)) (h2 : byteAt p 0 ≠ 0x02) (t : Bytes) :
    protocolIdentify (p ++ t) = protocolIdentify p := by
  unfold packetLength at h
  split at h
  · cases h
  rename_i h0
  have h0' : (p ++ t).length ≠ 0 := by rw [List.length_append]; omega
  have hb0 : byteAt (p ++ t) 0 = byteAt p 0 := byteAt_append t (by omega)
  unfold protocolIdentify
  rw [if_neg h0, if_neg h0', hb0]
  split at h
  · rename_i h1
    rw [if_pos h1, if_pos h1]
  rename_i h1
  rw [if_neg h1, if_neg h1, if_neg h2, if_neg h2]
  have hmodern : packetLengthModern p = (.complete, n) →
      identifyModern (p ++ t) = identifyModern p := by
    intro hm
    obtain ⟨frameSize, cursor, hv, hlen, _, _⟩ := packetLengthModern_complete hm
    unfold identifyModern
    rw [modernFrame_append hv hlen t]
  split at h
  · rename_i hfe
    split at h
    · cases h
    rename_i ham
    have hb1 : byteAt (p ++ t) 1 = byteAt p 1 := byteAt_append t (by omega)
    have hone : ¬ p.length = 1 := fun e => ham (Or.inl e)
    have htwo : ¬ (byteAt p 1 = 0x01 ∧ p.length = 2) := fun ⟨a, b⟩ => ham (Or.inr ⟨b, a⟩)
    have hone' : ¬ (p ++ t).length = 1 := by rw [List.length_append]; omega
    have htwo' : ¬ (byteAt p 1 = 0x01 ∧ (p ++ t).length = 2) := by
      rw [List.length_append]
      rintro ⟨a, b⟩
      exact htwo ⟨a, by omega⟩
    have hb2 : byteAt p 1 = 0x01 → byteAt (p ++ t) 2 = byteAt p 2 := fun e =>
      byteAt_append t (by
        have : p.length ≠ 2 := fun b => htwo ⟨e, b⟩
        omega)
    have hfa : (byteAt p 1 = 0x01 ∧ byteAt (p ++ t) 2 = 0xFA) ↔
        (byteAt p 1 = 0x01 ∧ byteAt p 2 = 0xFA) :=
      and_congr_right fun e => by rw [hb2 e]
    simp only [if_pos hfe, hb1, if_neg hone, if_neg htwo, if_neg hone', if_neg htwo', hfa]
    split at h
    · rename_i hping
      rw [if_pos hping, if_pos hping]
    · rename_i hping
      rw [if_neg hping, if_neg hping]
      exact hmodern h
  · rename_i hfe
    rw [if_neg hfe, if_neg hfe]
    exact hmodern h

/-- A complete legacy login holds its four header bytes. -/
theorem packetLengthLegacyLogin_complete
    (h : packetLengthLegacyLogin p = (.complete, n)) : 4 ≤ p.length := by
  unfold packetLengthLegacyLogin at h
  split at h
  · cases h
  split at h
  · cases h
  omega

/-- **What later bytes can change**: behind a complete first packet the identification stays, except
    when they bring both delimiters to a `02 00` login that lacks one. -/
theorem protocolIdentify_append_iff (p t : Bytes) (h : packetLength p = (.complete, p.length)) :
    protocolIdentify (p ++ t) = protocolIdentify p ↔ ¬ DelimitersArrive p t := by
  by_cases h2 : byteAt p 0 = 0x02
  · unfold packetLength at h
    split at h
    · cases h
    rename_i h0
    rw [h2] at h
    have hlen : 4 ≤ p.length := packetLengthLegacyLogin_complete (by simpa using h)
    have hb0 : byteAt (p ++ t) 0 = byteAt p 0 := byteAt_append t (by omega)
    have h0' : (p ++ t).length ≠ 0 := by rw [List.length_append]; omega
    rw [← identifyLegacyLogin_append_iff t h2 hlen]
    unfold protocolIdentify
    rw [if_neg h0, if_neg h0', hb0, h2]
    simp
  · refine iff_of_true (protocolIdentify_append_of_complete h h2 t) fun hd => ?_
    exact h2 hd.1

/-- A one-letter `02 00` login that arrives alone, and one with `;:` behind it. -/
theorem protocolIdentify_append_iff_apart :
    packetLength [0x02, 0x00, 0x01, 0x61] = (.complete, 4) ∧
    (protocolIdentify ([0x02, 0x00, 0x01, 0x61] ++ [0x00]) =
      protocolIdentify [0x02, 0x00, 0x01, 0x61] ↔
      ¬ DelimitersArrive [0x02, 0x00, 0x01, 0x61] [0x00]) :=
  ⟨by decide, protocolIdentify_append_iff _ _ (by decide)⟩

/-- The same login is another protocol once `;:` follows it in the buffer. -/
theorem protocolIdentify_delimiters_change :
    packetLength [0x02, 0x00, 0x01, 0x61] = (.complete, 4) ∧
    protocolIdentify [0x02, 0x00, 0x01, 0x61] = (.legacyL1, .unspecified) ∧
    protocolIdentify ([0x02, 0x00, 0x01, 0x61] ++ [0x3B, 0x3A]) = (.legacyL2, .unspecified) := by
  decide

end MinecraftRelay
