/-
  File:      Protocol/LegacyPing.lean
  Subject:   A written M3 ping: `packet_read_legacy_motd`, `protocol_packet_length` and
             `protocol_identify` on what `packet_write_legacy_motd` writes.

  * `packetReadLegacyMotd_write` -- it reads back;
  * `packetLength_ping` -- it is one frame of its protocol;
  * `legacyPing_roundTrip` -- **the four functions agree about it**, whatever bytes follow.
-/
import MinecraftRelay.Protocol.HandshakeLegacy
import MinecraftRelay.Protocol.Rewrite

namespace MinecraftRelay

/-! ## 1. Characters of two bytes -/

theorem uint16Write_char (b : UInt8) : uint16Write b.toUInt16 = [0, b] := by
  have hb := b.toNat_lt
  unfold uint16Write
  rw [UInt8.toNat_toUInt16, Nat.div_eq_of_lt hb, Nat.mod_eq_of_lt hb, UInt8.ofNat_toNat]
  rfl

theorem uint16Read_append_right (pre s : Bytes) (i : Nat) :
    uint16Read (pre ++ s) (pre.length + i) = uint16Read s i := by
  unfold uint16Read
  rw [byteAt_append_right, Nat.add_assoc, byteAt_append_right]

/-- Two bytes for a character read back as it. -/
theorem uint16Read_packetExpand {s : Bytes} {i : Nat} (t : Bytes) (h : i < s.length) :
    (uint16Read (packetExpand s ++ t) (i * 2)).toUInt8 = byteAt s i := by
  induction s generalizing i with
  | nil => exact absurd h (Nat.not_lt_zero i)
  | cons b s ih =>
    cases i with
    | zero =>
      show (UInt16.ofNat (0 * 256 + b.toNat)).toUInt8 = b
      have hb := b.toNat_lt
      apply UInt8.toNat_inj.1
      rw [UInt16.toNat_toUInt8, UInt16.toNat_ofNat']
      omega
    | succ i =>
      have := ih (Nat.lt_of_succ_lt_succ h)
      have hstep := uint16Read_append_right [0, b] (packetExpand s ++ t) (i * 2)
      rw [packetExpand_cons, show (i + 1) * 2 = [0, b].length + i * 2 by
        simp only [List.length_cons, List.length_nil]; omega]
      show (uint16Read ([0, b] ++ (packetExpand s ++ t)) _).toUInt8 = byteAt s i
      rw [hstep, this]

/-! ## 2. A written ping -/

/-- The bytes of a written ping in front of its address. -/
def pingHead (version : UInt8) (size : Nat) : Bytes :=
  motdHeader ++ uint16Write (UInt16.ofNat (size * 2 + 7)) ++ [version] ++
    uint16Write (UInt16.ofNat size)

theorem packetWriteLegacyMotd_eq {address : Bytes} (h0 : (0 : UInt8) ∉ address) (version : UInt8)
    (port : UInt16) : packetWriteLegacyMotd version address port =
      pingHead version address.length ++ (packetExpand address ++ uint32Write port.toUInt32) := by
  simp only [packetWriteLegacyMotd, cString_of_not_mem h0, uint16Write_char, pingHead, packetExpand,
    List.append_assoc]

theorem pingHead_length (version : UInt8) (size : Nat) :
    (pingHead version size).length = 0x20 := rfl

theorem packetWriteLegacyMotd_length {address : Bytes} (h0 : (0 : UInt8) ∉ address)
    (version : UInt8) (port : UInt16) :
    (packetWriteLegacyMotd version address port).length = 36 + address.length * 2 := by
  rw [packetWriteLegacyMotd_eq h0, List.length_append, pingHead_length, List.length_append,
    packetExpand_length]
  show 0x20 + (2 * address.length + 4) = _
  omega

section Ping

variable {address : Bytes} (h0 : (0 : UInt8) ∉ address) (hsize : address.length ≤ 0xFFFF)
  (version : UInt8) (port : UInt16)

include h0 hsize

theorem packetWriteLegacyMotd_size :
    (uint16Read (packetWriteLegacyMotd version address port) 0x1E).toNat = address.length := by
  have hwrite : uint16Read (packetWriteLegacyMotd version address port) 0x1E =
      UInt16.ofNat address.length := by
    rw [packetWriteLegacyMotd_eq h0, pingHead, List.append_assoc _ (uint16Write _)]
    have := uint16Read_append_right (motdHeader ++ uint16Write (UInt16.ofNat
      (address.length * 2 + 7)) ++ [version]) (uint16Write (UInt16.ofNat address.length) ++
      (packetExpand address ++ uint32Write port.toUInt32)) 0
    rw [uint16Read_uint16Write] at this
    exact this
  rw [hwrite, UInt16.toNat_ofNat']
  exact Nat.mod_eq_of_lt (Nat.lt_succ_of_le hsize)

/-- **A written ping reads back.** -/
theorem packetReadLegacyMotd_write :
    packetReadLegacyMotd (packetWriteLegacyMotd version address port) =
      ⟨some address, port, version⟩ := by
  have hlength := packetWriteLegacyMotd_length h0 version port
  have hread := packetWriteLegacyMotd_size h0 hsize version port
  have hversion : byteAt (packetWriteLegacyMotd version address port) 0x1D = version := by
    rw [packetWriteLegacyMotd_eq h0]
    rfl
  have hport : (uint32Read (packetWriteLegacyMotd version address port)
      (0x20 + address.length * 2)).toUInt16 = port := by
    have hread : ∀ i, uint16Read (packetWriteLegacyMotd version address port)
        (0x20 + address.length * 2 + i) = uint16Read (uint32Write port.toUInt32) i := by
      intro i
      have hpre : (pingHead version address.length ++ packetExpand address).length =
          0x20 + address.length * 2 := by
        rw [List.length_append, pingHead_length, packetExpand_length]
        omega
      rw [packetWriteLegacyMotd_eq h0, ← List.append_assoc, ← hpre, uint16Read_append_right]
    have hlt := port.toNat_lt
    have hlo : uint16Read (uint32Write port.toUInt32) 2 = port := by
      have h2 : uint16Read (uint32Write port.toUInt32) 2 = uint16Read (uint16Write
          (UInt16.ofNat (port.toUInt32.toNat % 65536)) ++ []) 0 := rfl
      rw [h2, uint16Read_uint16Write, UInt16.toNat_toUInt32, Nat.mod_eq_of_lt hlt,
        UInt16.ofNat_toNat]
    unfold uint32Read
    rw [hread 2, hlo]
    apply UInt16.toNat_inj.1
    rw [UInt32.toNat_toUInt16, UInt32.toNat_ofNat']
    omega
  have haddress : ((List.range address.length).map fun recidx =>
      (uint16Read (packetWriteLegacyMotd version address port) (0x20 + recidx * 2)).toUInt8) =
      address := by
    refine List.ext_getElem (by simp) fun i _ hi => ?_
    simp only [List.getElem_map, List.getElem_range]
    have hpre := uint16Read_append_right (pingHead version address.length)
      (packetExpand address ++ uint32Write port.toUInt32) (i * 2)
    rw [pingHead_length, ← packetWriteLegacyMotd_eq h0] at hpre
    rw [hpre, uint16Read_packetExpand _ hi, byteAt, List.getD_eq_getElem?_getD,
      List.getElem?_eq_getElem hi, Option.getD_some]
  unfold packetReadLegacyMotd
  rw [if_neg (by omega)]
  simp only [hread, hversion]
  rw [if_neg (by omega), haddress, hport]

/-- It is framed to the byte and identified as what it is. -/
theorem packetLength_ping :
    packetLength (packetWriteLegacyMotd version address port) =
        (.complete, (packetWriteLegacyMotd version address port).length) ∧
      protocolIdentify (packetWriteLegacyMotd version address port) =
        (.legacyM3, .unspecified) := by
  have hlength := packetWriteLegacyMotd_length h0 version port
  have hread := packetWriteLegacyMotd_size h0 hsize version port
  constructor
  · have hbranch : packetLength (packetWriteLegacyMotd version address port) =
        packetLengthLegacyPing (packetWriteLegacyMotd version address port) := by
      rw [packetWriteLegacyMotd_eq h0]
      rfl
    rw [hbranch, packetLengthLegacyPing, if_neg (by omega), hread]
    dsimp only
    rw [hlength, if_neg (by omega), Nat.add_right_comm]
  · rw [packetWriteLegacyMotd_eq h0]
    rfl

end Ping

/-- What the functions of the protocol make of a written ping. -/
structure PingAgreed (version : UInt8) (address : Bytes) (port : UInt16) : Prop where
  size : (packetWriteLegacyMotd version address port).length = 36 + 2 * address.length
  framed : ∀ following, packetLength (packetWriteLegacyMotd version address port ++ following) =
    (.complete, 36 + 2 * address.length)
  identified : ∀ following,
    protocolIdentify (packetWriteLegacyMotd version address port ++ following) =
      (.legacyM3, .unspecified)
  read : packetReadLegacyMotd (packetWriteLegacyMotd version address port) =
    ⟨some address, port, version⟩

/-- **A written ping has its size, is framed and identified as what it is, and reads back.** -/
theorem legacyPing_roundTrip (version : UInt8) (address : Bytes) (port : UInt16)
    (h0 : (0 : UInt8) ∉ address) (hsize : address.length ≤ 32764) :
    PingAgreed version address port := by
  have hfits : address.length ≤ 0xFFFF := by omega
  have hlength := packetWriteLegacyMotd_length h0 version port
  rw [Nat.mul_comm] at hlength
  refine ⟨hlength, fun following => ?_, fun following => ?_,
    packetReadLegacyMotd_write h0 hfits version port⟩
  · rw [← hlength]
    exact ((packetLength_lawfulAt _).complete _
      (packetLength_ping h0 hfits version port).1).2 following
  · rw [packetWriteLegacyMotd_eq h0]
    rfl

/-- The ping of a client for `mc` on port 25565. -/
theorem legacyPing_roundTrip_mc :
    (0 : UInt8) ∉ ascii "mc" ∧ PingAgreed 78 (ascii "mc") 25565 :=
  ⟨by decide, legacyPing_roundTrip 78 (ascii "mc") 25565 (by decide) (by decide)⟩

end MinecraftRelay
