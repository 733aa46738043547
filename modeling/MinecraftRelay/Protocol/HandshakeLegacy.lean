/-
  File:      Protocol/HandshakeLegacy.lean
  Subject:   protocol/handshake_legacy.c and the string helpers it uses (basic.c): logins and pings
             of clients before 13w41a.

  The character arrays of `p_login_legacy` are the strings in them. The reader of a login works on a
  copy of the packet with ALL zero bytes dropped, in a buffer that is zero behind it: reading behind
  the copy gives 0. A field that the reader leaves uninitialised (the version of an L2 login, the
  port of an L1 or L3 login) is 0; nothing reads it. Allocation succeeds.
-/
import MinecraftRelay.Protocol.Handshake

namespace MinecraftRelay

/-! ## 1. String helpers of basic.c -/

/-- `packetexpand`: a zero byte in front of every byte. -/
def packetExpand (source : Bytes) : Bytes := source.flatMap fun b => [0, b]

/-- `packetshrink`: the nonzero bytes, when they fit the target. -/
def packetShrink (source : Bytes) (targetCapacity : Nat) : Bytes :=
  if (source.filter (· ≠ 0)).length > targetCapacity then [] else source.filter (· ≠ 0)

/-- `strtok_head`: the text up to the delimiter, and what follows it when there is one. -/
def strtokHead (dstSize : Nat) (src : Bytes) (delim : UInt8) : Bytes × Option Bytes :=
  if byteAt src 0 = 0 then ([], none)
  else
    match (cString src).idxOf? delim with
    | none => ((cString src).take (dstSize - 1), none)
    | some length =>
        (src.take (if length ≥ dstSize then dstSize - 1 else length), some (src.drop (length + 1)))

/-- `strtok_tail` without a destination: where the last delimiter is, 0 when there is none. -/
def strtokTail (src : Bytes) (delim : UInt8) : Nat :=
  match (cString src).reverse.idxOf? delim with
  | none => 0
  | some back => (cString src).length - 1 - back

/-- `isspace` in the C locale. -/
def isSpace (b : UInt8) : Bool := b = 0x20 ∨ (0x09 ≤ b ∧ b ≤ 0x0D)

/-- `LONG_MAX`. -/
def longMax : Nat := 2 ^ 63 - 1

/-- `strtol` in base 10, which `atoi` narrows: blanks, a sign, digits, and the nearest `long` when
    they are too many. -/
def strtol (s : Bytes) : Int :=
  match s.dropWhile isSpace with
  | [] => 0
  | b :: rest =>
      if b = 0x2D then -(min (Decimal.value (rest.takeWhile Decimal.isDigit)) (longMax + 1) : Nat)
      else if b = 0x2B then (min (Decimal.value (rest.takeWhile Decimal.isDigit)) longMax : Nat)
      else (min (Decimal.value ((b :: rest).takeWhile Decimal.isDigit)) longMax : Nat)

/-! ## 2. Logins -/

/-- `p_login_legacy`. -/
structure PLoginLegacy where
  protoVer : ProtocolVersion
  username : Bytes
  address : Bytes
  port : UInt16
  version : UInt8
  deriving DecidableEq, Repr

/-- The zeroed structure the reader answers for a login it refuses. -/
def PLoginLegacy.zero : PLoginLegacy := ⟨.unident, [], [], 0, 0⟩

/-- The size of the two character arrays. -/
def loginFieldSize : Nat := 128

/-- `size` characters from an index of the shrunk packet on. -/
def charsAt (source : Bytes) (start size : Nat) : Bytes :=
  (List.range size).map fun recidx => byteAt source (start + recidx)

/-- The `login_field` of an L2 login. It is cut at the size of a USERNAME, not at its own. -/
def loginField (source : Bytes) : Bytes :=
  (charsAt source 2 (byteAt source 1).toNat ++
    List.replicate (512 - (byteAt source 1).toNat) 0).set (loginFieldSize - 1) 0

/-- The L2 branch of the reader: `username;address:port` in one field. -/
def readLoginL2 (source : Bytes) : PLoginLegacy :=
  match strtokHead loginFieldSize (loginField source) semicolon with
  | (_, none) => PLoginLegacy.zero
  | (username, some rest) =>
      let fieldsizeAddress := strtokTail rest colon
      { protoVer := .legacyL2
        username
        address := (cString rest).take (min fieldsizeAddress (loginFieldSize - 1))
        port := UInt16.ofInt (strtol (rest.drop (fieldsizeAddress + 1)))
        version := 0 }

/-- The other branch: lengths before the username and, for L4, the address. `start` is where the
    username length is. -/
def readLoginFields (source : Bytes) (loginVersion : ProtocolVersion) (version : UInt8)
    (start : Nat) : PLoginLegacy :=
  let usernameLength := (byteAt source start).toNat
  if usernameLength ≥ loginFieldSize then PLoginLegacy.zero
  else
    let username := cString (charsAt source (start + 1) usernameLength)
    if loginVersion = .legacyL4 then
      let start := start + 1 + usernameLength
      let addressLength := (byteAt source start).toNat
      if addressLength ≥ loginFieldSize then PLoginLegacy.zero
      else
        let portStart := start + 1 + addressLength
        { protoVer := loginVersion
          username
          address := cString (charsAt source (start + 1) addressLength)
          port := UInt16.ofNat ((byteAt source portStart).toNat * 256 +
            (byteAt source (portStart + 1)).toNat)
          version }
    else { protoVer := loginVersion, username, address := [], port := 0, version }

/-- `packet_read_legacy_login`. -/
def packetReadLegacyLogin (sourcepacket : Bytes) (loginVersion : ProtocolVersion) : PLoginLegacy :=
  let source := packetShrink sourcepacket bufsiz
  if loginVersion = .legacyL2 then readLoginL2 source
  else if loginVersion = .legacyL1 then readLoginFields source loginVersion 0 1
  else readLoginFields source loginVersion (byteAt source 1) 2

/-- One length-prefixed text; the length is one byte. -/
def lengthPrefixed (text : Bytes) : Bytes := UInt8.ofNat text.length :: text

/-- `packet_write_legacy_login`. -/
def packetWriteLegacyLogin (source : PLoginLegacy) : Bytes :=
  if source.protoVer = .legacyL2 then
    2 :: packetExpand (lengthPrefixed (source.username ++ semicolon :: source.address ++
      colon :: Decimal.write source.port.toNat))
  else
    (if source.protoVer ≠ .legacyL1 then [2, source.version] else [2]) ++
      packetExpand (lengthPrefixed source.username) ++
      (if source.protoVer = .legacyL4 then
        packetExpand (lengthPrefixed source.address) ++
          [0, 0, UInt8.ofNat (source.port.toNat / 256), UInt8.ofNat (source.port.toNat % 256)]
      else [])

/-! ## 3. Pings -/

/-- `p_motd_legacy`: `address` is `NULL` for a ping the reader refuses. -/
structure PMotdLegacy where
  address : Option Bytes
  port : UInt16
  version : UInt8
  deriving DecidableEq, Repr

/-- `protocol_uint32_read`. -/
def uint32Read (source : Bytes) (i : Nat) : UInt32 :=
  UInt32.ofNat ((uint16Read source i).toNat * 65536 + (uint16Read source (i + 2)).toNat)

/-- `protocol_uint32_write`. -/
def uint32Write (value : UInt32) : Bytes :=
  uint16Write (UInt16.ofNat (value.toNat / 65536)) ++
    uint16Write (UInt16.ofNat (value.toNat % 65536))

/-- `packet_read_legacy_motd`. -/
def packetReadLegacyMotd (src : Bytes) : PMotdLegacy :=
  if src.length < 0x24 then ⟨none, 0, 0⟩
  else
    let version := byteAt src 0x1D
    let addressLength := (uint16Read src 0x1E).toNat
    if addressLength > (src.length - 0x24) / 2 then ⟨none, 0, version⟩
    else
      { address := some ((List.range addressLength).map fun recidx =>
          (uint16Read src (0x20 + recidx * 2)).toUInt8)
        port := (uint32Read src (0x20 + addressLength * 2)).toUInt16
        version }

/-- The 0x1B bytes in front of every M3 ping: its markers and the channel name `MC|PingHost`. -/
def motdHeader : Bytes := [0xFE, 0x01, 0xFA] ++ packetExpand (0x0B :: ascii "MC|PingHost")

/-- `packet_write_legacy_motd`. -/
def packetWriteLegacyMotd (version : UInt8) (address : Bytes) (port : UInt16) : Bytes :=
  let address := cString address
  motdHeader ++ uint16Write (UInt16.ofNat (address.length * 2 + 7)) ++ [version] ++
    uint16Write (UInt16.ofNat address.length) ++
    (address.flatMap fun b => uint16Write b.toUInt16) ++ uint32Write port.toUInt32

/-! ## 4. Answers -/

/-- `legacy_char_write`. -/
def legacyCharWrite (value : UInt8) : Bytes := uint16Write value.toUInt16

/-- `make_kickreason_legacy`. -/
def makeKickreasonLegacy (dstCapacity : Nat) (src : Bytes) : Option Bytes :=
  let source := cString src
  if dstCapacity < 3 ∨ source.length > 0xFFFF ∨ dstCapacity < 3 + source.length * 2 then none
  else some (0xFF :: uint16Write (UInt16.ofNat source.length) ++ source.flatMap legacyCharWrite)

/-- The characters of a status answer, and how many of them are not the message. -/
def motdCharacters (message : Bytes) (version : UInt8) : ProtocolVersion → Option (Bytes × Nat)
  | .legacyM1 => some (message ++ [0xA7, 0x30, 0xA7, 0x30], 4)
  | .legacyM2 | .legacyM3 =>
      let versionDigits := Decimal.write version.toNat
      some ([0xA7, 0x31, 0] ++ versionDigits ++ [0, 0] ++ (message ++ [0]) ++ [0x30, 0, 0x30],
        versionDigits.length + 3 + 2 + 3 + 1)
  | _ => none

/-- `make_motd_legacy`. -/
def makeMotdLegacy (dstCapacity : Nat) (src : Bytes) (motdVersion : ProtocolVersion)
    (version : UInt8) : Option Bytes :=
  let message := cString src
  if dstCapacity < 3 then none
  else
    match motdCharacters message version motdVersion with
    | none => none
    | some (characters, overhead) =>
        if message.length > 0xFFFF - overhead then none
        else if message.length + overhead > (dstCapacity - 3) / 2 then none
        else
          some (0xFF :: uint16Write (UInt16.ofNat (message.length + overhead)) ++
            characters.flatMap legacyCharWrite)

/-! ## 5. Expanding and shrinking -/

@[simp] theorem packetExpand_cons (b : UInt8) (s : Bytes) :
    packetExpand (b :: s) = 0 :: b :: packetExpand s := rfl

theorem packetExpand_length (s : Bytes) : (packetExpand s).length = 2 * s.length := by
  induction s with
  | nil => rfl
  | cons b s ih =>
    rw [packetExpand_cons, List.length_cons, List.length_cons, ih, List.length_cons]
    omega

theorem mem_packetExpand {s : Bytes} {b : UInt8} (h : b ∈ s) : b ∈ packetExpand s :=
  List.mem_flatMap.2 ⟨b, h, by simp⟩

/-- Dropping the zero bytes undoes the expansion of a text without NUL. -/
theorem filter_packetExpand {s : Bytes} (h : (0 : UInt8) ∉ s) :
    (packetExpand s).filter (· ≠ 0) = s := by
  induction s with
  | nil => rfl
  | cons b s ih =>
    have hb : b ≠ 0 := fun e => h (e ▸ List.mem_cons_self)
    rw [packetExpand_cons, List.filter_cons_of_neg (by simp),
      List.filter_cons_of_pos (by simpa using hb), ih fun hm => h (List.mem_cons_of_mem _ hm)]

theorem packetShrink_of_le {s : Bytes} {n : Nat} (h : (s.filter (· ≠ 0)).length ≤ n) :
    packetShrink s n = s.filter (· ≠ 0) := by
  rw [packetShrink, if_neg (Nat.not_lt.2 h)]

theorem byteAt_append_right (pre s : Bytes) (i : Nat) :
    byteAt (pre ++ s) (pre.length + i) = byteAt s i := by
  unfold byteAt
  rw [List.getD_eq_getElem?_getD, List.getD_eq_getElem?_getD,
    List.getElem?_append_right (Nat.le_add_right _ _), Nat.add_sub_cancel_left]

theorem charsAt_append (pre s t : Bytes) : charsAt (pre ++ (s ++ t)) pre.length s.length = s := by
  refine List.ext_getElem (by simp [charsAt]) fun i _ hi => ?_
  simp only [charsAt, List.getElem_map, List.getElem_range]
  rw [byteAt_append_right, byteAt_append t hi, byteAt, List.getD_eq_getElem?_getD,
    List.getElem?_eq_getElem hi, Option.getD_some]

/-- A text short enough for its length byte. -/
theorem ofNat_length_toNat {s : Bytes} (h : s.length < 256) :
    (UInt8.ofNat s.length).toNat = s.length := by
  rw [UInt8.toNat_ofNat']
  exact Nat.mod_eq_of_lt h

end MinecraftRelay
