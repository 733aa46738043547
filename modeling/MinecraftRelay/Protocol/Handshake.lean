/-
  File:      Protocol/Handshake.lean
  Subject:   `packet_read` and `packet_write` (protocol/handshake.c): the modern handshake and the
             login start behind it, decoded, and encoded again.

  `packet_read` answers the zeroed handshake on every failure: here `none`. `packet_write` answers
  the written size and 0 on every failure: here the written bytes, and `none`. The buffers that the
  C code terminates with a NUL are their bytes without it; `strlen` reads up to the first NUL.
  Allocation succeeds.

  * `packetReadPart1_some`, `packetRead_some` -- what an accepted packet looks like;
  * `packetRead_append` -- a longer buffer reads as its first packet.
-/
import MinecraftRelay.Library.Decimal
import MinecraftRelay.Protocol.Common

namespace MinecraftRelay

open Groups Framing

/-! ## 1. The decoded handshake -/

/-- `p_handshake`. `address_extra` holds the bytes from the first NUL or `?` on; `username` is
    `NULL` unless the handshake is followed by a login. -/
structure PHandshake where
  idPart1 : Varint
  idPart2 : Varint
  nextstate : Varint
  version : Varint
  address : Bytes
  addressExtra : Bytes
  username : Option Bytes
  signatureData : Bytes
  port : UInt16
  deriving DecidableEq, Repr

/-- `PROTOHANDSHAKE_ADDRESSMAXLEN`. -/
def addressMaxLen : Nat := 1024 * 3

/-- `PROTOHANDSHAKE_USERNAMEMAXLEN`. -/
def usernameMaxLen : Nat := 128

/-- `BUFSIZ`, the size of the two staging buffers of `packet_write`. -/
def bufsiz : Nat := 8192

/-- `?`, where a handshake address may carry extra data. -/
def questionMark : UInt8 := 0x3F

/-- The handshakes that are followed by a login frame. -/
def opensLogin (nextstate : Varint) : Prop :=
  nextstate = Intent.login.toByte.toUInt32 ∨ nextstate = Intent.transfer.toByte.toUInt32

instance (nextstate : Varint) : Decidable (opensLogin nextstate) :=
  inferInstanceAs (Decidable (_ ∨ _))

/-- Releases up to 1.20.1 and snapshots up to 1.20.1-rc1 mark their login data with a leading 1. -/
def marksLoginData (version : Varint) : Prop := version ≤ 763 ∨ version &&& 0xBFFFFFFF ≤ 0x8E

instance (version : Varint) : Decidable (marksLoginData version) :=
  inferInstanceAs (Decidable (_ ∨ _))

/-! ## 2. `packet_read` -/

/-- A varint, as the callers use `varint2int` that only test for NULL. -/
def readVarint (src : Bytes) : Option (Varint × Bytes) :=
  match varint2int src with
  | .complete v rest => some (v, rest)
  | _ => none

/-- Where the extra data of a wire address starts: its first NUL or `?`, whichever is first. -/
def addressExtraStart (address : Bytes) : Option Nat :=
  match address.idxOf? 0, address.idxOf? questionMark with
  | none, addressQuery => addressQuery
  | some addressExtra, some addressQuery =>
      if addressQuery < addressExtra then some addressQuery else some addressExtra
  | some addressExtra, none => some addressExtra

/-- The handshake frame: it covers its fields exactly. -/
def packetReadPart1 (frame : Bytes) : Option PHandshake := do
  let (idPart1, src) ← readVarint frame
  let (version, src) ← readVarint src
  let (addressLength, src) ← readVarint src
  if addressLength.toNat > addressMaxLen then none
  else if addressLength = 0 then none
  else if src.length < addressLength.toNat then none
  else
    let wireAddress := src.take addressLength.toNat
    let addressSize := (addressExtraStart wireAddress).getD wireAddress.length
    let src := src.drop addressLength.toNat
    if src.length < 2 then none
    else
      let (nextstate, rest) ← readVarint (src.drop 2)
      if rest ≠ [] then none
      else
        some {
          idPart1, version, nextstate
          idPart2 := 0
          address := wireAddress.take addressSize
          addressExtra := wireAddress.drop addressSize
          username := none
          signatureData := []
          port := uint16Read src 0 }

/-- The login frame. What follows the username, up to the declared end, is the signature data. -/
def packetReadPart2 (result : PHandshake) (src : Bytes) : Option PHandshake := do
  let (sizePart2, src) ← readVarint src
  if src.length < sizePart2.toNat then none
  else
    let (idPart2, src) ← readVarint (src.take sizePart2.toNat)
    let (usernameLength, src) ← readVarint src
    if usernameLength.toNat > usernameMaxLen then none
    else if src.length < usernameLength.toNat then none
    else
      let remainder := src.drop usernameLength.toNat
      some { result with
        idPart2
        username := some (src.take usernameLength.toNat)
        signatureData :=
          if remainder ≠ [] ∧ marksLoginData result.version ∧ byteAt remainder 0 = 1 then
            remainder.drop 1
          else remainder }

/-- `packet_read`. -/
def packetRead (src : Bytes) : Option PHandshake := do
  let (sizePart1, src) ← readVarint src
  if src.length < sizePart1.toNat then none
  else
    let result ← packetReadPart1 (src.take sizePart1.toNat)
    if opensLogin result.nextstate then packetReadPart2 result (src.drop sizePart1.toNat)
    else some result

/-! ## 3. `packet_write` -/

/-- `protocol_uint16_write`. -/
def uint16Write (value : UInt16) : Bytes :=
  [UInt8.ofNat (value.toNat / 256), UInt8.ofNat (value.toNat % 256)]

/-- The handshake frame `packet_write` stages. -/
def packetPart1 (src : PHandshake) : Bytes :=
  let address := cString src.address
  int2varint src.idPart1 ++ int2varint src.version ++
    int2varint (UInt32.ofNat (address.length + src.addressExtra.length)) ++
    address ++ src.addressExtra ++ uint16Write src.port ++ int2varint src.nextstate

/-- The login frame `packet_write` stages. -/
def packetPart2 (src : PHandshake) (username : Bytes) : Bytes :=
  int2varint src.idPart2 ++
    (if opensLogin src.nextstate then
      int2varint (UInt32.ofNat username.length) ++ username ++
        (if src.signatureData ≠ [] then
          (if marksLoginData src.version then int2varint 1 else []) ++ src.signatureData
        else [])
    else [])

/-- One length-prefixed frame. -/
def packetFrame (part : Bytes) : Bytes := int2varint (UInt32.ofNat part.length) ++ part

/-- What `packet_write` refuses about the address. -/
def addressRefused (src : PHandshake) : Prop :=
  (cString src.address).length > addressMaxLen ∨
    src.addressExtra.length > addressMaxLen - (cString src.address).length ∨
    (src.addressExtra ≠ [] ∧ byteAt src.addressExtra 0 ≠ 0 ∧
      byteAt src.addressExtra 0 ≠ questionMark)

instance (src : PHandshake) : Decidable (addressRefused src) :=
  inferInstanceAs (Decidable (_ ∨ _ ∨ (_ ≠ _ ∧ _ ≠ _ ∧ _ ≠ _)))

/-- The username `packet_write` works with; `none` when the login fields are refused. The 8 bytes
    are the reserve of the staging buffer. -/
def loginUsername (src : PHandshake) : Option Bytes :=
  if opensLogin src.nextstate then
    src.username.bind fun buffer =>
      let username := cString buffer
      if username.length > usernameMaxLen ∨
          src.signatureData.length > bufsiz - username.length - 8 then none
      else some username
  else some []

/-- `packet_write`. -/
def packetWrite (dstCapacity : Nat) (src : PHandshake) : Option Bytes :=
  if addressRefused src then none
  else
    (loginUsername src).bind fun username =>
      let part1 := packetPart1 src
      let part2 := packetPart2 src username
      if dstCapacity < varintSize (UInt32.ofNat part1.length) + part1.length +
          varintSize (UInt32.ofNat part2.length) + part2.length then none
      else some (packetFrame part1 ++ packetFrame part2)

/-! ## 4. Answers -/

/-- A text in a frame of packet id 0, when the sizes fit their varints and the destination. The
    SIZE_MAX tests of the source are behind the test against UINT32_MAX. -/
def textFrame (dstCapacity : Nat) (json : Bytes) : Option Bytes :=
  let frame := int2varint 0 ++ int2varint (UInt32.ofNat json.length) ++ json
  if dstCapacity = 0 ∨ json.length > 0xFFFFFFFF ∨
      1 + varintSize (UInt32.ofNat json.length) + json.length > 0xFFFFFFFF ∨
      dstCapacity < varintSize (UInt32.ofNat frame.length) + frame.length then none
  else some (int2varint (UInt32.ofNat frame.length) ++ frame)

/-- `make_kickreason`. -/
def makeKickreason (dstCapacity : Nat) (src : Bytes) : Option Bytes :=
  textFrame dstCapacity (ascii "\x7b\"extra\":[\x7b\"text\":\"" ++ cString src ++
    ascii "\"\x7d],\"text\":\"\"\x7d")

/-- `make_motd`; its one caller passes an icon. -/
def makeMotd (dstCapacity : Nat) (src : Bytes) (ver : Varint) (icon : Bytes) : Option Bytes :=
  textFrame dstCapacity (ascii "\x7b\"version\":\x7b\"name\":\"\",\"protocol\":" ++
    Decimal.write ver.toNat ++
    ascii "\x7d,\"players\":\x7b\"max\":0,\"online\":0,\"sample\":[]\x7d,\"description\":\x7b\"text\":\"" ++
    cString src ++ ascii "\"\x7d,\"favicon\":\"data:image/png;base64," ++ cString icon ++
    ascii "\"\x7d")

/-! ## 5. What the readers accept -/

theorem readVarint_eq_some {src rest : Bytes} {v : Varint} :
    readVarint src = some (v, rest) ↔ varint2int src = .complete v rest := by
  unfold readVarint
  split
  · rename_i v' rest' h
    rw [h]
    simp
  · rename_i h
    simp only [reduceCtorEq, false_iff]
    exact h v rest

/-- What an accepted handshake frame looks like. -/
theorem packetReadPart1_some {frame : Bytes} {h : PHandshake}
    (hr : packetReadPart1 frame = some h) :
    ∃ s1 s2 s3 addressLength,
      varint2int frame = .complete h.idPart1 s1 ∧
      varint2int s1 = .complete h.version s2 ∧
      varint2int s2 = .complete addressLength s3 ∧
      addressLength.toNat ≤ addressMaxLen ∧ addressLength ≠ 0 ∧
      addressLength.toNat ≤ s3.length ∧
      2 ≤ (s3.drop addressLength.toNat).length ∧
      varint2int ((s3.drop addressLength.toNat).drop 2) = .complete h.nextstate [] ∧
      h.idPart2 = 0 ∧ h.username = none ∧ h.signatureData = [] ∧
      h.port = uint16Read (s3.drop addressLength.toNat) 0 ∧
      (let wireAddress := s3.take addressLength.toNat
       let addressSize := (addressExtraStart wireAddress).getD wireAddress.length
       h.address = wireAddress.take addressSize ∧
         h.addressExtra = wireAddress.drop addressSize) := by
  simp only [packetReadPart1, Option.bind_eq_bind, Option.bind_eq_some_iff, Prod.exists] at hr
  obtain ⟨idPart1, s1, h1, version, s2, h2, addressLength, s3, h3, hr⟩ := hr
  rw [readVarint_eq_some] at h1 h2 h3
  split at hr
  · cases hr
  split at hr
  · cases hr
  split at hr
  · cases hr
  split at hr
  · cases hr
  rename_i hmax hzero hshort hport
  simp only [Option.bind_eq_some_iff, Prod.exists] at hr
  obtain ⟨nextstate, rest, h4, hr⟩ := hr
  rw [readVarint_eq_some] at h4
  split at hr
  · cases hr
  rename_i hrest
  simp only [ne_eq, not_not] at hrest
  subst hrest
  simp only [Option.some.injEq] at hr
  subst hr
  exact ⟨s1, s2, s3, addressLength, h1, h2, h3, by omega, hzero, by omega, by omega, h4,
    rfl, rfl, rfl, rfl, rfl, rfl⟩

section

variable {src cursor : Bytes} {size : Varint} (hv : varint2int src = .complete size cursor)
  (hlen : size.toNat ≤ cursor.length)

include hv hlen

theorem readVarint_append (t : Bytes) :
    readVarint src = some (size, cursor) ∧ readVarint (src ++ t) = some (size, cursor ++ t) ∧
      ¬ (cursor ++ t).length < size.toNat := by
  refine ⟨readVarint_eq_some.mpr hv, readVarint_eq_some.mpr (varint2int_append hv t), ?_⟩
  rw [List.length_append]
  omega

/-- The login frame is read from its own bytes. -/
theorem packetReadPart2_append (result : PHandshake) (t : Bytes) :
    packetReadPart2 result (src ++ t) = packetReadPart2 result src := by
  obtain ⟨h1, h2, hlen'⟩ := readVarint_append hv hlen t
  simp only [packetReadPart2, h1, h2, Option.bind_eq_bind, Option.bind_some, if_neg hlen',
    if_neg (by omega : ¬ cursor.length < size.toNat), List.take_append_of_le_length hlen]

/-- **A longer buffer reads as its first packet**, once every frame the reader enters is there. -/
theorem packetRead_append
    (hsecond : ∀ h, packetReadPart1 (cursor.take size.toNat) = some h → opensLogin h.nextstate →
      ∃ size2 cursor2, varint2int (cursor.drop size.toNat) = .complete size2 cursor2 ∧
        size2.toNat ≤ cursor2.length) (t : Bytes) :
    packetRead (src ++ t) = packetRead src := by
  obtain ⟨h1, h2, hlen'⟩ := readVarint_append hv hlen t
  simp only [packetRead, h1, h2, Option.bind_eq_bind, Option.bind_some, if_neg hlen',
    if_neg (by omega : ¬ cursor.length < size.toNat), List.take_append_of_le_length hlen,
    List.drop_append_of_le_length hlen]
  cases hp : packetReadPart1 (cursor.take size.toNat) with
  | none => rfl
  | some h =>
    simp only [Option.bind_some]
    split
    · rename_i hopen
      obtain ⟨size2, cursor2, hv2, hlen2⟩ := hsecond h hp hopen
      rw [packetReadPart2_append hv2 hlen2 h t]
    · rfl

end

/-- A second frame never touches what the first one decoded. -/
theorem packetReadPart2_first {result h : PHandshake} {src : Bytes}
    (hr : packetReadPart2 result src = some h) :
    h.idPart1 = result.idPart1 ∧ h.version = result.version ∧ h.nextstate = result.nextstate ∧
      h.addressExtra = result.addressExtra := by
  simp only [packetReadPart2, Option.bind_eq_bind, Option.bind_eq_some_iff, Prod.exists] at hr
  obtain ⟨size, s1, _, hr⟩ := hr
  split at hr
  · cases hr
  simp only [Option.bind_eq_some_iff, Prod.exists] at hr
  obtain ⟨idPart2, s2, _, usernameLength, s3, _, hr⟩ := hr
  split at hr
  · cases hr
  split at hr
  · cases hr
  simp only [Option.some.injEq] at hr
  subst hr
  exact ⟨rfl, rfl, rfl, rfl⟩

/-- The handshake frame behind every accepted packet. -/
theorem packetRead_some {src : Bytes} {h : PHandshake} (hr : packetRead src = some h) :
    ∃ size cursor h1, varint2int src = .complete size cursor ∧ size.toNat ≤ cursor.length ∧
      packetReadPart1 (cursor.take size.toNat) = some h1 ∧
      h.idPart1 = h1.idPart1 ∧ h.version = h1.version ∧ h.nextstate = h1.nextstate ∧
      (if opensLogin h1.nextstate then packetReadPart2 h1 (cursor.drop size.toNat) = some h
       else h = h1) := by
  simp only [packetRead, Option.bind_eq_bind, Option.bind_eq_some_iff, Prod.exists] at hr
  obtain ⟨size, cursor, hv, hr⟩ := hr
  rw [readVarint_eq_some] at hv
  split at hr
  · cases hr
  rename_i hlen
  simp only [Option.bind_eq_some_iff] at hr
  obtain ⟨h1, hp, hr⟩ := hr
  split at hr
  · rename_i hopen
    obtain ⟨e1, e2, e3, _⟩ := packetReadPart2_first hr
    exact ⟨size, cursor, h1, hv, by omega, hp, e1, e2, e3, by rw [if_pos hopen]; exact hr⟩
  · rename_i hopen
    simp only [Option.some.injEq] at hr
    subst hr
    exact ⟨size, cursor, h1, hv, by omega, hp, rfl, rfl, rfl, by rw [if_neg hopen]⟩

/-- A handshake that opens no login is its first frame. -/
theorem packetRead_closed {src : Bytes} {h : PHandshake} (hr : packetRead src = some h)
    (hclosed : ¬ opensLogin h.nextstate) :
    h.idPart2 = 0 ∧ h.username = none ∧ h.signatureData = [] := by
  obtain ⟨_, _, h1, _, _, hp, _, _, hnext, hsecond⟩ := packetRead_some hr
  rw [hnext] at hclosed
  rw [if_neg hclosed] at hsecond
  subst hsecond
  obtain ⟨_, _, _, _, _, _, _, _, _, _, _, _, hid, huser, hsignature, _⟩ := packetReadPart1_some hp
  exact ⟨hid, huser, hsignature⟩

end MinecraftRelay
