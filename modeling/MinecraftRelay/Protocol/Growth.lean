/-
  File:      Protocol/Growth.lean
  Subject:   How much longer a rewritten login can get than the login of the client.

  Rewriting puts in another address and shortest varints. It grows by the address, by one byte where
  the new address length or a new frame length takes one more, and by the marker in front of old
  login data; everything else is as long as it was or shorter.

  * `packetReadPart1_sizes`, `packetReadPart2_sizes` -- the bytes behind a decoded login;
  * `packetWrite_readdressed_iff` -- the writer refuses a new address only for its length;
  * `packetWrite_readdressed_length` -- the growth.
-/
import MinecraftRelay.Protocol.Roundtrip

namespace MinecraftRelay

open Groups Framing

/-! ## 1. The bytes behind a decoded login -/

/-- A handshake frame has room for its fields with shortest varints. -/
theorem packetReadPart1_sizes {frame : Bytes} {h : PHandshake}
    (hr : packetReadPart1 frame = some h) :
    (int2varint h.idPart1).length + (int2varint h.version).length + 1 +
        (h.address.length + h.addressExtra.length) + 2 + (int2varint h.nextstate).length ≤
      frame.length ∧
    h.address.length + h.addressExtra.length ≠ 0 ∧
    (h.addressExtra ≠ [] → byteAt h.addressExtra 0 = 0 ∨
      byteAt h.addressExtra 0 = questionMark) := by
  obtain ⟨s1, s2, s3, addressLength, h1, h2, h3, _, hzero, hle, hport, h4, _, _, _, _, haddress,
    hextra⟩ := packetReadPart1_some hr
  have l1 := int2varint_length_le_read h1 (UInt32.le_refl _)
  have l2 := int2varint_length_le_read h2 (UInt32.le_refl _)
  have l3 := int2varint_length_le_read h3 (UInt32.le_refl _)
  have l4 := int2varint_length_le_read h4 (UInt32.le_refl _)
  have hpos := int2varint_length_pos addressLength
  have hsum : h.address.length + h.addressExtra.length = addressLength.toNat := by
    rw [haddress, hextra, ← List.length_append, List.take_append_drop, List.length_take]
    omega
  have hne : addressLength.toNat ≠ 0 := fun e => hzero (UInt32.toNat_inj.1 e)
  rw [List.length_drop, List.length_drop, List.length_nil] at l4
  rw [List.length_drop] at hport
  refine ⟨by omega, by omega, ?_⟩
  rw [hextra]
  exact (addressExtraStart_spec _).2

/-- A login frame has room for its fields, but for the marker of old login data. -/
theorem packetReadPart2_sizes {result h : PHandshake} {src : Bytes}
    (hr : packetReadPart2 result src = some h) :
    ∃ size cursor username, varint2int src = .complete size cursor ∧
      size.toNat ≤ cursor.length ∧ h.username = some username ∧
      username.length ≤ usernameMaxLen ∧
      2 + username.length + h.signatureData.length ≤ size.toNat ∧
      (int2varint h.idPart2).length +
          (int2varint (UInt32.ofNat (cString username).length)).length + username.length +
          (stagedData h).length ≤ size.toNat + 1 := by
  simp only [packetReadPart2, Option.bind_eq_bind, Option.bind_eq_some_iff, Prod.exists] at hr
  obtain ⟨size, cursor, hv, hr⟩ := hr
  rw [readVarint_eq_some] at hv
  split at hr
  · cases hr
  rename_i hlen
  simp only [Option.bind_eq_some_iff, Prod.exists] at hr
  obtain ⟨idPart2, s1, h1, usernameLength, s2, h2, hr⟩ := hr
  rw [readVarint_eq_some] at h1 h2
  split at hr
  · cases hr
  rename_i hmax
  split at hr
  · cases hr
  rename_i hshort
  simp only [Option.some.injEq] at hr
  subst hr
  generalize hu : s2.take usernameLength.toNat = username
  generalize hrem : s2.drop usernameLength.toNat = remainder
  have hulen : username.length = usernameLength.toNat := by
    rw [← hu, List.length_take]
    omega
  have hs2 : s2.length = username.length + remainder.length := by
    rw [← hu, ← hrem, ← List.length_append, List.take_append_drop]
  have l1 := int2varint_length_le_read h1 (UInt32.le_refl _)
  rw [List.length_take, Nat.min_eq_left (by omega)] at l1
  have hcut : (cString username).length ≤ username.length := (List.takeWhile_prefix _).length_le
  have hcutLe : UInt32.ofNat (cString username).length ≤ usernameLength := by
    have hlt := usernameLength.toNat_lt
    rw [UInt32.le_iff_toNat_le, ofNat_toNat_of_lt (by omega)]
    omega
  have l2 := int2varint_length_le_read h2 hcutLe
  have hpos1 := int2varint_length_pos idPart2
  have hpos2 := int2varint_length_pos (UInt32.ofNat (cString username).length)
  have hkept : ∀ sig : Bytes, sig = (if remainder ≠ [] ∧ marksLoginData result.version ∧
      byteAt remainder 0 = 1 then remainder.drop 1 else remainder) →
      sig.length ≤ remainder.length := by
    rintro sig rfl
    split
    · rw [List.length_drop]
      omega
    · exact Nat.le_refl _
  refine ⟨size, cursor, username, hv, by omega, rfl, by omega, ?_, ?_⟩
  · have := hkept _ rfl
    dsimp only
    omega
  · have hstaged := stagedData_length_le { result with
      idPart2
      username := some username
      signatureData :=
        if remainder ≠ [] ∧ marksLoginData result.version ∧ byteAt remainder 0 = 1 then
          remainder.drop 1
        else remainder }
    have := hkept _ rfl
    dsimp only at hstaged ⊢
    omega

/-! ## 2. The writer on a new address -/

/-- A decoded handshake sent on to another address. -/
def readdressed (h : PHandshake) (destination : Bytes) (port : UInt16) : PHandshake :=
  { h with address := destination, port }

section Readdressed

variable {s destination : Bytes} {h : PHandshake} {port : UInt16}

/-- The bytes of a login of the client: `name` is its username, `end2` where its second frame
    ends. -/
structure LoginSizes (s : Bytes) (h : PHandshake) (name : Bytes) (end2 : Nat) : Prop where
  username : h.username = some name
  name_le : name.length ≤ usernameMaxLen
  extra : h.addressExtra ≠ [] → byteAt h.addressExtra 0 = 0 ∨ byteAt h.addressExtra 0 = questionMark
  inside : end2 ≤ s.length
  signature : 11 + name.length + h.signatureData.length ≤ end2
  /-- What both frames take with shortest varints, without the address. -/
  fields : (int2varint h.idPart1).length + (int2varint h.version).length + h.addressExtra.length +
    (int2varint h.nextstate).length + (int2varint h.idPart2).length +
    (int2varint (UInt32.ofNat (cString name).length)).length + name.length +
    (stagedData h).length + 4 ≤ end2

theorem packetRead_sizes (hr : packetRead s = some h) (hopen : opensLogin h.nextstate) :
    ∃ name end2, LoginSizes s h name end2 ∧
      ∀ n intent, packetLength s = (.complete, n) → protocolIdentify s = (.modern2, intent) →
        n = end2 := by
  obtain ⟨size, cursor, h1, hv, hlen, hp, hid, hversion, hnext, hsecond⟩ := packetRead_some hr
  rw [if_pos (by rw [← hnext]; exact hopen)] at hsecond
  obtain ⟨l1, hne, hextra⟩ := packetReadPart1_sizes hp
  obtain ⟨size2, cursor2, username, hv2, hlen2, huser, hmax, hsig, l2⟩ :=
    packetReadPart2_sizes hsecond
  obtain ⟨_, _, _, hsame⟩ := packetReadPart2_first hsecond
  obtain ⟨pre, hs, hpos, _⟩ := varint2int_rest hv
  obtain ⟨pre2, hs2, hpos2, _⟩ := varint2int_rest hv2
  have hslen : s.length = pre.length + cursor.length := by rw [hs, List.length_append]
  have hclen := congrArg List.length hs2
  rw [List.length_drop, List.length_append] at hclen
  have hp1 := int2varint_length_pos h1.idPart1
  have hp2 := int2varint_length_pos h1.version
  have hp3 := int2varint_length_pos h1.nextstate
  have htake : (cursor.take size.toNat).length = size.toNat := by
    rw [List.length_take]
    omega
  rw [htake] at l1
  refine ⟨username, pre.length + size.toNat + pre2.length + size2.toNat,
    ⟨huser, hmax, by rw [hsame]; exact hextra, by omega, by omega, ?_⟩, ?_⟩
  · rw [hid, hversion, hnext, hsame]
    omega
  · intro n intent hn hident
    obtain ⟨_, _, _, _, version, _, hframe⟩ := protocolIdentify_modern2 hident
    obtain ⟨frameSize, cursor', _, _, hv', hne', hlen', _, _, _, hi⟩ := modernFrame_some hframe
    rw [hv, Read.complete.injEq] at hv'
    obtain ⟨rfl, rfl⟩ := hv'
    rcases packetLength_modern2 hn hident hv hne' hlen' with ⟨_, rfl⟩ | ⟨size3, cursor3, hv3, _, e⟩
    · -- a login is no status request
      have hsmall : h1.nextstate.toNat < 128 := by
        rw [← hnext]
        rcases hopen with e | e <;> rw [e] <;> decide
      have := packetReadPart1_intent hp hi hsmall
      rw [← hnext] at this
      rw [this] at hopen
      exact absurd hopen (by decide)
    · rw [hv2, Read.complete.injEq] at hv3
      obtain ⟨rfl, rfl⟩ := hv3
      omega

variable {name : Bytes} {end2 dstCapacity : Nat} (hsizes : LoginSizes s h name end2)
  (h0 : (0 : UInt8) ∉ destination) (hd : destination.length ≤ 1024) (hs : s.length ≤ bufsiz)

include hsizes h0 hd hs

/-- The frames of a readdressed login, and how long they are. -/
theorem readdressed_length (hw : Writable (readdressed h destination port) (cString name)) :
    (wireOf (readdressed h destination port) (cString name) hw).bytes.length ≤ end2 + 1028 := by
  have hfields := hsizes.fields
  have hinside := hsizes.inside
  have hname : (cString name).length ≤ name.length := (List.takeWhile_prefix _).length_le
  have haddress := hw.address
  rw [show (readdressed h destination port).address = destination from rfl,
    cString_of_not_mem h0] at haddress
  rw [show (readdressed h destination port).addressExtra = h.addressExtra from rfl] at haddress
  have hbuf : bufsiz = 8192 := rfl
  have hmax : addressMaxLen = 3072 := rfl
  have halen :
      (int2varint (UInt32.ofNat (destination.length + h.addressExtra.length))).length ≤ 2 :=
    int2varint_length_le_two (by
      rw [ofNat_toNat_of_lt (by omega)]
      omega)
  have hpart1 : (wireOf (readdressed h destination port) (cString name) hw).part1.length =
      (int2varint h.idPart1).length + (int2varint h.version).length +
        (int2varint (UInt32.ofNat (destination.length + h.addressExtra.length))).length +
        (destination.length + h.addressExtra.length) + 2 + (int2varint h.nextstate).length := by
    simp only [LoginWire.part1, wireOf, readdressed, cString_of_not_mem h0, List.length_append]
    rfl
  have hpart2 : (wireOf (readdressed h destination port) (cString name) hw).part2.length =
      (int2varint h.idPart2).length +
        (int2varint (UInt32.ofNat (cString name).length)).length + (cString name).length +
        (stagedData h).length := by
    simp only [LoginWire.part2, wireOf, List.length_append]
    rfl
  have hlead1 : (int2varint (UInt32.ofNat
      (wireOf (readdressed h destination port) (cString name) hw).part1.length)).length ≤ 2 :=
    int2varint_length_le_two (by
      rw [ofNat_toNat_of_lt (LoginWire.part1_lt _)]
      omega)
  have hlead2 : (int2varint (UInt32.ofNat
      (wireOf (readdressed h destination port) (cString name) hw).part2.length)).length ≤ 2 :=
    int2varint_length_le_two (by
      rw [ofNat_toNat_of_lt (LoginWire.part2_lt _)]
      omega)
  rw [LoginWire.bytes, List.length_append, packetFrame, packetFrame, List.length_append,
    List.length_append]
  omega

/-- **The writer refuses a new address only for its length.** -/
theorem packetWrite_readdressed_iff (hopen : opensLogin h.nextstate)
    (hcapacity : bufsiz + 1028 ≤ dstCapacity) (port : UInt16) :
    packetWrite dstCapacity (readdressed h destination port) = none ↔
      addressMaxLen < destination.length + h.addressExtra.length := by
  have hmax : addressMaxLen = 3072 := rfl
  have hbuf : bufsiz = 8192 := rfl
  have hsignature := hsizes.signature
  have hinside := hsizes.inside
  have hname : (cString name).length ≤ name.length := (List.takeWhile_prefix _).length_le
  have hnameLe := hsizes.name_le
  have hrefused : addressRefused (readdressed h destination port) ↔
      addressMaxLen < destination.length + h.addressExtra.length := by
    unfold addressRefused
    rw [show (readdressed h destination port).address = destination from rfl,
      show (readdressed h destination port).addressExtra = h.addressExtra from rfl,
      cString_of_not_mem h0]
    constructor
    · rintro (e | e | ⟨hne, e1, e2⟩)
      · omega
      · omega
      · rcases hsizes.extra hne with e | e
        · exact absurd e e1
        · exact absurd e e2
    · intro hlt
      exact Or.inr (Or.inl (by omega))
  have hlogin : loginUsername (readdressed h destination port) = some (cString name) := by
    unfold loginUsername
    rw [if_pos (show opensLogin (readdressed h destination port).nextstate from hopen),
      show (readdressed h destination port).username = some name from hsizes.username,
      Option.bind_some]
    dsimp only
    rw [if_neg]
    rintro (e | e)
    · omega
    · rw [show (readdressed h destination port).signatureData = h.signatureData from rfl] at e
      omega
  rw [← hrefused]
  constructor
  · intro hnone
    by_contra haccepted
    have hw : Writable (readdressed h destination port) (cString name) := by
      refine ⟨?_, by omega, ?_⟩
      · unfold addressRefused at haccepted
        omega
      · rw [show (readdressed h destination port).signatureData = h.signatureData from rfl]
        omega
    have hlength := readdressed_length hsizes h0 hd hs hw
    unfold packetWrite at hnone
    rw [if_neg haccepted, hlogin, Option.bind_some] at hnone
    dsimp only at hnone
    rw [packetPart1_wireOf hw, packetPart2_wireOf hw hopen, varintSize_eq, varintSize_eq] at hnone
    rw [LoginWire.bytes, List.length_append, packetFrame, packetFrame, List.length_append,
      List.length_append] at hlength
    rw [if_neg (by omega)] at hnone
    cases hnone
  · intro hyes
    rw [packetWrite, if_pos hyes]

/-- **The growth**: the address and four bytes. -/
theorem packetWrite_readdressed_length {b : Bytes} (hopen : opensLogin h.nextstate)
    (hwrite : packetWrite dstCapacity (readdressed h destination port) = some b) :
    b.length ≤ end2 + 1028 := by
  obtain ⟨buffer, hbuffer, _, hw, rfl⟩ := packetWrite_wire
    (show opensLogin (readdressed h destination port).nextstate from hopen) hwrite
  have hsame : buffer = name := by
    have := hsizes.username
    rw [show (readdressed h destination port).username = h.username from rfl, this,
      Option.some.injEq] at hbuffer
    exact hbuffer.symm
  subst hsame
  exact readdressed_length hsizes h0 hd hs hw

end Readdressed

end MinecraftRelay
