/-
  File:      Protocol/Proxy.lean
  Subject:   `protocol_proxy_write` (protocol/proxy.c): the PROXY v1 header in front of a relayed
             request.

  `inet_ntop` writes into a `net_addrp` of 48 bytes, its NUL included: what it writes is a
  parameter, that it fits is part of it. `snprintf` answers the length of the text before it cut it;
  here the answer is that text, and both callers refuse one that was cut.
-/
import MinecraftRelay.Library.Decimal
import MinecraftRelay.Resolver.Records

namespace MinecraftRelay

/-- A `net_addr` as it is stored: it may carry an error, or another family. -/
structure NetAddrSlot where
  family : Option Family
  err : Bool
  data : Bytes
  deriving DecidableEq, Repr

/-- `p_proxy`; `none` stands for every family but the two. -/
structure PProxy where
  family : Option Family
  srcaddr : NetAddrSlot
  dstaddr : NetAddrSlot
  srcport : UInt16
  dstport : UInt16
  deriving DecidableEq, Repr

/-- What `inet_ntop` leaves in the buffer of a `net_addrp`; empty when it fails. -/
structure InetNtop where
  text : Family → Bytes → Bytes
  fits : ∀ family data, (text family data).length < 48

/-- `PROTOPROXY_PACKETMAXLEN`. -/
def protoproxyPacketMaxLen : Nat := 128

/-- `protocol_proxy_write`. -/
def protocolProxyWrite (ntop : InetNtop) (src : PProxy) : Option Bytes :=
  src.family.map fun family =>
    (match family with
      | .inet => ascii "PROXY TCP4 "
      | .inet6 => ascii "PROXY TCP6 ") ++
    ntop.text family src.srcaddr.data ++ ascii " " ++ ntop.text family src.dstaddr.data ++
    ascii " " ++ Decimal.write src.srcport.toNat ++ ascii " " ++ Decimal.write src.dstport.toNat ++
    ascii "\r\n"

/-- **The header is never cut**: two addresses and two ports fit. -/
theorem protocolProxyWrite_length_le {ntop : InetNtop} {src : PProxy} {header : Bytes}
    (h : protocolProxyWrite ntop src = some header) :
    0 < header.length ∧ header.length ≤ protoproxyPacketMaxLen := by
  obtain ⟨family, _, rfl⟩ := Option.map_eq_some_iff.1 h
  have hsrc := ntop.fits family src.srcaddr.data
  have hdst := ntop.fits family src.dstaddr.data
  have hport : ∀ port : UInt16, (Decimal.write port.toNat).length ≤ 5 := fun port =>
    Decimal.write_length_le (by omega) (Nat.lt_trans port.toNat_lt (by decide))
  have h1 := hport src.srcport
  have h2 := hport src.dstport
  have hlead : (match family with
      | .inet => ascii "PROXY TCP4 "
      | .inet6 => ascii "PROXY TCP6 ").length = 11 := by cases family <;> decide
  have hblank : (ascii " ").length = 1 := by decide
  have hend : (ascii "\r\n").length = 2 := by decide
  simp only [List.length_append, hlead, hblank, hend]
  unfold protoproxyPacketMaxLen
  omega

end MinecraftRelay
