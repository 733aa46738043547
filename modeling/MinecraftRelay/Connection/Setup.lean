/-
  File:      Connection/Setup.lean
  Subject:   connection/setup.c and the snapshot a connection is set up from.

  The snapshot is a value that the listener fills and hands over; the setup code checks what it
  copies out of it, among others that a character array holds a NUL. Log file name and level are
  left out, but for the check of the name.
-/
import MinecraftRelay.Protocol.Common
import MinecraftRelay.Protocol.Proxy

namespace MinecraftRelay

/-- A `char` array of a fixed size. -/
structure CharArray (size : Nat) where
  bytes : Bytes
  bytes_length : bytes.length = size

namespace CharArray

variable {size : Nat} (a : CharArray size)

/-- The `memchr` test every user of such an array makes. -/
def Terminated : Prop := (0 : UInt8) ∈ a.bytes

instance : Decidable a.Terminated := inferInstanceAs (Decidable (_ ∈ _))

/-- The string in the array. -/
def text : Bytes := cString a.bytes

theorem text_length_lt (h : a.Terminated) : a.text.length < size := by
  have hprefix : a.text <+: a.bytes := List.takeWhile_prefix _
  rcases Nat.lt_or_eq_of_le hprefix.length_le with hlt | heq
  · rw [a.bytes_length] at hlt
    exact hlt
  · -- a string as long as its array has no NUL behind it
    have : a.text = a.bytes := hprefix.eq_of_length heq
    exact absurd (this ▸ h : (0 : UInt8) ∈ a.text) (not_mem_cString a.bytes)

theorem not_mem_text : (0 : UInt8) ∉ a.text := not_mem_cString a.bytes

/-- An array that holds a text and is zero behind it. -/
def ofText (size : Nat) (text : Bytes) (h : text.length ≤ size) : CharArray size where
  bytes := text ++ List.replicate (size - text.length) 0
  bytes_length := by
    rw [List.length_append, List.length_replicate]
    omega

end CharArray

/-- `ADDRESS_MAXLEN`. -/
def addressMaxlen : Nat := 1024

/-- `ROUTE_ENDPOINT_TEXT_SIZE`. -/
def routeEndpointTextSize : Nat := addressMaxlen + 1

/-- `route_endpoint_snapshot`, without the destination index. -/
structure RouteEndpointSnapshot where
  address : NetAddrSlot
  configuredAddress : CharArray routeEndpointTextSize
  generationIdentity : UInt64
  inboundProxy : PProxy
  port : UInt16
  pheader : Bool
  rewrite : Bool
  targetName : CharArray routeEndpointTextSize
  vhost : CharArray routeEndpointTextSize

/-- `connection_setup_route_status`. -/
inductive RouteStatus where
  | bypass
  | ready
  | noRoute
  | unavailable
  deriving DecidableEq, Repr

/-- `connection_setup_snapshot`. -/
structure SetupSnapshot where
  endpoint : RouteEndpointSnapshot
  iconB64 : CharArray (confIconB64max + 1)
  logFilename : CharArray pathMax
  routeStatus : RouteStatus

/-- `net_addrbundle`. -/
structure NetAddrBundle where
  family : Option Family
  address : CharArray 48
  addressClean : CharArray 48
  port : UInt16

/-- `connection_setup_status`. -/
inductive SetupStatus where
  | ok
  | eabort
  | eunident
  | enovhost
  | enorecord
  | enoconnect
  | eoldclient
  deriving DecidableEq, Repr

/-- `connection_setup_address_valid`. -/
def setupAddressValid (address : NetAddrSlot) : Prop := address.err = false ∧ address.family.isSome

instance (address : NetAddrSlot) : Decidable (setupAddressValid address) :=
  inferInstanceAs (Decidable (_ ∧ _))

/-- `connection_setup_bundle_valid`. -/
def setupBundleValid (address : NetAddrBundle) : Prop :=
  address.family.isSome ∧ address.port ≠ 0 ∧ address.address.Terminated ∧
    address.addressClean.Terminated

instance (address : NetAddrBundle) : Decidable (setupBundleValid address) :=
  inferInstanceAs (Decidable (_ ∧ _ ∧ _ ∧ _))

/-- `connection_setup_destination`: the name the SRV lookup found, else the configured one. -/
def setupDestination (endpoint : RouteEndpointSnapshot) : Bytes :=
  if endpoint.targetName.text = [] then endpoint.configuredAddress.text
  else endpoint.targetName.text

/-- `connection_setup_snapshot_valid`. -/
def setupSnapshotValid (snapshot : SetupSnapshot) : Prop :=
  snapshot.iconB64.Terminated ∧ snapshot.logFilename.Terminated

instance (snapshot : SetupSnapshot) : Decidable (setupSnapshotValid snapshot) :=
  inferInstanceAs (Decidable (_ ∧ _))

/-- The PROXY header, there exactly when it is asked for. -/
def HeaderWritten (ntop : InetNtop) (endpoint : RouteEndpointSnapshot) (header : Bytes) : Prop :=
  (endpoint.pheader = false → header = []) ∧
    (endpoint.pheader = true → protocolProxyWrite ntop endpoint.inboundProxy = some header)

theorem not_mem_setupDestination (endpoint : RouteEndpointSnapshot) :
    (0 : UInt8) ∉ setupDestination endpoint := by
  unfold setupDestination
  split
  · exact endpoint.configuredAddress.not_mem_text
  · exact endpoint.targetName.not_mem_text

theorem setupDestination_length_le {endpoint : RouteEndpointSnapshot}
    (hc : endpoint.configuredAddress.Terminated) (ht : endpoint.targetName.Terminated) :
    (setupDestination endpoint).length ≤ addressMaxlen := by
  unfold setupDestination
  split
  · exact Nat.le_of_lt_succ (endpoint.configuredAddress.text_length_lt hc)
  · exact Nat.le_of_lt_succ (endpoint.targetName.text_length_lt ht)

/-- A route to `b`, port 25566, with header and rewriting. -/
def sampleSnapshot : SetupSnapshot where
  endpoint := {
    address := ⟨some .inet, false, [192, 0, 2, 2]⟩
    configuredAddress := CharArray.ofText _ [0x62] (by decide)
    generationIdentity := 1
    inboundProxy := ⟨some .inet, ⟨some .inet, false, [192, 0, 2, 1]⟩,
      ⟨some .inet, false, [192, 0, 2, 3]⟩, 40000, 25565⟩
    port := 25566
    pheader := true
    rewrite := true
    targetName := CharArray.ofText _ [] (by decide)
    vhost := CharArray.ofText _ [0x61] (by decide) }
  iconB64 := CharArray.ofText _ [] (by decide)
  logFilename := CharArray.ofText _ [] (by decide)
  routeStatus := .ready

/-- `inet_ntop` of the sample's addresses, which are those of `AF_INET`. -/
def sampleNtop : InetNtop where
  text _ data := ((ascii ".").intercalate (data.map fun b => Decimal.write b.toNat)).take 47
  fits _ _ := Nat.lt_succ_of_le (List.length_take_le _ _)

end MinecraftRelay
