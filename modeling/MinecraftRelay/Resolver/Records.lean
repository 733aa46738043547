/-
  File:      Resolver/Records.lean
  Subject:   DNS NAMES AND RESULTS (resolver/util.c, the types of resolver/dns.h).

  A name buffer holds a C string, so a name is the list of its bytes before the NUL.  An array
  pointer of a result is NULL exactly when its count is zero, so an array is a list.  The
  address and the SRV result differ in their records only: both are a `DnsResult`.
-/
import MinecraftRelay.Basic

namespace MinecraftRelay

/-! ## 1. Names and sizes -/

/-- `NS_MAXDNAME`: the size of a name buffer, its NUL included. -/
def nsMaxdname : Nat := 1025

/-- `'.'`. -/
def dot : UInt8 := 46

/-- The lowering of one character, as every name loop of the resolver does it. -/
def asciiLower (character : UInt8) : UInt8 :=
  if 65 ≤ character ∧ character ≤ 90 then character - 65 + 97 else character

/-- `resolver_name_encloses`. -/
def nameEncloses (zone name : Bytes) : Bool :=
  if zone = [dot] then true
  else
    (decide (name.length = zone.length) && decide (name = zone)) ||
      (decide (name.length > zone.length) &&
        decide (name.getD (name.length - zone.length - 1) 0 = dot) &&
        decide (name.drop (name.length - zone.length) = zone))

/-- `resolver_name_normalize`: one trailing dot off, ASCII letters lowered. -/
def nameNormalize (buffer : Bytes) : Option Bytes :=
  let source := cString buffer
  if source.length = 0 ∨ source.length ≥ nsMaxdname then none
  else
    let terminalRootRemoved := decide (source.length > 1) && decide (source.getLast? = some dot)
    let kept := if terminalRootRemoved then source.dropLast else source
    if terminalRootRemoved && decide (kept.getLast? = some dot) then none
    else some (kept.map asciiLower)

/-- `resolver_size_add`. -/
def sizeAdd (target value : Nat) : Option Nat :=
  if target > sizeMax - value then none else some (target + value)

/-- `resolver_size_multiply`. -/
def sizeMultiply (left right : Nat) : Option Nat :=
  if left ≠ 0 ∧ right > sizeMax / left then none else some (left * right)

theorem sizeAdd_of_le {target value : Nat} (h : target + value ≤ sizeMax) :
    sizeAdd target value = some (target + value) := by
  unfold sizeAdd
  rw [if_neg (by omega)]

theorem sizeMultiply_of_le {left right : Nat} (h : left * right ≤ sizeMax) :
    sizeMultiply left right = some (left * right) := by
  unfold sizeMultiply
  rw [if_neg]
  intro hover
  have hpos : 0 < left := Nat.pos_of_ne_zero hover.1
  have hlt := (Nat.div_lt_iff_lt_mul hpos).1 hover.2
  rw [Nat.mul_comm] at hlt
  omega

/-! ## 2. Records and results -/

/-- The address families of a record. -/
inductive Family where
  | inet | inet6
deriving Repr, DecidableEq

/-- The bytes of an address of the family. -/
def Family.size : Family → Nat
  | .inet => 4
  | .inet6 => 16

/-- A `net_addr` with `err = NET_OK`: as many bytes as its family has. -/
structure NetAddr where
  family : Family
  data : Bytes
  data_length : data.length = family.size
deriving Repr, DecidableEq

/-- The query types the resolver serves. -/
inductive QueryType where
  | a | aaaa | srv
deriving Repr, DecidableEq

namespace QueryType

/-- `ns_t_a`, `ns_t_aaaa`, `ns_t_srv`. -/
def code : QueryType → Nat
  | .a => 1
  | .aaaa => 28
  | .srv => 33

/-- The family of the addresses asked for: `query_type == ns_t_a ? AF_INET : AF_INET6`. -/
def family : QueryType → Family
  | .a => .inet
  | .aaaa => .inet6
  | .srv => .inet6

/-- The query type of a `uint16_t`, where `..._query_type_valid` holds. -/
def ofCode : Nat → Option QueryType
  | 1 => some .a
  | 28 => some .aaaa
  | 33 => some .srv
  | _ => none

@[simp] theorem ofCode_code (q : QueryType) : ofCode q.code = some q := by
  cases q <;> rfl

theorem code_of_ofCode {n : Nat} {q : QueryType} (h : ofCode n = some q) : q.code = n := by
  unfold ofCode at h
  split at h <;> cases h <;> rfl

end QueryType

/-- `dns_address_lookup_status` and `dns_srv_lookup_status`, which list the same outcomes, and
    the `resolver_ipc_lookup_status` that the tables of ipc.c map them to one by one. -/
inductive LookupStatus where
  | ok | badArgument | limit | malformed | memory | nodata | notFound
  | permanentError | temporaryError | truncated
deriving Repr, DecidableEq

/-- `dns_address_record`. -/
structure AddressRecord where
  address : NetAddr
  effectiveTtl : UInt32
  recordTtl : UInt32
deriving Repr, DecidableEq

/-- `dns_srv_record`. -/
structure SrvRecord where
  priority : UInt16
  weight : UInt16
  port : UInt16
  target : Bytes
  recordTtl : UInt32
  effectiveTtl : UInt32
deriving Repr, DecidableEq

/-- `dns_cname_record`. -/
structure CnameRecord where
  owner : Bytes
  target : Bytes
  ttl : UInt32
deriving Repr, DecidableEq

/-- `dns_negative_record`. -/
structure NegativeRecord where
  effectiveTtl : UInt32 := 0
  minimum : UInt32 := 0
  owner : Bytes := []
  recordTtl : UInt32 := 0
  valid : Bool := false
deriving Repr, DecidableEq

/-- `dns_address_result` and `dns_srv_result`; the default value is the zeroed struct. -/
structure DnsResult (ρ : Type) where
  records : List ρ := []
  canonicalName : Bytes := []
  cnames : List CnameRecord := []
  negative : NegativeRecord := {}
  questionName : Bytes := []
  rcode : UInt8 := 0
deriving Repr, DecidableEq

abbrev AddressResult := DnsResult AddressRecord
abbrev SrvResult := DnsResult SrvRecord

/-- A result of either kind: the unions of the cache payload and of an assembled response. -/
inductive AnyResult where
  | address (result : AddressResult)
  | srv (result : SrvResult)
deriving Repr, DecidableEq

namespace AnyResult

def questionName : AnyResult → Bytes
  | .address r => r.questionName
  | .srv r => r.questionName

def rcode : AnyResult → UInt8
  | .address r => r.rcode
  | .srv r => r.rcode

end AnyResult

/-- The smaller of two TTLs, as every comparison of the resolver picks it. -/
def ttlMin (left right : UInt32) : UInt32 := if left < right then left else right

theorem ttlMin_toNat (left right : UInt32) :
    (ttlMin left right).toNat = min left.toNat right.toNat := by
  unfold ttlMin
  split
  · rename_i h
    rw [UInt32.lt_iff_toNat_lt] at h
    omega
  · rename_i h
    rw [UInt32.lt_iff_toNat_lt] at h
    omega

/-- `ns_r_noerror`, `ns_r_servfail` and `ns_r_nxdomain`. -/
def rcodeNoerror : UInt8 := 0
def rcodeServfail : UInt8 := 2
def rcodeNxdomain : UInt8 := 3

/-- `DNS_CNAME_DEPTH_LIMIT`. -/
def cnameDepthLimit : Nat := 16

/-- `DNS_ADDRESS_RECORD_LIMIT`. -/
def addressRecordLimit : Nat := 128

/-- `DNS_SRV_RECORD_LIMIT`. -/
def srvRecordLimit : Nat := 128

/-- `DNS_AUTHORITY_RECORD_LIMIT`. -/
def authorityRecordLimit : Nat := 128

/-! ## 3. What a normalized name is -/

/-- A name as `resolver_name_normalize` leaves it: not empty, without NUL, short enough for its
    buffer, without capital letters, and ending in a dot only if it is the root. -/
structure Normalized (name : Bytes) : Prop where
  ne_nil : name ≠ []
  no_nul : (0 : UInt8) ∉ name
  length_lt : name.length < nsMaxdname
  lower : name.map asciiLower = name
  no_terminal_dot : 1 < name.length → name.getLast? ≠ some dot

theorem asciiLower_asciiLower : ∀ c : UInt8, asciiLower (asciiLower c) = asciiLower c :=
  forall_byte (by decide +kernel)

theorem asciiLower_ne_zero : ∀ c : UInt8, c ≠ 0 → asciiLower c ≠ 0 :=
  forall_byte (by decide +kernel)

theorem asciiLower_eq_dot : ∀ c : UInt8, asciiLower c = dot → c = dot :=
  forall_byte (by decide +kernel)

theorem not_mem_map_asciiLower {name : Bytes} (h : (0 : UInt8) ∉ name) :
    (0 : UInt8) ∉ name.map asciiLower := by
  intro hm
  obtain ⟨c, hc, e⟩ := List.mem_map.1 hm
  exact asciiLower_ne_zero c (fun h0 => h (h0 ▸ hc)) e

theorem map_asciiLower_map_asciiLower (name : Bytes) :
    (name.map asciiLower).map asciiLower = name.map asciiLower := by
  rw [List.map_map]
  exact List.map_congr_left fun c _ => asciiLower_asciiLower c

theorem getLast?_map_asciiLower_eq_dot {name : Bytes}
    (h : (name.map asciiLower).getLast? = some dot) : name.getLast? = some dot := by
  rw [List.getLast?_map, Option.map_eq_some_iff] at h
  obtain ⟨c, hc, e⟩ := h
  rw [hc, asciiLower_eq_dot c e]

/-- `resolver_name_normalize` delivers normalized names. -/
theorem nameNormalize_normalized {buffer name : Bytes} (h : nameNormalize buffer = some name) :
    Normalized name := by
  unfold nameNormalize at h
  dsimp only at h
  have hnul := not_mem_cString buffer
  generalize cString buffer = source at h hnul
  split at h
  · cases h
  rename_i hlen
  have hlen : source.length ≠ 0 ∧ source.length < nsMaxdname := by omega
  by_cases hroot : source.length > 1 ∧ source.getLast? = some dot
  · simp only [hroot.1, hroot.2, decide_true, Bool.and_self, if_true, Bool.true_and,
      decide_eq_true_eq] at h
    split at h
    · cases h
    rename_i hkept
    cases h
    have hd : source.dropLast.length = source.length - 1 := List.length_dropLast
    refine ⟨?_, ?_, ?_, map_asciiLower_map_asciiLower _, ?_⟩
    · intro hnil
      have := congrArg List.length hnil
      rw [List.length_map, List.length_nil] at this
      omega
    · exact not_mem_map_asciiLower fun hm => hnul (List.dropLast_subset _ hm)
    · rw [List.length_map]
      omega
    · intro _ hlast
      exact hkept (getLast?_map_asciiLower_eq_dot hlast)
  · have hfalse : (decide (source.length > 1) && decide (source.getLast? = some dot)) = false := by
      rw [Bool.and_eq_false_iff, decide_eq_false_iff_not, decide_eq_false_iff_not]
      exact Classical.not_and_iff_not_or_not.1 hroot
    simp only [hfalse, Bool.false_and, Bool.false_eq_true, if_false] at h
    cases h
    refine ⟨?_, not_mem_map_asciiLower hnul, ?_, map_asciiLower_map_asciiLower _, ?_⟩
    · intro hnil
      have := congrArg List.length hnil
      rw [List.length_map, List.length_nil] at this
      omega
    · rw [List.length_map]
      omega
    · intro hl hlast
      rw [List.length_map] at hl
      exact hroot ⟨hl, getLast?_map_asciiLower_eq_dot hlast⟩

/-- Normalizing is idempotent: a normalized name is its own normal form. -/
theorem Normalized.nameNormalize_eq {name : Bytes} (h : Normalized name) :
    nameNormalize name = some name := by
  have hfalse : (decide (name.length > 1) && decide (name.getLast? = some dot)) = false := by
    rw [Bool.and_eq_false_iff, decide_eq_false_iff_not, decide_eq_false_iff_not]
    by_cases hl : name.length > 1
    · exact Or.inr (h.no_terminal_dot hl)
    · exact Or.inl hl
  have hlen : ¬ (name.length = 0 ∨ name.length ≥ nsMaxdname) := by
    have h1 := h.length_lt
    have h2 := List.length_pos_iff.2 h.ne_nil
    omega
  unfold nameNormalize
  simp only [cString_of_not_mem h.no_nul, hlen, if_false, hfalse, Bool.false_and,
    Bool.false_eq_true, h.lower]

end MinecraftRelay
