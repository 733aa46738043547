/-
  File:      Protocol/LegacyRewrite.lean
  Subject:   Rewriting a legacy login: when the packet `packet_write_legacy_login` writes, with a
             new address and port, is one login of the same protocol that reads back.

  The reader drops every zero byte of the packet first. That drops the upper halves of the
  characters, which are meant, and also the high byte of an L4 port below 256, which is not. The
  single field of an L2 login is cut at 127 characters, the size of a username, although it holds
  username, address and port.

  * `readLoginL2_field`, `readLoginFields_wire` -- the readers on a written login;
  * `packetReadLegacyLogin_spec` -- what any decoded login satisfies;
  * `loginRewrite_iff` -- exactly when the rewritten login is kept.
-/
import MinecraftRelay.Protocol.HandshakeLegacy

namespace MinecraftRelay

/-! ## 1. The reader of lengths and texts -/

theorem length_append_lengthPrefixed (pre f : Bytes) :
    (pre ++ lengthPrefixed f).length = pre.length + 1 + f.length := by
  simp only [lengthPrefixed, List.length_append, List.length_cons]
  omega

theorem byteAt_lengthPrefixed (pre f tail : Bytes) :
    byteAt (pre ++ (lengthPrefixed f ++ tail)) pre.length = UInt8.ofNat f.length :=
  byteAt_append_right _ _ 0

theorem charsAt_lengthPrefixed (pre f tail : Bytes) :
    charsAt (pre ++ (lengthPrefixed f ++ tail)) (pre.length + 1) f.length = f := by
  have hchars := charsAt_append (pre ++ [UInt8.ofNat f.length]) f tail
  rw [List.length_append, List.length_singleton, List.append_assoc] at hchars
  exact hchars

/-- **The L4 reader on two length-prefixed texts and what follows them.** -/
theorem readLoginFields_wire (pre : Bytes) {u a tail : Bytes} {version : UInt8}
    (hu : u.length < loginFieldSize) (ha : a.length < loginFieldSize) (hu0 : (0 : UInt8) ∉ u)
    (ha0 : (0 : UInt8) ∉ a) :
    readLoginFields (pre ++ (lengthPrefixed u ++ (lengthPrefixed a ++ tail))) .legacyL4 version
        pre.length =
      { protoVer := .legacyL4
        username := u
        address := a
        port := UInt16.ofNat ((byteAt tail 0).toNat * 256 + (byteAt tail 1).toNat)
        version } := by
  have hsize : loginFieldSize = 128 := rfl
  have hulen := ofNat_length_toNat (s := u) (by omega)
  have halen := ofNat_length_toNat (s := a) (by omega)
  -- the list seen from each of the positions the reader stops at
  have hfirst := byteAt_lengthPrefixed pre u (lengthPrefixed a ++ tail)
  have hname := charsAt_lengthPrefixed pre u (lengthPrefixed a ++ tail)
  have hsecond := byteAt_lengthPrefixed (pre ++ lengthPrefixed u) a tail
  have haddress := charsAt_lengthPrefixed (pre ++ lengthPrefixed u) a tail
  have hport := byteAt_append_right (pre ++ lengthPrefixed u ++ lengthPrefixed a) tail
  rw [length_append_lengthPrefixed, List.append_assoc] at hsecond haddress
  rw [length_append_lengthPrefixed, length_append_lengthPrefixed, List.append_assoc,
    List.append_assoc] at hport
  unfold readLoginFields
  simp only [hfirst, hulen, if_neg (Nat.not_le.2 hu), if_true, hsecond, halen,
    if_neg (Nat.not_le.2 ha), hname, haddress, cString_of_not_mem hu0, cString_of_not_mem ha0]
  rw [hport 1, show pre.length + 1 + u.length + 1 + a.length =
    pre.length + 1 + u.length + 1 + a.length + 0 from rfl, hport 0]

/-! ## 2. The reader of one field -/

/-- The login field of a text: its first 127 characters and a NUL. -/
theorem loginField_eq {f : Bytes} (hf : f.length < 256) (x : UInt8) :
    ∃ junk, loginField (x :: lengthPrefixed f) = f.take 127 ++ 0 :: junk := by
  have hlen : (byteAt (x :: lengthPrefixed f) 1).toNat = f.length := ofNat_length_toNat hf
  have hchars : charsAt (x :: lengthPrefixed f) 2 f.length = f := by
    have := charsAt_append [x, UInt8.ofNat f.length] f []
    rw [List.append_nil] at this
    exact this
  unfold loginField
  rw [hlen, hchars]
  generalize hbuffer : f ++ List.replicate (512 - f.length) 0 = buffer
  have hlong : 127 < buffer.length := by
    rw [← hbuffer, List.length_append, List.length_replicate]
    omega
  have hset : buffer.set (loginFieldSize - 1) 0 = buffer.take 127 ++ 0 :: buffer.drop 128 := by
    show buffer.set 127 0 = _
    rw [List.set_eq_take_append_cons_drop, if_pos hlong]
  rw [hset, ← hbuffer, List.take_append]
  -- a short text is followed by more zero bytes before the one that is set
  rcases Nat.lt_or_ge f.length 127 with h | h
  · refine ⟨List.replicate (127 - f.length) 0 ++
      (f ++ List.replicate (512 - f.length) 0).drop 128, ?_⟩
    rw [List.take_replicate, Nat.min_eq_left (by omega), List.append_assoc,
      ← List.singleton_append, ← List.append_assoc (List.replicate _ _), ← List.replicate_succ',
      List.replicate_succ, List.cons_append]
  · exact ⟨_, by rw [Nat.sub_eq_zero_of_le h, List.take_zero, List.append_nil]⟩

/-- The first delimiter ends the head. -/
theorem strtokHead_append {dstSize : Nat} {u h junk : Bytes} {delim : UInt8} (hd : delim ≠ 0)
    (hu0 : (0 : UInt8) ∉ u) (hu : delim ∉ u) (hh : (0 : UInt8) ∉ h) (hsize : u.length < dstSize) :
    strtokHead dstSize (u ++ delim :: h ++ 0 :: junk) delim = (u, some (h ++ 0 :: junk)) := by
  have hc : cString (u ++ delim :: h ++ 0 :: junk) = u ++ delim :: h := by
    refine cString_append_zero ?_ junk
    rw [List.mem_append, List.mem_cons]
    rintro (e | e | e)
    · exact hu0 e
    · exact hd e.symm
    · exact hh e
  have hfirst : byteAt (u ++ delim :: h ++ 0 :: junk) 0 ≠ 0 := by
    cases u with
    | nil => exact hd
    | cons b u => exact fun e => hu0 (e ▸ List.mem_cons_self)
  have hindex : (u ++ delim :: h).idxOf? delim = some u.length := by
    rw [List.idxOf?_eq_some_iff]
    refine ⟨by simp, by simp, fun j hj => ?_⟩
    rw [List.getElem_append_left hj]
    exact fun e => hu (e ▸ List.getElem_mem hj)
  unfold strtokHead
  rw [if_neg hfirst, hc, hindex]
  simp only [if_neg (Nat.not_le.2 hsize)]
  simp

/-- The last delimiter is found from behind. -/
theorem strtokTail_append {a d : Bytes} {delim : UInt8} (hdelim : delim ≠ 0)
    (ha0 : (0 : UInt8) ∉ a) (hd0 : (0 : UInt8) ∉ d) (hd : delim ∉ d) (junk : Bytes) :
    strtokTail (a ++ delim :: d ++ 0 :: junk) delim = a.length := by
  have hc : cString (a ++ delim :: d ++ 0 :: junk) = a ++ delim :: d := by
    refine cString_append_zero ?_ junk
    rw [List.mem_append, List.mem_cons]
    rintro (e | e | e)
    · exact ha0 e
    · exact hdelim e.symm
    · exact hd0 e
  have hindex : (a ++ delim :: d).reverse.idxOf? delim = some d.length := by
    rw [List.reverse_append, List.reverse_cons, List.append_assoc, List.idxOf?_eq_some_iff]
    refine ⟨by simp, by simp, fun j hj => ?_⟩
    rw [List.getElem_append_left (by rwa [List.length_reverse])]
    exact fun e => hd (List.mem_reverse.1 (e ▸ List.getElem_mem _))
  unfold strtokTail
  rw [hc, hindex]
  simp only [List.length_append, List.length_cons]
  omega

theorem strtokTail_none {h : Bytes} {delim : UInt8} (h0 : (0 : UInt8) ∉ h)
    (hd : delim ∉ h) (junk : Bytes) : strtokTail (h ++ 0 :: junk) delim = 0 := by
  unfold strtokTail
  rw [cString_append_zero h0, List.idxOf?_eq_none_iff.2 fun hm => hd (List.mem_reverse.1 hm)]

theorem isDigit_not_space {b : UInt8} (h : Decimal.isDigit b = true) :
    isSpace b = false ∧ b ≠ 0x2D ∧ b ≠ 0x2B ∧ b ≠ colon := by
  have table : ∀ n : Fin 256, Decimal.isDigit (UInt8.ofNat n.val) = true →
      isSpace (UInt8.ofNat n.val) = false ∧ UInt8.ofNat n.val ≠ 0x2D ∧
        UInt8.ofNat n.val ≠ 0x2B ∧ UInt8.ofNat n.val ≠ colon := by
    decide +kernel
  have hb : UInt8.ofNat b.toNat = b := by simp
  have := table ⟨b.toNat, b.toNat_lt⟩
  rw [hb] at this
  exact this h

/-- Digits before a NUL are their value. -/
theorem strtol_digits {d junk : Bytes} (hd : ∀ b ∈ d, Decimal.isDigit b = true)
    (hvalue : Decimal.value d ≤ longMax) : strtol (d ++ 0 :: junk) = Decimal.value d := by
  have htake : (d ++ 0 :: junk).takeWhile Decimal.isDigit = d := by
    rw [List.takeWhile_append_of_pos hd, List.takeWhile_cons_of_neg (by decide), List.append_nil]
  unfold strtol
  cases d with
  | nil =>
    rfl
  | cons b d =>
    obtain ⟨hspace, hminus, hplus, _⟩ := isDigit_not_space (hd b List.mem_cons_self)
    rw [List.cons_append, List.dropWhile_cons_of_neg (by rw [hspace]; decide)]
    simp only [if_neg hminus, if_neg hplus]
    rw [← List.cons_append, htake, Nat.min_eq_left hvalue]

theorem ofInt_toNat {n : Nat} (h : n < 65536) : (UInt16.ofInt (n : Int)).toNat = n := by
  unfold UInt16.ofInt
  rw [UInt16.toNat_ofNat']
  omega

/-- **The L2 reader on a field that was cut**: it finds the username, and what is left of address
    and port. -/
theorem readLoginL2_field {u h : Bytes} {x : UInt8} (hu0 : (0 : UInt8) ∉ u) (hu : semicolon ∉ u)
    (hh : (0 : UInt8) ∉ h) (hlen : u.length ≤ 126) (hf : (u ++ semicolon :: h).length < 256) :
    ∃ junk, readLoginL2 (x :: lengthPrefixed (u ++ semicolon :: h)) =
      (let rest := h.take (126 - u.length) ++ 0 :: junk
       { protoVer := .legacyL2
         username := u
         address := (cString rest).take (min (strtokTail rest colon) (loginFieldSize - 1))
         port := UInt16.ofInt (strtol (rest.drop (strtokTail rest colon + 1)))
         version := 0 } : PLoginLegacy) := by
  obtain ⟨junk, hfield⟩ := loginField_eq hf x
  have hcut : (u ++ semicolon :: h).take 127 = u ++ semicolon :: h.take (126 - u.length) := by
    rw [List.take_append, List.take_of_length_le (by omega),
      show 127 - u.length = (126 - u.length) + 1 by omega, List.take_succ_cons]
  refine ⟨junk, ?_⟩
  unfold readLoginL2
  rw [hfield, hcut, strtokHead_append (by decide) hu0 hu (fun hm => hh (List.mem_of_mem_take hm))
    (show u.length < loginFieldSize from Nat.lt_succ_of_le (Nat.le_succ_of_le hlen))]

/-- The field of an L2 login: username, address and port. -/
def loginText (u a : Bytes) (port : UInt16) : Bytes :=
  u ++ semicolon :: a ++ colon :: Decimal.write port.toNat

section Text

variable {u a : Bytes} {port : UInt16}

theorem loginText_length :
    (loginText u a port).length = u.length + a.length + (Decimal.write port.toNat).length + 2 := by
  simp only [loginText, List.length_append, List.length_cons]
  omega

theorem not_mem_digits {n : Nat} : (0 : UInt8) ∉ Decimal.write n ∧ colon ∉ Decimal.write n :=
  ⟨fun hm => Decimal.isDigit_ne_zero (Decimal.isDigit_of_mem_write hm) rfl,
    fun hm => (isDigit_not_space (Decimal.isDigit_of_mem_write hm)).2.2.2 rfl⟩

theorem not_mem_addressText (port : UInt16) (ha0 : (0 : UInt8) ∉ a) :
    (0 : UInt8) ∉ a ++ colon :: Decimal.write port.toNat := by
  rw [List.mem_append, List.mem_cons]
  rintro (e | e | e)
  · exact ha0 e
  · exact absurd e (by decide)
  · exact not_mem_digits.1 e

variable {x : UInt8} (hu0 : (0 : UInt8) ∉ u) (hu : semicolon ∉ u) (ha0 : (0 : UInt8) ∉ a)
  (hfits : u.length + a.length + (Decimal.write port.toNat).length + 2 < 256)

include hu0 hu ha0 hfits

/-- A field whose colon is left: the address reads back, and the digits that are left are the
    port. -/
theorem readLoginL2_colon (hcolon : u.length + a.length < 126) :
    readLoginL2 (x :: lengthPrefixed (loginText u a port)) =
      { protoVer := .legacyL2
        username := u
        address := a
        port := UInt16.ofInt
          (Decimal.value ((Decimal.write port.toNat).take (125 - u.length - a.length)))
        version := 0 } := by
  have hh0 := not_mem_addressText port ha0
  obtain ⟨junk, hread⟩ := readLoginL2_field (x := x) hu0 hu hh0 (by omega) (by
    simp only [List.length_append, List.length_cons]
    omega)
  have hdigits : ∀ b ∈ (Decimal.write port.toNat).take (125 - u.length - a.length),
      Decimal.isDigit b = true := fun b hb => Decimal.isDigit_of_mem_write (List.mem_of_mem_take hb)
  have hvalue : Decimal.value ((Decimal.write port.toNat).take (125 - u.length - a.length)) ≤
      longMax := by
    have hlength : ((Decimal.write port.toNat).take (125 - u.length - a.length)).length ≤ 5 :=
      (List.length_take_le' _ _).trans
        (Decimal.write_length_le (by omega) (port.toNat_lt.trans (by omega)))
    exact (Decimal.value_lt hdigits).le.trans
      ((Nat.pow_le_pow_right (by omega) hlength).trans (by decide))
  rw [List.take_append, List.take_of_length_le (by omega),
    show 126 - u.length - a.length = (125 - u.length - a.length) + 1 by omega,
    List.take_succ_cons] at hread
  have h0 : (0 : UInt8) ∉ (Decimal.write port.toNat).take (125 - u.length - a.length) :=
    fun hm => not_mem_digits.1 (List.mem_of_mem_take hm)
  have hc : colon ∉ (Decimal.write port.toNat).take (125 - u.length - a.length) :=
    fun hm => not_mem_digits.2 (List.mem_of_mem_take hm)
  generalize (Decimal.write port.toNat).take (125 - u.length - a.length) = digits at *
  have htail := strtokTail_append (by decide : colon ≠ 0) ha0 h0 hc junk
  have htext : (0 : UInt8) ∉ a ++ colon :: digits := by
    rw [List.mem_append, List.mem_cons]
    rintro (e | e | e)
    · exact ha0 e
    · exact absurd e (by decide)
    · exact h0 e
  have hdrop : (a ++ colon :: digits ++ 0 :: junk).drop (a.length + 1) = digits ++ 0 :: junk := by
    simp
  rw [loginText, List.append_assoc, List.cons_append, hread]
  simp only [htail, cString_append_zero htext, hdrop, strtol_digits hdigits hvalue]
  rw [Nat.min_eq_left (show a.length ≤ loginFieldSize - 1 by unfold loginFieldSize; omega),
    List.take_left]

/-- A field that still has its last digits reads back. -/
theorem readLoginL2_whole
    (hshort : u.length + a.length + (Decimal.write port.toNat).length + 2 ≤ 127) :
    readLoginL2 (x :: lengthPrefixed (loginText u a port)) =
      { protoVer := .legacyL2, username := u, address := a, port, version := 0 } := by
  rw [readLoginL2_colon hu0 hu ha0 hfits (by omega), List.take_of_length_le (by omega),
    Decimal.value_write, UInt16.toNat_inj.1 (ofInt_toNat port.toNat_lt)]

/-- **A field that lost its last digits does not**: the address or the port is another one. -/
theorem readLoginL2_cut (hac : colon ∉ a) (ha : a ≠ []) (hport : port ≠ 0) (hlen : u.length ≤ 126)
    (hlong : 127 < u.length + a.length + (Decimal.write port.toNat).length + 2) :
    (readLoginL2 (x :: lengthPrefixed (loginText u a port))).address ≠ a ∨
      (readLoginL2 (x :: lengthPrefixed (loginText u a port))).port ≠ port := by
  rcases Nat.lt_or_ge (u.length + a.length) 126 with hcolon | hcolon
  · -- the colon is left and the digits are cut
    right
    rw [readLoginL2_colon hu0 hu ha0 hfits hcolon]
    have hvalue := Decimal.value_take_lt (n := port.toNat)
      (fun e => hport (UInt16.toNat_inj.1 e)) (k := 125 - u.length - a.length) (by omega)
    have hlt := port.toNat_lt
    intro e
    have := congrArg UInt16.toNat e
    rw [ofInt_toNat (by omega)] at this
    omega
  · -- the colon is gone: no address is found
    left
    obtain ⟨junk, hread⟩ := readLoginL2_field (x := x) hu0 hu (not_mem_addressText port ha0)
      hlen (by
      simp only [List.length_append, List.length_cons]
      omega)
    rw [loginText, List.append_assoc, List.cons_append, hread]
    have hcut : (a ++ colon :: Decimal.write port.toNat).take (126 - u.length) =
        a.take (126 - u.length) := List.take_append_of_le_length (by omega)
    have hcutc : colon ∉ a.take (126 - u.length) := fun hm => hac (List.mem_of_mem_take hm)
    have htail := strtokTail_none (fun hm => ha0 (List.mem_of_mem_take hm)) hcutc junk
    simp only [hcut, htail, Nat.zero_min, List.take_zero]
    exact ha.symm

end Text

/-! ## 3. What a decoded login satisfies -/

/-- What the rewriting can rely on in a login that was decoded. -/
structure LoginDecoded (source : Bytes) (v : ProtocolVersion) (r : PLoginLegacy) : Prop where
  protoVer : r.protoVer = v
  no_nul : (0 : UInt8) ∉ r.username
  short : r.username.length ≤ 127
  no_semicolon : v = .legacyL2 → semicolon ∉ r.username ∧ r.username.length ≤ 126
  version : v = .legacyL4 → r.version = byteAt source 1

theorem strtokHead_spec {dstSize : Nat} {src u rest : Bytes} {delim : UInt8}
    (h : strtokHead dstSize src delim = (u, some rest)) :
    (0 : UInt8) ∉ u ∧ delim ∉ u ∧ u.length < (cString src).length := by
  unfold strtokHead at h
  split at h
  · cases h
  split at h
  · cases h
  · rename_i length hindex
    rw [List.idxOf?_eq_some_iff] at hindex
    obtain ⟨hlt, _, hfirst⟩ := hindex
    have hpre : ∀ n, n ≤ length → src.take n = (cString src).take n := by
      intro n hn
      have : cString src <+: src := List.takeWhile_prefix _
      obtain ⟨t, ht⟩ := this
      conv_lhs => rw [← ht]
      exact List.take_append_of_le_length (by omega)
    have hn : (if length ≥ dstSize then dstSize - 1 else length) ≤ length := by
      split
      · omega
      · exact Nat.le_refl _
    obtain ⟨rfl, _⟩ := h
    rw [hpre _ hn]
    refine ⟨fun hm => not_mem_cString src (List.mem_of_mem_take hm), fun hm => ?_, ?_⟩
    · obtain ⟨k, hk, hk0⟩ := List.mem_iff_getElem.1 hm
      rw [List.length_take] at hk
      rw [List.getElem_take] at hk0
      exact hfirst k (by omega) hk0
    · rw [List.length_take]
      omega

theorem cString_length_le_of_byteAt {s : Bytes} {n : Nat} (h : byteAt s n = 0) :
    (cString s).length ≤ n := by
  by_contra hc
  obtain ⟨t, ht⟩ : cString s <+: s := List.takeWhile_prefix _
  have hlt : n < (cString s).length := Nat.lt_of_not_le hc
  have hbyte : byteAt (cString s ++ t) n = (cString s)[n] := by
    rw [byteAt_append t hlt, byteAt, List.getD_eq_getElem?_getD, List.getElem?_eq_getElem hlt,
      Option.getD_some]
  rw [ht, h] at hbyte
  exact not_mem_cString s (hbyte ▸ List.getElem_mem hlt)

theorem charsAt_length (source : Bytes) (start size : Nat) :
    (charsAt source start size).length = size := by simp [charsAt]

theorem loginField_cString_length (source : Bytes) :
    (cString (loginField source)).length ≤ 127 := by
  refine cString_length_le_of_byteAt (n := 127) ?_
  have hlong : 127 < (charsAt source 2 (byteAt source 1).toNat ++
      List.replicate (512 - (byteAt source 1).toNat) 0).length := by
    rw [List.length_append, charsAt_length, List.length_replicate]
    omega
  show ((List.set _ 127 0)[127]?).getD 0 = 0
  rw [List.getElem?_set_self hlong]
  rfl

/-- **What any decoded login satisfies.** -/
theorem packetReadLegacyLogin_spec {s : Bytes} {v : ProtocolVersion}
    (hv : v = .legacyL2 ∨ v = .legacyL4) (hne : (packetReadLegacyLogin s v).username ≠ []) :
    LoginDecoded (packetShrink s bufsiz) v (packetReadLegacyLogin s v) := by
  have hlen : ∀ b : Bytes, (cString b).length ≤ b.length := fun b =>
    (List.takeWhile_prefix _).length_le
  unfold packetReadLegacyLogin at hne ⊢
  rcases hv with rfl | rfl
  · simp only [if_true] at hne ⊢
    unfold readLoginL2 at hne ⊢
    split at hne
    · exact absurd rfl hne
    · rename_i username rest htok
      obtain ⟨h0, hd, hlt⟩ := strtokHead_spec htok
      have hshort := loginField_cString_length (packetShrink s bufsiz)
      exact ⟨rfl, h0, Nat.le_trans (Nat.le_of_lt hlt) hshort,
        fun _ => ⟨hd, Nat.le_of_lt_succ (Nat.lt_of_lt_of_le hlt hshort)⟩, nofun⟩
  · simp only [reduceCtorEq, if_false] at hne ⊢
    unfold readLoginFields at hne ⊢
    simp only [if_true] at hne ⊢
    by_cases hsize : (byteAt (packetShrink s bufsiz) 2).toNat ≥ loginFieldSize
    · rw [if_pos hsize] at hne
      exact absurd rfl hne
    rw [if_neg hsize] at hne ⊢
    split at hne
    · exact absurd rfl hne
    · rename_i haddress
      rw [if_neg haddress]
      refine ⟨rfl, not_mem_cString _, ?_, nofun, fun _ => rfl⟩
      have := hlen (charsAt (packetShrink s bufsiz) (2 + 1)
        (byteAt (packetShrink s bufsiz) 2).toNat)
      rw [charsAt_length] at this
      unfold loginFieldSize at hsize
      show (cString _).length ≤ 127
      omega

/-! ## 4. The rewritten login -/

/-- What the identification saw of a login it calls L2 or L4. -/
theorem protocolIdentify_login {s : Bytes} {v : ProtocolVersion} {i : Intent}
    (h : protocolIdentify s = (v, i)) (hv : v = .legacyL2 ∨ v = .legacyL4) :
    byteAt s 0 = 0x02 ∧ i = .unspecified ∧ 2 ≤ s.length ∧
      (v = .legacyL4 → byteAt s 1 ≠ 0x00 ∧ byteAt s 1 ≠ 0x1F) := by
  have hother : ∀ {w : ProtocolVersion × Intent}, w.1 ≠ .legacyL2 → w.1 ≠ .legacyL4 →
      w ≠ (v, i) := by
    rintro w h2 h4 rfl
    exact hv.elim h2 h4
  have hmodern : identifyModern s ≠ (v, i) := by
    unfold identifyModern
    split
    · split <;> exact hother nofun nofun
    · exact hother nofun nofun
  unfold protocolIdentify at h
  split at h
  · exact absurd h (hother nofun nofun)
  split at h
  · exact absurd h (hother nofun nofun)
  split at h
  · rename_i h2
    simp only [Prod.mk.injEq] at h
    obtain ⟨hl, rfl⟩ := h
    refine ⟨h2, rfl, ?_⟩
    unfold identifyLegacyLogin at hl
    split at hl
    · subst hl
      exact absurd rfl (hother nofun nofun)
    refine ⟨by omega, ?_⟩
    rintro rfl
    grind
  · exfalso
    split at h
    · split at h
      · exact absurd h (hother nofun nofun)
      split at h
      · exact absurd h (hother nofun nofun)
      split at h
      · exact absurd h (hother nofun nofun)
      exact hmodern h
    · exact hmodern h

/-- A login whose nonzero bytes fit keeps its version byte when it is shrunk. -/
theorem byteAt_packetShrink {s : Bytes} {n : Nat} (h0 : byteAt s 0 = 0x02) (h1 : byteAt s 1 ≠ 0)
    (hlen : 2 ≤ s.length) (hne : packetShrink s n ≠ []) :
    byteAt (packetShrink s n) 1 = byteAt s 1 := by
  match s, hlen with
  | a :: b :: s, _ =>
    have ha : a = 0x02 := h0
    have hb : b ≠ 0 := h1
    subst ha
    unfold packetShrink at hne ⊢
    split at hne
    · exact absurd rfl hne
    · rename_i hfits
      rw [if_neg hfits, List.filter_cons_of_pos (by decide),
        List.filter_cons_of_pos (by simpa using hb)]
      rfl

section Rewritten

variable {u a : Bytes} {port : UInt16} {version : UInt8}

section

variable (u a : Bytes) (port : UInt16) (version : UInt8)

/-- The two writers, spelled out. -/
theorem packetWriteLegacyLogin_L2 :
    packetWriteLegacyLogin ⟨.legacyL2, u, a, port, version⟩ =
      2 :: 0 :: UInt8.ofNat (loginText u a port).length :: packetExpand (loginText u a port) := rfl

@[inherit_doc packetWriteLegacyLogin_L2]
theorem packetWriteLegacyLogin_L4 :
    packetWriteLegacyLogin ⟨.legacyL4, u, a, port, version⟩ =
      2 :: version :: 0 :: UInt8.ofNat u.length :: (packetExpand u ++
        (0 :: UInt8.ofNat a.length :: (packetExpand a ++
          [0, 0, UInt8.ofNat (port.toNat / 256), UInt8.ofNat (port.toNat % 256)]))) := by
  simp [packetWriteLegacyLogin, lengthPrefixed]

/-- An L2 login is framed to the byte exactly when its length byte holds its length. -/
theorem packetLength_L2_iff :
    packetLength (packetWriteLegacyLogin ⟨.legacyL2, u, a, port, version⟩) =
        (.complete, (packetWriteLegacyLogin ⟨.legacyL2, u, a, port, version⟩).length) ↔
      u.length + a.length + (Decimal.write port.toNat).length + 2 < 256 := by
  have hn := @loginText_length u a port
  rw [packetWriteLegacyLogin_L2]
  generalize loginText u a port = f at hn
  match f, hn with
  | [], hn => simp at hn
  | b :: f, hn =>
    have hlength : (2 :: 0 :: UInt8.ofNat (b :: f).length :: packetExpand (b :: f)).length =
        3 + 2 * (b :: f).length := by
      simp only [List.length_cons, packetExpand_length]
      omega
    have hbranch : packetLength
        (2 :: 0 :: UInt8.ofNat (b :: f).length :: packetExpand (b :: f)) =
        packetLengthLegacyLogin
          (2 :: 0 :: UInt8.ofNat (b :: f).length :: packetExpand (b :: f)) := rfl
    have hbyte : (UInt8.ofNat (b :: f).length).toNat = (b :: f).length % 256 := by
      rw [UInt8.toNat_ofNat']
    have hone : byteAt (2 :: 0 :: UInt8.ofNat (b :: f).length :: packetExpand (b :: f)) 1 = 0 := rfl
    rw [hbranch, packetLengthLegacyLogin, hlength, if_neg (by omega), if_neg (by omega),
      if_pos hone, ← hn]
    show (if _ < 3 + (UInt8.ofNat (b :: f).length).toNat * 2 then Framing.Status.incomplete
      else .complete, 3 + (UInt8.ofNat (b :: f).length).toNat * 2) = _ ↔ _
    rw [hbyte]
    constructor
    · intro e
      have := congrArg Prod.snd e
      omega
    · intro hlt
      rw [Nat.mod_eq_of_lt hlt, if_neg (by omega), Nat.mul_comm]

/-- An L2 login is identified as one. -/
theorem protocolIdentify_L2 :
    protocolIdentify (packetWriteLegacyLogin ⟨.legacyL2, u, a, port, version⟩) =
      (.legacyL2, .unspecified) := by
  rw [packetWriteLegacyLogin_L2]
  have hs : semicolon ∈ packetExpand (loginText u a port) := mem_packetExpand (by simp [loginText])
  have hc : colon ∈ packetExpand (loginText u a port) := mem_packetExpand (by simp [loginText])
  generalize loginText u a port = f at hs hc
  have hbranch : protocolIdentify (2 :: 0 :: UInt8.ofNat f.length :: packetExpand f) =
      (identifyLegacyLogin (2 :: 0 :: UInt8.ofNat f.length :: packetExpand f), .unspecified) := rfl
  have hone : byteAt (2 :: 0 :: UInt8.ofNat f.length :: packetExpand f) 1 = 0x00 := rfl
  have hdrop : (2 :: 0 :: UInt8.ofNat f.length :: packetExpand f).drop 3 = packetExpand f := rfl
  rw [hbranch, identifyLegacyLogin, if_neg (by simp), if_pos hone, if_neg (by simp), hdrop,
    if_pos ⟨hs, hc⟩]

end

/-- The L2 reader sees the field as it was written. -/
theorem packetReadLegacyLogin_L2 (port : UInt16) (version : UInt8) (hu0 : (0 : UInt8) ∉ u)
    (ha0 : (0 : UInt8) ∉ a)
    (hfits : u.length + a.length + (Decimal.write port.toNat).length + 2 < 256) :
    packetReadLegacyLogin (packetWriteLegacyLogin ⟨.legacyL2, u, a, port, version⟩) .legacyL2 =
      readLoginL2 (2 :: lengthPrefixed (loginText u a port)) := by
  have hn := @loginText_length u a port
  have h0 : (0 : UInt8) ∉ loginText u a port := by
    rw [loginText, List.append_assoc, List.cons_append, List.mem_append, List.mem_cons]
    rintro (e | e | e)
    · exact hu0 e
    · exact absurd e (by decide)
    · exact not_mem_addressText port ha0 e
  rw [packetWriteLegacyLogin_L2]
  generalize loginText u a port = f at hn h0
  have hbyte : UInt8.ofNat f.length ≠ 0 := by
    intro e
    have := congrArg UInt8.toNat e
    rw [ofNat_length_toNat (by omega)] at this
    simp only [UInt8.toNat_zero] at this
    omega
  have hfilter : (2 :: 0 :: UInt8.ofNat f.length :: packetExpand f).filter (· ≠ 0) =
      2 :: lengthPrefixed f := by
    rw [List.filter_cons_of_pos (by decide), List.filter_cons_of_neg (by decide),
      List.filter_cons_of_pos (by simpa using hbyte), filter_packetExpand h0]
    rfl
  have hsize : (2 :: lengthPrefixed f).length ≤ bufsiz := by
    simp only [lengthPrefixed, List.length_cons]
    unfold bufsiz
    omega
  unfold packetReadLegacyLogin
  rw [if_pos rfl, packetShrink_of_le (by rw [hfilter]; exact hsize), hfilter]

theorem uint16Read_length (pre tail : Bytes) {f : Bytes} (hf : f.length < 256) :
    (uint16Read (pre ++ 0 :: UInt8.ofNat f.length :: tail) pre.length).toNat = f.length := by
  have hhi := byteAt_append_right pre (0 :: UInt8.ofNat f.length :: tail) 0
  have hlo := byteAt_append_right pre (0 :: UInt8.ofNat f.length :: tail) 1
  unfold uint16Read
  rw [hlo, show byteAt _ pre.length = _ from hhi]
  show (UInt16.ofNat (0 * 256 + (UInt8.ofNat f.length).toNat)).toNat = f.length
  rw [ofNat_length_toNat hf, UInt16.toNat_ofNat']
  omega

/-- An L4 login is framed to the byte. -/
theorem packetLength_L4 (hu : u.length ≤ 127) (ha : a.length ≤ 127)
    (hversion : version ≠ 0x00 ∧ version ≠ 0x1F) :
    packetLength (packetWriteLegacyLogin ⟨.legacyL4, u, a, port, version⟩) =
      (.complete, (packetWriteLegacyLogin ⟨.legacyL4, u, a, port, version⟩).length) := by
  rw [packetWriteLegacyLogin_L4]
  generalize htail : [0, 0, UInt8.ofNat (port.toNat / 256), UInt8.ofNat (port.toNat % 256)] = tail
  have htailLen : tail.length = 4 := by rw [← htail]; rfl
  generalize hwire : 2 :: version :: 0 :: UInt8.ofNat u.length :: (packetExpand u ++
    (0 :: UInt8.ofNat a.length :: (packetExpand a ++ tail))) = wire
  have hlength : wire.length = 4 + u.length * 2 + 2 + a.length * 2 + 4 := by
    simp only [← hwire, List.length_cons, List.length_append, packetExpand_length, htailLen]
    omega
  have hpre : (2 :: version :: 0 :: UInt8.ofNat u.length :: packetExpand u).length =
      4 + u.length * 2 := by
    simp only [List.length_cons, packetExpand_length]
    omega
  have huRead : (uint16Read wire 2).toNat = u.length := by
    rw [← hwire]
    exact uint16Read_length [2, version] _ (by omega)
  have haRead : (uint16Read wire (4 + u.length * 2)).toNat = a.length := by
    rw [← hpre, ← hwire]
    exact uint16Read_length _ (packetExpand a ++ tail) (by omega)
  have hbranch : packetLength wire = packetLengthLegacyLogin wire := by
    rw [← hwire]
    rfl
  have hv : byteAt wire 1 = version := by
    rw [← hwire]
    rfl
  rw [hbranch, packetLengthLegacyLogin, if_neg (by omega), if_neg (by omega), hv,
    if_neg hversion.1]
  simp only [huRead]
  rw [if_neg hversion.2, if_neg (by omega), haRead, if_neg (by omega), hlength]

theorem protocolIdentify_L4 (hversion : version ≠ 0x00 ∧ version ≠ 0x1F) :
    protocolIdentify (packetWriteLegacyLogin ⟨.legacyL4, u, a, port, version⟩) =
      (.legacyL4, .unspecified) := by
  rw [packetWriteLegacyLogin_L4]
  generalize packetExpand u ++ (0 :: UInt8.ofNat a.length :: (packetExpand a ++
    [0, 0, UInt8.ofNat (port.toNat / 256), UInt8.ofNat (port.toNat % 256)])) = tail
  have hbranch : protocolIdentify (2 :: version :: 0 :: UInt8.ofNat u.length :: tail) =
      (identifyLegacyLogin (2 :: version :: 0 :: UInt8.ofNat u.length :: tail),
        .unspecified) := rfl
  rw [hbranch, identifyLegacyLogin, if_neg (by simp),
    if_neg (show ¬ byteAt (2 :: version :: 0 :: UInt8.ofNat u.length :: tail) 1 = 0x00
      from hversion.1),
    if_neg (show ¬ byteAt (2 :: version :: 0 :: UInt8.ofNat u.length :: tail) 1 = 0x1F
      from hversion.2)]

/-- **How an L4 login reads back**: the zero bytes of its port are dropped like all others. -/
theorem packetReadLegacyLogin_L4 (port : UInt16) (hu0 : (0 : UInt8) ∉ u) (ha0 : (0 : UInt8) ∉ a)
    (hu : u.length ≤ 127) (ha : a.length ≤ 127) (hune : u ≠ []) (hane : a ≠ [])
    (hversion : version ≠ 0) :
    packetReadLegacyLogin (packetWriteLegacyLogin ⟨.legacyL4, u, a, port, version⟩) .legacyL4 =
      (let tail := [UInt8.ofNat (port.toNat / 256), UInt8.ofNat (port.toNat % 256)].filter (· ≠ 0)
       { protoVer := .legacyL4
         username := u
         address := a
         port := UInt16.ofNat ((byteAt tail 0).toNat * 256 + (byteAt tail 1).toNat)
         version } : PLoginLegacy) := by
  have hbyte : ∀ s : Bytes, s ≠ [] → s.length ≤ 127 → UInt8.ofNat s.length ≠ 0 := by
    intro s hne hle e
    have := congrArg UInt8.toNat e
    rw [ofNat_length_toNat (by omega)] at this
    exact hne (List.eq_nil_of_length_eq_zero this)
  have hfilter : (packetWriteLegacyLogin ⟨.legacyL4, u, a, port, version⟩).filter (· ≠ 0) =
      [2, version] ++ (lengthPrefixed u ++ (lengthPrefixed a ++
        [UInt8.ofNat (port.toNat / 256), UInt8.ofNat (port.toNat % 256)].filter (· ≠ 0))) := by
    rw [packetWriteLegacyLogin_L4, List.filter_cons_of_pos (by decide),
      List.filter_cons_of_pos (by simpa using hversion), List.filter_cons_of_neg (by decide),
      List.filter_cons_of_pos (by simpa using hbyte u hune hu), List.filter_append,
      filter_packetExpand hu0, List.filter_cons_of_neg (by decide),
      List.filter_cons_of_pos (by simpa using hbyte a hane ha), List.filter_append,
      filter_packetExpand ha0, List.filter_cons_of_neg (by decide),
      List.filter_cons_of_neg (by decide)]
    rfl
  have hsize : ((packetWriteLegacyLogin ⟨.legacyL4, u, a, port, version⟩).filter
      (· ≠ 0)).length ≤ bufsiz := by
    have := List.length_filter_le (· ≠ 0)
      [UInt8.ofNat (port.toNat / 256), UInt8.ofNat (port.toNat % 256)]
    rw [hfilter]
    simp only [lengthPrefixed, List.length_append, List.length_cons, List.length_nil] at this ⊢
    unfold bufsiz
    omega
  unfold packetReadLegacyLogin
  rw [if_neg (by decide), if_neg (by decide), packetShrink_of_le hsize, hfilter]
  exact readLoginFields_wire [2, version] (Nat.lt_succ_of_le hu) (Nat.lt_succ_of_le ha)
    hu0 ha0

/-- The port survives exactly when its high byte is not 0. -/
theorem portTail_iff (hport : port ≠ 0) :
    (let tail := [UInt8.ofNat (port.toNat / 256), UInt8.ofNat (port.toNat % 256)].filter (· ≠ 0)
     UInt16.ofNat ((byteAt tail 0).toNat * 256 + (byteAt tail 1).toNat)) = port ↔
      256 ≤ port.toNat := by
  have hlt := port.toNat_lt
  have hne : port.toNat ≠ 0 := fun e => hport (UInt16.toNat_inj.1 e)
  have hhi : (UInt8.ofNat (port.toNat / 256)).toNat = port.toNat / 256 := by
    rw [UInt8.toNat_ofNat']
    omega
  have hlo : (UInt8.ofNat (port.toNat % 256)).toNat = port.toNat % 256 := by
    rw [UInt8.toNat_ofNat']
    omega
  rw [← UInt16.toNat_inj, UInt16.toNat_ofNat']
  generalize UInt8.ofNat (port.toNat / 256) = hi at hhi
  generalize UInt8.ofNat (port.toNat % 256) = lo at hlo
  have hhi0 : hi = 0 ↔ port.toNat / 256 = 0 := by
    rw [← hhi, ← UInt8.toNat_inj, UInt8.toNat_zero]
  have hlo0 : lo = 0 ↔ port.toNat % 256 = 0 := by
    rw [← hlo, ← UInt8.toNat_inj, UInt8.toNat_zero]
  by_cases h1 : hi = 0
  · have hsmall := hhi0.1 h1
    have h2 : lo ≠ 0 := fun e => by
      have := hlo0.1 e
      omega
    simp only [h1, ne_eq, not_true_eq_false, decide_false, Bool.false_eq_true, not_false_eq_true,
      List.filter_cons_of_neg, h2, decide_true, List.filter_cons_of_pos, List.filter_nil, byteAt,
      List.getD_cons_zero, List.getD_cons_succ, List.getD_nil, UInt8.toNat_zero, hlo]
    omega
  · have hbig : port.toNat / 256 ≠ 0 := fun e => h1 (hhi0.2 e)
    by_cases h2 : lo = 0
    · have hz := hlo0.1 h2
      simp only [h1, ne_eq, not_false_eq_true, decide_true, List.filter_cons_of_pos, h2,
        not_true_eq_false, decide_false, Bool.false_eq_true, List.filter_cons_of_neg,
        List.filter_nil, byteAt, List.getD_cons_zero, List.getD_cons_succ, List.getD_nil,
        UInt8.toNat_zero, hhi]
      omega
    · simp only [h1, ne_eq, not_false_eq_true, decide_true, List.filter_cons_of_pos, h2,
        List.filter_nil, byteAt, List.getD_cons_zero, List.getD_cons_succ, hhi, hlo]
      omega

end Rewritten

/-! ## 5. When the rewriting is kept -/

/-- What the relay wants of a rewritten login: one frame of the same protocol that reads back with
    the old username and the new address and port. -/
structure LoginKept (s : Bytes) (v : ProtocolVersion) (address : Bytes) (port : UInt16)
    (rewrited : Bytes) : Prop where
  frame : packetLength rewrited = (.complete, rewrited.length)
  identified : protocolIdentify rewrited = protocolIdentify s
  username : (packetReadLegacyLogin rewrited v).username = (packetReadLegacyLogin s v).username
  address : (packetReadLegacyLogin rewrited v).address = address
  port : (packetReadLegacyLogin rewrited v).port = port

/-- The room an L2 login has, and the ports an L4 login can carry. -/
def LoginFits (v : ProtocolVersion) (username address : Bytes) (port : UInt16) : Prop :=
  if v = .legacyL2 then
    username.length + address.length + (Decimal.write port.toNat).length + 2 ≤ 127
  else 256 ≤ port.toNat

/-- **Exactly when a rewritten login is kept**: an L2 login whose field stays within 127 characters,
    an L4 login whose port has a high byte. -/
theorem loginRewrite_iff (s : Bytes) (v : ProtocolVersion) (intent : Intent) (address : Bytes)
    (port : UInt16) (hid : protocolIdentify s = (v, intent)) (hv : v = .legacyL2 ∨ v = .legacyL4)
    (hname : (packetReadLegacyLogin s v).username ≠ [])
    (hlength : 1 ≤ address.length ∧ address.length ≤ 127)
    (hbytes : ∀ b ∈ address, b ≠ 0 ∧ b.toNat < 128 ∧ b ≠ semicolon ∧ b ≠ colon) (hport : port ≠ 0) :
    LoginKept s v address port
        (packetWriteLegacyLogin { packetReadLegacyLogin s v with address, port }) ↔
      LoginFits v (packetReadLegacyLogin s v).username address port := by
  have hspec := packetReadLegacyLogin_spec hv hname
  have ha0 : (0 : UInt8) ∉ address := fun hm => (hbytes _ hm).1 rfl
  have hac : colon ∉ address := fun hm => (hbytes _ hm).2.2.2 rfl
  have hane : address ≠ [] := fun e => by
    rw [e] at hlength
    exact absurd hlength.1 (by decide)
  obtain ⟨hbyte0, hintent, hlen, hversion⟩ := protocolIdentify_login hid hv
  -- the shrunk packet is not empty: an empty one has no username
  have hshrink : packetShrink s bufsiz ≠ [] := by
    intro e
    apply hname
    unfold packetReadLegacyLogin
    rw [e]
    rcases hv with rfl | rfl <;> decide
  generalize hr : packetReadLegacyLogin s v = r at hspec hname
  obtain ⟨protoVer, u, address', port', version⟩ := r
  obtain ⟨rfl, hu0, hu, hsemi, hver⟩ := hspec
  dsimp only at hu0 hu hsemi hver hname hv hversion ⊢
  subst hintent
  rcases hv with rfl | rfl
  · obtain ⟨hu2, hu126⟩ := hsemi rfl
    show LoginKept s _ address port _ ↔ _ ≤ 127
    constructor
    · intro hkept
      by_contra hlong
      have hfits := (packetLength_L2_iff u address port version).1 hkept.frame
      have hread := packetReadLegacyLogin_L2 port version hu0 ha0 hfits
      rcases readLoginL2_cut (x := 2) hu0 hu2 ha0 hfits hac hane hport hu126 (by omega) with e | e
      · exact e (hread ▸ hkept.address)
      · exact e (hread ▸ hkept.port)
    · intro hfits
      have hread := packetReadLegacyLogin_L2 port version hu0 ha0 (by omega)
      rw [readLoginL2_whole hu0 hu2 ha0 (by omega) hfits] at hread
      exact {
        frame := (packetLength_L2_iff u address port version).2 (by omega)
        identified := by rw [hid, protocolIdentify_L2]
        username := by rw [hread, hr]
        address := by rw [hread]
        port := by rw [hread] }
  · have hversion1 := hversion rfl
    have hbyte1 := byteAt_packetShrink hbyte0 hversion1.1 hlen hshrink
    have hver' : version ≠ 0x00 ∧ version ≠ 0x1F := by
      rw [hver rfl, hbyte1]
      exact hversion1
    have hread := packetReadLegacyLogin_L4 port hu0 ha0 hu hlength.2 hname hane hver'.1
    show LoginKept s _ address port _ ↔ 256 ≤ port.toNat
    rw [← portTail_iff hport]
    constructor
    · intro hkept
      have := hkept.port
      rw [hread] at this
      exact this
    · intro hp
      exact {
        frame := packetLength_L4 hu hlength.2 hver'
        identified := by rw [hid, protocolIdentify_L4 hver']
        username := by rw [hread, hr]
        address := by rw [hread]
        port := by
          rw [hread]
          exact hp }

/-- The L4 login of `a` for host `b`. -/
def oldLogin : Bytes :=
  [0x02, 0x3D, 0x00, 0x01, 0x00, 0x61, 0x00, 0x01, 0x00, 0x62, 0x00, 0x00, 0x63, 0xDD]

/-- Rewritten to host `c` and port 25565 it is kept. -/
theorem loginRewrite_iff_kept : LoginKept oldLogin .legacyL4 [0x63] 25565
    (packetWriteLegacyLogin { packetReadLegacyLogin oldLogin .legacyL4 with
      address := [0x63], port := 25565 }) :=
  (loginRewrite_iff oldLogin .legacyL4 .unspecified [0x63] 25565 (by decide +kernel)
    (by decide +kernel) (by decide) (by decide) (by decide +kernel) (by decide)).2
    (by show 256 ≤ _; decide)

/-- Rewritten to host `c` and port 80 it reads back with port 20480. -/
theorem loginRewrite_port_shifted :
    packetLength oldLogin = (.complete, oldLogin.length) ∧
      protocolIdentify oldLogin = (.legacyL4, .unspecified) ∧
      (packetReadLegacyLogin oldLogin .legacyL4).username = [0x61] ∧
      (packetReadLegacyLogin (packetWriteLegacyLogin { packetReadLegacyLogin oldLogin .legacyL4 with
        address := [0x63], port := 80 }) .legacyL4).port = 20480 ∧
      ¬ LoginKept oldLogin .legacyL4 [0x63] 80
        (packetWriteLegacyLogin { packetReadLegacyLogin oldLogin .legacyL4 with
          address := [0x63], port := 80 }) :=
  ⟨by decide, by decide, by decide, by decide, fun h => absurd h.port (by decide)⟩

end MinecraftRelay
