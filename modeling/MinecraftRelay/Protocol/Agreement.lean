/-
  File:      Protocol/Agreement.lean
  Subject:   The three parsers of a modern packet agree: `protocol_identify` (which looks at the
             last byte of the handshake frame), `protocol_packet_length` (which counts frames) and
             `packet_read` (which decodes the fields).

  * `packetReadPart1_intent` -- the decoded next state is the intent the identification reported;
  * `packetLength_modern2` -- where a complete MODERN2 packet ends;
  * `packetRead_take` -- the reader stays inside it;
  * `packetRead_agrees` -- the agreement of all three.
-/
import MinecraftRelay.Protocol.Handshake

namespace MinecraftRelay

open Groups Framing

variable {intent : Intent} {s : Bytes}

/-! ## 1. What the identification checked -/

/-- What identification checked about a frame it calls modern. -/
theorem modernFrame_some {version : Varint} (h : modernFrame s = some (version, intent)) :
    ∃ frameSize cursor s1 s2, varint2int s = .complete frameSize cursor ∧ frameSize ≠ 0 ∧
      frameSize.toNat ≤ cursor.length ∧
      varint2int (cursor.take frameSize.toNat) = .complete 0 s1 ∧
      varint2int s1 = .complete version s2 ∧ s2 ≠ [] ∧
      frameIntent (byteAt (cursor.take frameSize.toNat)
        ((cursor.take frameSize.toNat).length - 1)) = some intent := by
  unfold modernFrame at h
  split at h
  · rename_i frameSize cursor hv
    split at h
    · cases h
    rename_i hbad
    simp only [not_or] at hbad
    simp only [] at h
    split at h
    · rename_i packetId s1 hid
      split at h
      · cases h
      rename_i hzero
      simp only [ne_eq, not_not] at hzero
      subst hzero
      split at h
      · rename_i version' s2 hver
        split at h
        · cases h
        rename_i hne
        simp only [Option.map_eq_some_iff, Prod.mk.injEq] at h
        obtain ⟨i, hi, rfl, rfl⟩ := h
        exact ⟨frameSize, cursor, s1, s2, hv, hbad.1, by omega, hid, hver, hne, hi⟩
      · cases h
    · cases h
  · cases h

theorem frameIntent_some {b : UInt8} (h : frameIntent b = some intent) :
    b = intent.toByte ∧ b.toNat ≠ 0 := by
  unfold frameIntent at h
  split at h
  · rename_i e
    cases h
    exact ⟨e, by rw [e]; decide⟩
  split at h
  · rename_i e
    cases h
    exact ⟨e, by rw [e]; decide⟩
  split at h
  · rename_i e
    cases h
    exact ⟨e, by rw [e]; decide⟩
  · cases h

/-- Only the modern branches answer MODERN2, and there the framing is modern too. -/
theorem protocolIdentify_modern2
    (h : protocolIdentify s = (.modern2, intent)) :
    packetLength s = packetLengthModern s ∧ byteAt s 0 ≠ 0x01 ∧ byteAt s 0 ≠ 0x02 ∧
      (byteAt s 0 = 0xFE → ¬ (byteAt s 1 = 0x01 ∧ byteAt s 2 = 0xFA)) ∧
      ∃ version, version ≠ 0 ∧ modernFrame s = some (version, intent) := by
  have hmodern : identifyModern s = (.modern2, intent) →
      ∃ version, version ≠ 0 ∧ modernFrame s = some (version, intent) := by
    intro hm
    unfold identifyModern at hm
    split at hm
    · rename_i version intent' hf
      split at hm
      · rename_i hne
        simp only [Prod.mk.injEq, true_and] at hm
        subst hm
        exact ⟨version, hne, hf⟩
      · cases hm
    · cases hm
  have hlogin : ∀ v : ProtocolVersion × Intent, v = (identifyLegacyLogin s, Intent.unspecified) →
      v ≠ (.modern2, intent) := by
    rintro v rfl hc
    simp only [Prod.mk.injEq] at hc
    unfold identifyLegacyLogin at hc
    grind
  unfold protocolIdentify at h
  split at h
  · cases h
  split at h
  · cases h
  split at h
  · exact absurd h (hlogin _ rfl)
  rename_i h0 h1 h2
  split at h
  · rename_i hfe
    split at h
    · cases h
    split at h
    · cases h
    split at h
    · cases h
    rename_i hone htwo hping
    refine ⟨packetLength_of_modern h0 h1 h2 fun _ => ⟨?_, hping⟩, h1, h2, fun _ => hping, hmodern h⟩
    rintro (e | ⟨e, e'⟩)
    · exact hone e
    · exact htwo ⟨e', e⟩
  · rename_i hfe
    exact ⟨packetLength_of_modern h0 h1 h2 fun e => absurd e hfe, h1, h2,
      fun e => absurd e hfe, hmodern h⟩

/-! ## 2. The next state is the intent -/

/-- The last byte of a list, found through the frame's last index. -/
theorem byteAt_append_last (lead pre : Bytes) (l : UInt8) :
    byteAt (lead ++ (pre ++ [l])) ((lead ++ (pre ++ [l])).length - 1) = l := by
  unfold byteAt
  rw [← List.append_assoc, List.length_append, List.length_singleton, Nat.add_sub_cancel,
    List.getD_eq_getElem?_getD, List.getElem?_append_right (le_refl _)]
  simp

/-- **The decoded next state is the reported intent** whenever it is one of the three: a longer
    varint that ends in 1, 2 or 3 decodes to at least 128. -/
theorem packetReadPart1_intent {frame : Bytes} {h : PHandshake}
    (hr : packetReadPart1 frame = some h)
    (hi : frameIntent (byteAt frame (frame.length - 1)) = some intent)
    (hn : h.nextstate.toNat < 128) : h.nextstate = intent.toByte.toUInt32 := by
  obtain ⟨s1, s2, s3, addressLength, h1, h2, h3, _, _, _, _, h4, _⟩ := packetReadPart1_some hr
  obtain ⟨pre1, rfl, _, _⟩ := varint2int_rest h1
  obtain ⟨pre2, rfl, _, _⟩ := varint2int_rest h2
  obtain ⟨pre3, rfl, _, _⟩ := varint2int_rest h3
  have hsuffix : ∃ lead, pre1 ++ (pre2 ++ (pre3 ++ s3)) =
      lead ++ (s3.drop addressLength.toNat).drop 2 := by
    refine ⟨pre1 ++ pre2 ++ pre3 ++ (s3.take (addressLength.toNat + 2)), ?_⟩
    rw [List.drop_drop]
    simp only [List.append_assoc, List.take_append_drop]
  obtain ⟨lead, hlead⟩ := hsuffix
  obtain ⟨last, hlast, hpos, _⟩ := varint2int_rest h4
  rw [List.append_nil] at hlast
  obtain ⟨pre, l, hpl⟩ : ∃ pre l, last = pre ++ [l] :=
    ⟨last.dropLast, last.getLast (by intro e; simp [e] at hpos),
      (List.dropLast_append_getLast _).symm⟩
  rw [hlead, hlast, hpl, byteAt_append_last] at hi
  obtain ⟨hl, hl0⟩ := frameIntent_some hi
  rw [hlast, hpl, varint2int_complete_iff] at h4
  have hval := ungroup_last h4 hl0 hn
  apply UInt32.toNat_inj.mp
  rw [hval, hl, UInt8.toNat_toUInt32]

/-! ## 3. The frames of a complete packet -/

theorem byteAt_take {i k : Nat} (h : i < k) : byteAt (s.take k) i = byteAt s i := by
  unfold byteAt
  rw [List.getD_eq_getElem?_getD, List.getD_eq_getElem?_getD, List.getElem?_take_of_lt h]

/-- The first frame of a MODERN2 buffer, cut out, is identified as the buffer is. -/
theorem protocolIdentify_take {s cursor : Bytes} {frameSize : Varint}
    (h : protocolIdentify s = (.modern2, intent))
    (hv : varint2int s = .complete frameSize cursor) (hne : frameSize ≠ 0)
    (hlen : frameSize.toNat ≤ cursor.length) :
    protocolIdentify (s.take (s.length - cursor.length + frameSize.toNat)) =
      (.modern2, intent) := by
  obtain ⟨_, h1, h2, hping, version, hver, hframe⟩ := protocolIdentify_modern2 h
  obtain ⟨pre, hs, hpos, _⟩ := varint2int_rest hv
  have hsize : frameSize.toNat ≠ 0 := fun e => hne (UInt32.toNat_inj.mp e)
  have hslen : s.length = pre.length + cursor.length := by rw [hs, List.length_append]
  generalize hF : s.length - cursor.length + frameSize.toNat = F
  have hFle : F ≤ s.length := by omega
  have hcut : varint2int (s.take F) = .complete frameSize (cursor.take frameSize.toNat) := by
    rw [varint2int_take hv (by omega), ← hF, Nat.add_sub_cancel_left]
  have hframe' : modernFrame (s.take F) = some (version, intent) := by
    rw [← hframe, ← modernFrame_append hcut (by rw [List.length_take]; omega) (s.drop F),
      List.take_append_drop]
  have hmodern : identifyModern (s.take F) = (.modern2, intent) := by
    unfold identifyModern
    rw [hframe']
    simp only [hver, ne_eq, not_false_eq_true, if_true]
  have hlenF : (s.take F).length = F := by rw [List.length_take]; omega
  have hb0 : byteAt (s.take F) 0 = byteAt s 0 := byteAt_take (by omega)
  unfold protocolIdentify
  rw [hlenF, hb0, if_neg (by omega : ¬ F = 0), if_neg h1, if_neg h2]
  split
  · rename_i hfe
    -- `FE` continues the varint, so the cut keeps three bytes
    have hF3 : 3 ≤ F := by
      cases s with
      | nil =>
        simp at hslen
        omega
      | cons b tail =>
        have hb : b = 0xFE := hfe
        have := ungroup_complete_two (varint2int_complete_iff.mp hv) (by rw [hb]; decide)
        simp only [List.length_cons] at hslen hF
        omega
    rw [if_neg (by omega), if_neg (by omega), byteAt_take (by omega), byteAt_take (by omega),
      if_neg (hping hfe)]
    exact hmodern
  · exact hmodern

/-- The frames of a complete MODERN2 packet: it ends with the first frame for a status request and
    with the second one otherwise. -/
theorem packetLength_modern2 {s cursor : Bytes} {n : Nat} {frameSize : Varint}
    (hn : packetLength s = (.complete, n)) (hid : protocolIdentify s = (.modern2, intent))
    (hv : varint2int s = .complete frameSize cursor) (hne : frameSize ≠ 0)
    (hlen : frameSize.toNat ≤ cursor.length) :
    n = s.length - cursor.length + frameSize.toNat ∧ intent = .status ∨
      ∃ size2 cursor2, varint2int (cursor.drop frameSize.toNat) = .complete size2 cursor2 ∧
        size2.toNat ≤ cursor2.length ∧
        n = s.length - cursor2.length + size2.toNat := by
  obtain ⟨pre, hs, hpos, _⟩ := varint2int_rest hv
  have hslen : s.length = pre.length + cursor.length := by rw [hs, List.length_append]
  have hdrop : s.drop (s.length - cursor.length + frameSize.toNat) =
      cursor.drop frameSize.toNat := by
    have e : s.length - cursor.length + frameSize.toNat = pre.length + frameSize.toNat := by omega
    rw [e, hs, List.drop_append]
    simp
  rw [(protocolIdentify_modern2 hid).1, packetLengthModern, hv] at hn
  simp only [protocolIdentify_take hid hv hne hlen] at hn
  split at hn
  · cases hn
  split at hn
  · cases hn
  split at hn
  · rename_i h
    cases h
  split at hn
  · rename_i h
    left
    simp only [reduceCtorEq, false_or] at h
    simp only [Prod.mk.injEq, true_and] at hn
    exact ⟨hn.symm, h⟩
  · right
    rw [packetLengthSecond, hdrop] at hn
    split at hn
    · cases hn
    · cases hn
    · rename_i size2 cursor2 hv2
      obtain ⟨pre2, hs2, _, _⟩ := varint2int_rest hv2
      have hclen : (cursor.drop frameSize.toNat).length = pre2.length + cursor2.length := by
        rw [hs2, List.length_append]
      have hdl : (cursor.drop frameSize.toNat).length = cursor.length - frameSize.toNat :=
        List.length_drop
      simp only [] at hn
      split at hn
      · cases hn
      simp only [Prod.mk.injEq, ite_eq_right_iff, reduceCtorEq, imp_false, not_lt] at hn
      exact ⟨size2, cursor2, hv2, by omega, by omega⟩

/-- **The reader stays inside the first packet** of a MODERN2 buffer. -/
theorem packetRead_take {n : Nat}
    (hn : packetLength s = (.complete, n)) (hid : protocolIdentify s = (.modern2, intent)) :
    packetRead s = packetRead (s.take n) := by
  obtain ⟨_, _, _, _, version, _, hframe⟩ := protocolIdentify_modern2 hid
  obtain ⟨frameSize, cursor, s1, s2, hv, hne, hlen, _, _, _, hi⟩ := modernFrame_some hframe
  obtain ⟨pre, hs, hpos, _⟩ := varint2int_rest hv
  have hslen : s.length = pre.length + cursor.length := by rw [hs, List.length_append]
  have hcases := packetLength_modern2 hn hid hv hne hlen
  have hdl : (cursor.drop frameSize.toNat).length = cursor.length - frameSize.toNat :=
    List.length_drop
  have hge : pre.length + frameSize.toNat ≤ n := by
    rcases hcases with ⟨e, _⟩ | ⟨size2, cursor2, hv2, hlen2, e⟩
    · omega
    · obtain ⟨pre2, hs2, _, _⟩ := varint2int_rest hv2
      have := congrArg List.length hs2
      rw [List.length_append] at this
      omega
  have hcut := varint2int_take hv (k := n) (by omega)
  have he : s.length - cursor.length = pre.length := by omega
  rw [he] at hcut
  conv_lhs => rw [← List.take_append_drop n s]
  refine packetRead_append hcut (by rw [List.length_take]; omega) ?_ (s.drop n)
  rw [List.take_take, Nat.min_eq_left (by omega)]
  intro h hp hopen
  rcases hcases with ⟨_, rfl⟩ | ⟨size2, cursor2, hv2, hlen2, e⟩
  · -- a status request: the reader would have decoded another next state than the intent
    have hsmall : h.nextstate.toNat < 128 := by
      rcases hopen with e | e <;> rw [e] <;> decide
    have := packetReadPart1_intent hp hi hsmall
    rw [this] at hopen
    exact absurd hopen (by decide)
  · obtain ⟨pre2, hs2, _, _⟩ := varint2int_rest hv2
    have hclen := congrArg List.length hs2
    rw [List.length_append] at hclen
    have hcut2 := varint2int_take hv2 (k := n - (pre.length + frameSize.toNat)) (by omega)
    rw [← Nat.sub_sub, ← List.drop_take] at hcut2
    exact ⟨size2, _, hcut2, by rw [List.length_take]; omega⟩

/-- **The three parsers agree** on every complete MODERN2 buffer. -/
theorem packetRead_agrees (s : Bytes) (n : Nat) (intent : Intent)
    (hn : packetLength s = (.complete, n)) (hid : protocolIdentify s = (.modern2, intent)) :
    packetRead s = packetRead (s.take n) ∧
      ∀ h, packetRead s = some h →
        h.idPart1 = 0 ∧ h.version ≠ 0 ∧ modernFrame s = some (h.version, intent) ∧
        (h.nextstate = Intent.status.toByte.toUInt32 ∨ h.nextstate = Intent.login.toByte.toUInt32 ∨
            h.nextstate = Intent.transfer.toByte.toUInt32 →
          h.nextstate = intent.toByte.toUInt32) := by
  refine ⟨packetRead_take hn hid, fun h hr => ?_⟩
  obtain ⟨_, _, _, _, version, hver, hframe⟩ := protocolIdentify_modern2 hid
  obtain ⟨frameSize, cursor, s1, s2, hv, hne, hlen, hpid, hpver, _, hi⟩ := modernFrame_some hframe
  obtain ⟨size, cursor', h1, hv', hlen', hp, eid, ever, enext, _⟩ := packetRead_some hr
  rw [hv] at hv'
  cases hv'
  obtain ⟨t1, t2, _, _, r1, r2, _⟩ := packetReadPart1_some hp
  rw [hpid, Read.complete.injEq] at r1
  obtain ⟨rid, rfl⟩ := r1
  rw [hpver, Read.complete.injEq] at r2
  obtain ⟨rver, _⟩ := r2
  rw [eid, ever, enext, ← rid, ← rver]
  refine ⟨rfl, hver, hframe, fun hthree => ?_⟩
  refine packetReadPart1_intent hp hi ?_
  rcases hthree with e | e | e <;> rw [e] <;> decide

/-- A version 5 login of `b` for host `a`, with one byte of the next packet behind it. -/
theorem packetRead_agrees_login :
    packetRead [0x07, 0x00, 0x05, 0x01, 0x61, 0x63, 0xDD, 0x02, 0x03, 0x00, 0x01, 0x62, 0xFF] =
        packetRead [0x07, 0x00, 0x05, 0x01, 0x61, 0x63, 0xDD, 0x02, 0x03, 0x00, 0x01, 0x62] ∧
      (packetRead [0x07, 0x00, 0x05, 0x01, 0x61, 0x63, 0xDD, 0x02, 0x03, 0x00, 0x01, 0x62,
        0xFF]).isSome = true :=
  ⟨(packetRead_agrees [0x07, 0x00, 0x05, 0x01, 0x61, 0x63, 0xDD, 0x02, 0x03, 0x00, 0x01, 0x62, 0xFF]
    12 .login (by decide) (by decide)).1, by decide⟩

end MinecraftRelay
