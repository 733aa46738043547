/-
  File:      Protocol/Rewrite.lean
  Subject:   Decoding a login and encoding it again: when `packet_write` gives back the bytes
             `packet_read` took apart.

  The relay decodes the handshake and the login start of a client and writes them to the backend,
  with address and port replaced or not. With nothing replaced the bytes should come back as they
  were. The reader drops a leading 1 of the login data of old versions when it finds one; the writer
  puts a 1 in front of any login data of old versions.

  * `LoginWire` -- two frames with shortest varints, spelled out; `packetRead_bytes` decodes them;
  * `LoginWire.Transparent` -- when the marker survives and the staging buffer holds the data;
  * `packetWrite_packetRead_iff` -- exactly then the bytes come back.
-/
import MinecraftRelay.Protocol.Handshake

namespace MinecraftRelay

open Groups

/-! ## 1. Two frames with shortest varints -/

/-- The fields of a handshake frame and a login frame, each frame short enough for its length
    varint. `loginData` is every byte behind the username. -/
structure LoginWire where
  idPart1 : Varint
  version : Varint
  wireAddress : Bytes
  port : UInt16
  nextstate : Varint
  idPart2 : Varint
  username : Bytes
  loginData : Bytes
  part1_fits : (int2varint idPart1 ++ int2varint version ++
    int2varint (UInt32.ofNat wireAddress.length) ++ wireAddress ++ uint16Write port ++
    int2varint nextstate).length < 2 ^ 32
  part2_fits : (int2varint idPart2 ++ int2varint (UInt32.ofNat username.length) ++ username ++
    loginData).length < 2 ^ 32

namespace LoginWire

variable (w : LoginWire)

/-- The handshake frame without its length. -/
def part1 : Bytes :=
  int2varint w.idPart1 ++ int2varint w.version ++ int2varint (UInt32.ofNat w.wireAddress.length) ++
    w.wireAddress ++ uint16Write w.port ++ int2varint w.nextstate

/-- The login frame without its length. -/
def part2 : Bytes :=
  int2varint w.idPart2 ++ int2varint (UInt32.ofNat w.username.length) ++ w.username ++ w.loginData

/-- The packet: exactly its two frames. -/
def bytes : Bytes := packetFrame w.part1 ++ packetFrame w.part2

/-- When the login data survives: new versions carry it as it is; old ones carry none, or a leading
    1 with something behind it; and what is left of it fits the staging buffer. -/
def Transparent : Prop :=
  (marksLoginData w.version → w.loginData = [] ∨
    (byteAt w.loginData 0 = 1 ∧ 2 ≤ w.loginData.length))
    ∧ w.loginData.length ≤ bufsiz - w.username.length - 8 +
      (if marksLoginData w.version then 1 else 0)

instance : Decidable w.Transparent := inferInstanceAs (Decidable ((_ → _ ∨ (_ ∧ _)) ∧ _))

theorem part1_lt : w.part1.length < 2 ^ 32 := w.part1_fits

theorem part2_lt : w.part2.length < 2 ^ 32 := w.part2_fits

theorem wireAddress_lt : w.wireAddress.length < 2 ^ 32 := by
  have h := w.part1_fits
  simp only [List.length_append] at h
  omega

theorem username_lt : w.username.length < 2 ^ 32 := by
  have h := w.part2_fits
  simp only [List.length_append] at h
  omega

end LoginWire

/-! ## 2. Reading what was written -/

theorem readVarint_int2varint (v : Varint) (t : Bytes) :
    readVarint (int2varint v ++ t) = some (v, t) :=
  readVarint_eq_some.mpr (varint2int_int2varint v t)

theorem ofNat_toNat_of_lt {n : Nat} (h : n < 2 ^ 32) : (UInt32.ofNat n).toNat = n := by
  exact Nat.mod_eq_of_lt h

theorem uint16Read_uint16Write (p : UInt16) (t : Bytes) :
    uint16Read (uint16Write p ++ t) 0 = p := by
  have hp := p.toNat_lt
  unfold uint16Read uint16Write byteAt
  simp only [List.cons_append, List.nil_append, List.getD_cons_zero, List.getD_cons_succ, zero_add]
  apply UInt16.toNat_inj.mp
  rw [UInt16.toNat_ofNat', UInt8.toNat_ofNat', UInt8.toNat_ofNat']
  omega

variable (w : LoginWire)

/-- The handshake the reader builds from the first frame. -/
def wireHandshake : PHandshake where
  idPart1 := w.idPart1
  idPart2 := 0
  nextstate := w.nextstate
  version := w.version
  address := w.wireAddress.take ((addressExtraStart w.wireAddress).getD w.wireAddress.length)
  addressExtra := w.wireAddress.drop ((addressExtraStart w.wireAddress).getD w.wireAddress.length)
  username := none
  signatureData := []
  port := w.port

/-- The signature data the reader keeps. -/
def wireSignature : Bytes :=
  if w.loginData ≠ [] ∧ marksLoginData w.version ∧ byteAt w.loginData 0 = 1 then w.loginData.drop 1
  else w.loginData

theorem packetReadPart1_wire : packetReadPart1 w.part1 =
    if w.wireAddress.length > addressMaxLen ∨ w.wireAddress = [] then none
    else some (wireHandshake w) := by
  have hlen := ofNat_toNat_of_lt w.wireAddress_lt
  have hzero : UInt32.ofNat w.wireAddress.length = 0 ↔ w.wireAddress = [] := by
    rw [← UInt32.toNat_inj, hlen]
    simp
  have hport : ¬ (uint16Write w.port ++ int2varint w.nextstate).length < 2 := by
    simp [uint16Write]
  have hdrop : (uint16Write w.port ++ int2varint w.nextstate).drop 2 = int2varint w.nextstate := rfl
  have hnext : readVarint (int2varint w.nextstate) = some (w.nextstate, []) := by
    simpa using readVarint_int2varint w.nextstate []
  have hshort : ¬ (w.wireAddress ++ (uint16Write w.port ++ int2varint w.nextstate)).length <
      w.wireAddress.length := by
    rw [List.length_append]
    omega
  simp only [LoginWire.part1, packetReadPart1, List.append_assoc, readVarint_int2varint,
    Option.bind_eq_bind, Option.bind_some, hlen, hzero, if_neg hshort, List.take_left,
    List.drop_left, if_neg hport, hdrop, hnext, uint16Read_uint16Write, ne_eq, not_true_eq_false,
    if_false, wireHandshake]
  by_cases h1 : w.wireAddress.length > addressMaxLen
  · simp [h1]
  · by_cases h2 : w.wireAddress = []
    · simp [h2]
    · simp [h1, h2]

theorem packetReadPart2_wire (result : PHandshake)
    (hv : result.version = w.version) : packetReadPart2 result (packetFrame w.part2) =
    if w.username.length > usernameMaxLen then none
    else some { result with
      idPart2 := w.idPart2
      username := some w.username
      signatureData := wireSignature w } := by
  have hlen2 := ofNat_toNat_of_lt w.part2_lt
  have hlen := ofNat_toNat_of_lt w.username_lt
  have hframe : readVarint (packetFrame w.part2) =
      some (UInt32.ofNat w.part2.length, w.part2) := readVarint_int2varint _ _
  have hshort : ¬ (w.username ++ w.loginData).length < w.username.length := by
    rw [List.length_append]
    omega
  simp only [packetReadPart2, hframe, Option.bind_eq_bind, Option.bind_some, hlen2,
    lt_irrefl, if_false, List.take_length]
  simp only [LoginWire.part2, List.append_assoc, readVarint_int2varint, Option.bind_some, hlen,
    if_neg hshort, List.take_left, List.drop_left, wireSignature, hv]

/-- The handshake the reader builds from both frames. -/
def wireLogin : PHandshake :=
  { wireHandshake w with
    idPart2 := w.idPart2
    username := some w.username
    signatureData := wireSignature w }

/-- How the reader goes on behind the handshake frame. -/
theorem packetRead_frame (t : Bytes) : packetRead (packetFrame w.part1 ++ t) =
    if w.wireAddress.length > addressMaxLen ∨ w.wireAddress = [] then none
    else if opensLogin w.nextstate then packetReadPart2 (wireHandshake w) t
    else some (wireHandshake w) := by
  have hlen1 := ofNat_toNat_of_lt w.part1_lt
  have hframe : readVarint (packetFrame w.part1 ++ t) =
      some (UInt32.ofNat w.part1.length, w.part1 ++ t) := by
    rw [packetFrame, List.append_assoc]
    exact readVarint_int2varint _ _
  have hshort : ¬ (w.part1 ++ t).length < w.part1.length := by
    rw [List.length_append]
    omega
  simp only [packetRead, hframe, Option.bind_eq_bind, Option.bind_some, hlen1, if_neg hshort,
    List.take_left, List.drop_left, packetReadPart1_wire]
  split
  · rfl
  · rfl

/-- **How the reader decodes two frames with shortest varints.** -/
theorem packetRead_bytes : packetRead w.bytes =
    if w.wireAddress.length > addressMaxLen ∨ w.wireAddress = [] then none
    else if opensLogin w.nextstate then
      if w.username.length > usernameMaxLen then none else some (wireLogin w)
    else some (wireHandshake w) := by
  rw [LoginWire.bytes, packetRead_frame, packetReadPart2_wire w _ rfl]
  rfl

theorem packetRead_wire {w : LoginWire} {h : PHandshake} (hr : packetRead w.bytes = some h)
    (hopen : opensLogin h.nextstate) :
    opensLogin w.nextstate ∧ w.wireAddress.length ≤ addressMaxLen ∧ w.wireAddress ≠ [] ∧
      w.username.length ≤ usernameMaxLen ∧ h = wireLogin w := by
  rw [packetRead_bytes] at hr
  split at hr
  · cases hr
  rename_i haddr
  simp only [not_or] at haddr
  split at hr
  · rename_i hopen'
    split at hr
    · cases hr
    exact ⟨hopen', by omega, haddr.2, by omega, (Option.some.inj hr).symm⟩
  · rename_i hclosed
    cases hr
    exact absurd hopen hclosed

/-! ## 3. Writing it again -/

/-- The cut of a wire address: no NUL before it, and a NUL or `?` at it. -/
theorem addressExtraStart_spec (a : Bytes) :
    (0 : UInt8) ∉ a.take ((addressExtraStart a).getD a.length) ∧
      (a.drop ((addressExtraStart a).getD a.length) ≠ [] →
        byteAt (a.drop ((addressExtraStart a).getD a.length)) 0 = 0 ∨
        byteAt (a.drop ((addressExtraStart a).getD a.length)) 0 = questionMark) := by
  -- at a found index the list continues with the byte that was looked for
  have hat : ∀ (b : UInt8) (i : Nat), a.idxOf? b = some i → byteAt (a.drop i) 0 = b := by
    intro b i hi
    rw [List.idxOf?_eq_some_iff] at hi
    obtain ⟨hlt, hb, _⟩ := hi
    unfold byteAt
    rw [List.getD_eq_getElem?_getD, List.getElem?_drop, Nat.add_zero,
      List.getElem?_eq_getElem hlt, Option.getD_some]
    exact hb
  have hbefore : ∀ (i j : Nat), a.idxOf? 0 = some i → j ≤ i → (0 : UInt8) ∉ a.take j := by
    intro i j hi hj hmem
    rw [List.idxOf?_eq_some_iff] at hi
    obtain ⟨_, _, hne⟩ := hi
    obtain ⟨k, hk, hk0⟩ := List.mem_iff_getElem.mp hmem
    rw [List.length_take] at hk
    rw [List.getElem_take] at hk0
    exact hne k (by omega) hk0
  have hnone : ∀ j, a.idxOf? 0 = none → (0 : UInt8) ∉ a.take j := by
    intro j hn hmem
    rw [List.idxOf?_eq_none_iff] at hn
    exact hn (List.mem_of_mem_take hmem)
  unfold addressExtraStart
  cases hz : a.idxOf? 0 with
  | none =>
    refine ⟨hnone _ hz, ?_⟩
    cases hq : a.idxOf? questionMark with
    | none => simp
    | some q => exact fun _ => Or.inr (hat _ _ hq)
  | some z =>
    cases hq : a.idxOf? questionMark with
    | none => exact ⟨hbefore z z hz le_rfl, fun _ => Or.inl (hat _ _ hz)⟩
    | some q =>
      simp only
      split
      · rename_i hlt
        exact ⟨hbefore z q hz (Nat.le_of_lt hlt), fun _ => Or.inr (hat _ _ hq)⟩
      · exact ⟨hbefore z z hz le_rfl, fun _ => Or.inl (hat _ _ hz)⟩

section Written

variable {w : LoginWire} {h : PHandshake}

/-- The writer accepts the address and stages the handshake frame unchanged. -/
theorem packetPart1_wire (haddr : w.wireAddress.length ≤ addressMaxLen)
    (ha : h.address = (wireHandshake w).address)
    (he : h.addressExtra = (wireHandshake w).addressExtra) (hp : h.port = w.port)
    (hid : h.idPart1 = w.idPart1) (hv : h.version = w.version) (hn : h.nextstate = w.nextstate) :
    ¬ addressRefused h ∧ packetPart1 h = w.part1 := by
  obtain ⟨hnul, hextra⟩ := addressExtraStart_spec w.wireAddress
  have hc : cString h.address = h.address := cString_of_not_mem (by rw [ha]; exact hnul)
  have hjoin : h.address ++ h.addressExtra = w.wireAddress := by
    rw [ha, he]
    exact List.take_append_drop _ _
  have hlen : h.address.length + h.addressExtra.length = w.wireAddress.length := by
    rw [← hjoin, List.length_append]
  constructor
  · unfold addressRefused
    rw [hc]
    rintro (h1 | h1 | ⟨h1, h2, h3⟩)
    · omega
    · omega
    · rw [he] at h1 h2 h3
      rcases hextra h1 with e | e
      · exact h2 e
      · exact h3 e
  · unfold packetPart1 LoginWire.part1
    simp only [hc, hlen, hp, hid, hv, hn, List.append_assoc]
    rw [← List.append_assoc h.address, hjoin]

/-- What the writer puts behind the username. -/
def writtenData (w : LoginWire) : Bytes :=
  if wireSignature w ≠ [] then
    (if marksLoginData w.version then int2varint 1 else []) ++ wireSignature w
  else []

/-- The marker survives exactly when it is not there, or is a 1 with data behind it. -/
theorem writtenData_eq_iff (w : LoginWire) : writtenData w = w.loginData ↔
    (marksLoginData w.version →
      w.loginData = [] ∨ (byteAt w.loginData 0 = 1 ∧ 2 ≤ w.loginData.length)) := by
  have hone : int2varint 1 = [1] := by decide
  unfold writtenData wireSignature
  rw [hone]
  by_cases hm : marksLoginData w.version
  · cases hd : w.loginData with
    | nil => simp
    | cons b rest =>
      by_cases hb : b = 1
      · subst hb
        cases rest with
        | nil => simp [hm, byteAt]
        | cons c rest => simp [hm, byteAt]
      · simp only [ne_eq, reduceCtorEq, not_false_eq_true, hm, byteAt, List.getD_cons_zero, hb,
          and_false, if_false, if_true, List.singleton_append, false_and, or_false, imp_false,
          not_true_eq_false, iff_false]
        -- the writer has put one more byte in front
        intro e
        have := congrArg List.length e
        simp at this
  · cases hd : w.loginData with
    | nil => simp
    | cons b rest => simp [hm]

/-- What is left of transparent login data, against the staging limit. -/
theorem wireSignature_length_le_iff (w : LoginWire) (n : Nat) (ht : marksLoginData w.version →
      w.loginData = [] ∨ (byteAt w.loginData 0 = 1 ∧ 2 ≤ w.loginData.length)) :
    (wireSignature w).length ≤ n ↔
      w.loginData.length ≤ n + (if marksLoginData w.version then 1 else 0) := by
  unfold wireSignature
  by_cases hm : marksLoginData w.version
  · rcases ht hm with hd | ⟨hb, hlen⟩
    · simp [hd]
    · have hne : w.loginData ≠ [] := by
        intro e
        rw [e] at hlen
        simp at hlen
      rw [if_pos ⟨hne, hm, hb⟩, if_pos hm, List.length_drop]
      omega
  · simp [hm]

theorem packetFrame_inj {a b : Bytes} :
    packetFrame a = packetFrame b ↔ a = b := by
  constructor
  · intro e
    have h1 := varint2int_int2varint (UInt32.ofNat a.length) a
    have h2 := varint2int_int2varint (UInt32.ofNat b.length) b
    unfold packetFrame at e
    rw [e, h2] at h1
    simp only [Read.complete.injEq] at h1
    exact h1.2.symm
  · rintro rfl
    rfl

end Written

/-! ## 4. When the bytes come back -/

/-- **A decoded login is written back byte for byte exactly when its login data is transparent**:
    for every version, every login data and every username without NUL, with room for the packet. -/
theorem packetWrite_packetRead_iff (w : LoginWire) (h : PHandshake) (dstCapacity : Nat)
    (hr : packetRead w.bytes = some h) (hopen : opensLogin h.nextstate)
    (hnul : (0 : UInt8) ∉ w.username) (hcap : w.bytes.length ≤ dstCapacity) :
    packetWrite dstCapacity h = some w.bytes ↔ w.Transparent := by
  obtain ⟨hopen', haddr, _, huser, rfl⟩ := packetRead_wire hr hopen
  generalize hh : wireLogin w = h at hr hopen ⊢
  obtain ⟨hacc, hp1⟩ :=
    packetPart1_wire (w := w) (h := h) haddr (by rw [← hh]; rfl) (by rw [← hh]; rfl)
    (by rw [← hh]; rfl) (by rw [← hh]; rfl) (by rw [← hh]; rfl) (by rw [← hh]; rfl)
  have hname : loginUsername h =
      if (wireSignature w).length > bufsiz - w.username.length - 8 then none
      else some w.username := by
    unfold loginUsername
    rw [if_pos hopen, ← hh]
    simp only [wireLogin, Option.bind_some, cString_of_not_mem hnul, not_lt.mpr huser, gt_iff_lt,
      false_or]
  have hp2 : packetPart2 h w.username = int2varint w.idPart2 ++
      int2varint (UInt32.ofNat w.username.length) ++ w.username ++ writtenData w := by
    unfold packetPart2 writtenData
    rw [if_pos hopen, ← hh]
    simp only [List.append_assoc]
    rfl
  have hp2eq : packetPart2 h w.username = w.part2 ↔ writtenData w = w.loginData := by
    rw [hp2, LoginWire.part2, List.append_cancel_left_eq]
  have hsize : w.bytes.length = varintSize (UInt32.ofNat w.part1.length) + w.part1.length +
      varintSize (UInt32.ofNat w.part2.length) + w.part2.length := by
    simp only [LoginWire.bytes, packetFrame, List.length_append, varintSize_eq]
    omega
  unfold packetWrite LoginWire.Transparent
  rw [if_neg hacc, hname, hp1]
  constructor
  · intro hw
    split at hw
    · cases hw
    simp only [Option.bind_some] at hw
    split at hw
    · cases hw
    simp only [Option.some.injEq, LoginWire.bytes, List.append_cancel_left_eq, packetFrame_inj,
      hp2eq] at hw
    have ht := (writtenData_eq_iff w).mp hw
    exact ⟨ht, (wireSignature_length_le_iff w _ ht).mp (by omega)⟩
  · rintro ⟨ht, hlen⟩
    have hfit := (wireSignature_length_le_iff w _ ht).mpr hlen
    have hpart2 : packetPart2 h w.username = w.part2 :=
      hp2eq.mpr ((writtenData_eq_iff w).mpr ht)
    rw [if_neg (by omega)]
    simp only [Option.bind_some, hpart2]
    rw [if_neg (by omega)]
    rfl

/-- A 1.19.2 login of `b` for host `a` that carries no signature: its login data is one zero. -/
def unsignedLogin : LoginWire where
  idPart1 := 0
  version := 760
  wireAddress := [0x61]
  port := 25565
  nextstate := 2
  idPart2 := 0
  username := [0x62]
  loginData := [0x00]
  part1_fits := by decide
  part2_fits := by decide

/-- The same login with one byte of login data behind its leading 1. -/
def signedLogin : LoginWire := { unsignedLogin with
  loginData := [0x01, 0x07]
  part2_fits := by decide }

/-- A signed login comes back. -/
theorem packetWrite_packetRead_iff_signed :
    ∃ h, packetRead signedLogin.bytes = some h ∧
      (packetWrite 64 h = some signedLogin.bytes ↔ signedLogin.Transparent) :=
  ⟨_, rfl, packetWrite_packetRead_iff signedLogin _ 64 rfl (by decide) (by decide) (by decide)⟩

/-- The unsigned login gets a marker in front of its zero. -/
theorem packetWrite_marks_unsigned :
    ∃ h, packetRead unsignedLogin.bytes = some h ∧ opensLogin h.nextstate ∧
      packetWrite 64 h = some (packetFrame unsignedLogin.part1 ++
        packetFrame [0x00, 0x01, 0x62, 0x01, 0x00]) ∧
      packetWrite 64 h ≠ some unsignedLogin.bytes :=
  ⟨_, rfl, by decide, by decide, by decide⟩

end MinecraftRelay
