/-
  File:      Base64.lean
  Subject:   BASE64 (src/basic.c): `base64_encode` into a buffer of any size, and its inverse.

  * `base64EncodeInto` -- the function, block by block; `base64Decode` -- standard base64;
  * `base64Blocks_eq` -- the loop writes the text of the bytes it reads, and reads no other;
  * `base64Decode_encode` -- the text is decoded to these bytes.
-/
import MinecraftRelay.Config.Read

namespace MinecraftRelay

/-! ## 1. The function -/

section

variable (src : Bytes) (fullBlocks remainder : Nat)

/-- One turn of the loop. -/
def base64Block (i : Nat) : Bytes :=
  let s := i * 3
  let b0 := src.getD s 0
  let b1 := if i < fullBlocks ∨ remainder > 1 then src.getD (s + 1) 0 else 0
  let b2 := if i < fullBlocks then src.getD (s + 2) 0 else 0
  [base64Digit ((b0 &&& 0xFC) >>> 2),
    base64Digit (((b0 &&& 0x03) <<< 4) ||| ((b1 &&& 0xF0) >>> 4)),
    if i < fullBlocks ∨ remainder > 1 then
      base64Digit (((b1 &&& 0x0F) <<< 2) ||| ((b2 &&& 0xC0) >>> 6)) else 61,
    if i < fullBlocks then base64Digit (b2 &&& 0x3F) else 61]

/-- The loop. -/
def base64Blocks (totalBlocks : Nat) : Bytes :=
  (List.range totalBlocks).flatMap (base64Block src fullBlocks remainder)

end

/-- `base64_encode`: what it writes to `dst`; the length of this is what it returns. No object is so
    large that `total_blocks * 4` wraps. -/
def base64EncodeInto (dstCap : Nat) (src : Bytes) : Bytes :=
  if dstCap = 0 ∨ src.length = 0 then []
  else
    let fullBlocks := src.length / 3
    let remainder := src.length % 3
    let totalBlocks := fullBlocks + if remainder > 0 then 1 else 0
    if dstCap < totalBlocks * 4 then base64Blocks src (dstCap / 4) 0 (dstCap / 4)
    else base64Blocks src fullBlocks remainder totalBlocks

/-- The value of a character of the standard alphabet. -/
def base64Value (c : UInt8) : Option UInt8 :=
  if 65 ≤ c ∧ c ≤ 90 then some (c - 65)
  else if 97 ≤ c ∧ c ≤ 122 then some (c - 71)
  else if 48 ≤ c ∧ c ≤ 57 then some (c + 4)
  else if c = 43 then some 62
  else if c = 47 then some 63
  else none

/-- Standard decoding: four characters make three bytes; in the last group one or two `=` stand for
    as many bytes less, and no bit that is left over is set. -/
def base64Decode : Bytes → Option Bytes
  | [] => some []
  | c0 :: c1 :: c2 :: c3 :: rest => do
    let v0 ← base64Value c0
    let v1 ← base64Value c1
    if c2 = 61 ∧ c3 = 61 ∧ rest = [] then
      guard (v1 &&& 0x0F = 0)
      pure [(v0 <<< 2) ||| (v1 >>> 4)]
    else
      let v2 ← base64Value c2
      if c3 = 61 ∧ rest = [] then
        guard (v2 &&& 0x03 = 0)
        pure [(v0 <<< 2) ||| (v1 >>> 4), (v1 <<< 4) ||| (v2 >>> 2)]
      else
        let v3 ← base64Value c3
        let tail ← base64Decode rest
        pure ([(v0 <<< 2) ||| (v1 >>> 4), (v1 <<< 4) ||| (v2 >>> 2), (v2 <<< 6) ||| v3] ++ tail)
  | _ => none

/-! ## 2. One group -/

/-- A character stands for its index, and is no `=`. -/
theorem base64Value_digit : ∀ v : UInt8, v < 64 →
    base64Value (base64Digit v) = some v ∧ base64Digit v ≠ 61 :=
  forall_byte (by decide +kernel)

/-- The parts of a byte: as they are cut out, and as they are put together. -/
theorem byte_parts : ∀ b : UInt8,
    ((b &&& 0xFC) >>> 2 < 64 ∧ (b &&& 0x03) <<< 4 < 64 ∧ (b &&& 0xF0) >>> 4 < 64) ∧
    ((b &&& 0x0F) <<< 2 < 64 ∧ (b &&& 0xC0) >>> 6 < 64 ∧ b &&& 0x3F < 64) ∧
    ((b &&& 0xF0) >>> 4 >>> 4 = 0 ∧ (b &&& 0x03) <<< 4 <<< 4 = 0 ∧ (b &&& 0xC0) >>> 6 >>> 2 = 0 ∧
      (b &&& 0x0F) <<< 2 <<< 6 = 0 ∧ (b &&& 0x03) <<< 4 &&& 0x0F = 0 ∧
        (b &&& 0x0F) <<< 2 &&& 0x03 = 0) ∧
    (b &&& 0xFC) >>> 2 <<< 2 ||| (b &&& 0x03) <<< 4 >>> 4 = b ∧
    (b &&& 0xF0) >>> 4 <<< 4 ||| (b &&& 0x0F) <<< 2 >>> 2 = b ∧
    (b &&& 0xC0) >>> 6 <<< 6 ||| b &&& 0x3F = b :=
  forall_byte (by decide +kernel)

theorem or_lt_64 {x y : UInt8} (hx : x < 64) (hy : y < 64) : x ||| y < 64 := by
  rw [UInt8.lt_iff_toNat_lt] at hx hy ⊢
  rw [UInt8.toNat_or]
  exact Nat.or_lt_two_pow (n := 6) hx hy

/-- **The text of a byte string is decoded to it**, group after group. -/
theorem base64Decode_encode (src : Bytes) : base64Decode (base64Encode src) = some src := by
  fun_induction base64Encode src with
  | case1 b0 b1 b2 rest ih =>
    obtain ⟨⟨l0, r0, _⟩, _, ⟨_, z0, _⟩, e0, _⟩ := byte_parts b0
    obtain ⟨⟨_, _, l1⟩, ⟨r1, _⟩, ⟨y1, _, _, z1, _⟩, _, e1, _⟩ := byte_parts b1
    obtain ⟨_, ⟨_, l2, r2⟩, ⟨_, _, y2, _⟩, _, _, e2⟩ := byte_parts b2
    have h0 := base64Value_digit _ l0
    have h1 := base64Value_digit _ (or_lt_64 r0 l1)
    have h2 := base64Value_digit _ (or_lt_64 r1 l2)
    have h3 := base64Value_digit _ r2
    simp [base64Decode, h0, h1, h2, h3, ih, UInt8.shiftLeft_or, UInt8.shiftRight_or, y1, y2, z0, z1,
      e0, e1, e2]
  | case2 b0 b1 =>
    obtain ⟨⟨l0, r0, _⟩, _, ⟨_, z0, _⟩, e0, _⟩ := byte_parts b0
    obtain ⟨⟨_, _, l1⟩, ⟨r1, _⟩, ⟨y1, _, _, _, _, g1⟩, _, e1, _⟩ := byte_parts b1
    have h0 := base64Value_digit _ l0
    have h1 := base64Value_digit _ (or_lt_64 r0 l1)
    have h2 := base64Value_digit _ r1
    simp [base64Decode, h0, h1, h2, UInt8.shiftLeft_or, UInt8.shiftRight_or, y1, z0, e0, e1, g1]
  | case3 b0 =>
    obtain ⟨⟨l0, r0, _⟩, _, ⟨_, _, _, _, g0, _⟩, e0, _⟩ := byte_parts b0
    simp [base64Decode, base64Value_digit _ l0, base64Value_digit _ r0, e0, g0]
  | case4 => rfl

theorem base64Encode_length (src : Bytes) :
    (base64Encode src).length = 4 * ((src.length + 2) / 3) := by
  fun_induction base64Encode src with
  | case1 b0 b1 b2 rest ih =>
    simp only [List.length_append, List.length_cons, List.length_nil, ih]
    omega
  | case2 b0 b1 => simp
  | case3 b0 => simp
  | case4 => simp

/-! ## 3. The loop -/

theorem base64Blocks_cons (b0 b1 b2 : UInt8) (src : Bytes)
    (fullBlocks remainder totalBlocks : Nat) :
    base64Blocks (b0 :: b1 :: b2 :: src) (fullBlocks + 1) remainder (totalBlocks + 1) =
      base64Encode [b0, b1, b2] ++ base64Blocks src fullBlocks remainder totalBlocks := by
  simp [base64Blocks, List.range_succ_eq_map, List.flatMap_map, base64Block, base64Encode,
    Nat.add_mul]
  rfl

/-- **The loop** over `fullBlocks` blocks and a last one of `remainder` bytes writes the text of
    these bytes, whatever follows them. -/
theorem base64Blocks_eq {read : Bytes} {fullBlocks remainder : Nat} (hrem : remainder < 3)
    (h : read.length = 3 * fullBlocks + remainder) (rest : Bytes) :
    base64Blocks (read ++ rest) fullBlocks remainder
      (fullBlocks + if remainder > 0 then 1 else 0) = base64Encode read := by
  induction fullBlocks generalizing read with
  | zero =>
    match read, h with
    | [], h =>
      obtain rfl : remainder = 0 := by simpa using h.symm
      rfl
    | [b0], h =>
      obtain rfl : remainder = 1 := by simpa using h.symm
      simp [base64Blocks, base64Block, base64Encode]
    | [b0, b1], h =>
      obtain rfl : remainder = 2 := by simpa using h.symm
      simp [base64Blocks, base64Block, base64Encode]
    | _ :: _ :: _ :: _, h => simp only [List.length_cons] at h; omega
  | succ fullBlocks ih =>
    match read, h with
    | b0 :: b1 :: b2 :: read, h =>
      have hlength : read.length = 3 * fullBlocks + remainder := by
        simp only [List.length_cons] at h
        omega
      rw [Nat.add_right_comm]
      exact (base64Blocks_cons b0 b1 b2 (read ++ rest) ..).trans (congrArg _ (ih hlength))
    | [], h | [_], h | [_, _], h => simp at h; omega

/-- What the function writes: the text of all bytes, or of those that fill whole blocks of `dst`. -/
theorem base64EncodeInto_eq {dstCap : Nat} {src : Bytes} (h : src ≠ []) :
    base64EncodeInto dstCap src =
      base64Encode (if dstCap < 4 * ((src.length + 2) / 3) then src.take (3 * (dstCap / 4))
        else src) := by
  have hlength := List.length_pos_of_ne_nil h
  have htotal : (src.length / 3 + if src.length % 3 > 0 then 1 else 0) * 4 =
      4 * ((src.length + 2) / 3) := by
    split <;> omega
  unfold base64EncodeInto
  by_cases hcap : dstCap = 0
  · rw [if_pos (Or.inl hcap), hcap, if_pos (by omega)]
    rfl
  rw [if_neg (not_or.2 ⟨hcap, hlength.ne'⟩)]
  dsimp only
  rw [htotal]
  split
  · have hread : (src.take (3 * (dstCap / 4))).length = 3 * (dstCap / 4) + 0 := by
      rw [List.length_take]
      omega
    have hloop := base64Blocks_eq (by decide) hread (src.drop (3 * (dstCap / 4)))
    rwa [List.take_append_drop] at hloop
  · have hloop := base64Blocks_eq (Nat.mod_lt _ (by decide)) (Nat.div_add_mod src.length 3).symm []
    rwa [List.append_nil] at hloop

/-- **`base64_encode`** writes the text of all bytes when the buffer holds it, and of as many whole
    groups as fit when it does not. -/
structure Base64Laws : Prop where
  fits : ∀ (src : Bytes) (dstCap : Nat), src ≠ [] → 4 * ((src.length + 2) / 3) ≤ dstCap →
    (base64EncodeInto dstCap src).length = 4 * ((src.length + 2) / 3) ∧
      base64Decode (base64EncodeInto dstCap src) = some src
  cut : ∀ (src : Bytes) (dstCap : Nat), src ≠ [] → dstCap < 4 * ((src.length + 2) / 3) →
    (base64EncodeInto dstCap src).length = 4 * (dstCap / 4) ∧ 3 * (dstCap / 4) ≤ src.length ∧
      base64Decode (base64EncodeInto dstCap src) = some (src.take (3 * (dstCap / 4)))

theorem base64_laws : Base64Laws where
  fits src dstCap h hcap := by
    rw [base64EncodeInto_eq h, if_neg (Nat.not_lt.2 hcap)]
    exact ⟨base64Encode_length src, base64Decode_encode src⟩
  cut src dstCap h hcap := by
    have hle : 3 * (dstCap / 4) ≤ src.length := by omega
    rw [base64EncodeInto_eq h, if_pos hcap, base64Encode_length, List.length_take,
      Nat.min_eq_left hle]
    exact ⟨by omega, hle, base64Decode_encode _⟩

end MinecraftRelay
