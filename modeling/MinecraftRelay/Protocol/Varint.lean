/-
  File:      Protocol/Varint.lean
  Subject:   `varint2int`, `int2varint` (basic.c), `varint_size` and `handshake_varint_write`
             (protocol/handshake.c).

  A byte range `[src, end)` is the list of its bytes; a returned cursor is the list that starts
  there. `varint_t` is `uint32_t`, so values are `UInt32`.

  * `varint2int_eq` -- the reader is the seven-bit group decoder of the library, at five bytes with
    a last byte of at most `0x0F`;
  * `int2varint_eq` -- the writer is its shortest encoder;
  * `varint2int_int2varint` -- the round trip, whatever follows;
  * `varint_laws` -- which strings the reader accepts, waits on and refuses.
-/
import Mathlib.Tactic.IntervalCases
import Mathlib.Tactic.Linarith
import MinecraftRelay.Basic
import MinecraftRelay.Library.Groups

namespace MinecraftRelay

open Groups

/-- The wire integer `varint_t`. -/
abbrev Varint := UInt32

/-- `VARINT_T_MAXIDX`: the index of the last byte a `uint32_t` can need. -/
def varintMaxIdx : Nat := 4

/-- `VARINT_T_LAST_MASK`: the bits of that last byte that still fit. -/
def varintLastMask : UInt32 := 0x0F

/-! ## 1. The reader and the writer -/

/-- The loop of `varint2int`; `fuel` counts the iterations left of `i <= VARINT_T_MAXIDX`. -/
def varint2intLoop : Nat → Nat → UInt32 → Bytes → Read Varint
  | 0, _, _, _ => .invalid
  | _ + 1, _, _, [] => .incomplete
  | fuel + 1, i, result, byte :: base =>
      let single := (byte &&& 0x7F).toUInt32
      if i = varintMaxIdx ∧ (byte &&& 0x80 ≠ 0 ∨ single > varintLastMask) then .invalid
      else
        let result := result ||| (single <<< UInt32.ofNat (i * 7))
        if byte &&& 0x80 = 0 then .complete result base
        else varint2intLoop fuel (i + 1) result base

/-- `varint2int`: one varint at the start of `src`. -/
def varint2int (src : Bytes) : Read Varint := varint2intLoop (varintMaxIdx + 1) 0 0 src

/-- The do-while loop of `int2varint`; a 32-bit value is used up after five shifts. -/
def int2varintLoop : Nat → Varint → Bytes
  | 0, _ => []
  | fuel + 1, src =>
      let byte := (src &&& 0x7F).toUInt8 ||| 0x80
      if src >>> 7 > 0 then byte :: int2varintLoop fuel (src >>> 7)
      -- the last byte loses its continuation bit after the loop
      else [byte &&& 0x7F]

/-- `int2varint`: the bytes it writes. -/
def int2varint (src : Varint) : Bytes := int2varintLoop (varintMaxIdx + 1) src

/-- The loop of `varint_size`. -/
def varintSizeLoop : Nat → Varint → Nat → Nat
  | 0, _, result => result
  | fuel + 1, value, result =>
      if value >>> 7 ≠ 0 then varintSizeLoop fuel (value >>> 7) (result + 1) else result

/-- `varint_size`: how many bytes `int2varint` writes. -/
def varintSize (value : Varint) : Nat := varintSizeLoop (varintMaxIdx + 1) value 1

/-- The do-while loop of `handshake_varint_write`. -/
def handshakeVarintLoop : Nat → Varint → Bytes
  | 0, _ => []
  | fuel + 1, value =>
      let byte := (value &&& 0x7F).toUInt8
      if value >>> 7 ≠ 0 then (byte ||| 0x80) :: handshakeVarintLoop fuel (value >>> 7) else [byte]

/-- `handshake_varint_write`: the bytes it writes and the room that remains. -/
def handshakeVarintWrite (remaining : Nat) (value : Varint) : Option (Bytes × Nat) :=
  if remaining < varintSize value then none
  else some (handshakeVarintLoop (varintMaxIdx + 1) value, remaining - varintSize value)

/-! ## 2. Bit operations as arithmetic -/

theorem low7_toNat (b : UInt8) : (b &&& 0x7F).toNat = b.toNat % 128 := by
  rw [UInt8.toNat_and]
  exact Nat.and_two_pow_sub_one_eq_mod b.toNat 7

theorem high_clear_iff (b : UInt8) : b &&& 0x80 = 0 ↔ b.toNat < 128 := by
  have table : ∀ n : Fin 256, (n.val &&& 128 = 0 ↔ n.val < 128) := by decide +kernel
  have h := table ⟨b.toNat, b.toNat_lt⟩
  rw [← UInt8.toNat_inj, UInt8.toNat_and]
  exact h

theorem shift7_toNat (v : UInt32) : (v >>> 7).toNat = v.toNat / 128 := by
  rw [UInt32.toNat_shiftRight]
  simp [Nat.shiftRight_eq_div_pow]

theorem shift7_pos_iff (v : UInt32) : v >>> 7 > 0 ↔ 128 ≤ v.toNat := by
  rw [gt_iff_lt, UInt32.lt_iff_toNat_lt, shift7_toNat]
  simp only [UInt32.toNat_zero]
  omega

theorem low7_toUInt8_toNat (v : UInt32) : ((v &&& 0x7F).toUInt8).toNat = v.toNat % 128 := by
  rw [UInt32.toNat_toUInt8, UInt32.toNat_and]
  have : (0x7F : UInt32).toNat = 2 ^ 7 - 1 := rfl
  rw [this, Nat.and_two_pow_sub_one_eq_mod]
  omega

/-- The byte the writer emits while more groups follow. -/
theorem groupByte_eq (v : UInt32) :
    (v &&& 0x7F).toUInt8 ||| 0x80 = UInt8.ofNat (v.toNat % 128 + 128) := by
  apply UInt8.toNat_inj.mp
  rw [UInt8.toNat_or, low7_toUInt8_toNat, UInt8.toNat_ofNat']
  have hor := Nat.two_pow_add_eq_or_of_lt (i := 7) (b := v.toNat % 128) (by omega) 1
  rw [Nat.or_comm]
  have h80 : (0x80 : UInt8).toNat = 2 ^ 7 * 1 := rfl
  rw [h80, ← hor]
  omega

/-- The byte the writer ends on. -/
theorem lastByte_eq (v : UInt32) (h : v.toNat < 128) :
    ((v &&& 0x7F).toUInt8 ||| 0x80) &&& 0x7F = UInt8.ofNat v.toNat := by
  rw [groupByte_eq]
  apply UInt8.toNat_inj.mp
  rw [low7_toNat, UInt8.toNat_ofNat', UInt8.toNat_ofNat']
  omega

/-- One turn of the reader's accumulator: the group lands above what is already there. -/
theorem accumulate_toNat (result : UInt32) (b : UInt8) (i : Nat) (hi : i ≤ 4)
    (hr : result.toNat < 128 ^ i) (hb : i = 4 → b.toNat % 128 ≤ 15) :
    (result ||| ((b &&& 0x7F).toUInt32 <<< UInt32.ofNat (i * 7))).toNat =
      result.toNat + (b.toNat % 128) * 128 ^ i := by
  have hpow : 128 ^ i = 2 ^ (i * 7) := by
    rw [show (128 : Nat) = 2 ^ 7 from rfl, ← Nat.pow_mul, Nat.mul_comm]
  have hshift : (UInt32.ofNat (i * 7)).toNat % 32 = i * 7 := by
    rw [UInt32.toNat_ofNat']
    omega
  have hsmall : (b.toNat % 128) * 2 ^ (i * 7) < 2 ^ 32 := by
    interval_cases i <;> omega
  rw [UInt32.toNat_or, UInt32.toNat_shiftLeft, hshift, UInt8.toNat_toUInt32, low7_toNat,
    Nat.shiftLeft_eq, Nat.mod_eq_of_lt hsmall, Nat.or_comm, Nat.mul_comm _ (2 ^ (i * 7)),
    ← Nat.two_pow_add_eq_or_of_lt (by rw [← hpow]; exact hr), hpow, Nat.mul_comm]
  omega

/-! ## 3. Against the group codec -/

/-- The loop at byte `4 - k`, with the groups read so far in `result`. -/
theorem varint2intLoop_eq (k : Nat) (hk : k ≤ 4) (result : UInt32) (s : Bytes)
    (hr : result.toNat < 128 ^ (4 - k)) :
    varint2intLoop (k + 1) (4 - k) result s =
      (ungroup 15 k s).map fun m => UInt32.ofNat (result.toNat + m * 128 ^ (4 - k)) := by
  induction k generalizing result s with
  | zero =>
    cases s with
    | nil => rfl
    | cons b rest =>
      have hgt : ((b &&& 0x7F).toUInt32 > varintLastMask) ↔ 15 < b.toNat % 128 := by
        rw [gt_iff_lt, UInt32.lt_iff_toNat_lt, UInt8.toNat_toUInt32, low7_toNat]
        rfl
      have hcond : (4 - 0 = varintMaxIdx ∧
          (b &&& 0x80 ≠ 0 ∨ (b &&& 0x7F).toUInt32 > varintLastMask)) ↔
          (128 ≤ b.toNat ∨ 15 < b.toNat) := by
        rw [hgt, ne_eq, high_clear_iff]
        simp only [varintMaxIdx, true_and]
        omega
      rw [varint2intLoop, ungroup_zero_cons]
      simp only [hcond, high_clear_iff]
      split
      · rfl
      · rename_i hb
        have hacc := accumulate_toNat result b 4 (by omega) hr
          (fun _ => by omega)
        rw [if_pos (by omega), Read.map_complete]
        congr 1
        rw [← UInt32.ofNat_toNat (x := result ||| _), hacc, Nat.mod_eq_of_lt (by omega)]
  | succ k ih =>
    cases s with
    | nil => rfl
    | cons b rest =>
      have hidx : ¬ (4 - (k + 1) = varintMaxIdx ∧
          (b &&& 0x80 ≠ 0 ∨ (b &&& 0x7F).toUInt32 > varintLastMask)) := by
        rintro ⟨h, _⟩
        simp only [varintMaxIdx] at h
        omega
      have hacc := accumulate_toNat result b (4 - (k + 1)) (by omega) hr
        (fun h => by omega)
      have hstep : 4 - (k + 1) + 1 = 4 - k := by omega
      have hpow : 128 ^ (4 - k) = 128 * 128 ^ (4 - (k + 1)) := by
        rw [← hstep, Nat.pow_succ, Nat.mul_comm]
      rw [varint2intLoop, ungroup_succ_cons]
      simp only [if_neg hidx, high_clear_iff]
      split
      · rename_i hb
        rw [Read.map_complete, ← UInt32.ofNat_toNat (x := result ||| _), hacc,
          Nat.mod_eq_of_lt hb]
      · rw [hstep, ih (by omega)]
        · rw [hacc, hpow]
          cases ungroup 15 k rest with
          | complete m rest' =>
            simp only [Read.map_complete]
            congr 2
            ring
          | incomplete => rfl
          | invalid => rfl
        · rw [hacc, hpow]
          have : b.toNat % 128 ≤ 127 := by omega
          nlinarith

/-- **The reader is the group decoder.** -/
theorem varint2int_eq (s : Bytes) : varint2int s = (ungroup 15 4 s).map UInt32.ofNat := by
  have h := varint2intLoop_eq 4 (by omega) 0 s (by decide)
  unfold varint2int varintMaxIdx
  rw [show (0 : Nat) = 4 - 4 from rfl, h]
  simp

theorem varint2int_complete_iff {s rest : Bytes} {v : Varint} :
    varint2int s = .complete v rest ↔ ungroup 15 4 s = .complete v.toNat rest := by
  rw [varint2int_eq, Read.map_eq_complete]
  constructor
  · rintro ⟨m, hm, rfl⟩
    have := ungroup_lt hm
    rw [hm, UInt32.toNat_ofNat', Nat.mod_eq_of_lt (by omega)]
  · intro h
    exact ⟨_, h, UInt32.ofNat_toNat⟩

theorem varint2int_incomplete_iff {s : Bytes} :
    varint2int s = .incomplete ↔ ungroup 15 4 s = .incomplete := by
  rw [varint2int_eq, Read.map_eq_incomplete]

theorem varint2int_invalid_iff {s : Bytes} :
    varint2int s = .invalid ↔ ungroup 15 4 s = .invalid := by
  rw [varint2int_eq, Read.map_eq_invalid]

theorem int2varintLoop_eq (k : Nat) (v : Varint) (h : v.toNat < 128 ^ (k + 1)) :
    int2varintLoop (k + 1) v = group k v.toNat := by
  induction k generalizing v with
  | zero =>
    rw [int2varintLoop, if_neg (by rw [shift7_pos_iff]; omega), lastByte_eq v (by omega), group]
  | succ k ih =>
    rw [int2varintLoop, group]
    by_cases hv : v.toNat < 128
    · rw [if_neg (by rw [shift7_pos_iff]; omega), lastByte_eq v hv, if_pos hv]
    · have hdiv : v.toNat / 128 < 128 ^ (k + 1) := by
        rw [Nat.div_lt_iff_lt_mul (by omega), ← Nat.pow_succ]
        exact h
      rw [if_pos (by rw [shift7_pos_iff]; omega), if_neg hv, groupByte_eq,
        ih _ (by rw [shift7_toNat]; exact hdiv), shift7_toNat]

/-- **The writer is the shortest encoder.** -/
theorem int2varint_eq (v : Varint) : int2varint v = group 4 v.toNat :=
  int2varintLoop_eq 4 v (by have := v.toNat_lt; omega)

/-- **Round trip**: what was written reads back, and what follows is left alone. -/
theorem varint2int_int2varint (v : Varint) (t : Bytes) :
    varint2int (int2varint v ++ t) = .complete v t := by
  rw [varint2int_complete_iff, int2varint_eq]
  exact ungroup_group (by omega) (by have := v.toNat_lt; omega) t

theorem varintSizeLoop_eq (k : Nat) (v : Varint) (result : Nat) (h : v.toNat < 128 ^ (k + 1)) :
    varintSizeLoop (k + 1) v result + 1 = result + (group k v.toNat).length := by
  induction k generalizing v result with
  | zero =>
    have hz : v >>> 7 = 0 := by
      apply UInt32.toNat_inj.mp
      rw [shift7_toNat]
      simp only [UInt32.toNat_zero]
      omega
    simp [varintSizeLoop, hz, group]
  | succ k ih =>
    rw [varintSizeLoop, group]
    by_cases hv : v.toNat < 128
    · have hz : v >>> 7 = 0 := by
        apply UInt32.toNat_inj.mp
        rw [shift7_toNat]
        simp only [UInt32.toNat_zero]
        omega
      simp [hz, hv]
    · have hnz : v >>> 7 ≠ 0 := by
        intro e
        have := congrArg UInt32.toNat e
        rw [shift7_toNat] at this
        simp only [UInt32.toNat_zero] at this
        omega
      have hdiv : v.toNat / 128 < 128 ^ (k + 1) := by
        rw [Nat.div_lt_iff_lt_mul (by omega), ← Nat.pow_succ]
        exact h
      rw [if_pos hnz, if_neg hv, ih _ _ (by rw [shift7_toNat]; exact hdiv), shift7_toNat,
        List.length_cons]
      omega

/-- `varint_size` counts the bytes `int2varint` writes. -/
theorem varintSize_eq (v : Varint) : varintSize v = (int2varint v).length := by
  have h := varintSizeLoop_eq 4 v 1 (by have := v.toNat_lt; omega)
  rw [int2varint_eq]
  unfold varintSize varintMaxIdx
  omega

theorem int2varint_length_pos (v : Varint) : 0 < (int2varint v).length := by
  rw [int2varint_eq]
  exact group_length_pos 4 v.toNat

theorem int2varint_length_le (v : Varint) : (int2varint v).length ≤ 5 := by
  rw [int2varint_eq]
  exact group_length_le 4 v.toNat

theorem int2varint_length_le_two {v : Varint} (h : v.toNat < 16384) :
    (int2varint v).length ≤ 2 := by
  rw [int2varint_eq]
  exact group_length_le_of_lt (by omega) h

/-- No accepted encoding of a number, or of a larger one, is shorter. -/
theorem int2varint_length_le_read {s rest : Bytes} {v n : Varint}
    (h : varint2int s = .complete v rest) (hn : n ≤ v) :
    (int2varint n).length + rest.length ≤ s.length := by
  rw [varint2int_complete_iff] at h
  rw [int2varint_eq]
  exact group_length_le_of_ungroup h hn

/-! ## 4. What the reader accepts -/

theorem handshakeVarintLoop_eq (fuel : Nat) (v : Varint) :
    handshakeVarintLoop fuel v = int2varintLoop fuel v := by
  induction fuel generalizing v with
  | zero => rfl
  | succ fuel ih =>
    have hpos : v >>> 7 ≠ 0 ↔ v >>> 7 > 0 := by
      rw [gt_iff_lt, UInt32.lt_iff_toNat_lt, ne_eq, ← UInt32.toNat_inj, UInt32.toNat_zero]
      omega
    have hlast : ((v &&& 0x7F).toUInt8 ||| 0x80) &&& 0x7F = (v &&& 0x7F).toUInt8 := by
      apply UInt8.toNat_inj.mp
      rw [low7_toNat, groupByte_eq, low7_toUInt8_toNat, UInt8.toNat_ofNat']
      omega
    simp only [handshakeVarintLoop, int2varintLoop, ih, hpos, hlast]

/-- A valid encoding: at most five bytes, all but the last with the continuation bit, the fifth at
    most `VARINT_T_LAST_MASK`. -/
def VarintEncoding (e : Bytes) : Prop :=
  ∃ init last, e = init ++ [last] ∧ (∀ b ∈ init, 128 ≤ b.toNat) ∧ last.toNat < 128 ∧
    init.length ≤ 4 ∧ (init.length = 4 → last.toNat ≤ 15)

/-- The reader on a string with a byte without continuation bit. -/
theorem varint2int_last {init : Bytes} {last : UInt8} (hinit : ∀ b ∈ init, 128 ≤ b.toNat)
    (hlast : last.toNat < 128) :
    if init.length ≤ 4 ∧ (init.length = 4 → last.toNat ≤ 15) then
      ∃ v, ∀ t, varint2int (init ++ last :: t) = .complete v t
    else ∀ t, varint2int (init ++ last :: t) = .invalid := by
  by_cases hlong : 4 < init.length
  · rw [if_neg (by omega)]
    intro t
    rw [varint2int_invalid_iff]
    exact ungroup_long hinit hlong _
  obtain ⟨f, hf⟩ := ungroup_high (k := 4) hinit (by omega)
  split
  · rename_i hok
    refine ⟨UInt32.ofNat (f last.toNat), fun t => ?_⟩
    rw [varint2int_eq, hf, ungroup_low hlast, if_neg (by omega), Read.map_complete,
      Read.map_complete]
  · intro t
    rw [varint2int_invalid_iff, hf, ungroup_low hlast, if_pos (by omega), Read.map_invalid]

/-- The reader on a string without one. -/
theorem varint2int_open {init : Bytes} (hinit : ∀ b ∈ init, 128 ≤ b.toNat) :
    varint2int init = if init.length ≤ 4 then .incomplete else .invalid := by
  have hnil : init = init ++ [] := by simp
  split
  · rename_i hle
    obtain ⟨f, hf⟩ := ungroup_high (k := 4) hinit hle
    rw [varint2int_incomplete_iff, hnil, hf, ungroup_nil, Read.map_incomplete]
  · rw [varint2int_invalid_iff, hnil]
    exact ungroup_long hinit (by omega) _

theorem VarintEncoding.read {e : Bytes} (h : VarintEncoding e) :
    ∃ v, ∀ t, varint2int (e ++ t) = .complete v t := by
  obtain ⟨init, last, rfl, hinit, hlast, hok⟩ := h
  have hread := varint2int_last hinit hlast
  rw [if_pos hok] at hread
  simpa using hread

theorem VarintEncoding.cut {e s : Bytes} (h : VarintEncoding e) (hs : s <+: e) (hne : s ≠ e) :
    varint2int s = .incomplete := by
  obtain ⟨init, last, rfl, hinit, -, hle, -⟩ := h
  have hpre : s <+: init := (List.prefix_concat_iff.1 hs).resolve_left hne
  rw [varint2int_open fun b hb => hinit b (hpre.subset hb), if_pos (hpre.length_le.trans hle)]

/-- Every string starts with an encoding, is the start of one, or is refused. -/
theorem varint2int_cases (s : Bytes) : (∃ e, VarintEncoding e ∧ e <+: s) ∨
    (∃ e, VarintEncoding e ∧ s <+: e ∧ s ≠ e) ∨ varint2int s = .invalid := by
  let high : UInt8 → Bool := fun b => 128 ≤ b.toNat
  have hinit : ∀ b ∈ s.takeWhile high, 128 ≤ b.toNat := fun b hb => by
    simpa [high] using List.mem_takeWhile_imp hb
  have hs := List.takeWhile_append_dropWhile (p := high) (l := s)
  generalize s.takeWhile high = init at hinit hs
  cases hrest : s.dropWhile high with
  | nil =>
    rw [hrest, List.append_nil] at hs
    subst hs
    by_cases hle : init.length ≤ 4
    · exact .inr (.inl ⟨init ++ [0], ⟨init, 0, rfl, hinit, by decide, hle, fun _ => by decide⟩,
        by simp⟩)
    · exact .inr (.inr (by rw [varint2int_open hinit, if_neg hle]))
  | cons last t =>
    have hlast : last.toNat < 128 := by
      have := List.head?_dropWhile_not high s
      simpa [hrest, high] using this
    have hread := varint2int_last hinit hlast
    rw [hrest] at hs
    subst hs
    split at hread
    · rename_i hok
      exact .inl ⟨init ++ [last], ⟨init, last, rfl, hinit, hlast, hok⟩, t, by simp⟩
    · exact .inr (.inr (hread t))

/-- What the varints promise. -/
structure VarintLaws : Prop where
  read_write : ∀ (v : Varint) (t : Bytes), varint2int (int2varint v ++ t) = .complete v t
  size : ∀ v : Varint, varintSize v = (int2varint v).length
  write : ∀ (remaining : Nat) (v : Varint), handshakeVarintWrite remaining v =
    if remaining < varintSize v then none else some (int2varint v, remaining - varintSize v)
  complete : ∀ s, (∃ v rest, varint2int s = .complete v rest) ↔ ∃ e, VarintEncoding e ∧ e <+: s
  incomplete : ∀ s, varint2int s = .incomplete ↔ ∃ e, VarintEncoding e ∧ s <+: e ∧ s ≠ e
  invalid : ∀ s, varint2int s = .invalid ↔ ∀ e, VarintEncoding e → ¬ s <+: e ∧ ¬ e <+: s
  /-- The first byte without continuation bit decides; `t` is what follows it. -/
  rest : ∀ (init : Bytes) (last : UInt8), (∀ b ∈ init, 128 ≤ b.toNat) → last.toNat < 128 →
    (∀ t, varint2int (init ++ last :: t) = .invalid) ∨
      ∃ v, ∀ t, varint2int (init ++ last :: t) = .complete v t

/-- **The varint laws.** -/
theorem varint_laws : VarintLaws where
  read_write := varint2int_int2varint
  size := varintSize_eq
  write remaining v := by rw [handshakeVarintWrite, handshakeVarintLoop_eq]; rfl
  complete s := by
    constructor
    · rintro ⟨v, rest, h⟩
      rcases varint2int_cases s with he | ⟨e, he, hs, hne⟩ | hbad
      · exact he
      · simp [he.cut hs hne] at h
      · simp [hbad] at h
    · rintro ⟨e, he, rest, rfl⟩
      obtain ⟨v, hv⟩ := he.read
      exact ⟨v, rest, hv rest⟩
  incomplete s := by
    constructor
    · intro h
      rcases varint2int_cases s with ⟨e, he, t, rfl⟩ | he | hbad
      · obtain ⟨v, hv⟩ := he.read
        simp [hv] at h
      · exact he
      · simp [hbad] at h
    · rintro ⟨e, he, hs, hne⟩
      exact he.cut hs hne
  invalid s := by
    constructor
    · intro h e he
      obtain ⟨v, hv⟩ := he.read
      have hstart : ¬ e <+: s := by
        rintro ⟨t, rfl⟩
        simp [hv] at h
      refine ⟨fun hs => ?_, hstart⟩
      by_cases hne : s = e
      · exact hstart (hne ▸ List.prefix_rfl)
      · simp [he.cut hs hne] at h
    · intro h
      rcases varint2int_cases s with ⟨e, he, hs⟩ | ⟨e, he, hs, -⟩ | hbad
      · exact absurd hs (h e he).2
      · exact absurd hs (h e he).1
      · exact hbad
  rest init last hinit hlast := by
    have h := varint2int_last hinit hlast
    split at h
    · exact .inr h
    · exact .inl h

end MinecraftRelay
