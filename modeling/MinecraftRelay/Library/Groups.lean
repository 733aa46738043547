/-
  File:      Library/Groups.lean
  Subject:   Numbers as seven-bit groups, lowest group first, every byte but the last with its
             high bit set, at most `k + 1` bytes and a last byte at most `limit`.

  Nothing here names a program: `k` and `limit` are parameters.

  * `ungroup` -- the decoder; it answers `complete` with the rest, `incomplete`, or `invalid`;
  * `ungroup_complete` -- what was consumed decides the answer whatever follows it;
  * `group`, `ungroup_group` -- the shortest encoding and its round trip;
  * `ungroup_high`, `ungroup_long`, `ungroup_low` -- the answer by the first byte without high bit.
-/
import Mathlib.Data.Nat.Init
import Mathlib.Tactic.Ring

namespace Groups

/-- The answer of a streaming decoder: a value with what is left, more input needed, or refused. -/
inductive Read (α : Type) where
  | complete (value : α) (rest : List UInt8)
  | incomplete
  | invalid
  deriving DecidableEq, Repr

namespace Read

variable {α β : Type}

/-- Apply a function to the decoded value. -/
def map (f : α → β) : Read α → Read β
  | .complete v rest => .complete (f v) rest
  | .incomplete => .incomplete
  | .invalid => .invalid

@[simp] theorem map_complete (f : α → β) (v : α) (rest : List UInt8) :
    (Read.complete v rest).map f = .complete (f v) rest := rfl

@[simp] theorem map_incomplete (f : α → β) :
    (Read.incomplete : Read α).map f = .incomplete := rfl

@[simp] theorem map_invalid (f : α → β) :
    (Read.invalid : Read α).map f = .invalid := rfl

theorem map_eq_complete {f : α → β} {r : Read α} {w : β} {rest : List UInt8} :
    r.map f = .complete w rest ↔ ∃ v, r = .complete v rest ∧ f v = w := by
  cases r with
  | complete v rest' =>
    constructor
    · intro h
      simp only [map_complete, Read.complete.injEq] at h
      exact ⟨v, by rw [h.2], h.1⟩
    · rintro ⟨v', h, rfl⟩
      simp only [Read.complete.injEq] at h
      rw [map_complete, h.1, h.2]
  | incomplete => simp
  | invalid => simp

theorem map_eq_invalid {f : α → β} {r : Read α} : r.map f = .invalid ↔ r = .invalid := by
  cases r <;> simp

theorem map_eq_incomplete {f : α → β} {r : Read α} : r.map f = .incomplete ↔ r = .incomplete := by
  cases r <;> simp

end Read

/-! ## 1. The decoder -/

/-- Decode one number: at most `k` bytes with the high bit set, then a last one. The byte at
    position `k` must be the last and at most `limit`. -/
def ungroup (limit : Nat) : Nat → List UInt8 → Read Nat
  | _, [] => .incomplete
  | 0, b :: rest => if 128 ≤ b.toNat ∨ limit < b.toNat then .invalid else .complete b.toNat rest
  | k + 1, b :: rest =>
      if b.toNat < 128 then .complete b.toNat rest
      else (ungroup limit k rest).map fun m => b.toNat % 128 + 128 * m

section

variable {limit : Nat}

@[simp] theorem ungroup_nil (k : Nat) : ungroup limit k [] = .incomplete := by
  cases k <;> rfl

theorem ungroup_zero_cons (b : UInt8) (rest : List UInt8) :
    ungroup limit 0 (b :: rest) =
      if 128 ≤ b.toNat ∨ limit < b.toNat then .invalid else .complete b.toNat rest := rfl

theorem ungroup_succ_cons (k : Nat) (b : UInt8) (rest : List UInt8) :
    ungroup limit (k + 1) (b :: rest) =
      if b.toNat < 128 then .complete b.toNat rest
      else (ungroup limit k rest).map fun m => b.toNat % 128 + 128 * m := rfl

variable {k : Nat}

/-- **The consumed bytes decide the answer**: they are not empty, at most `k + 1`, and decode to
    the same value whatever follows them. -/
theorem ungroup_complete {s rest : List UInt8} {v : Nat}
    (h : ungroup limit k s = .complete v rest) :
    ∃ pre, s = pre ++ rest ∧ 0 < pre.length ∧ pre.length ≤ k + 1 ∧
      ∀ t, ungroup limit k (pre ++ t) = .complete v t := by
  -- no byte; the byte at position `k`, refused or taken; before it the last byte, or one more
  fun_induction ungroup limit k s generalizing v with
  | case1 | case2 => cases h
  | case3 b s hb =>
    obtain ⟨rfl, rfl⟩ := Read.complete.inj h
    exact ⟨[b], rfl, by simp, by simp, fun t => by simp [ungroup_zero_cons, hb]⟩
  | case4 k b s hb =>
    obtain ⟨rfl, rfl⟩ := Read.complete.inj h
    exact ⟨[b], rfl, by simp, by simp, fun t => by simp [ungroup_succ_cons, hb]⟩
  | case5 k b s hb ih =>
    obtain ⟨m, hm, rfl⟩ := Read.map_eq_complete.mp h
    obtain ⟨pre, rfl, _, hlen, hext⟩ := ih hm
    refine ⟨b :: pre, rfl, by simp, by simpa using hlen, fun t => ?_⟩
    rw [List.cons_append, ungroup_succ_cons, if_neg hb, hext t, Read.map_complete]

/-- Appending to the input of a complete answer appends to its rest. -/
theorem ungroup_complete_append {s rest : List UInt8} {v : Nat}
    (h : ungroup limit k s = .complete v rest) (t : List UInt8) :
    ungroup limit k (s ++ t) = .complete v (rest ++ t) := by
  obtain ⟨pre, rfl, _, _, hext⟩ := ungroup_complete h
  rw [List.append_assoc]
  exact hext (rest ++ t)

/-- A first byte with its high bit set is not the whole number. -/
theorem ungroup_complete_two {b : UInt8} {s rest : List UInt8} {v : Nat}
    (h : ungroup limit k (b :: s) = .complete v rest) (hb : 128 ≤ b.toNat) :
    rest.length < s.length := by
  cases k with
  | zero =>
    rw [ungroup_zero_cons, if_pos (Or.inl hb)] at h
    cases h
  | succ k =>
    rw [ungroup_succ_cons, if_neg (by omega)] at h
    obtain ⟨m, hm, _⟩ := Read.map_eq_complete.mp h
    obtain ⟨pre, rfl, hpos, _, _⟩ := ungroup_complete hm
    rw [List.length_append]
    omega

/-- A refused input stays refused. -/
theorem ungroup_invalid_append {s : List UInt8} (h : ungroup limit k s = .invalid)
    (t : List UInt8) : ungroup limit k (s ++ t) = .invalid := by
  fun_induction ungroup limit k s with
  | case1 | case3 | case4 => cases h
  | case2 b s hb => rw [List.cons_append, ungroup_zero_cons, if_pos hb]
  | case5 k b s hb ih =>
    rw [List.cons_append, ungroup_succ_cons, if_neg hb, ih (Read.map_eq_invalid.mp h),
      Read.map_invalid]

/-- Bytes with the high bit set are read off one by one. -/
theorem ungroup_high {init : List UInt8} (hinit : ∀ b ∈ init, 128 ≤ b.toNat)
    (hk : init.length ≤ k) :
    ∃ f, ∀ s, ungroup limit k (init ++ s) = (ungroup limit (k - init.length) s).map f := by
  induction init generalizing k with
  | nil =>
    refine ⟨id, fun s => ?_⟩
    cases h : ungroup limit k s <;> simp [h]
  | cons b init ih =>
    cases k with
    | zero => simp at hk
    | succ k =>
      obtain ⟨f, hf⟩ := ih (fun c hc => hinit c (List.mem_cons_of_mem b hc)) (by simpa using hk)
      have hb := hinit b List.mem_cons_self
      refine ⟨fun m => b.toNat % 128 + 128 * f m, fun s => ?_⟩
      rw [List.cons_append, ungroup_succ_cons, if_neg (by omega), hf, List.length_cons,
        Nat.add_sub_add_right]
      cases ungroup limit (k - init.length) s <;> simp

/-- More than `k` of them are too many. -/
theorem ungroup_long {init : List UInt8} (hinit : ∀ b ∈ init, 128 ≤ b.toNat)
    (hk : k < init.length) (s : List UInt8) : ungroup limit k (init ++ s) = .invalid := by
  induction init generalizing k with
  | nil => simp at hk
  | cons b init ih =>
    have hb := hinit b List.mem_cons_self
    cases k with
    | zero => simp [ungroup_zero_cons, hb]
    | succ k =>
      have hrest := ih (fun c hc => hinit c (List.mem_cons_of_mem b hc)) (by simpa using hk)
      rw [List.cons_append, ungroup_succ_cons, if_neg (by omega), hrest, Read.map_invalid]

/-- A byte without it is the last. -/
theorem ungroup_low {b : UInt8} (hb : b.toNat < 128) (rest : List UInt8) :
    ungroup limit k (b :: rest) =
      if k = 0 ∧ limit < b.toNat then .invalid else .complete b.toNat rest := by
  cases k with
  | zero => simp [ungroup_zero_cons, Nat.not_le.2 hb]
  | succ k => simp [ungroup_succ_cons, hb]

/-- An input that needs more holds at most `k` bytes. -/
theorem ungroup_incomplete_length {s : List UInt8}
    (h : ungroup limit k s = .incomplete) : s.length ≤ k := by
  fun_induction ungroup limit k s with
  | case1 => simp
  | case2 | case3 | case4 => cases h
  | case5 k b s hb ih =>
    have := ih (Read.map_eq_incomplete.mp h)
    simp only [List.length_cons]
    omega

/-- The decoded value fits `k` full groups and a last one of at most `limit`. -/
theorem ungroup_lt {s rest : List UInt8} {v : Nat}
    (h : ungroup limit k s = .complete v rest) : v < 128 ^ k * (limit + 1) := by
  fun_induction ungroup limit k s generalizing v with
  | case1 | case2 => cases h
  | case3 b s hb =>
    obtain ⟨rfl, rfl⟩ := Read.complete.inj h
    omega
  | case4 k b s hb =>
    obtain ⟨rfl, rfl⟩ := Read.complete.inj h
    have : 0 < 128 ^ k * (limit + 1) := Nat.mul_pos (Nat.pow_pos (by omega)) (by omega)
    rw [pow_succ', Nat.mul_assoc]
    omega
  | case5 k b s hb ih =>
    obtain ⟨m, hm, rfl⟩ := Read.map_eq_complete.mp h
    have := ih hm
    rw [pow_succ', Nat.mul_assoc]
    omega

/-- **A small value with a last byte that is not zero is its last byte**: a longer encoding of a
    value below 128 would have to end in a zero group. -/
theorem ungroup_last {pre : List UInt8} {v : Nat} {l : UInt8}
    (h : ungroup limit k (pre ++ [l]) = .complete v []) (hl : l.toNat ≠ 0) (hv : v < 128) :
    v = l.toNat := by
  have key : v = l.toNat ∨ 128 ≤ v := by
    induction pre generalizing k v with
    | nil =>
      left
      have hlow : l.toNat < 128 := by
        by_contra hhigh
        exact Nat.not_lt_zero _ (ungroup_complete_two h (Nat.not_lt.1 hhigh))
      rw [List.nil_append, ungroup_low hlow] at h
      split at h
      · cases h
      · exact (Read.complete.inj h).1.symm
    | cons b pre ih =>
      right
      cases k with
      | zero =>
        rw [List.cons_append, ungroup_zero_cons] at h
        split at h
        · cases h
        · simp at h
      | succ k =>
        rw [List.cons_append, ungroup_succ_cons] at h
        split at h
        · simp at h
        · obtain ⟨m, hm, rfl⟩ := Read.map_eq_complete.mp h
          -- the tail decodes to a number that is not zero, and one group above it is 128
          have hm1 : 1 ≤ m := by
            by_cases hm2 : m < 128
            · rcases ih hm hm2 with e | e <;> omega
            · omega
          omega
  omega

end

/-! ## 2. The shortest encoding -/

/-- The shortest encoding of `n` in at most `k + 1` bytes. -/
def group : Nat → Nat → List UInt8
  | 0, n => [UInt8.ofNat n]
  | k + 1, n => if n < 128 then [UInt8.ofNat n]
    else UInt8.ofNat (n % 128 + 128) :: group k (n / 128)

theorem group_length_pos (k n : Nat) : 0 < (group k n).length := by
  cases k with
  | zero => simp [group]
  | succ k =>
    unfold group
    split <;> simp

theorem group_length_le (k n : Nat) : (group k n).length ≤ k + 1 := by
  induction k generalizing n with
  | zero => simp [group]
  | succ k ih =>
    unfold group
    split
    · simp
    · simpa using ih (n / 128)

/-- Numbers below `128 ^ m` take at most `m` bytes. -/
theorem group_length_le_of_lt {k m n : Nat} (hm : 0 < m) (h : n < 128 ^ m) :
    (group k n).length ≤ m := by
  induction k generalizing m n with
  | zero => exact hm
  | succ k ih =>
    unfold group
    split
    · exact hm
    · rename_i hbig
      match m, hm, h with
      | 1, _, h => exact absurd h hbig
      | m + 2, _, h =>
        have hdiv : n / 128 < 128 ^ (m + 1) := by
          rw [pow_succ] at h
          exact Nat.div_lt_of_lt_mul (by rwa [Nat.mul_comm])
        have := ih (Nat.succ_pos m) hdiv
        rw [List.length_cons]
        omega

/-- **No accepted encoding is shorter**, of the number or of a smaller one. -/
theorem group_length_le_of_ungroup {limit k n v : Nat} {s rest : List UInt8}
    (h : ungroup limit k s = .complete v rest) (hn : n ≤ v) :
    (group k n).length + rest.length ≤ s.length := by
  fun_induction ungroup limit k s generalizing v n with
  | case1 | case2 => cases h
  | case3 b s hb =>
    obtain ⟨rfl, rfl⟩ := Read.complete.inj h
    rw [group, List.length_singleton, List.length_cons]
    omega
  | case4 k b s hb =>
    obtain ⟨rfl, rfl⟩ := Read.complete.inj h
    rw [group, if_pos (by omega), List.length_singleton, List.length_cons]
    omega
  | case5 k b s hb ih =>
    obtain ⟨m, hm, rfl⟩ := Read.map_eq_complete.mp h
    have hrest := ih hm (n := n / 128) (by omega)
    have hpos := group_length_pos k (n / 128)
    unfold group
    split
    · rw [List.length_singleton, List.length_cons]
      omega
    · rw [List.length_cons, List.length_cons]
      omega

/-- **Round trip**: the shortest encoding decodes to the number and leaves what follows. -/
theorem ungroup_group {limit : Nat} (hl : limit < 128) {k n : Nat}
    (hn : n < 128 ^ k * (limit + 1)) (t : List UInt8) :
    ungroup limit k (group k n ++ t) = .complete n t := by
  induction k generalizing n with
  | zero =>
    have hn' : n ≤ limit := by omega
    have hb : (UInt8.ofNat n).toNat = n := by
      rw [UInt8.toNat_ofNat']
      omega
    rw [group, List.singleton_append, ungroup_zero_cons, hb, if_neg (by omega)]
  | succ k ih =>
    unfold group
    split
    · rename_i h
      have hb : (UInt8.ofNat n).toNat = n := by
        rw [UInt8.toNat_ofNat']
        omega
      rw [List.singleton_append, ungroup_succ_cons, hb, if_pos h]
    · rename_i h
      have hb : (UInt8.ofNat (n % 128 + 128)).toNat = n % 128 + 128 := by
        rw [UInt8.toNat_ofNat']
        omega
      have hpow : 128 ^ (k + 1) * (limit + 1) = 128 * (128 ^ k * (limit + 1)) := by ring
      have hdiv : n / 128 < 128 ^ k * (limit + 1) := by omega
      rw [List.cons_append, ungroup_succ_cons, hb, if_neg (by omega), ih hdiv, Read.map_complete]
      congr 1
      omega

end Groups
