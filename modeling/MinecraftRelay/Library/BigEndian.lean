/-
  File:      Library/BigEndian.lean
  Subject:   FIXED-WIDTH BIG-ENDIAN INTEGERS AND THEIR READER.  Names no program.

  * `encode n v`, `decode s` -- `n` bytes, most significant first; inverse to one another;
  * `takeBytes`, `read` -- a reader over the bytes still unread, refusing short input;
  * `takeBytes_append`, `read_encode` -- what a reader returns on what a writer wrote;
  * `takeBytes_some`, `read_some`, `read_bind_elim` -- what a reader that accepts has consumed.
-/
import Mathlib.Algebra.Order.Ring.Nat
import Mathlib.Data.List.Induction
import Mathlib.Data.Option.Basic

namespace BigEndian

/-- The `n` low-order bytes of `v`, most significant first. -/
def encode : Nat → Nat → List UInt8
  | 0, _ => []
  | n + 1, v => encode n (v / 256) ++ [UInt8.ofNat v]

/-- The number whose bytes are `s`, most significant first. -/
def decode (s : List UInt8) : Nat :=
  s.foldl (fun value byte => value * 256 + byte.toNat) 0

@[simp] theorem encode_length (n v : Nat) : (encode n v).length = n := by
  induction n generalizing v with
  | zero => rfl
  | succ n ih => simp [encode, ih]

theorem decode_concat (s : List UInt8) (b : UInt8) :
    decode (s ++ [b]) = decode s * 256 + b.toNat := by
  simp [decode, List.foldl_append]

theorem decode_encode (n v : Nat) : decode (encode n v) = v % 256 ^ n := by
  induction n generalizing v with
  | zero => simp [encode, decode, Nat.mod_one]
  | succ n ih =>
    have low : (UInt8.ofNat v).toNat = v % 256 := by simp
    rw [encode, decode_concat, ih, low, Nat.pow_succ', Nat.mod_mul]
    omega

/-- A value that fits is read back as it was. -/
theorem decode_encode_of_lt {n v : Nat} (h : v < 256 ^ n) : decode (encode n v) = v := by
  rw [decode_encode, Nat.mod_eq_of_lt h]

theorem decode_lt (s : List UInt8) : decode s < 256 ^ s.length := by
  induction s using List.reverseRecOn with
  | nil => simp [decode]
  | append_singleton s b ih =>
    have hb := b.toNat_lt
    rw [decode_concat, List.length_append, List.length_singleton, Nat.pow_succ]
    omega

/-- **The encoding is canonical**: a string of `n` bytes is the encoding of its value. -/
theorem encode_decode (s : List UInt8) : encode s.length (decode s) = s := by
  induction s using List.reverseRecOn with
  | nil => rfl
  | append_singleton s b ih =>
    have hb := b.toNat_lt
    have hq : (decode s * 256 + b.toNat) / 256 = decode s := by omega
    have hr : UInt8.ofNat (decode s * 256 + b.toNat) = b := by
      apply UInt8.toNat_inj.1
      rw [UInt8.toNat_ofNat']
      omega
    rw [List.length_append, List.length_singleton, decode_concat, encode, hq, ih, hr]

/-! ## Readers -/

/-- Take `n` bytes off the unread input. -/
def takeBytes (n : Nat) (s : List UInt8) : Option (List UInt8 × List UInt8) :=
  if s.length < n then none else some (s.take n, s.drop n)

/-- Read an `n`-byte integer off the unread input. -/
def read (n : Nat) (s : List UInt8) : Option (Nat × List UInt8) :=
  (takeBytes n s).map fun p => (decode p.1, p.2)

@[simp] theorem takeBytes_append (s rest : List UInt8) :
    takeBytes s.length (s ++ rest) = some (s, rest) := by
  simp [takeBytes]

theorem takeBytes_append_of_length {n : Nat} {s : List UInt8} (h : s.length = n)
    (rest : List UInt8) : takeBytes n (s ++ rest) = some (s, rest) := by
  rw [← h, takeBytes_append]

theorem takeBytes_some {n : Nat} {s field rest : List UInt8}
    (h : takeBytes n s = some (field, rest)) : field.length = n ∧ s = field ++ rest := by
  unfold takeBytes at h
  split at h
  · cases h
  · rename_i hn
    cases h
    refine ⟨?_, (List.take_append_drop n s).symm⟩
    rw [List.length_take]
    omega

theorem read_encode {n v : Nat} (h : v < 256 ^ n) (rest : List UInt8) :
    read n (encode n v ++ rest) = some (v, rest) := by
  rw [read, takeBytes_append_of_length (encode_length n v), Option.map_some,
    decode_encode_of_lt h]

/-- One reader of a chain, on what a writer wrote. -/
theorem read_bind {α : Type} {n v : Nat} (h : v < 256 ^ n) (rest : List UInt8)
    (f : Nat × List UInt8 → Option α) : (read n (encode n v ++ rest)).bind f = f (v, rest) := by
  rw [read_encode h, Option.bind_some]

theorem read_encode_self {n v : Nat} (h : v < 256 ^ n) : read n (encode n v) = some (v, []) := by
  have hread := read_encode h []
  rwa [List.append_nil] at hread

theorem read_some {n v : Nat} {s rest : List UInt8} (h : read n s = some (v, rest)) :
    v < 256 ^ n ∧ s = encode n v ++ rest := by
  unfold read at h
  rw [Option.map_eq_some_iff] at h
  obtain ⟨p, hp, e⟩ := h
  cases e
  obtain ⟨hl, hs⟩ := takeBytes_some hp
  refine ⟨hl ▸ decode_lt p.1, ?_⟩
  rw [← hl, encode_decode]
  exact hs

/-- One reader of a chain that accepts: its input is what a writer would have written. -/
@[elab_as_elim]
theorem read_bind_elim {α : Type} {n : Nat} {f : Nat × List UInt8 → Option α} {a : α}
    {motive : List UInt8 → Prop} {s : List UInt8} (h : (read n s >>= f) = some a)
    (next : ∀ v rest, v < 256 ^ n → f (v, rest) = some a → motive (encode n v ++ rest)) :
    motive s := by
  obtain ⟨⟨v, rest⟩, hread, hf⟩ := Option.bind_eq_some_iff.1 h
  obtain ⟨hlt, rfl⟩ := read_some hread
  exact next v rest hlt hf

/-- A check in a chain that accepts. -/
theorem guard_bind_some {α : Type} {p : Prop} [Decidable p] {f : Unit → Option α} {a : α}
    (h : (guard p >>= f) = some a) : p ∧ f () = some a := by
  obtain ⟨_, hp, hf⟩ := Option.bind_eq_some_iff.1 h
  exact ⟨(Option.guard_eq_some' ()).1 hp, hf⟩

end BigEndian
