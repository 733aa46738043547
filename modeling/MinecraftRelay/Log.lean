/-
  File:      Log.lean
  Subject:   LOG TEXTS: `escape_default` (basic.c), and `mksysmsg` (log.c) up to the text it hands
             to `log_write`.

  Every byte is written as a unit of one, two or four printable characters, as long as units fit.
  `readUnit` reads one back; it is not part of the program.

  * `escapeLoop_spec` -- the loop stops at the first unit that does not fit;
  * `escape_injective` -- units cannot be read in two ways;
  * `escapeDefault_escaped` -- what reaches the log.
-/
import MinecraftRelay.Basic

namespace MinecraftRelay

/-- `hexadecimal[]`. -/
def hexadecimal (digit : UInt8) : UInt8 := (ascii "0123456789abcdef").getD digit.toNat 0

/-- The unit of one character. -/
def escapeUnit (character : UInt8) : Bytes :=
  if character = 10 then ascii "\\n"
  else if character = 13 then ascii "\\r"
  else if character = 9 then ascii "\\t"
  else if character = 92 then ascii "\\\\"
  else if character < 0x20 ∨ 0x7F ≤ character then
    [92, 120, hexadecimal (character >>> 4), hexadecimal (character &&& 0x0F)]
  else [character]

/-- The loop of `escape_default`: `written` is `dst` up to `offset`, which stays below `dst_size`.
    -/
def escapeLoop (dstSize : Nat) (written : Bytes) : Bytes → Bytes
  | [] => written
  | character :: src =>
    if dstSize - written.length - 1 < (escapeUnit character).length then written
    else escapeLoop dstSize (written ++ escapeUnit character) src

/-- `escape_default`: what `dst` holds up to its NUL; `none` is `NULL`. -/
def escapeDefault (dstSize : Nat) (src : Option Bytes) : Option Bytes :=
  if dstSize = 0 then none else src.map fun src => escapeLoop dstSize [] src ++ [0]

/-- `mksysmsg`, with `BUFSIZ` as a parameter: the text that goes to `log_write`. `vsnprintf` answers
    the text of a format with the arguments of the call, before it is cut to its buffer. -/
def mksysmsg (bufsiz : Nat) (vsnprintf : Bytes → Option Bytes) (format : Option Bytes) :
    Option Bytes :=
  let formatLine := ((format.getD []).takeWhile fun b => b ≠ 0 ∧ b ≠ 10).take (bufsiz - 1)
  let rendered := ((vsnprintf formatLine).getD []).take (bufsiz - 1)
  escapeDefault (bufsiz * 4 + 1) (some rendered)

/-- The units of a text. -/
def escape (src : Bytes) : Bytes := src.flatMap escapeUnit

@[simp] theorem escape_nil : escape [] = [] := rfl

@[simp] theorem escape_cons (c : UInt8) (src : Bytes) :
    escape (c :: src) = escapeUnit c ++ escape src :=
  rfl

@[simp] theorem escape_append (p q : Bytes) : escape (p ++ q) = escape p ++ escape q := by
  simp [escape]

/-- What a client or an operator may see. -/
def Printable (text : Bytes) : Prop := ∀ c ∈ text, 0x20 ≤ c ∧ c < 0x7F

theorem escapeUnit_printable (c : UInt8) : Printable (escapeUnit c) := by
  have hhex : ∀ c : UInt8, ((0x20 : UInt8) ≤ hexadecimal (c >>> 4) ∧ hexadecimal (c >>> 4) < 0x7F) ∧
      (0x20 : UInt8) ≤ hexadecimal (c &&& 0x0F) ∧ hexadecimal (c &&& 0x0F) < 0x7F :=
    forall_byte (by decide +kernel)
  unfold Printable escapeUnit
  split_ifs with _ _ _ _ hx
  · simp [ascii]
  · simp [ascii]
  · simp [ascii]
  · simp [ascii]
  · simpa using hhex c
  · simpa using hx

theorem escapeUnit_length_le : ∀ c : UInt8, (escapeUnit c).length ≤ 4 :=
  forall_byte (by decide +kernel)

theorem escape_printable (src : Bytes) : Printable (escape src) := by
  intro c hc
  obtain ⟨b, _, hb⟩ := List.mem_flatMap.1 hc
  exact escapeUnit_printable b c hb

theorem escape_length_le (src : Bytes) : (escape src).length ≤ 4 * src.length := by
  induction src with
  | nil => simp
  | cons c src ih =>
    have := escapeUnit_length_le c
    simp only [escape_cons, List.length_append, List.length_cons]
    omega

/-! ## 1. The loop -/

/-- A part of the text is consumed, and the next unit would not fit. -/
theorem escapeLoop_spec {n : Nat} {w : Bytes} (src : Bytes) (hw : w.length < n) :
    ∃ consumed rest, src = consumed ++ rest ∧ escapeLoop n w src = w ++ escape consumed ∧
      (w ++ escape consumed).length < n ∧
      ∀ c, rest.head? = some c → n ≤ (w ++ escape (consumed ++ [c])).length := by
  induction src generalizing w with
  | nil => exact ⟨[], [], rfl, by simp [escapeLoop], by simpa using hw, by simp⟩
  | cons c src ih =>
    unfold escapeLoop
    split
    · refine ⟨[], c :: src, rfl, by simp, by simpa using hw, ?_⟩
      simp only [List.head?_cons, Option.some.injEq, List.nil_append, forall_eq', escape_cons,
        escape_nil, List.append_nil, List.length_append]
      omega
    · obtain ⟨consumed, rest, rfl, heq, hfits, hnext⟩ := ih (w := w ++ escapeUnit c)
        (by simp only [List.length_append]; omega)
      refine ⟨c :: consumed, rest, rfl, ?_, ?_, ?_⟩
      · simpa using heq
      · simpa using hfits
      · simpa using hnext

/-! ## 2. Reading back -/

/-- The value of a hexadecimal digit. -/
def hexValue (c : UInt8) : UInt8 := if c < 97 then c - 48 else c - 87

/-- The character of the unit at the front of a text, and what follows the unit. -/
def readUnit : Bytes → Option (UInt8 × Bytes)
  | [] => none
  | c :: text =>
    if c ≠ 92 then some (c, text)
    else
      match text with
      | 120 :: high :: low :: text => some (hexValue high * 16 + hexValue low, text)
      | kind :: text =>
        some (if kind = 110 then 10 else if kind = 114 then 13 else if kind = 116 then 9
          else kind, text)
      | [] => none

/-- **One unit is read off the front, whatever follows.** -/
theorem readUnit_escapeUnit (c : UInt8) (text : Bytes) :
    readUnit (escapeUnit c ++ text) = some (c, text) := by
  have hhex : ∀ c : UInt8,
      hexValue (hexadecimal (c >>> 4)) * 16 + hexValue (hexadecimal (c &&& 0x0F)) = c :=
    forall_byte (by decide +kernel)
  unfold escapeUnit
  split_ifs with hn hr ht hb
  · simp [ascii, readUnit, hn]
  · simp [ascii, readUnit, hr]
  · simp [ascii, readUnit, ht]
  · simp [ascii, readUnit, hb]
  · simp [readUnit, hhex]
  · simp [readUnit, hb]

/-- **Units cannot be read in two ways.** -/
theorem escape_injective : Function.Injective escape := by
  intro p
  induction p with
  | nil =>
    intro q h
    cases q with
    | nil => rfl
    | cons d q =>
      have hread := readUnit_escapeUnit d (escape q)
      rw [← escape_cons, ← h] at hread
      cases hread
  | cons c p ih =>
    intro q h
    have hread := readUnit_escapeUnit c (escape p)
    rw [← escape_cons, h] at hread
    cases q with
    | nil => cases hread
    | cons d q =>
      rw [escape_cons, readUnit_escapeUnit] at hread
      obtain ⟨rfl, heq⟩ := Prod.mk.inj (Option.some.inj hread)
      rw [ih heq.symm]

/-! ## 3. What reaches the log -/

/-- `escape_default` leaves the units of `consumed`, the longest part of the text that fits, and a
    NUL. -/
structure Escaped (dstSize : Nat) (src consumed : Bytes) : Prop where
  part : consumed <+: src
  text : escapeDefault dstSize (some src) = some (escape consumed ++ [0])
  fits : (escape consumed).length < dstSize
  longest : ∀ part, part <+: src → (escape part).length < dstSize → part <+: consumed
  /-- no character of the text ends a line, or the string -/
  printable : Printable (escape consumed)

theorem exists_escaped {n : Nat} (src : Bytes) (hsize : 0 < n) :
    ∃ consumed, Escaped n src consumed := by
  obtain ⟨consumed, rest, rfl, heq, hfits, hnext⟩ := escapeLoop_spec (w := []) src hsize
  refine ⟨consumed, List.prefix_append .., by simp [escapeDefault, hsize.ne', heq],
    by simpa using hfits, fun part hpart hshort => ?_, escape_printable consumed⟩
  -- a longer part has the unit that did not fit
  rcases List.prefix_or_prefix_of_prefix hpart (List.prefix_append ..) with h | ⟨more, rfl⟩
  · exact h
  · rw [List.prefix_append_right_inj] at hpart
    cases more with
    | nil => simp
    | cons c more =>
      have hlong := hnext c (by obtain ⟨_, rfl⟩ := hpart; rfl)
      simp only [List.nil_append, escape_append, escape_cons, escape_nil, List.append_nil,
        List.length_append] at hlong hshort
      omega

/-- **Log texts cannot be forged**: a text is written as the units of its longest part that fits,
    and units are read in one way only; a message of the program is written as a whole. -/
theorem escapeDefault_escaped (dstSize : Nat) (hsize : 0 < dstSize) (src : Bytes) :
    (∃ consumed, Escaped dstSize src consumed) ∧ Function.Injective escape ∧
      ∀ bufsiz vsnprintf format, ∃ rendered : Bytes,
        mksysmsg bufsiz vsnprintf format = some (escape rendered ++ [0]) ∧
          rendered.length ≤ bufsiz - 1 ∧ Printable (escape rendered) := by
  refine ⟨exists_escaped src hsize, escape_injective, fun bufsiz vsnprintf format => ?_⟩
  unfold mksysmsg
  dsimp only
  generalize hr : List.take (bufsiz - 1) _ = rendered
  have hlength : rendered.length ≤ bufsiz - 1 := by
    rw [← hr]
    exact List.length_take_le ..
  obtain ⟨consumed, h⟩ := exists_escaped (n := bufsiz * 4 + 1) rendered (Nat.succ_pos _)
  have hfits := escape_length_le rendered
  obtain rfl := h.part.eq_of_length_le (h.longest rendered List.prefix_rfl (by omega)).length_le
  exact ⟨consumed, h.text, hlength, h.printable⟩

/-- A unit that does not fit is left out, with what follows it. -/
theorem escapeDefault_escaped_cut : (∃ consumed, Escaped 5 [65, 10, 0, 66] consumed) ∧
    escapeDefault 5 (some [65, 10, 0, 66]) = some (ascii "A\\n" ++ [0]) :=
  ⟨(escapeDefault_escaped 5 (by decide) [65, 10, 0, 66]).1, by decide⟩

end MinecraftRelay
