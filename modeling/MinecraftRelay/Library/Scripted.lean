/-
  File:      Library/Scripted.lean
  Subject:   PROGRAMS THAT RUN AGAINST A SCRIPT.

  A program that makes system calls is deterministic once the results of its calls are given.  Those
  results are part of its state, as lists that each call takes the next element from.  Where a list
  is used up the run is cut short, with the state it has reached: the states of all scripts are then
  the states at every call of every run.

  * `Prog`, `take`, `loop`, `require`, `onlyIf` -- programs and how they are built;
  * `After` -- what holds when a run is over, whether it returned or was cut short;
  * `after_bind`, `after_take`, `after_loop`, ... -- one rule for each way to build a program.
-/
import Mathlib.Init

namespace MinecraftRelay
namespace Scripted

variable {σ α β ρ : Type}

/-- A program on the state `σ`.  Its one error is that the script has ended. -/
abbrev Prog (σ α : Type) := EStateM Unit σ α

/-- The run is cut short here. -/
def cut : Prog σ α := fun s => .error () s

/-- The next result of a script, which is taken off it. -/
def take (script : σ → List ρ) (rest : List ρ → σ → σ) : Prog σ ρ := fun s =>
  match script s with
  | [] => .error () s
  | r :: rs => .ok r (rest rs s)

/-- `body` until it answers how the loop is left, at most `n` times. -/
def loop (body : Prog σ (Option ρ)) : Nat → Prog σ ρ
  | 0 => cut
  | n + 1 => do
    match ← body with
    | some r => pure r
    | none => loop body n

/-- The run goes on only if `b` is so. -/
def require (b : Bool) : Prog σ PUnit := if b then pure ⟨⟩ else cut

/-- A part of the program that is skipped unless `b` is so. -/
def onlyIf (b : Bool) (m : Prog σ PUnit) : Prog σ PUnit := if b then m else pure ⟨⟩

/-- A function of the state as a program. -/
def lift (f : σ → α × σ) : Prog σ α := fun s => .ok (f s).1 (f s).2

/-- The state a run has reached. -/
def reached : EStateM.Result Unit σ α → σ
  | .ok _ s => s
  | .error _ s => s

/-- The value a run has returned. -/
def returned : EStateM.Result Unit σ α → Option α
  | .ok a _ => some a
  | .error _ _ => none

/-- What holds when `m`, started in `s`, is over: `Q` if it returned, `I` if it was cut short. -/
def After (I : σ → Prop) (m : Prog σ α) (Q : α → σ → Prop) (s : σ) : Prop :=
  match m s with
  | .ok a t => Q a t
  | .error _ t => I t

variable {I : σ → Prop} {Q : α → σ → Prop} {R : β → σ → Prop} {s : σ}

theorem After.imp {J : σ → Prop} {Q' : α → σ → Prop} {m : Prog σ α} (h : After I m Q s)
    (hcut : ∀ t, I t → J t) (hreturn : ∀ a t, Q a t → Q' a t) : After J m Q' s := by
  unfold After at h ⊢
  cases hm : m s with
  | ok a t =>
    rw [hm] at h
    exact hreturn a t h
  | error e t =>
    rw [hm] at h
    exact hcut t h

theorem After.mono {Q' : α → σ → Prop} {m : Prog σ α} (h : After I m Q s)
    (hreturn : ∀ a t, Q a t → Q' a t) : After I m Q' s :=
  h.imp (fun _ ht => ht) hreturn

/-- A run is over one way or the other. -/
theorem After.elim {m : Prog σ α} {P : Option α → σ → Prop} (h : After I m Q s)
    (hcut : ∀ t, I t → P none t) (hreturn : ∀ a t, Q a t → P (some a) t) :
    P (returned (m s)) (reached (m s)) := by
  unfold After at h
  cases hm : m s with
  | ok a t =>
    rw [hm] at h
    exact hreturn a t h
  | error e t =>
    rw [hm] at h
    exact hcut t h

theorem after_pure {a : α} (h : Q a s) : After I (pure a) Q s := h

theorem after_cut (h : I s) : After I (cut : Prog σ α) Q s := h

theorem after_bind {m : Prog σ α} {f : α → Prog σ β}
    (h : After I m (fun a t => After I (f a) R t) s) : After I (m >>= f) R s := by
  unfold After at h ⊢
  simp only [bind, EStateM.bind]
  cases hm : m s with
  | ok a t =>
    rw [hm] at h
    exact h
  | error e t =>
    rw [hm] at h
    exact h

theorem after_get {f : σ → Prog σ β} (h : After I (f s) R s) : After I (get >>= f) R s := h

theorem after_set {t : σ} {f : PUnit → Prog σ β} (h : After I (f ⟨⟩) R t) :
    After I (set t >>= f) R s := h

theorem after_modify {g : σ → σ} {f : PUnit → Prog σ β} (h : After I (f ⟨⟩) R (g s)) :
    After I (modify g >>= f) R s := h

theorem after_take_pure {script : σ → List ρ} {rest : List ρ → σ → σ} {P : ρ → σ → Prop} (hs : I s)
    (h : ∀ r rs, script s = r :: rs → P r (rest rs s)) : After I (take script rest) P s := by
  unfold After take
  cases hscript : script s with
  | nil => exact hs
  | cons r rs => exact h r rs hscript

theorem after_take {script : σ → List ρ} {rest : List ρ → σ → σ} {f : ρ → Prog σ β} (hs : I s)
    (h : ∀ r rs, script s = r :: rs → After I (f r) R (rest rs s)) :
    After I (take script rest >>= f) R s :=
  after_bind (after_take_pure hs h)

theorem after_ite {c : Prop} [Decidable c] {m m' : Prog σ α} (h : c → After I m Q s)
    (h' : ¬ c → After I m' Q s) : After I (if c then m else m') Q s := by
  split
  · rename_i hc
    exact h hc
  · rename_i hc
    exact h' hc

theorem after_require_pure {b : Bool} {Q : PUnit → σ → Prop} (hs : I s) (h : b = true → Q ⟨⟩ s) :
    After I (require b) Q s := by
  cases b with
  | false => exact hs
  | true => exact h rfl

theorem after_require {b : Bool} {f : PUnit → Prog σ β} (hs : I s)
    (h : b = true → After I (f ⟨⟩) R s) : After I (require b >>= f) R s :=
  after_bind (after_require_pure hs h)

theorem after_onlyIf {b : Bool} {m : Prog σ PUnit} {Q : PUnit → σ → Prop}
    (h : b = true → After I m Q s) (h' : b = false → Q ⟨⟩ s) : After I (onlyIf b m) Q s := by
  cases b with
  | false => exact h' rfl
  | true => exact h rfl

theorem after_lift {f : σ → α × σ} {g : α → Prog σ β} (h : After I (g (f s).1) R (f s).2) :
    After I (lift f >>= g) R s := h

/-- The loop over a list: `J` is what every round starts from and restores. -/
theorem after_forM {f : α → Prog σ PUnit} {J : σ → Prop} (l : List α)
    (h : ∀ a ∈ l, ∀ t, J t → After I (f a) (fun _ u => J u) t) (hs : J s) :
    After I (l.forM f) (fun _ t => J t) s := by
  induction l generalizing s with
  | nil => exact hs
  | cons a l ih =>
    refine after_bind ((h a List.mem_cons_self s hs).mono fun _ t ht => ?_)
    exact ih (fun b hb => h b (List.mem_cons_of_mem a hb)) ht

/-- The loop rule: `J` is what every round starts from, and what a round that does not leave the
    loop restores. -/
theorem after_loop {body : Prog σ (Option ρ)} {J : σ → Prop} {P : ρ → σ → Prop}
    (hI : ∀ t, J t → I t) (h : ∀ t, J t → After I body (fun o u => o.elim (J u) (P · u)) t)
    (n : Nat) (hs : J s) : After I (loop body n) P s := by
  induction n generalizing s with
  | zero => exact after_cut (hI s hs)
  | succ n ih =>
    refine after_bind ((h s hs).mono ?_)
    intro o u ho
    cases o with
    | some r => exact after_pure ho
    | none => exact ih ho

end Scripted
end MinecraftRelay
