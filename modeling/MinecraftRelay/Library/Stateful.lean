/-
  File:      Library/Stateful.lean
  Subject:   PROGRAMS THAT CHANGE A STATE AND ALWAYS RETURN.

  * `exec` -- the result and the state of a program;
  * `Leads J m Q` -- from a state with `J`, `m` ends with `Q`;
  * `leads_pure`, `Leads.bind`, `leads_get`, `leads_modify`, ... -- one rule for each way to build a
    program;
  * `Keeps` -- the special case of an invariant.
-/
import Mathlib.Init

namespace MinecraftRelay
namespace Stateful

variable {σ α β : Type}

/-- The result and the state of `m`, started in `s`. -/
def exec (m : StateM σ α) (s : σ) : α × σ := m s

theorem exec_get {f : σ → StateM σ α} {s : σ} : exec (get >>= f) s = exec (f s) s := rfl

theorem exec_modify {g : σ → σ} {s : σ} : exec (modify g : StateM σ PUnit) s = (⟨⟩, g s) := rfl

/-- From a state with `J`, `m` ends with `Q`. -/
def Leads (J : σ → Prop) (m : StateM σ α) (Q : α → σ → Prop) : Prop :=
  ∀ s, J s → Q (exec m s).1 (exec m s).2

/-- `m` keeps `J`. -/
abbrev Keeps (J : σ → Prop) (m : StateM σ α) : Prop := Leads J m fun _ => J

variable {J K : σ → Prop} {Q Q' : α → σ → Prop} {R : β → σ → Prop}

theorem Leads.mono {m : StateM σ α} (h : Leads J m Q) (hQ : ∀ a s, Q a s → Q' a s) :
    Leads J m Q' :=
  fun s hs => hQ _ _ (h s hs)

theorem Leads.weaken {m : StateM σ α} (h : Leads J m Q) (hJ : ∀ s, K s → J s) : Leads K m Q :=
  fun s hs => h s (hJ s hs)

theorem leads_pure {a : α} (h : ∀ s, J s → Q a s) : Leads J (pure a) Q := h

theorem Leads.bind {m : StateM σ α} {f : α → StateM σ β} (h : Leads J m Q)
    (h' : ∀ a, Leads (Q a) (f a) R) : Leads J (m >>= f) R :=
  fun s hs => h' _ _ (h s hs)

/-- What is read is the state. -/
theorem leads_get {f : σ → StateM σ β} (h : ∀ x, J x → R (exec (f x) x).1 (exec (f x) x).2) :
    Leads J (get >>= f) R := h

theorem leads_modify {g : σ → σ} (h : ∀ s, J s → K (g s)) :
    Leads J (modify g : StateM σ PUnit) fun _ => K := h

theorem keeps_pure (a : α) : Keeps J (pure a : StateM σ α) := fun _ hs => hs

theorem keeps_get {f : σ → StateM σ β} (h : ∀ x, Keeps J (f x)) : Keeps J (get >>= f) :=
  fun s hs => h s s hs

end Stateful
end MinecraftRelay
