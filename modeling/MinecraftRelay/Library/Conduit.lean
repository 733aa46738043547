/-
  File:      Library/Conduit.lean
  Subject:   ONE DIRECTION OF A RELAY.

  A relay reads from one socket and writes to another.  What it does in one direction is a log of
  what was received, the end of the input, what was sent and the shutdown of the output.  Logs grow
  at the head, so that the earlier points of a run are the tails of its log.

  * `Io`, `received`, `sent` -- the log and the two byte streams in it;
  * `Orderly` -- at every point the output is a prefix of the input, and the output is shut down at
    most once, after the input ended and all of it was sent;
  * `Carries` -- the invariant a relay keeps: what is not sent yet is what it has queued.
-/
import Mathlib.Init

namespace MinecraftRelay
namespace Conduit

variable {α : Type}

inductive Io (α : Type) where
  | received (elements : List α)
  | ended
  | sent (elements : List α)
  | shut
deriving Repr, DecidableEq

/-- Everything that was received. -/
def received : List (Io α) → List α
  | [] => []
  | .received elements :: log => received log ++ elements
  | _ :: log => received log

/-- Everything that was sent. -/
def sent : List (Io α) → List α
  | [] => []
  | .sent elements :: log => sent log ++ elements
  | _ :: log => sent log

/-- A direction that keeps its order; `seed` is what it has to send before anything it receives. -/
structure Orderly (seed : List α) (log : List (Io α)) : Prop where
  delivered : ∀ earlier, earlier <:+ log → sent earlier <+: seed ++ received earlier
  shutdown : ∀ earlier, .shut :: earlier <:+ log →
    .ended ∈ earlier ∧ sent earlier = seed ++ received earlier ∧ .shut ∉ earlier

/-- A direction whose unsent elements are `queued`. -/
structure Carries (seed : List α) (log : List (Io α)) (queued : List α) : Prop where
  orderly : Orderly seed log
  balance : sent log ++ queued = seed ++ received log

variable {seed queued : List α} {log : List (Io α)}

theorem Orderly.nil (seed : List α) : Orderly seed [] where
  delivered earlier h := by
    cases List.suffix_nil.1 h
    exact List.nil_prefix
  shutdown earlier h := by cases List.suffix_nil.1 h

/-- One more entry keeps the order if what the entry asks for holds of the log before it. -/
theorem Orderly.cons {io : Io α} (h : Orderly seed log)
    (hsent : sent (io :: log) <+: seed ++ received (io :: log)) (hshut : io = .shut →
      .ended ∈ log ∧ sent log = seed ++ received log ∧ .shut ∉ log) :
    Orderly seed (io :: log) where
  delivered earlier he := by
    rcases List.suffix_cons_iff.1 he with rfl | he
    · exact hsent
    · exact h.delivered earlier he
  shutdown earlier he := by
    rcases List.suffix_cons_iff.1 he with e | he
    · obtain ⟨rfl, rfl⟩ := List.cons.inj e
      exact hshut rfl
    · exact h.shutdown earlier he

theorem shut_mem_of_cons {io : Io α} (h : .shut ∈ io :: log) (hne : io ≠ .shut) : .shut ∈ log :=
  List.mem_of_ne_of_mem hne.symm h

theorem Carries.delivered (h : Carries seed log queued) : sent log <+: seed ++ received log :=
  ⟨queued, h.balance⟩

theorem Carries.start (seed : List α) : Carries seed [] seed :=
  ⟨.nil seed, (List.append_nil seed).symm⟩

theorem Carries.receive (h : Carries seed log queued) (elements : List α) :
    Carries seed (.received elements :: log) (queued ++ elements) := by
  have hbalance : sent log ++ (queued ++ elements) = seed ++ (received log ++ elements) := by
    rw [← List.append_assoc, h.balance, List.append_assoc]
  exact ⟨h.orderly.cons ⟨_, hbalance⟩ nofun, hbalance⟩

theorem Carries.finish (h : Carries seed log queued) : Carries seed (.ended :: log) queued :=
  ⟨h.orderly.cons h.delivered nofun, h.balance⟩

theorem Carries.send (h : Carries seed log queued) (n : Nat) :
    Carries seed (.sent (queued.take n) :: log) (queued.drop n) := by
  have hbalance : sent log ++ queued.take n ++ queued.drop n = seed ++ received log := by
    rw [List.append_assoc, List.take_append_drop, h.balance]
  exact ⟨h.orderly.cons ⟨_, hbalance⟩ nofun, hbalance⟩

/-- Nothing is left to send: everything was sent. -/
theorem Carries.all_sent (h : Carries seed log []) : sent log = seed ++ received log := by
  rw [← h.balance, List.append_nil]

theorem Carries.shut (h : Carries seed log []) (hended : .ended ∈ log) (honce : .shut ∉ log) :
    Carries seed (.shut :: log) [] :=
  ⟨h.orderly.cons h.delivered fun _ => ⟨hended, h.all_sent, honce⟩, h.balance⟩

end Conduit
end MinecraftRelay
