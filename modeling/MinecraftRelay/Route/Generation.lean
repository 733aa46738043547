/-
  File:      Route/Generation.lean
  Subject:   ROUTE GENERATIONS AND THEIR REGISTRY (src/route/generation.c,
             src/route/generation_registry.c).

  A generation is one prepared configuration with its routes.  It lives as long as somebody holds a
  reference: the registry for the active and the retired generation, a connection for the one it
  was accepted under, a waiter for the one it selects from, and the listener for a candidate it has
  not published yet.  A pointer is a number, the heap says what it points to, and a freed
  generation is gone from the heap.

  * `Accounted` -- every count is the number of its holders, `held` being those outside the
    registry;
  * `Accounted.created`, `.retain`, `.release`, `.collect`, `.publish` -- one rule per operation;
  * `Persists` -- a generation stays what it was made as.

  The background release that a collection starts with belongs to the supervisor; its status is an
  argument.
-/
import MinecraftRelay.Basic
import MinecraftRelay.Timeutil
import Mathlib.Logic.Function.Basic

namespace MinecraftRelay

open Function (update update_apply update_of_ne update_self)

/-! ## 1. Generations -/

/-- `route_generation`.  `contents` is the configuration and all that was prepared from it. -/
structure RouteGeneration (γ : Type) where
  identity : Nat
  referenceCount : Nat
  contents : γ
deriving Repr, DecidableEq

/-- `route_generation_registry`, over the heap of generations.  `fresh` is the next pointer. -/
structure Generations (γ : Type) where
  heap : Nat → Option (RouteGeneration γ)
  fresh : Nat
  active : Option Nat
  retired : Option Nat

/-- `route_generation_create_status`. -/
inductive RouteGenerationCreateStatus where
  | ok
  | badArgument
  | memory
deriving Repr, DecidableEq

/-- `route_resolution_release_status`. -/
inductive RouteResolutionReleaseStatus where
  | ok
  | badArgument
  | io
  | time
deriving Repr, DecidableEq

/-- `route_generation_registry_collect_status`. -/
inductive RegistryCollectStatus where
  | none
  | retained
  | collected
  | badArgument
  | io
  | time
deriving Repr, DecidableEq

/-- `route_generation_registry_publish_status`. -/
inductive RegistryPublishStatus where
  | ok
  | blocked
  | badArgument
  | io
  | time
deriving Repr, DecidableEq

section Operations

variable {γ : Type}

namespace Generations

/-- `route_generation_registry_create`. -/
def create : Generations γ := ⟨fun _ => none, 0, none, none⟩

variable (gs : Generations γ) (pointer : Option Nat)

/-- The generation behind a pointer that may be `NULL`. -/
def at? : Option (RouteGeneration γ) :=
  pointer.bind gs.heap

/-- `route_generation_reference_count`. -/
def referenceCount : Nat :=
  (gs.at? pointer).elim 0 RouteGeneration.referenceCount

/-- `route_generation_identity`. -/
def identity : Nat :=
  (gs.at? pointer).elim 0 RouteGeneration.identity

/-- What a generation was made of. -/
def contents : Option γ :=
  (gs.at? pointer).map RouteGeneration.contents

end Generations

variable (gs : Generations γ)

/-- `route_generation_create`; `allocated` is whether `calloc` succeeds. -/
def routeGenerationCreate (identity : Nat) (contents : γ) (allocated : Bool) :
    RouteGenerationCreateStatus × Option Nat × Generations γ :=
  if identity = 0 then (.badArgument, none, gs)
  else if allocated = false then (.memory, none, gs)
  else
    (.ok, some gs.fresh,
      { gs with
        heap := update gs.heap gs.fresh (some ⟨identity, 1, contents⟩)
        fresh := gs.fresh + 1 })

/-- `route_generation_release`: the references left. -/
def routeGenerationRelease : Option Nat → Nat × Generations γ
  | none => (0, gs)
  | some pointer =>
    match gs.heap pointer with
    | none => (0, gs)
    | some generation =>
      if generation.referenceCount = 0 then (0, gs)
      else if generation.referenceCount - 1 = 0 then
        (0, { gs with heap := update gs.heap pointer none })
      else
        (generation.referenceCount - 1,
          { gs with
            heap := update gs.heap pointer
              (some { generation with referenceCount := generation.referenceCount - 1 }) })

/-- `route_generation_retain`. -/
def routeGenerationRetain : Option Nat → Bool × Generations γ
  | none => (false, gs)
  | some pointer =>
    match gs.heap pointer with
    | none => (false, gs)
    | some generation =>
      if generation.referenceCount = sizeMax then (false, gs)
      else
        (true,
          { gs with
            heap := update gs.heap pointer
              (some { generation with referenceCount := generation.referenceCount + 1 }) })

/-! ## 2. The registry -/

/-- `route_generation_registry_active_retain`. -/
def registryActiveRetain : Option Nat × Generations γ :=
  match routeGenerationRetain gs gs.active with
  | (true, gs') => (gs.active, gs')
  | (false, gs') => (none, gs')

/-- `route_generation_registry_collect`; `release` is the status of the background release. -/
def registryCollect (now : Timespec) (release : RouteResolutionReleaseStatus) :
    RegistryCollectStatus × Generations γ :=
  if ¬ timeutilValid now then (.time, gs)
  else if gs.retired = none then (.none, gs)
  else if gs.referenceCount gs.retired = 0 then (.badArgument, gs)
  else if gs.referenceCount gs.retired > 1 then (.retained, gs)
  else
    match release with
    | .badArgument => (.badArgument, gs)
    | .io => (.io, gs)
    | .time => (.time, gs)
    | .ok =>
      match routeGenerationRelease gs gs.retired with
      | (0, gs') => (.collected, { gs' with retired := none })
      | (_ + 1, gs') => (.badArgument, gs')

/-- How a failed collection is reported by a publication. -/
def publishFailure : RegistryCollectStatus → RegistryPublishStatus
  | .io => .io
  | .time => .time
  | .retained => .blocked
  | .badArgument | .none | .collected => .badArgument

/-- `route_generation_registry_publish`: the status, what is left in the caller's candidate pointer,
    and the registry.  The two background releases are those of its two collections. -/
def registryPublish (candidate : Option Nat) (now : Timespec)
    (before after : RouteResolutionReleaseStatus) :
    RegistryPublishStatus × Option Nat × Generations γ :=
  if candidate = none ∨ gs.identity candidate = 0 ∨ gs.referenceCount candidate ≠ 1 ∨
      (gs.active ≠ none ∧ gs.identity candidate ≤ gs.identity gs.active) then
    (.badArgument, candidate, gs)
  else
    match registryCollect gs now before with
    | (.none, gs') | (.collected, gs') =>
      match registryCollect { gs' with retired := gs'.active, active := candidate } now after with
      | (.none, gs'') | (.retained, gs'') | (.collected, gs'') => (.ok, none, gs'')
      | (status, gs'') => (publishFailure status, none, gs'')
    | (status, gs') => (publishFailure status, candidate, gs')

end Operations

section Pointers

variable {γ : Type} (gs : Generations γ)

/-- Taking and giving back a reference leaves the two pointers of the registry alone. -/
@[simp] theorem routeGenerationRelease_pointers (p : Option Nat) :
    (routeGenerationRelease gs p).2.active = gs.active ∧
      (routeGenerationRelease gs p).2.retired = gs.retired ∧
      (routeGenerationRelease gs p).2.fresh = gs.fresh := by
  unfold routeGenerationRelease
  split
  · exact ⟨rfl, rfl, rfl⟩
  split
  · exact ⟨rfl, rfl, rfl⟩
  split
  · exact ⟨rfl, rfl, rfl⟩
  split
  · exact ⟨rfl, rfl, rfl⟩
  · exact ⟨rfl, rfl, rfl⟩

@[inherit_doc routeGenerationRelease_pointers, simp]
theorem routeGenerationRetain_pointers (p : Option Nat) :
    (routeGenerationRetain gs p).2.active = gs.active ∧
      (routeGenerationRetain gs p).2.retired = gs.retired ∧
      (routeGenerationRetain gs p).2.fresh = gs.fresh := by
  unfold routeGenerationRetain
  split
  · exact ⟨rfl, rfl, rfl⟩
  split
  · exact ⟨rfl, rfl, rfl⟩
  split
  · exact ⟨rfl, rfl, rfl⟩
  · exact ⟨rfl, rfl, rfl⟩

end Pointers

/-! ## 3. Who holds what

`held` says how many references others than the registry hold. -/

namespace Generations

variable {γ : Type}

/-- The references of the registry itself. -/
def own (gs : Generations γ) (p : Nat) : Nat :=
  (if gs.active = some p then 1 else 0) + (if gs.retired = some p then 1 else 0)

/-- The count stored for a pointer, zero once it is freed. -/
def count (gs : Generations γ) (p : Nat) : Nat := (gs.heap p).elim 0 RouteGeneration.referenceCount

theorem referenceCount_some (gs : Generations γ) (p : Nat) :
    gs.referenceCount (some p) = gs.count p := rfl

/-- **Every count is the number of the holders**; the retired generation is the older one. -/
structure Accounted (gs : Generations γ) (held : Nat → Nat) : Prop where
  count : ∀ p, gs.count p = held p + gs.own p
  positive : ∀ p g, gs.heap p = some g → 0 < g.referenceCount
  bounded : ∀ p, gs.heap p ≠ none → p < gs.fresh
  older : ∀ r, gs.retired = some r →
    gs.active ≠ none ∧ gs.identity (some r) < gs.identity gs.active

namespace Accounted

variable {gs : Generations γ} {held held' : Nat → Nat}

theorem empty : (Generations.create : Generations γ).Accounted fun _ => 0 :=
  ⟨fun _ => rfl, nofun, fun _ h => absurd rfl h, nofun⟩

theorem live (h : gs.Accounted held) {p : Nat} (hp : 0 < held p + gs.own p) :
    ∃ g, gs.heap p = some g ∧ g.referenceCount = held p + gs.own p := by
  have hcount := h.count p
  unfold Generations.count at hcount
  cases hg : gs.heap p with
  | none =>
    rw [hg] at hcount
    simp only [Option.elim] at hcount
    omega
  | some g =>
    rw [hg] at hcount
    exact ⟨g, rfl, hcount⟩

/-- What nobody holds is gone. -/
theorem gone (h : gs.Accounted held) {p : Nat} (hp : held p + gs.own p = 0) : gs.heap p = none := by
  have hcount := h.count p
  unfold Generations.count at hcount
  cases hg : gs.heap p with
  | none => rfl
  | some g =>
    rw [hg] at hcount
    have := h.positive p g hg
    simp only [Option.elim] at hcount
    omega

theorem active_own {p : Nat} (ha : gs.active = some p) : 0 < gs.own p := by
  unfold own
  rw [if_pos ha]
  omega

theorem retired_own {p : Nat} (hr : gs.retired = some p) : 0 < gs.own p := by
  unfold own
  rw [if_pos hr]
  omega

theorem active_live (h : gs.Accounted held) {p : Nat} (ha : gs.active = some p) :
    ∃ g, gs.heap p = some g := by
  have hown := active_own ha
  obtain ⟨g, hg, _⟩ := h.live (p := p) (by omega)
  exact ⟨g, hg⟩

/-- The active generation is not the retired one. -/
theorem apart (h : gs.Accounted held) {p : Nat} (ha : gs.active = some p) :
    gs.retired ≠ some p := by
  intro hr
  have holder := (h.older p hr).2
  rw [ha] at holder
  exact Nat.lt_irrefl _ holder

theorem own_le_one (h : gs.Accounted held) (p : Nat) : gs.own p ≤ 1 := by
  unfold own
  by_cases ha : gs.active = some p
  · rw [if_pos ha, if_neg (h.apart ha)]
  · rw [if_neg ha]
    split <;> omega

end Accounted

/-! ### Changes of one generation -/

section Update

variable {gs : Generations γ} {p : Nat} {cell : Option (RouteGeneration γ)}

theorem count_update (q : Nat) :
    ({ gs with heap := update gs.heap p cell } : Generations γ).count q =
      if q = p then cell.elim 0 RouteGeneration.referenceCount else gs.count q := by
  grind [count, update_apply]

/-- A write that keeps the identity of what it overwrites keeps every identity. -/
theorem identity_update {g : RouteGeneration γ} (hg : gs.heap p = some g) (g' : RouteGeneration γ)
    (hid : g'.identity = g.identity) (q : Option Nat) :
    ({ gs with heap := update gs.heap p (some g') } : Generations γ).identity q =
      gs.identity q := by
  unfold identity at?
  cases q with
  | none => rfl
  | some q =>
    dsimp only [Option.bind]
    grind [update_apply]

/-- A write elsewhere keeps an identity. -/
theorem identity_update_of_ne {q : Option Nat} (hq : q ≠ some p) :
    ({ gs with heap := update gs.heap p cell } : Generations γ).identity q =
      gs.identity q := by
  unfold identity at?
  cases q with
  | none => rfl
  | some q =>
    dsimp only [Option.bind]
    grind [update_apply]

end Update

namespace Accounted

variable {gs : Generations γ} {held held' : Nat → Nat}

/-- What the registry does not hold is neither of its two. -/
theorem ne_of_own_eq_zero {p : Nat} {q : Option Nat} (hown : gs.own p = 0)
    (hq : q = gs.active ∨ q = gs.retired) : q ≠ some p := by
  rintro rfl
  rcases hq with hq | hq
  · exact absurd hown (active_own hq.symm).ne'
  · exact absurd hown (retired_own hq.symm).ne'

section

variable (h : gs.Accounted held)

include h

/-- One cell is written, with the count of its holders; the registry's own stay what they are. -/
theorem written {p fresh : Nat} {cell : Option (RouteGeneration γ)}
    (hcount : cell.elim 0 RouteGeneration.referenceCount = held' p + gs.own p)
    (hpositive : ∀ g, cell = some g → 0 < g.referenceCount) (hbounded : cell ≠ none → p < fresh)
    (hfresh : gs.fresh ≤ fresh) (hother : ∀ q, q ≠ p → held' q = held q)
    (hidentity : ∀ q, q = gs.active ∨ q = gs.retired →
      ({ gs with heap := update gs.heap p cell } : Generations γ).identity q = gs.identity q) :
    ({ gs with heap := update gs.heap p cell, fresh } : Generations γ).Accounted held' := by
  refine ⟨fun q => (count_update q).trans ?_, fun q g' hq => ?_, fun q hq => ?_, fun r hr => ?_⟩
  · split
    · rename_i hq
      subst hq
      exact hcount
    · rename_i hq
      rw [hother q hq]
      exact h.count q
  · have hold := h.positive q g'
    grind [update_apply]
  · have hold := h.bounded q
    grind [update_apply]
  · have holder := h.older r hr
    rw [← hidentity _ (Or.inl rfl), ← hidentity _ (Or.inr hr.symm)] at holder
    exact holder

/-- The count of one live generation changes with its holders. -/
theorem recount {p : Nat} {g : RouteGeneration γ} (hg : gs.heap p = some g)
    {n : Nat} (hn : 0 < n) (hcount : n = held' p + gs.own p)
    (hother : ∀ q, q ≠ p → held' q = held q) :
    ({ gs with heap := update gs.heap p (some { g with referenceCount := n }) } :
      Generations γ).Accounted held' :=
  h.written hcount (fun _ e => Option.some.inj e ▸ hn)
    (fun _ => h.bounded p (by rw [hg]; exact nofun))
    le_rfl hother fun q _ => identity_update hg { g with referenceCount := n } rfl q

/-- A generation nobody holds any more goes; the registry never holds it. -/
theorem free {p : Nat} (hzero : held' p = 0) (hown : gs.own p = 0)
    (hother : ∀ q, q ≠ p → held' q = held q) :
    ({ gs with heap := update gs.heap p none } : Generations γ).Accounted held' :=
  h.written (by rw [hzero, hown]; rfl) nofun (fun hne => absurd rfl hne) le_rfl hother
    fun _ hq => identity_update_of_ne (ne_of_own_eq_zero hown hq)

/-- **A reference given back.** -/
theorem release {p : Nat} (hheld : ∀ q, held q = held' q + if q = p then 1 else 0) :
    (routeGenerationRelease gs (some p)).2.Accounted held' := by
  have hp := hheld p
  rw [if_pos rfl] at hp
  have hother : ∀ q, q ≠ p → held' q = held q := fun q hq => by
    have := hheld q
    rw [if_neg hq] at this
    omega
  obtain ⟨g, hg, hcount⟩ := h.live (p := p) (by omega)
  unfold routeGenerationRelease
  simp only [hg]
  rw [if_neg (by omega)]
  split
  · exact h.free (by omega) (by omega) hother
  · exact h.recount hg (by omega) (by omega) hother

/-- **A reference taken** of a generation that is held. -/
theorem retain {p : Nat} (hheld : ∀ q, held' q = held q + if q = p then 1 else 0)
    (hok : (routeGenerationRetain gs (some p)).1 = true) :
    (routeGenerationRetain gs (some p)).2.Accounted held' := by
  have hp := hheld p
  rw [if_pos rfl] at hp
  unfold routeGenerationRetain at hok ⊢
  cases hg : gs.heap p with
  | none => simp only [hg] at hok; cases hok
  | some g =>
    have hcount := h.count p
    unfold Generations.count at hcount
    rw [hg] at hcount
    simp only [Option.elim] at hcount
    simp only [hg] at hok ⊢
    split at hok
    · cases hok
    · rename_i hmax
      rw [if_neg hmax]
      refine h.recount hg (by omega) (by omega) fun q hq => ?_
      have := hheld q
      rw [if_neg hq] at this
      omega

/-- A generation is made, and the maker holds it. -/
theorem created {identity : Nat} {contents : γ} {allocated : Bool} {p : Nat} {gs' : Generations γ}
    (hc : routeGenerationCreate gs identity contents allocated = (.ok, some p, gs'))
    (hheld : ∀ q, held' q = held q + if q = p then 1 else 0) : gs'.Accounted held' := by
  unfold routeGenerationCreate at hc
  split at hc
  · cases hc
  split at hc
  · cases hc
  cases hc
  have hfresh : gs.heap gs.fresh = none := by
    by_contra hne
    exact Nat.lt_irrefl _ (h.bounded _ hne)
  have hzero := h.count gs.fresh
  unfold Generations.count at hzero
  rw [hfresh] at hzero
  simp only [Option.elim] at hzero
  have hp := hheld gs.fresh
  rw [if_pos rfl] at hp
  refine h.written (by rw [hp]; show 1 = _; omega) (fun _ e => Option.some.inj e ▸ Nat.one_pos)
    (fun _ => Nat.lt_succ_self _) (Nat.le_succ _) (fun q hq => ?_)
    fun _ hq => identity_update_of_ne (ne_of_own_eq_zero (by omega) hq)
  rw [hheld, if_neg hq, Nat.add_zero]

end

end Accounted

end Generations

/-! ## 4. What a collection and a publication do -/

section Inversion

variable {γ : Type} (gs : Generations γ) (now : Timespec)

open Generations

/-- A collection leaves everything as it is, or it frees the retired generation. -/
theorem registryCollect_cases (release : RouteResolutionReleaseStatus) :
    ((registryCollect gs now release).2 = gs ∧ (registryCollect gs now release).1 ≠ .collected ∧
      ((registryCollect gs now release).1 = .none → gs.retired = none) ∧
      ((registryCollect gs now release).1 = .retained → 1 < gs.referenceCount gs.retired)) ∨
    ∃ r, gs.retired = some r ∧ gs.count r = 1 ∧
      registryCollect gs now release =
        (.collected, { gs with heap := update gs.heap r none, retired := none }) := by
  unfold registryCollect
  split
  · exact Or.inl ⟨rfl, nofun, nofun, nofun⟩
  split
  · rename_i hnone
    exact Or.inl ⟨rfl, nofun, fun _ => hnone, nofun⟩
  split
  · exact Or.inl ⟨rfl, nofun, nofun, nofun⟩
  split
  · rename_i hcount
    exact Or.inl ⟨rfl, nofun, nofun, fun _ => hcount⟩
  rename_i hnone hzero hmany
  cases release with
  | badArgument => exact Or.inl ⟨rfl, nofun, nofun, nofun⟩
  | io => exact Or.inl ⟨rfl, nofun, nofun, nofun⟩
  | time => exact Or.inl ⟨rfl, nofun, nofun, nofun⟩
  | ok =>
    obtain ⟨r, hr⟩ := Option.ne_none_iff_exists'.1 hnone
    rw [hr, referenceCount_some] at hzero hmany
    have hone : gs.count r = 1 := by omega
    refine Or.inr ⟨r, hr, hone, ?_⟩
    unfold Generations.count at hone
    unfold routeGenerationRelease
    simp only [hr]
    cases hg : gs.heap r with
    | none =>
      rw [hg] at hone
      cases hone
    | some g =>
      rw [hg] at hone
      simp only [Option.elim] at hone
      simp [hone]

/-- The argument checks of a publication. -/
def publishable (candidate : Option Nat) : Prop :=
  candidate ≠ none ∧ gs.identity candidate ≠ 0 ∧ gs.referenceCount candidate = 1 ∧
    (gs.active ≠ none → gs.identity gs.active < gs.identity candidate)

/-- The candidate takes the place of the active generation, which is retired. -/
def Generations.swapped (candidate : Option Nat) : Generations γ :=
  { gs with retired := gs.active, active := candidate }

/-- A publication is refused and leaves the candidate with its caller, or the candidate becomes the
    active generation and the caller's pointer is cleared. -/
theorem registryPublish_cases (candidate : Option Nat)
    (before after : RouteResolutionReleaseStatus) :
    (((registryPublish gs candidate now before after).2 = (candidate, gs) ∨
        (registryPublish gs candidate now before after).2 =
          (candidate, (registryCollect gs now before).2)) ∧
      (registryPublish gs candidate now before after).1 ≠ .ok ∧
      ((registryPublish gs candidate now before after).1 = .blocked →
        (registryPublish gs candidate now before after).2 = (candidate, gs) ∧
          1 < gs.referenceCount gs.retired)) ∨
    (publishable gs candidate ∧ (registryCollect gs now before).2.retired = none ∧
      (registryPublish gs candidate now before after).1 ≠ .blocked ∧
      (registryPublish gs candidate now before after).2 =
        (none, (registryCollect ((registryCollect gs now before).2.swapped candidate) now after).2))
    := by
  unfold registryPublish
  split
  · exact Or.inl ⟨Or.inl rfl, nofun, nofun⟩
  rename_i hargs
  have hok : publishable gs candidate := by
    simp only [not_or, not_and, Nat.not_le, ne_eq, not_not] at hargs
    exact hargs
  have hcases := registryCollect_cases gs now before
  generalize registryCollect gs now before = c at hcases ⊢
  obtain ⟨status, gs'⟩ := c
  -- the first collection decides whether there is a place for the retired generation
  cases status with
  | none =>
    rcases hcases with ⟨rfl, _, hnone, _⟩ | ⟨r, _, _, he⟩
    · refine Or.inr ⟨hok, hnone rfl, ?_⟩
      dsimp only [Generations.swapped]
      rcases registryCollect _ now after with ⟨status', gs''⟩
      cases status' <;> exact ⟨nofun, rfl⟩
    · cases he
  | collected =>
    rcases hcases with ⟨_, hne, _⟩ | ⟨r, _, _, he⟩
    · exact absurd rfl hne
    · cases he
      refine Or.inr ⟨hok, rfl, ?_⟩
      dsimp only [Generations.swapped]
      rcases registryCollect _ now after with ⟨status', gs''⟩
      cases status' <;> exact ⟨nofun, rfl⟩
  | retained =>
    rcases hcases with ⟨rfl, _, _, hmany⟩ | ⟨r, _, _, he⟩
    · exact Or.inl ⟨Or.inl rfl, nofun, fun _ => ⟨rfl, hmany rfl⟩⟩
    · cases he
  | badArgument => exact Or.inl ⟨Or.inr rfl, nofun, nofun⟩
  | io => exact Or.inl ⟨Or.inr rfl, nofun, nofun⟩
  | time => exact Or.inl ⟨Or.inr rfl, nofun, nofun⟩

/-- A collection does not touch the active generation. -/
theorem registryCollect_active (release : RouteResolutionReleaseStatus) :
    (registryCollect gs now release).2.active = gs.active := by
  rcases registryCollect_cases gs now release with ⟨he, _⟩ | ⟨r, _, _, he⟩
  · rw [he]
  · rw [he]

end Inversion

namespace Generations.Accounted

variable {γ : Type} {gs : Generations γ} {held held' : Nat → Nat}

/-- **A collection keeps the account.** -/
theorem collect (h : gs.Accounted held) (now : Timespec) (release : RouteResolutionReleaseStatus) :
    (registryCollect gs now release).2.Accounted held := by
  rcases registryCollect_cases gs now release with ⟨he, _⟩ | ⟨r, hr, hone, he⟩
  · rw [he]
    exact h
  · rw [he]
    have hcount := h.count r
    have hpos := retired_own hr
    have hother : ∀ q, q ≠ r →
        ({ gs with retired := none } : Generations γ).own q = gs.own q := by
      intro q hq
      unfold own
      rw [hr, if_neg (show ¬ (none : Option Nat) = some q from nofun),
        if_neg (show ¬ some r = some q from fun e => hq (Option.some.inj e).symm)]
    have hown : ({ gs with retired := none } : Generations γ).own r = 0 := by
      unfold own
      rw [if_neg (show ¬ (none : Option Nat) = some r from nofun),
        if_neg (fun ha => h.apart ha hr)]
    -- without the registry's reference nobody is left
    have hopen : ({ gs with retired := none } : Generations γ).Accounted
        (fun q => if q = r then 1 else held q) := by
      refine ⟨?_, h.positive, h.bounded, nofun⟩
      intro q
      by_cases hq : q = r
      · subst hq
        rw [if_pos rfl, hown]
        exact hone
      · rw [if_neg hq, hother q hq]
        exact h.count q
    have hzero : held r = 0 := by omega
    exact hopen.free hzero hown fun q hq => by rw [if_neg hq]

/-- The candidate's own reference is what the registry takes over. -/
theorem swap (h : gs.Accounted held) {c : Nat} (hretired : gs.retired = none)
    (hold : gs.active ≠ none → gs.identity gs.active < gs.identity (some c))
    (hheld : ∀ q, held q = held' q + if q = c then 1 else 0) :
    (gs.swapped (some c)).Accounted held' := by
  refine ⟨?_, h.positive, h.bounded, ?_⟩
  · intro q
    have hcount := h.count q
    have hq := hheld q
    unfold own at hcount ⊢
    unfold swapped
    dsimp only
    rw [hretired, if_neg (show ¬ (none : Option Nat) = some q from nofun)] at hcount
    have hiff : (some c = some q) ↔ (q = c) := by
      rw [Option.some.injEq]
      exact eq_comm
    rw [if_congr hiff rfl rfl]
    change gs.count q = _
    omega
  · intro r hr
    have hne : gs.active ≠ none := fun e => nomatch e.symm.trans hr
    refine ⟨nofun, ?_⟩
    have hlt := hold hne
    rw [show gs.active = some r from hr] at hlt
    exact hlt

/-- A collection keeps the identity of what it leaves. -/
theorem identity_collect (h : gs.Accounted held) (now : Timespec)
    (release : RouteResolutionReleaseStatus) {p : Option Nat}
    (hp : p ≠ gs.retired ∨ p = gs.active) :
    (registryCollect gs now release).2.identity p = gs.identity p := by
  rcases registryCollect_cases gs now release with ⟨he, _⟩ | ⟨r, hr, _, he⟩
  · rw [he]
  · rw [he]
    refine identity_update_of_ne ?_
    rintro rfl
    rcases hp with hp | hp
    · exact hp hr.symm
    · exact h.apart hp.symm hr

/-- **A publication keeps the account**: the candidate's reference goes over to the registry if the
    caller's pointer is cleared, and stays with the caller if not. -/
theorem publish (h : gs.Accounted held) {c : Nat}
    (hheld : ∀ q, held q = held' q + if q = c then 1 else 0) (now : Timespec)
    (before after : RouteResolutionReleaseStatus) :
    (registryPublish gs (some c) now before after).2.2.Accounted
      (if (registryPublish gs (some c) now before after).2.1 = none then held' else held) := by
  rcases registryPublish_cases gs now (some c) before after with ⟨hr, _⟩ | ⟨hok, hretired, _, he⟩
  · rcases hr with he | he
    · rw [he, if_neg nofun]
      exact h
    · rw [he, if_neg nofun]
      exact h.collect now before
  · rw [he, if_pos rfl]
    refine Accounted.collect (Accounted.swap (h.collect now before) hretired ?_ hheld) now after
    intro hne
    rw [registryCollect_active] at hne ⊢
    rw [h.identity_collect now before (Or.inr rfl), h.identity_collect now before (Or.inl ?_)]
    · exact hok.2.2.2 hne
    · -- the caller's reference is the only one, so the candidate is not the retired generation
      intro hc
      have hone := hok.2.2.1
      rw [referenceCount_some, h.count] at hone
      have hown := retired_own hc.symm
      have hpos := hheld c
      rw [if_pos rfl] at hpos
      omega

end Generations.Accounted

/-! ## 5. What a generation is does not change -/

namespace Generations

variable {γ : Type}

/-- A generation that was there is what it was, as long as it is there. -/
structure Persists (gs gs' : Generations γ) : Prop where
  fresh : gs.fresh ≤ gs'.fresh
  cell : ∀ p g', gs'.heap p = some g' → p < gs.fresh →
    ∃ g, gs.heap p = some g ∧ g'.identity = g.identity ∧ g'.contents = g.contents

namespace Persists

variable {gs gs' gs'' : Generations γ}

theorem refl (gs : Generations γ) : gs.Persists gs :=
  ⟨Nat.le_refl _, fun _ g' hg _ => ⟨g', hg, rfl, rfl⟩⟩

theorem trans (h : gs.Persists gs') (h' : gs'.Persists gs'') : gs.Persists gs'' := by
  refine ⟨Nat.le_trans h.fresh h'.fresh, ?_⟩
  intro p g'' hg'' hp
  obtain ⟨g', hg', hid', hco'⟩ := h'.cell p g'' hg'' (Nat.lt_of_lt_of_le hp h.fresh)
  obtain ⟨g, hg, hid, hco⟩ := h.cell p g' hg' hp
  exact ⟨g, hg, hid'.trans hid, hco'.trans hco⟩

/-- A write that keeps what it overwrites, whatever becomes of the two pointers. -/
theorem updateCell {p : Nat} {cell : Option (RouteGeneration γ)} {active retired : Option Nat}
    (h : ∀ g', cell = some g' →
      ∃ g, gs.heap p = some g ∧ g'.identity = g.identity ∧ g'.contents = g.contents) :
    gs.Persists ⟨update gs.heap p cell, gs.fresh, active, retired⟩ := by
  refine ⟨Nat.le_refl _, ?_⟩
  intro q g' hg' _
  dsimp only at hg'
  by_cases hq : q = p
  · subst hq
    rw [update_self] at hg'
    exact h g' hg'
  · rw [update_of_ne hq] at hg'
    exact ⟨g', hg', rfl, rfl⟩

section

variable (gs : Generations γ)

theorem release (p : Option Nat) :
    gs.Persists (routeGenerationRelease gs p).2 := by
  unfold routeGenerationRelease
  split
  · exact refl gs
  split
  · exact refl gs
  rename_i g hg
  split
  · exact refl gs
  split
  · exact updateCell nofun
  · refine updateCell fun g' hg' => ?_
    cases hg'
    exact ⟨g, hg, rfl, rfl⟩

theorem retain (p : Option Nat) :
    gs.Persists (routeGenerationRetain gs p).2 := by
  unfold routeGenerationRetain
  split
  · exact refl gs
  split
  · exact refl gs
  rename_i g hg
  split
  · exact refl gs
  · refine updateCell fun g' hg' => ?_
    cases hg'
    exact ⟨g, hg, rfl, rfl⟩

theorem create (identity : Nat) (contents : γ) (allocated : Bool) :
    gs.Persists (routeGenerationCreate gs identity contents allocated).2.2 := by
  unfold routeGenerationCreate
  split
  · exact refl gs
  split
  · exact refl gs
  refine ⟨Nat.le_succ _, ?_⟩
  intro q g' hg' hq
  dsimp only at hg'
  rw [update_of_ne (Nat.ne_of_lt hq)] at hg'
  exact ⟨g', hg', rfl, rfl⟩

theorem collect (now : Timespec) (release : RouteResolutionReleaseStatus) :
    gs.Persists (registryCollect gs now release).2 := by
  rcases registryCollect_cases gs now release with ⟨he, _⟩ | ⟨r, _, _, he⟩
  · rw [he]
    exact refl gs
  · rw [he]
    exact updateCell nofun

theorem swap (candidate : Option Nat) : gs.Persists (gs.swapped candidate) :=
  ⟨Nat.le_refl _, fun _ g' hg _ => ⟨g', hg, rfl, rfl⟩⟩

theorem publish (candidate : Option Nat) (now : Timespec)
    (before after : RouteResolutionReleaseStatus) :
    gs.Persists (registryPublish gs candidate now before after).2.2 := by
  rcases registryPublish_cases gs now candidate before after with ⟨hr, _⟩ | ⟨_, _, _, he⟩
  · rcases hr with he | he
    · rw [he]
      exact refl gs
    · rw [he]
      exact collect gs now before
  · rw [he]
    exact ((collect gs now before).trans (swap _ candidate)).trans (collect _ now after)

end

/-- What is there before and after has its identity. -/
theorem identity (h : gs.Persists gs') {p : Nat} (hp : p < gs.fresh)
    (hlive : gs'.heap p ≠ none) : gs'.identity (some p) = gs.identity (some p) := by
  obtain ⟨g', hg'⟩ := Option.ne_none_iff_exists'.1 hlive
  obtain ⟨g, hg, hid, _⟩ := h.cell p g' hg' hp
  unfold Generations.identity at?
  simp only [Option.bind, hg, hg', Option.elim]
  exact hid

/-- What is there before and after has its contents. -/
theorem contents (h : gs.Persists gs') {p : Nat} (hp : p < gs.fresh)
    (hlive : gs'.heap p ≠ none) : gs'.contents (some p) = gs.contents (some p) := by
  obtain ⟨g', hg'⟩ := Option.ne_none_iff_exists'.1 hlive
  obtain ⟨g, hg, _, hco⟩ := h.cell p g' hg' hp
  unfold Generations.contents at?
  simp only [Option.bind, hg, hg', Option.map]
  rw [hco]

/-- A generation that stays active keeps its contents. -/
theorem active_contents {held held' : Nat → Nat} (h : gs.Persists gs') (ha : gs.Accounted held)
    (ha' : gs'.Accounted held') (hactive : gs'.active = gs.active) :
    gs'.contents gs'.active = gs.contents gs.active := by
  rw [hactive]
  cases hp : gs.active with
  | none => rfl
  | some p =>
    obtain ⟨g, hg⟩ := ha.active_live hp
    obtain ⟨g', hg'⟩ := ha'.active_live (hactive.trans hp)
    exact h.contents (ha.bounded p (by rw [hg]; exact nofun)) (by rw [hg']; exact nofun)

end Persists

end Generations

end MinecraftRelay
