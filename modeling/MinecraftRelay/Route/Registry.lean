/-
  File:      Route/Registry.lean
  Subject:   RUNS OF THE GENERATION REGISTRY (src/route/generation_registry.c).

  Anybody may make a generation, publish it, take another reference of one held already and give
  one back, in any order.  `Registered` pairs the registry with the number of references the callers
  hold, and a call that passes a generation is made by somebody who holds it.

  * `registryCall_accounted`, `registryRun_accounted` -- the account over a run;
  * `registryCall_active` -- identities grow;
  * `RegistrySound` -- what that says of every state reached.
-/
import MinecraftRelay.Route.Generation

namespace MinecraftRelay

/-! ## 1. The calls -/

/-- A registry and the references others hold. -/
structure Registered (γ : Type) where
  generations : Generations γ
  held : Nat → Nat

/-- The calls.  Whoever passes a generation holds a reference of it. -/
inductive RegistryCall (γ : Type) where
  | create (identity : Nat) (contents : γ) (allocated : Bool)
  | publish (candidate : Nat) (now : Timespec) (before after : RouteResolutionReleaseStatus)
  | collect (now : Timespec) (release : RouteResolutionReleaseStatus)
  | activeRetain
  | retain (pointer : Nat)
  | release (pointer : Nat)

section Runs

variable {γ : Type}

/-- Another reference of `p` is held. -/
def heldMore (held : Nat → Nat) (p : Nat) : Nat → Nat := Function.update held p (held p + 1)

/-- One reference of `p` less is held. -/
def heldLess (held : Nat → Nat) (p : Nat) : Nat → Nat := Function.update held p (held p - 1)

/-- One call.  A call with a generation its caller does not hold is not made. -/
def registryCall (s : Registered γ) : RegistryCall γ → Registered γ
  | .create identity contents allocated =>
    match routeGenerationCreate s.generations identity contents allocated with
    | (_, some p, generations) => ⟨generations, heldMore s.held p⟩
    | (_, none, generations) => ⟨generations, s.held⟩
  | .publish c now before after =>
    if s.held c = 0 then s
    else
      match registryPublish s.generations (some c) now before after with
      | (_, none, generations) => ⟨generations, heldLess s.held c⟩
      | (_, some _, generations) => ⟨generations, s.held⟩
  | .collect now release => ⟨(registryCollect s.generations now release).2, s.held⟩
  | .activeRetain =>
    match registryActiveRetain s.generations with
    | (some p, generations) => ⟨generations, heldMore s.held p⟩
    | (none, generations) => ⟨generations, s.held⟩
  | .retain p =>
    if s.held p = 0 then s
    else
      match routeGenerationRetain s.generations (some p) with
      | (true, generations) => ⟨generations, heldMore s.held p⟩
      | (false, generations) => ⟨generations, s.held⟩
  | .release p =>
    if s.held p = 0 then s
    else ⟨(routeGenerationRelease s.generations (some p)).2, heldLess s.held p⟩

/-- A run of calls on a new registry. -/
def registryRun (calls : List (RegistryCall γ)) : Registered γ :=
  calls.foldl registryCall ⟨Generations.create, fun _ => 0⟩

theorem heldMore_apply (held : Nat → Nat) (p q : Nat) :
    heldMore held p q = held q + if q = p then 1 else 0 := by
  unfold heldMore
  by_cases hq : q = p
  · subst hq
    rw [Function.update_self, if_pos rfl]
  · rw [Function.update_of_ne hq, if_neg hq, Nat.add_zero]

theorem heldLess_apply {held : Nat → Nat} {p : Nat} (hp : held p ≠ 0) (q : Nat) :
    held q = heldLess held p q + if q = p then 1 else 0 := by
  unfold heldLess
  by_cases hq : q = p
  · subst hq
    rw [Function.update_self, if_pos rfl]
    omega
  · rw [Function.update_of_ne hq, if_neg hq, Nat.add_zero]

/-- A failed retain changes nothing. -/
theorem routeGenerationRetain_false {gs gs' : Generations γ} {p : Option Nat}
    (h : routeGenerationRetain gs p = (false, gs')) : gs' = gs := by
  unfold routeGenerationRetain at h
  split at h
  · cases h
    rfl
  · split at h
    · cases h
      rfl
    · split at h
      · cases h
        rfl
      · cases h

/-- A creation makes a generation, or it changes nothing. -/
theorem routeGenerationCreate_cases (gs : Generations γ) (identity : Nat) (contents : γ)
    (allocated : Bool) :
    (∃ gs', routeGenerationCreate gs identity contents allocated = (.ok, some gs.fresh, gs') ∧
      gs'.active = gs.active ∧ gs'.retired = gs.retired) ∨
    ∃ status, routeGenerationCreate gs identity contents allocated = (status, none, gs) := by
  unfold routeGenerationCreate
  split
  · exact Or.inr ⟨_, rfl⟩
  split
  · exact Or.inr ⟨_, rfl⟩
  · exact Or.inl ⟨_, rfl, rfl, rfl⟩

/-- **Every call keeps the account.** -/
theorem registryCall_accounted {s : Registered γ} (h : s.generations.Accounted s.held)
    (call : RegistryCall γ) :
    (registryCall s call).generations.Accounted (registryCall s call).held := by
  cases call with
  | create identity contents allocated =>
    simp only [registryCall]
    rcases routeGenerationCreate_cases s.generations identity contents allocated with
      ⟨gs', hc, _⟩ | ⟨status, hc⟩
    · simp only [hc]
      exact h.created hc (heldMore_apply _ _)
    · simp only [hc]
      exact h
  | publish c now before after =>
    simp only [registryCall]
    split
    · exact h
    · rename_i hc
      have hp := h.publish (heldLess_apply hc) now before after
      generalize registryPublish s.generations (some c) now before after = r at hp
      obtain ⟨status, left, gs'⟩ := r
      cases left with
      | none => exact hp
      | some q => exact hp
  | collect now release => exact h.collect now release
  | activeRetain =>
    simp only [registryCall, registryActiveRetain]
    cases ha : s.generations.active with
    | none => exact h
    | some a =>
      cases hr : routeGenerationRetain s.generations (some a) with
      | mk ok gs' =>
        cases ok with
        | true =>
          have hp := h.retain (heldMore_apply s.held a) (by rw [hr])
          rw [hr] at hp
          exact hp
        | false =>
          rw [routeGenerationRetain_false hr]
          exact h
  | retain p =>
    simp only [registryCall]
    split
    · exact h
    · cases hr : routeGenerationRetain s.generations (some p) with
      | mk ok gs' =>
        cases ok with
        | true =>
          have hp := h.retain (heldMore_apply s.held p) (by rw [hr])
          rw [hr] at hp
          exact hp
        | false =>
          rw [routeGenerationRetain_false hr]
          exact h
  | release p =>
    simp only [registryCall]
    split
    · exact h
    · rename_i hp
      exact h.release (heldLess_apply hp)

theorem registryRun_accounted (calls : List (RegistryCall γ)) :
    (registryRun calls).generations.Accounted (registryRun calls).held :=
  List.foldlRecOn (motive := fun s : Registered γ => s.generations.Accounted s.held) calls
    registryCall Generations.Accounted.empty fun _ h call _ => registryCall_accounted h call

/-- What a call makes of the registry, whoever holds what afterwards. -/
def generationsAfter (s : Registered γ) : RegistryCall γ → Generations γ
  | .create identity contents allocated =>
    (routeGenerationCreate s.generations identity contents allocated).2.2
  | .publish c now before after =>
    if s.held c = 0 then s.generations
    else (registryPublish s.generations (some c) now before after).2.2
  | .collect now release => (registryCollect s.generations now release).2
  | .activeRetain => (routeGenerationRetain s.generations s.generations.active).2
  | .retain p =>
    if s.held p = 0 then s.generations else (routeGenerationRetain s.generations (some p)).2
  | .release p =>
    if s.held p = 0 then s.generations else (routeGenerationRelease s.generations (some p)).2

theorem registryCall_generations (s : Registered γ) (call : RegistryCall γ) :
    (registryCall s call).generations = generationsAfter s call := by
  cases call with
  | create identity contents allocated =>
    simp only [registryCall, generationsAfter]
    split
    · rename_i h
      rw [h]
    · rename_i h
      rw [h]
  | publish c now before after =>
    simp only [registryCall, generationsAfter]
    split
    · rfl
    · split
      · rename_i h
        rw [h]
      · rename_i h
        rw [h]
  | collect now release => rfl
  | activeRetain =>
    simp only [registryCall, registryActiveRetain, generationsAfter]
    generalize routeGenerationRetain s.generations s.generations.active = r
    obtain ⟨ok, gs'⟩ := r
    cases ok with
    | false => rfl
    | true => cases s.generations.active <;> rfl
  | retain p =>
    simp only [registryCall, generationsAfter]
    split
    · rfl
    · split
      · rename_i h
        rw [h]
      · rename_i h
        rw [h]
  | release p =>
    simp only [registryCall, generationsAfter]
    split
    · rfl
    · rfl

theorem registryCall_persists (s : Registered γ) (call : RegistryCall γ) :
    s.generations.Persists (registryCall s call).generations := by
  rw [registryCall_generations]
  cases call with
  | create identity contents allocated => exact .create _ identity contents allocated
  | publish c now before after =>
    simp only [generationsAfter]
    split
    · exact .refl _
    · exact .publish _ _ now before after
  | collect now release => exact .collect _ now release
  | activeRetain => exact .retain _ _
  | retain p =>
    simp only [generationsAfter]
    split
    · exact .refl _
    · exact .retain _ _
  | release p =>
    simp only [generationsAfter]
    split
    · exact .refl _
    · exact .release _ _

/-- What is published was not the active generation before. -/
theorem registryPublish_cleared {gs : Generations γ} {held : Nat → Nat} (h : gs.Accounted held)
    {c : Nat} (hc : 0 < held c) (now : Timespec) (before after : RouteResolutionReleaseStatus) :
    (registryPublish gs (some c) now before after).2.1 = none ↔
      gs.active ≠ some c ∧ (registryPublish gs (some c) now before after).2.2.active = some c := by
  rcases registryPublish_cases gs now (some c) before after with ⟨hr, _⟩ | ⟨hok, _, _, he⟩
  · have hkept : (registryPublish gs (some c) now before after).2.1 = some c ∧
        (registryPublish gs (some c) now before after).2.2.active = gs.active := by
      rcases hr with he | he
      · rw [he]
        exact ⟨rfl, rfl⟩
      · rw [he]
        exact ⟨rfl, registryCollect_active gs now before⟩
    rw [hkept.1, hkept.2]
    exact ⟨nofun, fun hne => absurd hne.2 hne.1⟩
  · rw [he, registryCollect_active]
    refine ⟨fun _ => ⟨?_, rfl⟩, fun _ => rfl⟩
    intro ha
    have hone := hok.2.2.1
    rw [Generations.referenceCount_some, h.count] at hone
    have hown := Generations.Accounted.active_own ha
    omega

/-- A publication leaves the active generation, or puts the candidate in its place. -/
theorem registryPublish_active (gs : Generations γ) (c : Option Nat) (now : Timespec)
    (before after : RouteResolutionReleaseStatus) :
    (registryPublish gs c now before after).2.2.active = gs.active ∨
      publishable gs c ∧ (registryPublish gs c now before after).2.2.active = c := by
  rcases registryPublish_cases gs now c before after with ⟨hr, _⟩ | ⟨hok, _, _, he⟩
  · rcases hr with he | he
    · rw [he]
      exact Or.inl rfl
    · rw [he]
      exact Or.inl (registryCollect_active gs now before)
  · rw [he]
    exact Or.inr ⟨hok, registryCollect_active _ now after⟩

/-- The active generation stays, or one with a greater identity follows it. -/
theorem registryCall_active {s : Registered γ} (h : s.generations.Accounted s.held)
    (call : RegistryCall γ) :
    (registryCall s call).generations.active = s.generations.active ∨
      s.generations.identity s.generations.active <
        (registryCall s call).generations.identity (registryCall s call).generations.active := by
  have haccount := registryCall_accounted h call
  have hpersists := registryCall_persists s call
  rw [registryCall_generations] at haccount hpersists ⊢
  cases call with
  | create identity contents allocated =>
    rcases routeGenerationCreate_cases s.generations identity contents allocated with
      ⟨gs', hc, hactive, _⟩ | ⟨status, hc⟩
    · simp only [generationsAfter, hc]
      exact Or.inl hactive
    · simp only [generationsAfter, hc]
      exact Or.inl trivial
  | publish c now before after =>
    simp only [generationsAfter] at haccount hpersists ⊢
    split
    · exact Or.inl rfl
    · rename_i hc
      rw [if_neg hc] at haccount hpersists
      rcases registryPublish_active s.generations (some c) now before after with ha | ⟨hok, hactive⟩
      · exact Or.inl ha
      · -- the candidate is there before and after, with the identity that was checked
        refine Or.inr ?_
        obtain ⟨g, hg⟩ := haccount.active_live hactive
        obtain ⟨g₀, hg₀, _⟩ := h.live (p := c) (by omega)
        have hbound : c < s.generations.fresh := h.bounded c (by rw [hg₀]; exact nofun)
        rw [hactive, hpersists.identity hbound (by rw [hg]; exact nofun)]
        cases ha : s.generations.active with
        | none => exact Nat.pos_of_ne_zero hok.2.1
        | some a =>
          have hlt := hok.2.2.2 (by rw [ha]; exact nofun)
          rwa [ha] at hlt
  | collect now release => exact Or.inl (registryCollect_active _ now release)
  | activeRetain => exact Or.inl (routeGenerationRetain_pointers _ _).1
  | retain p =>
    refine Or.inl ?_
    simp only [generationsAfter]
    split
    · rfl
    · exact (routeGenerationRetain_pointers _ _).1
  | release p =>
    refine Or.inl ?_
    simp only [generationsAfter]
    split
    · rfl
    · exact (routeGenerationRelease_pointers _ _).1

/-- What holds of a registry and its callers after any sequence of calls. -/
structure RegistrySound (s : Registered γ) : Prop where
  /-- The active and the retired generation are two, and all others are held by somebody else. -/
  apart : ∀ p, s.generations.active = some p → s.generations.retired ≠ some p
  known : ∀ p, s.generations.heap p ≠ none →
    s.generations.active = some p ∨ s.generations.retired = some p ∨ 0 < s.held p
  /-- What somebody else holds has not been destroyed. -/
  kept : ∀ p, 0 < s.held p → s.generations.heap p ≠ none
  /-- The active generation is followed by one with a greater identity only. -/
  grows : ∀ call, (registryCall s call).generations.active = s.generations.active ∨
    s.generations.identity s.generations.active <
      (registryCall s call).generations.identity (registryCall s call).generations.active
  /-- The candidate's pointer is cleared iff the candidate became active. -/
  cleared : ∀ c, 0 < s.held c → ∀ now before after,
    (registryPublish s.generations (some c) now before after).2.1 = none ↔
      s.generations.active ≠ some c ∧
        (registryPublish s.generations (some c) now before after).2.2.active = some c
  /-- A blocked publication changes nothing. -/
  blocked : ∀ c now before after,
    (registryPublish s.generations c now before after).1 = .blocked →
      (registryPublish s.generations c now before after).2 = (c, s.generations)
  /-- With no retired generation a publication is not blocked. -/
  free : s.generations.retired = none → ∀ c now before after,
    (registryPublish s.generations c now before after).1 ≠ .blocked

/-- Without a retired generation there is nothing to wait for. -/
theorem registryPublish_free {gs : Generations γ} (h : gs.retired = none) (c : Option Nat)
    (now : Timespec) (before after : RouteResolutionReleaseStatus) :
    (registryPublish gs c now before after).1 ≠ .blocked := by
  intro hb
  rcases registryPublish_cases gs now c before after with ⟨_, _, hblocked⟩ | ⟨_, _, hne, _⟩
  · have hmany := (hblocked hb).2
    rw [h] at hmany
    exact absurd hmany (Nat.not_lt_zero _)
  · exact hne hb

theorem Generations.Accounted.sound {s : Registered γ} (h : s.generations.Accounted s.held) :
    RegistrySound s where
  apart _ ha := h.apart ha
  known p hp := by
    by_contra hnot
    simp only [not_or] at hnot
    refine hp (h.gone ?_)
    have hown : s.generations.own p = 0 := by
      unfold own
      rw [if_neg hnot.1, if_neg hnot.2.1]
    omega
  kept p hp := by
    obtain ⟨g, hg, _⟩ := h.live (p := p) (by omega)
    rw [hg]
    exact nofun
  grows := registryCall_active h
  cleared _ hc now before after := registryPublish_cleared h hc now before after
  blocked c now before after hb := by
    rcases registryPublish_cases s.generations now c before after with
      ⟨_, _, hblocked⟩ | ⟨_, _, hne, _⟩
    · exact (hblocked hb).1
    · exact absurd hb hne
  free := registryPublish_free

end Runs

end MinecraftRelay
