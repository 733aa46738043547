/-
  File:      Library/Chains.lean
  Subject:   CHAINS OF ALIASES.  Names no program.

  An alias has an owner and a target.  A list of aliases is a chain from `s` to `e` when each
  alias is owned by the target of the one before it.

  * `Linked` -- the list leads from `s` to `e`; `Simple` -- no alias points back;
  * `Linked.nodup` -- the names along a simple chain are distinct;
  * `Path` -- a chain over the given aliases; `Torn` -- two of them disagree about a name;
  * `Linked.cut_of_path` -- where nothing is torn, every path is a beginning of the longest chain.
-/
import Mathlib.Data.List.Induction

namespace Chains

variable {α β : Type} {owner target : α → β} {s e : β} {l l' : List α}

/-- The list leads from `s` to `e`. -/
def Linked (owner target : α → β) : β → List α → β → Prop
  | s, [], e => s = e
  | s, a :: l, e => owner a = s ∧ Linked owner target (target a) l e

theorem linked_append :
    Linked owner target s (l ++ l') e ↔
      ∃ m, Linked owner target s l m ∧ Linked owner target m l' e := by
  induction l generalizing s with
  | nil =>
    constructor
    · intro h
      exact ⟨s, rfl, h⟩
    · intro h
      obtain ⟨m, hm, h⟩ := h
      cases hm
      exact h
  | cons a l ih =>
    rw [List.cons_append, Linked, ih]
    constructor
    · intro h
      obtain ⟨ha, m, hl, hl'⟩ := h
      exact ⟨m, ⟨ha, hl⟩, hl'⟩
    · intro h
      obtain ⟨m, ⟨ha, hl⟩, hl'⟩ := h
      exact ⟨ha, m, hl, hl'⟩

theorem linked_concat {a : α} (h : Linked owner target s l (owner a)) :
    Linked owner target s (l ++ [a]) (target a) :=
  linked_append.2 ⟨owner a, h, rfl, rfl⟩

/-- A chain ends at the target of its last alias, or where it began. -/
theorem Linked.last (h : Linked owner target s l e) : e = (l.getLast?.map target).getD s := by
  induction l generalizing s with
  | nil => exact h.symm
  | cons a l ih =>
    rw [ih h.2, List.getLast?_cons]
    cases l.getLast? <;> rfl

/-- No alias points back to an owner at or before it. -/
structure Simple (owner target : α → β) (l : List α) : Prop where
  fresh : l.Pairwise fun a b => target b ≠ owner a
  proper : ∀ a ∈ l, target a ≠ owner a

theorem Simple.nil : Simple owner target ([] : List α) := ⟨.nil, nofun⟩

theorem Simple.append (h : Simple owner target l) (h' : Simple owner target l')
    (hcross : ∀ b ∈ l', ∀ a ∈ l, target b ≠ owner a) : Simple owner target (l ++ l') where
  fresh := List.pairwise_append.2 ⟨h.fresh, h'.fresh, fun a ha b hb => hcross b hb a ha⟩
  proper a ha := by
    rcases List.mem_append.1 ha with ha | ha
    · exact h.proper a ha
    · exact h'.proper a ha

/-- What a chain that is cut at one alias says about it. -/
theorem Simple.cut {a : α} (h : Simple owner target (l ++ a :: l')) :
    (∀ x ∈ l, target a ≠ owner x) ∧ target a ≠ owner a :=
  ⟨fun x hx => (List.pairwise_append.1 h.fresh).2.2 x hx a List.mem_cons_self,
    h.proper a (List.mem_append_right l List.mem_cons_self)⟩

/-- The names along a simple chain are distinct. -/
theorem Linked.nodup (h : Linked owner target s l e) (hs : Simple owner target l) :
    (s :: l.map target).Nodup := by
  induction l generalizing s with
  | nil => exact List.pairwise_singleton _ s
  | cons a l ih =>
    obtain ⟨rfl, hl⟩ := h
    obtain ⟨hfresh, htail⟩ := List.pairwise_cons.1 hs.fresh
    have hnodup := ih hl ⟨htail, fun b hb => hs.proper b (List.mem_cons_of_mem a hb)⟩
    refine List.nodup_cons.2 ⟨?_, hnodup⟩
    intro hmem
    rcases List.mem_cons.1 hmem with he | hmem
    · exact hs.proper a List.mem_cons_self he.symm
    · obtain ⟨b, hb, he⟩ := List.mem_map.1 hmem
      exact hfresh b hb he

/-- The owners of a chain are its names but the last. -/
theorem Linked.owners_prefix (h : Linked owner target s l e) :
    l.map owner <+: s :: l.map target := by
  induction l generalizing s with
  | nil => exact List.nil_prefix
  | cons a l ih =>
    obtain ⟨rfl, hl⟩ := h
    exact List.prefix_cons_inj _ |>.2 (ih hl)

/-- A simple chain does not come back to an owner. -/
theorem Linked.owner_ne_end (h : Linked owner target s l e) (hs : Simple owner target l) {a : α}
    (ha : a ∈ l) : owner a ≠ e := by
  have hend := h.last
  cases l using List.reverseRecOn with
  | nil => cases ha
  | append_singleton l b =>
    rw [List.getLast?_concat] at hend
    rw [show e = target b from hend]
    rcases List.mem_append.1 ha with ha | ha
    · exact ((List.pairwise_append.1 hs.fresh).2.2 a ha b (List.mem_singleton_self b)).symm
    · rw [List.mem_singleton.1 ha]
      exact (hs.proper b (List.mem_append_right l (List.mem_singleton_self b))).symm

/-- A chain in one naming is a chain in another that agrees with it. -/
theorem Linked.congr {owner' target' : α → β} (h : Linked owner target s l e)
    (ho : ∀ a ∈ l, owner a = owner' a) (ht : ∀ a ∈ l, target a = target' a) :
    Linked owner' target' s l e := by
  induction l generalizing s with
  | nil => exact h
  | cons a l ih =>
    obtain ⟨ha, hl⟩ := h
    refine ⟨(ho a List.mem_cons_self).symm.trans ha, ?_⟩
    rw [← ht a List.mem_cons_self]
    exact ih hl (fun b hb => ho b (List.mem_cons_of_mem a hb))
      (fun b hb => ht b (List.mem_cons_of_mem a hb))

theorem Simple.congr {owner' target' : α → β} (h : Simple owner target l)
    (ho : ∀ a ∈ l, owner a = owner' a) (ht : ∀ a ∈ l, target a = target' a) :
    Simple owner' target' l where
  fresh := h.fresh.imp_of_mem fun {a b} ha hb hne => by rwa [← ht b hb, ← ho a ha]
  proper a ha := by
    rw [← ht a ha, ← ho a ha]
    exact h.proper a ha

/-- A chain of transformed aliases. -/
theorem linked_map_iff {γ : Type} {f : γ → α} {l : List γ} :
    Linked owner target s (l.map f) e ↔
      Linked (fun c => owner (f c)) (fun c => target (f c)) s l e := by
  induction l generalizing s with
  | nil => exact Iff.rfl
  | cons a l ih => exact and_congr_right fun _ => ih

theorem simple_map_iff {γ : Type} {f : γ → α} {l : List γ} :
    Simple owner target (l.map f) ↔ Simple (fun c => owner (f c)) (fun c => target (f c)) l := by
  constructor
  · intro h
    exact ⟨List.pairwise_map.1 h.fresh, fun a ha => h.proper (f a) (List.mem_map_of_mem ha)⟩
  · intro h
    exact ⟨List.pairwise_map.2 h.fresh, List.forall_mem_map.2 h.proper⟩

/-! Paths over given aliases. -/

/-- The list leads from `s` to `e` over the given aliases. -/
structure Path (owner target : α → β) (aliases : List α) (s : β) (l : List α) (e : β) : Prop where
  linked : Linked owner target s l e
  mem : ∀ a ∈ l, a ∈ aliases

/-- Two aliases of the name have different targets. -/
def Torn (owner target : α → β) (aliases : List α) (n : β) : Prop :=
  ∃ a ∈ aliases, ∃ b ∈ aliases, owner a = n ∧ owner b = n ∧ target a ≠ target b

variable {aliases : List α}

theorem Path.nil : Path owner target aliases s [] s := ⟨rfl, nofun⟩

theorem Path.concat {a : α} (h : Path owner target aliases s l (owner a)) (ha : a ∈ aliases) :
    Path owner target aliases s (l ++ [a]) (target a) := by
  refine ⟨linked_concat h.linked, fun b hb => ?_⟩
  rcases List.mem_append.1 hb with hb | hb
  · exact h.mem b hb
  · rw [List.mem_singleton.1 hb]
    exact ha

/-- Where all aliases of the names on a chain agree with it and its end has none, every path is a
    beginning of the chain. -/
theorem Linked.cut_of_path {l' : List α} {e' : β} (h : Linked owner target s l e)
    (hagree : ∀ a ∈ l, ∀ b ∈ aliases, owner b = owner a → target b = target a)
    (hend : ∀ b ∈ aliases, owner b ≠ e) (h' : Path owner target aliases s l' e') :
    ∃ l₁ l₂, l = l₁ ++ l₂ ∧ l₁.map owner = l'.map owner ∧ l₁.map target = l'.map target ∧
      Linked owner target s l₁ e' ∧ Linked owner target e' l₂ e := by
  induction l' generalizing s l with
  | nil =>
    obtain ⟨rfl, _⟩ := h'
    exact ⟨[], l, rfl, rfl, rfl, rfl, h⟩
  | cons b l' ih =>
    have hb := h'.mem b List.mem_cons_self
    obtain ⟨hs, hl'⟩ := h'.linked
    cases l with
    | nil =>
      -- the chain has ended, yet the name has an alias
      exact absurd (hs.trans h) (hend b hb)
    | cons a l =>
      obtain ⟨ha, hl⟩ := h
      have htarget : target b = target a := hagree a List.mem_cons_self b hb (hs.trans ha.symm)
      obtain ⟨l₁, l₂, rfl, howners, htargets, h₁, h₂⟩ := ih hl
        (fun x hx => hagree x (List.mem_cons_of_mem a hx))
        ⟨htarget ▸ hl', fun x hx => h'.mem x (List.mem_cons_of_mem b hx)⟩
      refine ⟨a :: l₁, l₂, rfl, ?_, ?_, ⟨ha, h₁⟩, h₂⟩
      · rw [List.map_cons, List.map_cons, howners, ha, hs]
      · rw [List.map_cons, List.map_cons, htargets, htarget]

end Chains
