import Whereabouts.Proofs.Belonging

/-!
# Populations of one frame

Which handle a spawn gives out depends on the generations of the slots and on which of them are
vacant, not on the things that live in them. So two runs that spawn and end things alike give out
the same handles, whatever else they do to the things.
-/

namespace Whereabouts

/-- What later spawns depend on. -/
def Slot.mark (s : Slot) : Generation × Bool :=
  (s.generation, s.thing.isSome)

namespace Population

/-- The same slots are in use under the same generations, and the same ones are vacant. The things
in them may differ. -/
structure SameFrame (p p' : Population) : Prop where
  vacant : p'.vacant = p.vacant
  mark : ∀ i : Nat, p'.slots[i]?.map Slot.mark = p.slots[i]?.map Slot.mark

namespace SameFrame

variable {p p' p'' : Population} {n : Nat}

lemma refl (p : Population) : p.SameFrame p :=
  ⟨rfl, fun _ => rfl⟩

lemma symm (h : p.SameFrame p') : p'.SameFrame p :=
  ⟨h.vacant.symm, fun i => (h.mark i).symm⟩

lemma trans (h : p.SameFrame p') (h' : p'.SameFrame p'') : p.SameFrame p'' :=
  ⟨h'.vacant.trans h.vacant, fun i => (h'.mark i).trans (h.mark i)⟩

lemma size (h : p.SameFrame p') : p'.slots.size = p.slots.size := by
  have hmarks : p'.slots.map Slot.mark = p.slots.map Slot.mark := by
    apply Array.ext_getElem?
    intro i
    rw [Array.getElem?_map, Array.getElem?_map, h.mark]
  simpa using congrArg Array.size hmarks

lemma modify (p : Population) (t : Handle) (f : Thing → Thing) : p.SameFrame (p.modify t f) where
  vacant := rfl
  mark := p.map_slots_modify t f Slot.mark fun s => by simp [Slot.mark]

lemma modifyAll (p : Population) (f : Thing → Thing) (ts : List Handle) :
    p.SameFrame (p.modifyAll f ts) := by
  induction ts generalizing p with
  | nil => exact refl p
  | cons t ts ih => exact (modify p t f).trans (ih (p.modify t f))

/-- The same handles are those of living things. -/
lemma isSome_get? (h : p.SameFrame p') (t : Handle) : (p'.get? t).isSome = (p.get? t).isSome := by
  have hmark := h.mark t.index.toNat
  unfold get?
  cases hs : p.slots[t.index.toNat]? with
  | none =>
    rw [hs, Option.map_none, Option.map_eq_none_iff] at hmark
    rw [hmark]
  | some s =>
    rw [hs, Option.map_some, Option.map_eq_some_iff] at hmark
    obtain ⟨s', hs', heq⟩ := hmark
    obtain ⟨hg, hthing⟩ := Prod.mk.inj heq
    rw [hs']
    dsimp only
    rw [hg]
    split
    · exact hthing
    · rfl

lemma get?_eq_none_iff (h : p.SameFrame p') {t : Handle} : p'.get? t = none ↔ p.get? t = none := by
  rw [← Option.not_isSome_iff_eq_none, ← Option.not_isSome_iff_eq_none, h.isSome_get?]

/-- A spawn gives out the same handle and leaves the same slots vacant, whatever the thing. -/
lemma spawn_same (h : p.SameFrame p') (hp : p.Sound n) (hp' : p'.Sound n) (hn : n < 2 ^ 32)
    (t t' : Thing) :
    (p'.spawn t').1 = (p.spawn t).1 ∧ (p'.spawn t').2.vacant = (p.spawn t).2.vacant := by
  obtain ⟨-, ⟨hi, hg, hv, hv''⟩ | ⟨hs, hv⟩⟩ := slots_spawn hp hn t
  · obtain ⟨-, ⟨hi', hg', -, hv'⟩ | ⟨-, hv'⟩⟩ := slots_spawn hp' hn t'
    · have hindex := index_eq_of_toNat_eq (hi'.trans (h.size.trans hi.symm))
      exact ⟨congrArg₂ Handle.mk hindex (hg'.trans hg.symm), hv'.trans hv''.symm⟩
    · rw [h.vacant, hv] at hv'
      cases hv'
  · obtain ⟨-, ⟨-, -, hv', -⟩ | ⟨hs', hv'⟩⟩ := slots_spawn hp' hn t'
    · rw [h.vacant, hv] at hv'
      cases hv'
    · rw [h.vacant, hv] at hv'
      obtain ⟨hindex, hvacant⟩ := List.cons.inj hv'
      have hmark := h.mark (p.spawn t).1.index.toNat
      rw [hs, hindex, hs', Option.map_some, Option.map_some, Option.some.injEq] at hmark
      exact ⟨congrArg₂ Handle.mk hindex.symm (congrArg Prod.fst hmark), hvacant.symm⟩

lemma spawn (h : p.SameFrame p') (hp : p.Sound n) (hp' : p'.Sound n) (hn : n < 2 ^ 32)
    (t t' : Thing) : (p.spawn t).2.SameFrame (p'.spawn t').2 := by
  obtain ⟨hhandle, hvacant⟩ := h.spawn_same hp hp' hn t t'
  refine ⟨hvacant, ?_⟩
  intro i
  rw [(slots_spawn hp hn t).1, (slots_spawn hp' hn t').1, hhandle]
  split
  · rfl
  · exact h.mark i

lemma despawn (h : p.SameFrame p') (t : Handle) :
    (p.despawn t).value.2.SameFrame (p'.despawn t).value.2 := by
  cases ht : p.get? t with
  | none => rwa [despawn_of_dead ht, despawn_of_dead (h.get?_eq_none_iff.mpr ht)]
  | some x =>
    obtain ⟨x', ht'⟩ : ∃ x', p'.get? t = some x' := by
      rw [← Option.isSome_iff_exists, h.isSome_get?, ht]
      rfl
    constructor
    · rw [vacant_despawn ht, vacant_despawn ht', h.vacant]
    · intro i
      rw [slots_despawn ht, slots_despawn ht']
      split
      · rfl
      · exact h.mark i

lemma issued_iff (h : p.SameFrame p') {k : Handle} : p'.Issued k ↔ p.Issued k := by
  have hmark : ∀ q : Population, q.Issued k ↔ ∃ m, q.slots[k.index.toNat]?.map Slot.mark = some m ∧
      (k.generation.count.toNat < m.1.count.toNat ∨ k.generation = m.1 ∧ m.2) := by
    intro q
    unfold Issued
    cases q.slots[k.index.toNat]? with
    | none => simp
    | some s => simp [Slot.mark]
  rw [hmark, hmark, h.mark]

end SameFrame

/-- The two populations are those of a run and of the run that spares the invisible things, which
are those under the handles `V`. Only these things may differ. -/
structure Veils (V : List Handle) (p p' : Population) : Prop where
  frame : p.SameFrame p'
  same : ∀ k ∉ V, p'.get? k = p.get? k
  visible : ∀ k t, p.get? k = some t → (t.visible ↔ k ∉ V)
  issued : ∀ k ∈ V, p.Issued k

namespace Veils

variable {V : List Handle} {p p' q q' : Population} {n : Nat}

lemma edit (h : p.Veils V p') (hq : p.SameFrame q) (hq' : p'.SameFrame q')
    (hlive : ∀ k t, q.get? k = some t → ∃ s, p.get? k = some s ∧ t.visible = s.visible)
    (hsame : ∀ k ∉ V, q'.get? k = q.get? k) : q.Veils V q' where
  frame := (hq.symm.trans h.frame).trans hq'
  same := hsame
  visible k t ht := by
    obtain ⟨s, hs, hvisible⟩ := hlive k t ht
    rw [hvisible]
    exact h.visible k s hs
  issued k hk := hq.issued_iff.mpr (h.issued k hk)

lemma live_modify (t : Handle) {f : Thing → Thing} (hf : ∀ x, (f x).visible = x.visible)
    (k : Handle) (x : Thing) (hx : (p.modify t f).get? k = some x) :
    ∃ s, p.get? k = some s ∧ x.visible = s.visible := by
  rw [get?_modify] at hx
  split at hx
  · next hk =>
    obtain ⟨s, hs, rfl⟩ := Option.map_eq_some_iff.mp hx
    exact ⟨s, hk ▸ hs, hf s⟩
  · exact ⟨x, hx, rfl⟩

/-- The same edit in both runs. -/
lemma modify (h : p.Veils V p') (t : Handle) {f : Thing → Thing}
    (hf : ∀ x, (f x).visible = x.visible) : (p.modify t f).Veils V (p'.modify t f) := by
  apply h.edit (.modify p t f) (.modify p' t f) (live_modify t hf)
  intro k hk
  rw [get?_modify, get?_modify, h.same k hk]
  by_cases hkt : k = t
  · rw [if_pos hkt, if_pos hkt, ← hkt, h.same k hk]
  · rw [if_neg hkt, if_neg hkt]

/-- An edit of an invisible thing in the full run. -/
lemma modify_left (h : p.Veils V p') {t : Handle} (ht : t ∈ V) {f : Thing → Thing}
    (hf : ∀ x, (f x).visible = x.visible) : (p.modify t f).Veils V p' := by
  apply h.edit (.modify p t f) (.refl p') (live_modify t hf)
  intro k hk
  rw [get?_modify, if_neg (ne_of_mem_of_not_mem ht hk).symm, h.same k hk]

lemma leaveAll (h : p.Veils V p') {ts ts' : List Handle} (hts : ∀ k ∉ V, k ∈ ts' ↔ k ∈ ts) :
    (p.modifyAll Thing.leave ts).Veils V (p'.modifyAll Thing.leave ts') := by
  apply h.edit (.modifyAll p _ ts) (.modifyAll p' _ ts')
  · intro k x hx
    rw [get?_modifyAll p Thing.leave_leave] at hx
    split at hx
    · obtain ⟨s, hs, rfl⟩ := Option.map_eq_some_iff.mp hx
      exact ⟨s, hs, rfl⟩
    · exact ⟨x, hx, rfl⟩
  · intro k hk
    rw [get?_modifyAll p Thing.leave_leave, get?_modifyAll p' Thing.leave_leave, h.same k hk,
      if_congr (hts k hk) rfl rfl]

lemma despawn (h : p.Veils V p') (hp : p.Sound n) (hn : n < 2 ^ 32) (t : Handle) :
    (p.despawn t).value.2.Veils V (p'.despawn t).value.2 where
  frame := h.frame.despawn t
  same k hk := by
    rw [get?_despawn, get?_despawn, h.same k hk]
  visible k x hx := by
    rw [get?_despawn] at hx
    split at hx
    · cases hx
    · exact h.visible k x hx
  issued k hk := issued_despawn hp hn t (h.issued k hk)

/-- The handle of a new thing is put with the others if the thing is invisible. -/
lemma spawn (h : p.Veils V p') (hp : p.Sound n) (hp' : p'.Sound n) (hn : n < 2 ^ 32) (t : Thing) :
    (p.spawn t).2.Veils (if t.visible then V else (p.spawn t).1 :: V) (p'.spawn t).2 := by
  have hhandle := (h.frame.spawn_same hp hp' hn t t).1
  have hnew : (p.spawn t).1 ∉ V := fun hmem => not_issued_spawn hp hn t (h.issued _ hmem)
  have hold : ∀ k, k ≠ (p.spawn t).1 →
      (k ∉ (if t.visible then V else (p.spawn t).1 :: V) ↔ k ∉ V) := by
    intro k hk
    split
    · rfl
    · rw [List.mem_cons, or_iff_right hk]
  refine ⟨h.frame.spawn hp hp' hn t t, ?_, ?_, ?_⟩
  · intro k hk
    rw [get?_spawn hp hn, get?_spawn hp' hn, hhandle]
    by_cases hkn : k = (p.spawn t).1
    · rw [if_pos hkn, if_pos hkn]
    · rw [if_neg hkn, if_neg hkn, h.same k ((hold k hkn).mp hk)]
  · intro k x hx
    rw [get?_spawn hp hn] at hx
    by_cases hkn : k = (p.spawn t).1
    · rw [if_pos hkn, Option.some.injEq] at hx
      rw [← hx, hkn]
      by_cases hvisible : t.visible
      · simp [hvisible, hnew]
      · simp [hvisible]
    · rw [if_neg hkn] at hx
      rw [hold k hkn]
      exact h.visible k x hx
  · intro k hk
    by_cases hkn : k = (p.spawn t).1
    · apply issued_of_get? (t := t)
      rw [get?_spawn hp hn, if_pos hkn]
    · have hkV : k ∈ V := not_not.mp (mt (hold k hkn).mpr (not_not.mpr hk))
      exact issued_spawn hp hn t (h.issued k hkV)

end Veils

end Population

end Whereabouts
