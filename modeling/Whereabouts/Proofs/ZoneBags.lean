import Whereabouts.Proofs.Residents

/-!
# A zone as three bags

To its callers a zone is three bags of handles: characters, other movable things and fixed things.
However things are let in and out, a thing more than once or under several kinds among them, each
part of the array holds what its bag holds. A thing can be let out exactly when the bag of the kind
it is asked for under has it, and a request that is turned down leaves the array as it is.
-/

namespace Whereabouts

/-- What is asked of a zone, of any thing and under any kind. -/
inductive ZoneRequest where
  | insert (t : Handle) (kind : Kind)
  | erase (t : Handle) (kind : Kind)
deriving DecidableEq

/-- A bag of handles for each part, none of which knows of the others. -/
abbrev Bags :=
  Part → Multiset Handle

namespace Bags

def empty : Bags :=
  fun _ => 0

/-- A request puts one occurrence into the bag of its kind or takes one out, if there is one. -/
def step (bags : Bags) : ZoneRequest → Bags
  | .insert t kind => Function.update bags kind.part (t ::ₘ bags kind.part)
  | .erase t kind => Function.update bags kind.part ((bags kind.part).erase t)

def run (bags : Bags) (requests : List ZoneRequest) : Bags :=
  requests.foldl step bags

end Bags

namespace Zone

def step (z : Zone) : ZoneRequest → Zone
  | .insert t kind => z.insert t kind
  | .erase t kind => (z.erase t kind).value.2

def run (z : Zone) (requests : List ZoneRequest) : Zone :=
  requests.foldl step z

/-- Each part of the zone holds what its bag holds, in some order. -/
def Fills (z : Zone) (bags : Bags) : Prop :=
  ∀ q, (z.part q : Multiset Handle) = bags q

variable {z : Zone} {bags : Bags}

lemma erase_of_place? {t : Handle} {kind : Kind} {i : Nat} (h : z.place? t kind = some i) :
    z.erase t kind = ⟨(true, z.eraseAt i), []⟩ := by
  rw [erase, h]

lemma erase_of_no_place {t : Handle} {kind : Kind} (h : z.place? t kind = none) :
    z.erase t kind = ⟨(false, z), [.missingFromZone t kind]⟩ := by
  rw [erase, h]

lemma erase_eq_true_iff (z : Zone) (t : Handle) (kind : Kind) :
    (z.erase t kind).value.1 = true ↔ t ∈ z.part kind.part := by
  rcases z.place?_spec t kind with ⟨hnone, hnot⟩ | ⟨P, Q, hpart, -, hsome⟩
  · rw [erase_of_no_place hnone]
    simp [hnot]
  · rw [erase_of_place? hsome]
    simp [hpart]

/-- A thing that cannot be let out changes nothing. -/
lemma erase_of_eq_false {t : Handle} {kind : Kind} (h : (z.erase t kind).value.1 = false) :
    (z.erase t kind).value.2 = z := by
  cases hplace : z.place? t kind with
  | none => rw [erase_of_no_place hplace]
  | some i =>
    rw [erase_of_place? hplace] at h
    cases h

lemma fills_empty : empty.Fills .empty := by
  intro q
  cases q <;> rfl

lemma Fills.insert (h : z.Fills bags) (t : Handle) (kind : Kind) :
    (z.insert t kind).Fills (bags.step (.insert t kind)) := by
  intro q
  rw [coe_part_insert, h q, Bags.step, Function.update_apply]
  by_cases hq : q = kind.part
  · rw [if_pos hq, if_pos hq, hq, Multiset.singleton_add]
  · rw [if_neg hq, if_neg hq, zero_add]

lemma Fills.erase (h : z.Fills bags) (t : Handle) (kind : Kind) :
    (z.erase t kind).value.2.Fills (bags.step (.erase t kind)) := by
  intro q
  rw [Bags.step, Function.update_apply]
  rcases z.place?_spec t kind with ⟨hnone, hnot⟩ | ⟨P, Q, -, -, hsome⟩
  · have hbag : t ∉ bags kind.part := by
      rwa [← h kind.part, Multiset.mem_coe]
    rw [erase_of_no_place hnone, h q, Multiset.erase_of_notMem hbag]
    split
    · next hq => rw [hq]
    · rfl
  · have hpart := z.coe_part_eraseAt hsome q
    rw [h q] at hpart
    rw [erase_of_place? hsome]
    by_cases hq : q = kind.part
    · subst hq
      rw [if_pos rfl] at hpart ⊢
      rw [hpart, Multiset.singleton_add, Multiset.erase_cons_head]
    · rw [if_neg hq, zero_add] at hpart
      rw [if_neg hq, hpart]

lemma Fills.step (h : z.Fills bags) (r : ZoneRequest) : (z.step r).Fills (bags.step r) := by
  cases r with
  | insert t kind => exact h.insert t kind
  | erase t kind => exact h.erase t kind

theorem Fills.run (h : z.Fills bags) (requests : List ZoneRequest) :
    (z.run requests).Fills (bags.run requests) := by
  induction requests generalizing z bags with
  | nil => exact h
  | cons r requests ih => exact ih (h.step r)

lemma Fills.flatMap_part (h : z.Fills bags) (ps : List Part) :
    (ps.flatMap z.part : Multiset Handle) = (ps.map bags).sum := by
  induction ps with
  | nil => rfl
  | cons p ps ih => rw [List.flatMap_cons, ← Multiset.coe_add, ih, h p, List.map_cons, List.sum_cons]

end Zone

/-- After every run of requests the counters are in order, and each part of a zone, and so each
segment, holds exactly what the bags hold. A thing is let out when the bag of the kind has it, and
else the zone stays as it is. -/
theorem zone_acts_as_bags (requests : List ZoneRequest) :
    let z := Zone.empty.run requests
    let bags := Bags.empty.run requests
    (z.characters ≤ z.moving ∧ z.moving ≤ z.size) ∧
    (∀ q, (z.part q : Multiset Handle) = bags q) ∧
    (∀ s, ((z.segment s).toList : Multiset Handle) = (s.parts.map bags).sum) ∧
    ∀ t kind,
      ((z.erase t kind).value.1 = true ↔ t ∈ bags kind.part) ∧
      ((z.erase t kind).value.1 = false → (z.erase t kind).value.2 = z) := by
  intro z bags
  have hfills : z.Fills bags := Zone.fills_empty.run requests
  refine ⟨⟨z.characters_le, z.moving_le⟩, hfills, ?_, ?_⟩
  · intro s
    rw [z.toList_segment, hfills.flatMap_part]
  · intro t kind
    refine ⟨?_, Zone.erase_of_eq_false⟩
    rw [z.erase_eq_true_iff, ← hfills kind.part, Multiset.mem_coe]

end Whereabouts
