import Whereabouts.Proofs.Residence

/-!
# Requests that are turned down

Whether a request is refused can be told from the globe alone, before it is made. `Globe.Due` lists
the ways to be refused. A request is turned down in one of these ways and in no other, and when it
is, it leaves no trace, not even in the hints of the id pool.
-/

namespace Whereabouts

namespace GameMap

variable {m : GameMap} {people : Population} {t : Handle}

lemma Sound.insert_of_error (hm : m.Sound people) {r : Refusal}
    (h : answered (m.insert people t) = some (.error r)) :
    Delivers (m.insert people t) (.error r, m, people) := by
  rcases hm.insert_cases t with ⟨r', hr⟩ | ⟨thing, id, m', -, -, hr, -⟩
  · rw [hr.answered] at h
    cases h
    exact hr
  · rw [hr.answered] at h
    cases h

lemma Sound.erase_of_error (hm : m.Sound people) {r : Refusal}
    (h : answered (m.erase people t) = some (.error r)) :
    Delivers (m.erase people t) (.error r, m, people) := by
  rcases hm.erase_cases t with ⟨-, r', hr⟩ | ⟨e, m', -, hr, -⟩
  · rw [hr.answered] at h
    cases h
    exact hr
  · rw [hr.answered] at h
    cases h

lemma Sound.entry?_eq_none_iff (hm : m.Sound people) :
    m.entry? t = none ↔ ∀ e ∈ m.listed, e.thing ≠ t := by
  rw [Option.eq_none_iff_forall_ne_some]
  constructor
  · intro h e he het
    exact h e (hm.entry?_eq_some_iff.mpr ⟨he, het⟩)
  · intro h e he
    obtain ⟨hlisted, het⟩ := hm.entry?_eq_some_iff.mp he
    exact h e hlisted het

/-- What is listed is taken off, also when it has ended since. -/
lemma Sound.erase_of_contains (hm : m.Sound people) (h : m.contains t) :
    ∃ m' people', Delivers (m.erase people t) (.ok (), m', people') ∧ t ∉ m'.things := by
  obtain ⟨e, he, rfl⟩ := mem_things.mp (hm.contains_iff.mp h)
  obtain ⟨herase, hlost⟩ := hm.erase_of_listed he
  refine ⟨_, _, herase, ?_⟩
  rw [mem_things]
  rintro ⟨e', he', heq⟩
  exact hm.occupancy.indexed.ne_of_listed_eq hlost.listed e' he' heq

end GameMap

/-- What is wrong with an answer. -/
def Refusal.of? {α : Type} : Except Refusal α → Option Refusal
  | .ok _ => none
  | .error r => some r

lemma Refusal.of?_eq_some_iff {α : Type} {x : Except Refusal α} {r : Refusal} :
    of? x = some r ↔ x = .error r := by
  cases x with
  | ok a => simp [of?]
  | error r' => simp [of?]

namespace Globe

/-- How a request is turned down, if it is. Nothing is answered for a map that is not loaded, but to
who asks to unload it. -/
def refusal? (g : Globe) : Request → Option Refusal
  | .load id name layout => Refusal.of? (g.atlas.load id name layout).value
  | .unload id => Refusal.of? (g.atlas.unload g.people id).value.1
  | .insert id t =>
    (g.atlas.find? id).bind fun m => (answered (m.insert g.people t)).bind Refusal.of?
  | .erase id t =>
    (g.atlas.find? id).bind fun m => (answered (m.erase g.people t)).bind Refusal.of?
  | _ => none

/-- The ways in which a request is due to be turned down. -/
inductive Due (g : Globe) : Request → Refusal → Prop
  | unknown {id : MapId} {m : GameMap} {t : Handle} (hm : g.atlas.find? id = some m)
      (ht : g.people.get? t = none) : Due g (.insert id t) (.unknownThing t)
  | elsewhere {id other : MapId} {m : GameMap} {t : Handle} {thing : Thing}
      (hm : g.atlas.find? id = some m) (ht : g.people.get? t = some thing)
      (hmap : thing.map = some other) : Due g (.insert id t) (.alreadyOnMap t other)
  | exhausted {id : MapId} {m : GameMap} {t : Handle} {thing : Thing}
      (hm : g.atlas.find? id = some m) (ht : g.people.get? t = some thing)
      (hmap : thing.map = none) (hvisible : thing.visible) (hmovable : thing.movable)
      (hall : ∀ p, m.occupancy.ids.isTaken p) : Due g (.insert id t) (.idsExhausted id)
  | unlisted {id : MapId} {m : GameMap} {t : Handle} (hm : g.atlas.find? id = some m)
      (ht : m.entry? t = none) : Due g (.erase id t) (.notOnMap t id)
  | invalid {id : MapId} {name : String} {layout : Layout} {fault : LayoutFault}
      (hcheck : layout.check = .error fault) :
      Due g (.load id name layout) (.invalidLayout fault)
  | loaded {id : MapId} {name : String} {layout : Layout} (hcheck : layout.check = .ok ())
      (hm : (g.atlas.find? id).isSome) : Due g (.load id name layout) (.mapAlreadyLoaded id)
  | notLoaded {id : MapId} (hm : g.atlas.find? id = none) : Due g (.unload id) (.mapNotLoaded id)

variable {g : Globe} {n : Nat} {id : MapId} {t : Handle} {r : Refusal}

lemma refusal?_load (g : Globe) (id : MapId) (name : String) (layout : Layout) :
    g.refusal? (.load id name layout) =
      match layout.check with
      | .error fault => some (.invalidLayout fault)
      | .ok () => if (g.atlas.find? id).isSome then some (.mapAlreadyLoaded id) else none := by
  simp only [refusal?, Atlas.load, Atlas.contains_eq]
  cases layout.check with
  | error fault => rfl
  | ok =>
    dsimp only
    split
    · rfl
    · rfl

lemma refusal?_insert {m : GameMap} (hm : g.atlas.find? id = some m) :
    g.refusal? (.insert id t) = some r ↔ answered (m.insert g.people t) = some (.error r) := by
  rw [refusal?, hm, Option.bind_some, Option.bind_eq_some_iff]
  simp only [Refusal.of?_eq_some_iff, exists_eq_right]

lemma refusal?_erase {m : GameMap} (hm : g.atlas.find? id = some m) :
    g.refusal? (.erase id t) = some r ↔ answered (m.erase g.people t) = some (.error r) := by
  rw [refusal?, hm, Option.bind_some, Option.bind_eq_some_iff]
  simp only [Refusal.of?_eq_some_iff, exists_eq_right]

lemma load_due (g : Globe) (id : MapId) (name : String) (layout : Layout) :
    g.refusal? (.load id name layout) = some r ↔ g.Due (.load id name layout) r := by
  rw [refusal?_load]
  constructor
  · intro h
    split at h
    · next fault hcheck =>
      rw [← Option.some.inj h]
      exact .invalid hcheck
    · next hcheck =>
      split at h
      · next hm =>
        rw [← Option.some.inj h]
        exact .loaded hcheck hm
      · cases h
  · intro h
    cases h with
    | invalid hcheck => simp only [hcheck]
    | loaded hcheck hm => simp only [hcheck, if_pos hm]

lemma unload_due (g : Globe) (id : MapId) :
    g.refusal? (.unload id) = some r ↔ g.Due (.unload id) r := by
  rw [refusal?, Refusal.of?_eq_some_iff]
  constructor
  · intro h
    cases hm : g.atlas.find? id with
    | none =>
      rw [Atlas.unload_of_not_loaded hm, Except.error.injEq] at h
      rw [← h]
      exact .notLoaded hm
    | some m =>
      rw [Atlas.unload_of_find? hm] at h
      cases h
  · intro h
    cases h with
    | notLoaded hm => rw [Atlas.unload_of_not_loaded hm]

lemma Sound.insert_due (hg : g.Sound n) (id : MapId) (t : Handle) :
    g.refusal? (.insert id t) = some r ↔ g.Due (.insert id t) r := by
  constructor
  · intro h
    cases hm : g.atlas.find? id with
    | none => simp [refusal?, hm] at h
    | some m =>
      have hsound := hg.maps id m hm
      have hid := hg.id_eq id m hm
      rw [refusal?_insert hm] at h
      cases ht : g.people.get? t with
      | none =>
        rw [(GameMap.insert_of_dead ht).answered] at h
        cases h
        exact .unknown hm ht
      | some thing =>
        cases hmap : thing.map with
        | some other =>
          rw [(GameMap.insert_of_elsewhere ht hmap).answered] at h
          cases h
          exact .elsewhere hm ht hmap
        | none =>
          by_cases hname : (thing.visible && thing.movable) = true
          · have hids := hsound.occupancy.named.sound
            rcases IdPool.grant_spec hids t with hnone | ⟨p, hgrant, -⟩
            · rw [(GameMap.insert_none_left ht hmap hname hnone).answered, hid] at h
              cases h
              obtain ⟨hvisible, hmovable⟩ := Bool.and_eq_true_iff.mp hname
              have hall := (hids.grant_eq_none_iff t).mp (congrArg Prod.fst hnone)
              exact .exhausted hm ht hmap hvisible hmovable
                fun p => (IdPool.isTaken_iff hids).mpr (hall p)
            · have hgrant' := Prod.ext (y := (_, _)) hgrant rfl
              rw [(hsound.insert_named ht hmap hname hgrant').answered] at h
              cases h
          · rw [(hsound.insert_unnamed ht hmap hname).answered] at h
            cases h
  · intro h
    cases h with
    | unknown hm ht => exact (refusal?_insert hm).mpr (GameMap.insert_of_dead ht).answered
    | elsewhere hm ht hmap =>
      exact (refusal?_insert hm).mpr (GameMap.insert_of_elsewhere ht hmap).answered
    | exhausted hm ht hmap hvisible hmovable hall =>
      have hids := (hg.maps id _ hm).occupancy.named.sound
      have hname := Bool.and_eq_true_iff.mpr ⟨hvisible, hmovable⟩
      have hnone := hids.grant_of_none <| (hids.grant_eq_none_iff t).mpr
        fun p => (IdPool.isTaken_iff hids).mp (hall p)
      rw [refusal?_insert hm, (GameMap.insert_none_left ht hmap hname hnone).answered,
        hg.id_eq id _ hm]

lemma Sound.erase_due (hg : g.Sound n) (id : MapId) (t : Handle) :
    g.refusal? (.erase id t) = some r ↔ g.Due (.erase id t) r := by
  constructor
  · intro h
    cases hm : g.atlas.find? id with
    | none => simp [refusal?, hm] at h
    | some m =>
      have hsound := hg.maps id m hm
      have hid := hg.id_eq id m hm
      rw [refusal?_erase hm] at h
      cases ht : m.entry? t with
      | none =>
        have hnot := hsound.entry?_eq_none_iff.mp ht
        rw [(hsound.erase_of_unlisted hnot).answered, hid] at h
        cases h
        exact .unlisted hm ht
      | some e =>
        obtain ⟨he, rfl⟩ := hsound.entry?_eq_some_iff.mp ht
        rw [(hsound.erase_of_listed he).1.answered] at h
        cases h
  · intro h
    cases h with
    | unlisted hm ht =>
      have hsound := hg.maps id _ hm
      have hnot := hsound.entry?_eq_none_iff.mp ht
      rw [refusal?_erase hm, (hsound.erase_of_unlisted hnot).answered, hg.id_eq id _ hm]

theorem Sound.refusal?_eq_some_iff (hg : g.Sound n) (request : Request) :
    g.refusal? request = some r ↔ g.Due request r := by
  cases request with
  | load id name layout => exact g.load_due id name layout
  | unload id => exact g.unload_due id
  | insert id t => exact hg.insert_due id t
  | erase id t => exact hg.erase_due id t
  | _ =>
    constructor
    · intro h
      cases h
    · intro h
      cases h

/-- A call that does nothing to a map and the population does nothing to the globe. -/
lemma Sound.visit_of_same (hg : g.Sound n) {m : GameMap} (hm : g.atlas.find? id = some m)
    {c : Call} (h : World.step { people := g.people, map := m } c = ⟨g.people, m⟩) :
    ∃ g', g.visit id c = .ok g' ∧ g'.people = g.people ∧
      ∀ id', g'.atlas.find? id' = g.atlas.find? id' := by
  refine ⟨_, hg.visit_of_find? hm c, ?_⟩
  rw [h]
  refine ⟨rfl, ?_⟩
  intro id'
  rw [Atlas.find?_put, Atlas.find?_take?, hg.id_eq id m hm]
  by_cases hid : id' = id
  · rw [if_pos hid, hid, hm]
  · rw [if_neg hid, if_neg hid]

/-- What is turned down changes nothing. -/
theorem Sound.step_of_refused (hg : g.Sound n) {request : Request}
    (h : g.refusal? request = some r) :
    (g.step request).people = g.people ∧
      ∀ id, (g.step request).atlas.find? id = g.atlas.find? id := by
  cases request with
  | load id name layout =>
    rcases g.load_cases id name layout with hsame | ⟨hcheck, hm, -⟩
    · rw [hsame]
      exact ⟨rfl, fun _ => rfl⟩
    · simp [refusal?_load, hcheck, hm] at h
  | unload id =>
    cases (g.unload_due id).mp h with
    | notLoaded hm =>
      rw [unload_of_not_loaded hm]
      exact ⟨rfl, fun _ => rfl⟩
  | insert id t =>
    cases hm : g.atlas.find? id with
    | none => simp [refusal?, hm] at h
    | some m =>
      have hsame := (hg.maps id m hm).insert_of_error ((refusal?_insert hm).mp h)
      obtain ⟨g', hvisit, hthings⟩ := hg.visit_of_same hm (c := .insert t)
        (World.step_eq (World.attempt_insert hsame))
      rwa [step_eq (r := .insert id t) hvisit]
  | erase id t =>
    cases hm : g.atlas.find? id with
    | none => simp [refusal?, hm] at h
    | some m =>
      have hsame := (hg.maps id m hm).erase_of_error ((refusal?_erase hm).mp h)
      obtain ⟨g', hvisit, hthings⟩ := hg.visit_of_same hm (c := .erase t)
        (World.step_eq (World.attempt_erase hsame))
      rwa [step_eq (r := .erase id t) hvisit]
  | _ => cases h

end Globe

/-- After every run of requests, whatever comes next is answered. A request is turned down exactly
when it is due, and then all things and all maps stay as they are. A thing that a map lists, also
one that has ended, is taken off it when asked for. -/
theorem refused_when_due {requests : List Request}
    (hspawns : requests.countP Request.isSpawn < 2 ^ 32) :
    let g := Globe.empty.run requests
    (∀ request, g.attempt request = .ok (g.step request)) ∧
    (∀ request r, g.refusal? request = some r ↔ g.Due request r) ∧
    (∀ request, (g.refusal? request).isSome →
      (g.step request).people = g.people ∧
        ∀ id, (g.step request).atlas.find? id = g.atlas.find? id) ∧
    ∀ id m t, g.atlas.find? id = some m → m.contains t →
      ∃ m' people', Delivers (m.erase g.people t) (.ok (), m', people') ∧ t ∉ m'.things := by
  intro g
  have hg : g.Sound _ := Globe.sound_run hspawns
  refine ⟨hg.attempt_eq hspawns, fun request r => hg.refusal?_eq_some_iff request, ?_, ?_⟩
  · intro request h
    obtain ⟨r, hr⟩ := Option.isSome_iff_exists.mp h
    exact hg.step_of_refused hr
  · intro id m t hm
    exact (hg.maps id m hm).erase_of_contains

theorem refused_when_due_moving :
    Globe.moving.countP Request.isSpawn < 2 ^ 32 ∧
      (Globe.empty.run Globe.moving).Due (.insert ⟨1⟩ ⟨0, .first⟩)
        (.alreadyOnMap ⟨0, .first⟩ ⟨1⟩) ∧
      ((Globe.empty.run Globe.moving).step (.insert ⟨1⟩ ⟨0, .first⟩)).people =
        (Globe.empty.run Globe.moving).people :=
  have hspawns : Globe.moving.countP Request.isSpawn < 2 ^ 32 := by decide
  have hrefused : (Globe.empty.run Globe.moving).refusal? (.insert ⟨1⟩ ⟨0, .first⟩) =
      some (.alreadyOnMap ⟨0, .first⟩ ⟨1⟩) := by
    decide +kernel
  ⟨hspawns, ((refused_when_due hspawns).2.1 _ _).mp hrefused,
    ((refused_when_due hspawns).2.2.1 _ (by rw [hrefused]; rfl)).1⟩

end Whereabouts
