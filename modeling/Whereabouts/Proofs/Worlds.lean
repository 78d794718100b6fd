import Whereabouts.Proofs.Belonging

/-!
# Runs of calls

A world is one map and the population its things live in. A run makes calls on it in any order and
on any handles, those of things that ended or never were among them. `World.Sound` holds of the
world that a run starts with and is kept by each call, as long as fewer than 2 ^ 32 things have
been spawned. In a sound world every call goes through: `attempt_delivers` says that no call looks
up a zone that is not there.
-/

namespace Whereabouts

structure World where
  people : Population
  map : GameMap

/-- What is called from outside. Things enter and leave the map only through the map. -/
inductive Call where
  | spawn (kind : Kind) (visible : Bool) (position : Point)
  | despawn (t : Handle)
  | moveTo (t : Handle) (position : Point)
  | beginTick (t : Handle)
  | insert (t : Handle)
  | erase (t : Handle)
  | settle
  | clear
deriving DecidableEq

def Call.isSpawn : Call → Bool
  | spawn .. => true
  | _ => false

/-- What a call makes of a thing while its entry stays. -/
def Call.act (c : Call) (h : Handle) (x : Option Thing) : Option Thing :=
  match c with
  | despawn t => if h = t then none else x
  | moveTo t position => if h = t then x.map (·.moveTo position) else x
  | beginTick t => if h = t then x.map Thing.beginTick else x
  | _ => x

lemma Call.act_none (c : Call) (h : Handle) : c.act h none = none := by
  cases c <;> simp [act]

lemma Population.quiet_despawn (p : Population) (t : Handle) : Quiet (p.despawn t).events := by
  unfold despawn
  split
  · exact quiet_nil
  · dsimp only
    split
    · exact quiet_singleton nofun
    · exact quiet_nil

namespace World

/-- Nobody lives and nothing is on the map. -/
def start (id : MapId) (name : String) (layout : Layout) : World :=
  { people := .empty, map := .build id name layout }

/-- Make a call, which fails when it looks up a zone that is not there. -/
def attempt (w : World) : Call → Except OutsideGrid (Report World)
  | .spawn kind visible position =>
    .ok ⟨{ w with people := (w.people.spawn (.fresh kind visible position)).2 }, []⟩
  | .despawn t =>
    let r := w.people.despawn t
    .ok ⟨{ w with people := r.value.2 }, r.events⟩
  | .moveTo t position => .ok ⟨{ w with people := w.people.modify t (·.moveTo position) }, []⟩
  | .beginTick t => .ok ⟨{ w with people := w.people.modify t Thing.beginTick }, []⟩
  | .insert t => do
    let r ← w.map.insert w.people t
    return ⟨{ people := r.value.2.2, map := r.value.2.1 }, r.events⟩
  | .erase t => do
    let r ← w.map.erase w.people t
    return ⟨{ people := r.value.2.2, map := r.value.2.1 }, r.events⟩
  | .settle => do
    let r ← w.map.settle w.people
    return ⟨{ w with map := r.value.2 }, r.events⟩
  | .clear =>
    .ok ⟨{ people := (w.map.clear w.people).2.2, map := (w.map.clear w.people).2.1 }, []⟩

/-- The world after a call. A call that fails would leave it as it is, but none does. -/
def step (w : World) (c : Call) : World :=
  match w.attempt c with
  | .ok r => r.value
  | .error _ => w

def run (w : World) (calls : List Call) : World :=
  calls.foldl step w

/-- What holds of a world after `n` spawns. -/
structure Sound (w : World) (n : Nat) : Prop where
  people : w.people.Sound n
  map : w.map.Sound w.people

lemma sound_start (id : MapId) (name : String) {l : Layout} (hl : l.check = .ok ()) :
    (start id name l).Sound 0 where
  people := Population.sound_empty
  map := by
    apply GameMap.sound_build id name hl
    intro h t ht
    simp [start, Population.get?_empty] at ht

variable {w : World} {n : Nat}

lemma step_eq {w' : World} {c : Call} (h : Delivers (w.attempt c) w') : w.step c = w' := by
  obtain ⟨events, heq, -⟩ := h
  rw [step, heq]

lemma attempt_insert {t : Handle} {answer : Except Refusal (Option PublicId)} {m : GameMap}
    {people : Population} (h : Delivers (w.map.insert w.people t) (answer, m, people)) :
    Delivers (w.attempt (.insert t)) ⟨people, m⟩ :=
  h.map fun r => ({ people := r.2.2, map := r.2.1 } : World)

lemma attempt_erase {t : Handle} {answer : Except Refusal Unit} {m : GameMap}
    {people : Population} (h : Delivers (w.map.erase w.people t) (answer, m, people)) :
    Delivers (w.attempt (.erase t)) ⟨people, m⟩ :=
  h.map fun r => ({ people := r.2.2, map := r.2.1 } : World)

lemma attempt_settle {k : Nat} {m : GameMap} (h : Delivers (w.map.settle w.people) (k, m)) :
    Delivers (w.attempt .settle) { w with map := m } :=
  h.map fun r => ({ w with map := r.2 } : World)

lemma Sound.step_insert (h : w.Sound n) (t : Handle) :
    w.step (.insert t) = w ∨
      ∃ thing id m', w.people.get? t = some thing ∧ thing.map = none ∧
        w.step (.insert t) = ⟨w.people.modify t (·.enter w.map.id id), m'⟩ ∧
        w.map.Gained (w.map.entryFor t thing id) m' := by
  rcases h.map.insert_cases t with ⟨r, hr⟩ | ⟨thing, id, m', ht, hmap, hr, hgained⟩
  · exact .inl (step_eq (attempt_insert hr))
  · exact .inr ⟨thing, id, m', ht, hmap, step_eq (attempt_insert hr), hgained⟩

lemma Sound.step_erase (h : w.Sound n) (t : Handle) :
    (∀ e ∈ w.map.listed, e.thing ≠ t) ∧ w.step (.erase t) = w ∨
      ∃ e m', e.thing = t ∧ w.step (.erase t) = ⟨w.people.modify t Thing.leave, m'⟩ ∧
        w.map.Lost e m' := by
  rcases h.map.erase_cases t with ⟨hnot, r, hr⟩ | ⟨e, m', het, hr, hlost⟩
  · exact .inl ⟨hnot, step_eq (attempt_erase hr)⟩
  · exact .inr ⟨e, m', het, step_eq (attempt_erase hr), hlost⟩

lemma Sound.step_settle (h : w.Sound n) :
    ∃ k, Delivers (w.map.settle w.people) (k, (w.step .settle).map) ∧
      w.map.Ticked w.people k (w.step .settle).map ∧ (w.step .settle).people = w.people := by
  obtain ⟨k, m', hr, hticked⟩ := GameMap.settle_ticks h.map.occupancy w.people
  rw [step_eq (attempt_settle hr)]
  exact ⟨k, hr, hticked, rfl⟩

/-- In a sound world every call goes through and meets no error. -/
theorem Sound.attempt_delivers (h : w.Sound n) (c : Call) : Delivers (w.attempt c) (w.step c) := by
  have hgoes : ∃ w', Delivers (w.attempt c) w' := by
    cases c with
    | insert t =>
      rcases h.map.insert_cases t with ⟨r, hr⟩ | ⟨thing, id, m', -, -, hr, -⟩
      · exact ⟨_, attempt_insert hr⟩
      · exact ⟨_, attempt_insert hr⟩
    | erase t =>
      rcases h.map.erase_cases t with ⟨-, r, hr⟩ | ⟨e, m', -, hr, -⟩
      · exact ⟨_, attempt_erase hr⟩
      · exact ⟨_, attempt_erase hr⟩
    | settle =>
      obtain ⟨k, m', hr, -⟩ := GameMap.settle_ticks h.map.occupancy w.people
      exact ⟨_, attempt_settle hr⟩
    | despawn t => exact ⟨_, _, rfl, w.people.quiet_despawn t⟩
    | spawn kind visible position => exact ⟨_, .pure _⟩
    | moveTo t position => exact ⟨_, .pure _⟩
    | beginTick t => exact ⟨_, .pure _⟩
    | clear => exact ⟨_, .pure _⟩
  obtain ⟨w', hw'⟩ := hgoes
  rwa [step_eq hw']

theorem Sound.step (h : w.Sound n) (hn : n < 2 ^ 32) (c : Call) :
    (w.step c).Sound (n + c.isSpawn.toNat) := by
  cases c with
  | spawn kind visible position =>
    exact ⟨h.people.spawn hn _, h.map.of_aside (h.people.aside_spawn hn rfl rfl)⟩
  | despawn t => exact ⟨h.people.despawn hn t, h.map.of_aside (h.people.aside_despawn hn t)⟩
  | moveTo t position =>
    exact ⟨h.people.modify t _, h.map.of_aside (w.people.aside_modify t (fun _ => rfl))⟩
  | beginTick t =>
    exact ⟨h.people.modify t _, h.map.of_aside (w.people.aside_modify t (fun _ => rfl))⟩
  | insert t =>
    rcases h.step_insert t with hsame | ⟨thing, id, m', ht, hmap, hstep, hgained⟩
    · rw [hsame]
      exact h
    · rw [hstep]
      exact ⟨h.people.modify t _, hgained.sound_enter h.map ht hmap⟩
  | erase t =>
    rcases h.step_erase t with ⟨-, hsame⟩ | ⟨e, m', rfl, hstep, hlost⟩
    · rw [hsame]
      exact h
    · rw [hstep]
      exact ⟨h.people.modify e.thing _, hlost.sound_leave h.map⟩
  | settle =>
    obtain ⟨k, -, hticked, hpeople⟩ := h.step_settle
    constructor
    · rw [hpeople]
      exact h.people
    · rw [hpeople]
      exact hticked.sound h.map
  | clear => exact ⟨h.people.modifyAll Thing.leave w.map.things, h.map.clear⟩

/-- A run keeps the world sound, and with it whatever its calls keep of a sound world. -/
theorem Sound.run_keeps (h : w.Sound n) {calls : List Call}
    (hn : n + calls.countP Call.isSpawn < 2 ^ 32) {P : World → Prop} (hw : P w)
    (hstep : ∀ v k, ∀ c ∈ calls, v.Sound k → k < 2 ^ 32 → P v → P (v.step c)) :
    (w.run calls).Sound (n + calls.countP Call.isSpawn) ∧ P (w.run calls) := by
  induction calls generalizing w n with
  | nil => exact ⟨h, hw⟩
  | cons c calls ih =>
    rw [countP_cons_toNat, ← Nat.add_assoc] at hn ⊢
    have hn' : n < 2 ^ 32 := by omega
    have hw' := hstep w n c List.mem_cons_self h hn' hw
    apply ih (h.step hn' c) hn hw'
    intro v k c' hc'
    exact hstep v k c' (List.mem_cons_of_mem c hc')

theorem Sound.run (h : w.Sound n) {calls : List Call}
    (hn : n + calls.countP Call.isSpawn < 2 ^ 32) :
    (w.run calls).Sound (n + calls.countP Call.isSpawn) :=
  (h.run_keeps hn (P := fun _ => True) trivial (fun _ _ _ _ _ _ _ => trivial)).1

/-- Every run keeps the world sound. -/
theorem sound_run (id : MapId) (name : String) {l : Layout} (hl : l.check = .ok ())
    {calls : List Call} (hn : calls.countP Call.isSpawn < 2 ^ 32) :
    ((start id name l).run calls).Sound (calls.countP Call.isSpawn) := by
  rw [← Nat.zero_add (calls.countP Call.isSpawn)] at hn ⊢
  exact (sound_start id name hl).run hn

lemma run_append (w : World) (before after : List Call) :
    w.run (before ++ after) = (w.run before).run after :=
  List.foldl_append

lemma Sound.listed_settle (h : w.Sound n) :
    (w.step .settle).map.listed = w.map.listed.map (Entry.settled w.map.grid w.people) := by
  obtain ⟨k, -, hticked, -⟩ := h.step_settle
  exact hticked.listed

lemma Sound.shape_settle (h : w.Sound n) :
    (w.step .settle).map.grid.shape = w.map.grid.shape := by
  obtain ⟨k, -, hticked, -⟩ := h.step_settle
  exact hticked.settled.shape

lemma Sound.people_settle (h : w.Sound n) : (w.step .settle).people = w.people := by
  obtain ⟨k, -, -, hpeople⟩ := h.step_settle
  exact hpeople

/-- A call that neither ends the tick nor clears the map changes at most one entry. -/
lemma Sound.step_map (h : w.Sound n) {c : Call} (hsettle : c ≠ .settle) (hclear : c ≠ .clear) :
    (w.step c).map = w.map ∨ (∃ e, w.map.Gained e (w.step c).map) ∨
      ∃ e, c = .erase e.thing ∧ w.map.Lost e (w.step c).map := by
  cases c with
  | spawn kind visible position => exact .inl rfl
  | despawn t => exact .inl rfl
  | moveTo t position => exact .inl rfl
  | beginTick t => exact .inl rfl
  | insert t =>
    rcases h.step_insert t with hsame | ⟨thing, id, m', -, -, hstep, hgained⟩
    · rw [hsame]
      exact .inl rfl
    · rw [hstep]
      exact .inr (.inl ⟨_, hgained⟩)
  | erase t =>
    rcases h.step_erase t with ⟨-, hsame⟩ | ⟨e, m', rfl, hstep, hlost⟩
    · rw [hsame]
      exact .inl rfl
    · rw [hstep]
      exact .inr (.inr ⟨e, rfl, hlost⟩)
  | settle => exact absurd rfl hsettle
  | clear => exact absurd rfl hclear

/-- A map keeps its number and its layout. -/
lemma Sound.same_map_step (h : w.Sound n) (c : Call) :
    (w.step c).map.id = w.map.id ∧ (w.step c).map.layout = w.map.layout := by
  by_cases hsettle : c = .settle
  · subst hsettle
    obtain ⟨k, -, hticked, -⟩ := h.step_settle
    exact ⟨hticked.id, hticked.layout⟩
  · by_cases hclear : c = .clear
    · subst hclear
      exact ⟨rfl, rfl⟩
    · rcases h.step_map hsettle hclear with hsame | ⟨e, hgained⟩ | ⟨e, -, hlost⟩
      · rw [hsame]
        exact ⟨rfl, rfl⟩
      · exact ⟨hgained.id, hgained.layout⟩
      · exact ⟨hlost.id, hlost.layout⟩

lemma Sound.shape_step (h : w.Sound n) (hn : n < 2 ^ 32) (c : Call) :
    (w.step c).map.grid.shape = w.map.grid.shape := by
  rw [(h.step hn c).map.shape, (h.same_map_step c).2, h.map.shape]

/-- An entry that is there after a call was there before, and the call did to its thing what it
does to any thing, or its thing has just entered. -/
theorem Sound.step_entry (h : w.Sound n) (hn : n < 2 ^ 32) {c : Call} (hsettle : c ≠ .settle)
    {e : Entry} (he : e ∈ (w.step c).map.listed) :
    e ∈ w.map.listed ∧
        (w.step c).people.get? e.thing = c.act e.thing (w.people.get? e.thing) ∨
      ∃ t thing id, e = w.map.entryFor t thing id ∧
        (w.step c).people.get? t = some (thing.enter w.map.id id) := by
  cases c with
  | spawn kind visible position =>
    refine .inl ⟨he, (Population.get?_spawn h.people hn _ _).trans (if_neg ?_)⟩
    intro hnew
    exact Population.not_issued_spawn h.people hn _ (hnew ▸ h.map.tied.issued e he)
  | despawn t => exact .inl ⟨he, Population.get?_despawn w.people t e.thing⟩
  | moveTo t position =>
    refine .inl ⟨he, (Population.get?_modify w.people t e.thing _).trans ?_⟩
    exact if_ctx_congr Iff.rfl (fun het => by rw [het]) (fun _ => rfl)
  | beginTick t =>
    refine .inl ⟨he, (Population.get?_modify w.people t e.thing _).trans ?_⟩
    exact if_ctx_congr Iff.rfl (fun het => by rw [het]) (fun _ => rfl)
  | insert t =>
    rcases h.step_insert t with hsame | ⟨thing, id, m', ht, hmap, hstep, hgained⟩
    · rw [hsame] at he ⊢
      exact .inl ⟨he, rfl⟩
    · rw [hstep] at he ⊢
      rw [hgained.listed, Multiset.mem_cons] at he
      rcases he with rfl | he
      · refine .inr ⟨t, thing, id, rfl, ?_⟩
        rw [Population.get?_modify, if_pos rfl, ht, Option.map_some]
      · refine .inl ⟨he, ?_⟩
        rw [Population.get?_modify, if_neg (h.map.not_listed ht hmap e he)]
        rfl
  | erase t =>
    rcases h.step_erase t with ⟨-, hsame⟩ | ⟨e', m', rfl, hstep, hlost⟩
    · rw [hsame] at he ⊢
      exact .inl ⟨he, rfl⟩
    · rw [hstep] at he ⊢
      have hne := h.map.occupancy.indexed.ne_of_listed_eq hlost.listed e he
      refine .inl ⟨by rw [hlost.listed]; exact Multiset.mem_cons_of_mem he, ?_⟩
      rw [Population.get?_modify, if_neg hne]
      rfl
  | settle => exact absurd rfl hsettle
  | clear => exact absurd he (Multiset.notMem_zero e)

/-- The maps that runs make of one layout are of one shape. -/
lemma shape_run (id : MapId) (name : String) {l : Layout} (hl : l.check = .ok ())
    {calls : List Call} (hn : calls.countP Call.isSpawn < 2 ^ 32) :
    ((start id name l).run calls).map.grid.shape = (Grid.ofLayout l).shape := by
  have hn' : 0 + calls.countP Call.isSpawn < 2 ^ 32 := by omega
  obtain ⟨hw, hlayout⟩ := (sound_start id name hl).run_keeps hn'
    (P := fun v => v.map.layout = l) rfl
    (fun v k c _ hv _ hlayout => (hv.same_map_step c).2.trans hlayout)
  rw [hw.map.shape, hlayout]

/-- An entry stays as it is through every call that does not end the tick or take it off. -/
lemma Sound.mem_listed_step (h : w.Sound n) {c : Call} {e : Entry} (he : e ∈ w.map.listed)
    (hsettle : c ≠ .settle) (hclear : c ≠ .clear) (herase : c ≠ .erase e.thing) :
    e ∈ (w.step c).map.listed := by
  rcases h.step_map hsettle hclear with hsame | ⟨e', hgained⟩ | ⟨e', hc, hlost⟩
  · rwa [hsame]
  · rw [hgained.listed]
    exact Multiset.mem_cons_of_mem he
  · rw [hlost.listed, Multiset.mem_cons] at he
    rcases he with rfl | he
    · exact absurd hc herase
    · exact he

/-- Between two ends of a tick the notes of where things went stay. -/
lemma Sound.sameGround_step (h : w.Sound n) {c : Call} (hsettle : c ≠ .settle)
    (hclear : c ≠ .clear) : w.map.SameGround (w.step c).map := by
  rcases h.step_map hsettle hclear with hsame | ⟨e, hgained⟩ | ⟨e, -, hlost⟩
  · rw [hsame]
    exact .refl w.map
  · exact hgained.toSameGround
  · exact hlost.toSameGround

lemma Sound.sameGround_run (h : w.Sound n) {calls : List Call}
    (hn : n + calls.countP Call.isSpawn < 2 ^ 32) (hsettle : .settle ∉ calls)
    (hclear : .clear ∉ calls) : w.map.SameGround (w.run calls).map := by
  refine (h.run_keeps hn (P := fun v => w.map.SameGround v.map) (.refl w.map) ?_).2
  intro v k c hc hv hk hground
  have hsettle' : c ≠ .settle := fun he => hsettle (he ▸ hc)
  have hclear' : c ≠ .clear := fun he => hclear (he ▸ hc)
  exact hground.trans (hv.sameGround_step hsettle' hclear')

lemma Sound.mem_listed_run (h : w.Sound n) {calls : List Call}
    (hn : n + calls.countP Call.isSpawn < 2 ^ 32) (hsettle : .settle ∉ calls)
    (hclear : .clear ∉ calls) {e : Entry} (he : e ∈ w.map.listed)
    (herase : .erase e.thing ∉ calls) : e ∈ (w.run calls).map.listed := by
  refine (h.run_keeps hn (P := fun v => e ∈ v.map.listed) he ?_).2
  intro v k c hc hv hk he
  have hsettle' : c ≠ .settle := fun h => hsettle (h ▸ hc)
  have hclear' : c ≠ .clear := fun h => hclear (h ▸ hc)
  have herase' : c ≠ .erase e.thing := fun h => herase (h ▸ hc)
  exact hv.mem_listed_step he hsettle' hclear' herase'

/-- A map of three by two zones. -/
def plaza : Layout := { width := 300, height := 200, zoneSize := 100 }

/-- A character and a tree enter, and the character goes to the far corner. -/
def stroll : List Call :=
  [.spawn .character true ⟨10, 20⟩, .spawn .fixed true ⟨30, 40⟩, .insert ⟨0, .first⟩,
    .insert ⟨1, .first⟩, .beginTick ⟨0, .first⟩, .moveTo ⟨0, .first⟩ ⟨250, 150⟩, .settle]

example : ((start ⟨1⟩ "plaza" plaza).run stroll).map.occupancy.roster.entries =
    #[⟨⟨0, .first⟩, .character, some ⟨5⟩, some ⟨0⟩⟩, ⟨⟨1, .first⟩, .fixed, some ⟨0⟩, none⟩] := by
  decide +kernel

end World

end Whereabouts
