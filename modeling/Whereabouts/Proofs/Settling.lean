import Whereabouts.Occupancy
import Whereabouts.Proofs.Cells
import Whereabouts.Proofs.Deliveries
import Whereabouts.Proofs.Listing
import Whereabouts.Proofs.Residents

/-!
# What settling does

`Entry.due` says where an entry belongs when the tick ends, without going through the others.
`settle_settles` says that settling, which moves one thing after the other while the zones change
under it, brings every entry there, and that the notes it leaves are exactly the crossings.
-/

namespace Whereabouts

/-- The zone an entry is due in when the tick ends. A thing that can move, lives and has moved in
this tick is due in the zone of its position, and every other one where it was recorded. -/
def Entry.due (g : Grid) (people : Population) (e : Entry) : Option ZoneId :=
  match e.zone, people.get? e.thing with
  | some source, some t =>
    if e.kind.movable && t.moved then some (g.zoneAt t.position) else some source
  | zone, _ => zone

/-- The entry once it is where it is due. -/
def Entry.settled (g : Grid) (people : Population) (e : Entry) : Entry :=
  { e with zone := e.due g people }

lemma Entry.due_congr {g g' : Grid} (h : g.shape = g'.shape) (people : Population) (e : Entry) :
    e.due g people = e.due g' people := by
  simp only [due, Grid.zoneAt_congr h]

lemma Entry.due_eq_none_iff {g : Grid} {people : Population} {e : Entry} :
    e.due g people = none ↔ e.zone = none := by
  unfold due
  split
  · next source t hz ht =>
    rw [hz]
    split
    · simp
    · simp
  · rfl

lemma Entry.isSome_due (g : Grid) (people : Population) (e : Entry) :
    (e.due g people).isSome = e.zone.isSome := by
  rw [Bool.eq_iff_iff, ← Option.ne_none_iff_isSome, ← Option.ne_none_iff_isSome]
  exact not_congr due_eq_none_iff

lemma Entry.contains_due {g : Grid} (hg : g.Numbered) {people : Population} {e : Entry}
    (he : ∀ z, e.zone = some z → g.contains z) {z : ZoneId} (hz : e.due g people = some z) :
    g.contains z := by
  unfold due at hz
  split at hz
  · next source t hsource ht =>
    split at hz
    · rw [← Option.some.inj hz]
      exact Grid.contains_zoneAt hg _
    · exact he z (hsource.trans hz)
  · exact he z hz

/-- To go through a roster is to go through its entries; the index stays. -/
lemma Roster.rezone_of_rezoneList {ε σ : Type} {r : Roster}
    {f : σ → Entry → Except ε (σ × Option ZoneId)} {s s' : σ} {entries : Array Entry}
    (h : rezoneList f s #[] r.entries.toList = .ok (s', entries)) :
    ∃ r', r.rezone f s = .ok (s', r') ∧ r'.entries = entries ∧ r'.index = r.index := by
  unfold rezone
  split
  · next h' =>
    rw [h] at h'
    cases h'
  · next h' =>
    rw [h] at h'
    cases h'
    exact ⟨_, rfl, rfl, rfl⟩

namespace Occupancy

/-- An entry that is where it is due stays there. -/
lemma settleEntry_stays {people : Population} {s : Settling} {e : Entry}
    (h : e.due s.grid people = e.zone) :
    ∃ met : List Event, (met = [] ∨ met = [.listedButDead e.thing]) ∧
      settleEntry people s e = .ok ({ s with events := met ++ s.events }, e.zone) := by
  unfold settleEntry
  cases hz : e.zone with
  | none => exact ⟨[], .inl rfl, rfl⟩
  | some source =>
    by_cases hk : e.kind.movable
    · cases ht : people.get? e.thing with
      | none => exact ⟨_, .inr rfl, by simp [hk, pure, Except.pure]⟩
      | some t =>
        have hstay : (!t.moved || source == s.grid.zoneAt t.position) = true := by
          simp only [Entry.due, hz, ht, hk, Bool.true_and] at h
          by_cases hm : t.moved
          · rw [if_pos hm, Option.some.injEq] at h
            simp [h]
          · simp [hm]
        exact ⟨[], .inl rfl, by simp [hk, hstay, pure, Except.pure]⟩
    · exact ⟨[], .inl rfl, by simp [hk, pure, Except.pure]⟩

/-- An entry that is due elsewhere is taken out of its zone, noted there and placed anew. -/
lemma settleEntry_crosses {people : Population} {s : Settling} (hg : s.grid.Numbered) {e : Entry}
    {es : Multiset Entry} (hs : s.grid.Holds (e ::ₘ es)) {source target : ZoneId}
    (hz : e.zone = some source) (hd : e.due s.grid people = some target) (hne : target ≠ source) :
    ∃ i before after, (s.grid.edit source (·.eraseAt i)).Holds es ∧
      settleEntry people s e = .ok (
        { grid := ((s.grid.edit source (·.eraseAt i)).edit source
            (·.noteDeparture target)).edit target (·.insert e.thing e.kind)
          crossings := s.crossings + 1
          events := .crossed e.thing source target before after :: s.events }, some target) := by
  obtain ⟨-, i, -, -, herase, hholds⟩ := hs.erase hz
  have hinside := hs.inside e (Multiset.mem_cons_self e es)
  cases ht : people.get? e.thing with
  | none =>
    simp only [Entry.due, hz, ht, Option.some.injEq] at hd
    exact absurd hd.symm hne
  | some t =>
    refine ⟨i, t.tickStart, t.position, hholds, ?_⟩
    have hsource : (s.grid.edit source (·.eraseAt i)).contains source := by
      rw [Grid.contains_edit]
      exact hinside source hz
    have htarget : ((s.grid.edit source (·.eraseAt i)).edit source
        (·.noteDeparture target)).contains target := by
      rw [Grid.contains_edit, Grid.contains_edit]
      exact Entry.contains_due hg hinside hd
    simp only [Entry.due, hz, ht] at hd
    by_cases hm : (e.kind.movable && t.moved) = true
    · rw [if_pos hm, Option.some.injEq] at hd
      rw [Bool.and_eq_true] at hm
      have hgo : (!t.moved || source == target) = false := by
        simp [hm.2, hne.symm]
      simp [settleEntry, hz, ht, hm.1, hd, hgo, herase, Grid.noteDeparture, Grid.insert,
        Grid.modify_eq hsource, Grid.modify_eq htarget, bind, Except.bind, pure, Except.pure]
    · rw [if_neg hm, Option.some.injEq] at hd
      exact absurd hd.symm hne

/-- What has come of a grid and a count once the entries `es` are settled beside `done`. Nothing that
was met on the way is an error. -/
structure Progress (g : Grid) (people : Population) (s : Settling) (es : List Entry)
    (done : Multiset Entry) (s' : Settling) : Prop where
  shape : s'.grid.shape = g.shape
  holds : s'.grid.Holds (↑(es.map (Entry.settled g people)) + done)
  departed : ∀ y x, s'.grid.Departed y x ↔
    s.grid.Departed y x ∨ ∃ e ∈ es, e.zone = some y ∧ e.due g people = some x ∧ x ≠ y
  crossings : s'.crossings = s.crossings + es.countP fun e => e.due g people ≠ e.zone
  quiet : ∀ event ∈ s'.events, event ∈ s.events ∨ event.level ≠ .error

lemma progress_of_stays {g : Grid} {people : Population} {s : Settling}
    (hshape : s.grid.shape = g.shape) {e : Entry} {es : Multiset Entry}
    (hs : s.grid.Holds (e ::ₘ es)) (h : e.due g people = e.zone) :
    ∃ s', settleEntry people s e = .ok (s', e.due g people) ∧ Progress g people s [e] es s' := by
  obtain ⟨met, hmet, heq⟩ := settleEntry_stays ((Entry.due_congr hshape people e).trans h)
  have hsettled : e.settled g people = e := by simp [Entry.settled, h]
  rw [h]
  refine ⟨_, heq, hshape, ?_, ?_, ?_, ?_⟩
  · rw [List.map_singleton, hsettled, Multiset.coe_singleton, Multiset.singleton_add]
    exact hs
  · intro y x
    refine (or_iff_left ?_).symm
    rintro ⟨e', he', hy, hx, hne⟩
    rw [List.mem_singleton.mp he', h] at hx
    rw [List.mem_singleton.mp he', hx] at hy
    exact hne (Option.some.inj hy)
  · simp [h]
  · intro event hevent
    rcases List.mem_append.mp hevent with hevent | hevent
    · rcases hmet with rfl | rfl
      · cases hevent
      · rw [List.mem_singleton.mp hevent]
        exact .inr nofun
    · exact .inl hevent

lemma progress_of_crosses {g : Grid} (hg : g.Numbered) {people : Population} {s : Settling}
    (hshape : s.grid.shape = g.shape) {e : Entry} {es : Multiset Entry}
    (hs : s.grid.Holds (e ::ₘ es)) {source target : ZoneId} (hz : e.zone = some source)
    (hd : e.due g people = some target) (hne : target ≠ source) :
    ∃ s', settleEntry people s e = .ok (s', e.due g people) ∧ Progress g people s [e] es s' := by
  obtain ⟨i, before, after, hout, heq⟩ :=
    settleEntry_crosses ((Grid.numbered_congr hshape).mpr hg) hs hz
      ((Entry.due_congr hshape people e).trans hd) hne
  have hinside := hs.inside e (Multiset.mem_cons_self e es)
  have htarget : s.grid.contains target := by
    rw [Grid.contains_congr hshape]
    exact Entry.contains_due hg (fun z hz => Grid.contains_congr hshape z ▸ hinside z hz) hd
  have hnoted :
      ((s.grid.edit source (·.eraseAt i)).edit source (·.noteDeparture target)).Holds es :=
    hout.edit (fun zone p => by cases p <;> rfl) source
  have hplaced := hnoted.insert (e := e.settled g people) (z := target)
    (by simp [Entry.settled, hd]) (by simpa [Grid.contains_edit])
  rw [hd]
  refine ⟨_, heq, hshape, ?_, ?_, ?_, ?_⟩
  · rw [List.map_singleton, Multiset.coe_singleton, Multiset.singleton_add]
    exact hplaced
  · intro y x
    rw [Grid.departed_edit (fun zone => Zone.departures_insert zone _ _),
      Grid.departed_noteDeparture (by simpa [Grid.contains_edit] using hinside source hz),
      Grid.departed_edit (fun zone => Zone.departures_eraseAt zone i)]
    refine or_congr Iff.rfl ?_
    constructor
    · rintro ⟨rfl, rfl⟩
      exact ⟨e, List.mem_singleton_self e, hz, hd, hne⟩
    · rintro ⟨e', he', hy, hx, -⟩
      rw [List.mem_singleton.mp he'] at hy hx
      exact ⟨Option.some.inj (hy.symm.trans hz), Option.some.inj (hx.symm.trans hd)⟩
  · simp [hz, hd, hne]
  · intro event hevent
    rcases List.mem_cons.mp hevent with rfl | hevent
    · exact .inr nofun
    · exact .inl hevent

lemma settleEntry_progress {g : Grid} (hg : g.Numbered) (people : Population) {s : Settling}
    (hshape : s.grid.shape = g.shape) {e : Entry} {es : Multiset Entry}
    (hs : s.grid.Holds (e ::ₘ es)) :
    ∃ s', settleEntry people s e = .ok (s', e.due g people) ∧ Progress g people s [e] es s' := by
  by_cases h : e.due g people = e.zone
  · exact progress_of_stays hshape hs h
  · obtain ⟨target, hd⟩ := Option.ne_none_iff_exists'.mp
      (fun hnone => h (hnone.trans (Entry.due_eq_none_iff.mp hnone).symm))
    cases hz : e.zone with
    | none => exact absurd (hz ▸ Entry.due_eq_none_iff.mpr hz) h
    | some source =>
      exact progress_of_crosses hg hshape hs hz hd (fun heq => h (by rw [hd, hz, heq]))

/-- Settling the entries one after the other settles them all, whatever the order, and comes to no
zone that is not there. -/
lemma rezoneList_progress {g : Grid} (hg : g.Numbered) (people : Population) (es : List Entry)
    {s : Settling} (hshape : s.grid.shape = g.shape) {done : Multiset Entry}
    (hs : s.grid.Holds (↑es + done)) (out : Array Entry) :
    ∃ s' out', Roster.rezoneList (settleEntry people) s out es = .ok (s', out') ∧
      out'.toList = out.toList ++ es.map (Entry.settled g people) ∧
      Progress g people s es done s' := by
  induction es generalizing s done out with
  | nil =>
    refine ⟨s, out, rfl, by simp, hshape, hs, ?_, ?_, fun event h => .inl h⟩
    · simp
    · simp
  | cons e rest ih =>
    rw [← Multiset.cons_coe, Multiset.cons_add] at hs
    obtain ⟨s₁, heq, hhead⟩ := settleEntry_progress hg people hshape hs
    -- The rest is settled beside `e`, which is where it is due by now.
    have hnext : s₁.grid.Holds (↑rest + (e.settled g people ::ₘ done)) := by
      have hholds := hhead.holds
      rwa [List.map_singleton, Multiset.coe_singleton, Multiset.singleton_add,
        ← Multiset.add_cons] at hholds
    obtain ⟨s₂, out', hrest, hlist, htail⟩ :=
      ih hhead.shape hnext (out.push (e.settled g people))
    refine ⟨s₂, out', ?_, ?_, htail.shape, ?_, ?_, ?_, ?_⟩
    · rw [Roster.rezoneList, heq]
      exact hrest
    · rw [hlist, Array.toList_push, List.append_assoc]
      rfl
    · have hholds := htail.holds
      rw [Multiset.add_cons, ← Multiset.cons_add, Multiset.cons_coe] at hholds
      exact hholds
    · intro y x
      rw [htail.departed, hhead.departed, or_assoc]
      simp
    · rw [htail.crossings, hhead.crossings, List.countP_cons, List.countP_cons, List.countP_nil]
      omega
    · intro event hevent
      rcases htail.quiet event hevent with hevent | hlevel
      · exact hhead.quiet event hevent
      · exact .inr hlevel

/-- What the end of the tick makes of an occupancy: each entry is where it is due, and the notes
say from where to where things went. -/
structure Settled (people : Population) (o : Occupancy) (crossings : Nat) (o' : Occupancy) :
    Prop where
  entries : o'.roster.entries.toList = o.roster.entries.toList.map (Entry.settled o.grid people)
  index : o'.roster.index = o.roster.index
  ids : o'.ids = o.ids
  shape : o'.grid.shape = o.grid.shape
  holds : o'.grid.Holds o'.roster.listed
  departed : ∀ y x, o'.grid.Departed y x ↔
    ∃ e ∈ o.roster.listed, e.zone = some y ∧ e.due o.grid people = some x ∧ x ≠ y
  crossings_eq : crossings =
    o.roster.entries.toList.countP fun e => e.due o.grid people ≠ e.zone

/-- Settling goes through, and it settles every entry. -/
theorem settle_settles {o : Occupancy} (hg : o.grid.Numbered) (ho : o.grid.Holds o.roster.listed)
    (people : Population) :
    ∃ n o', Delivers (o.settle people) (n, o') ∧ Settled people o n o' := by
  have hstart : o.grid.forgetDepartures.Holds (↑o.roster.entries.toList + 0) := by
    rw [add_zero]
    exact ho.forgetDepartures
  obtain ⟨s, out, heq, hlist, hprogress⟩ := rezoneList_progress hg people o.roster.entries.toList
    (s := { grid := o.grid.forgetDepartures, crossings := 0, events := [] })
    o.grid.shape_forgetDepartures hstart #[]
  rw [List.nil_append] at hlist
  obtain ⟨roster, hroster, hentries, hindex⟩ := Roster.rezone_of_rezoneList heq
  refine ⟨s.crossings, { grid := s.grid, ids := o.ids, roster }, ⟨s.events.reverse, ?_, ?_⟩,
    hentries ▸ hlist, hindex, rfl, hprogress.shape, ?_, ?_, ?_⟩
  · simp only [settle, hroster, bind, Except.bind]
    rfl
  · intro event hevent
    rcases hprogress.quiet event (List.mem_reverse.mp hevent) with hevent | hlevel
    · cases hevent
    · exact hlevel
  · have hholds := hprogress.holds
    rw [add_zero, ← hlist, ← hentries] at hholds
    exact hholds
  · intro y x
    refine (hprogress.departed y x).trans (or_iff_right ?_)
    exact Grid.not_departed_forgetDepartures o.grid y x
  · exact hprogress.crossings.trans (Nat.zero_add _)

end Occupancy

end Whereabouts
