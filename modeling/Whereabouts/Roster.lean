import Std.Data.HashMap
import Whereabouts.Journal

/-!
# Rosters

A roster lists what a map knows of each thing on it, in an order of its own: a new entry comes
last, and the last entry takes the place of one that leaves. An index leads from a handle to its
place. A thing that is listed again is listed twice, and the index then leads to the later entry;
in any case it leads to an entry of that thing.
-/

namespace Whereabouts

structure Entry where
  thing : Handle
  kind : Kind
  /-- The zone the thing is in, if it is in any. -/
  zone : Option ZoneId
  publicId : Option PublicId
deriving DecidableEq

structure Roster where
  entries : Array Entry
  index : Std.HashMap Handle Nat
  index_leads : ∀ t i, index[t]? = some i → entries[i]?.map Entry.thing = some t

namespace Roster

def empty : Roster where
  entries := #[]
  index := ∅
  index_leads := by simp

instance : Inhabited Roster := ⟨empty⟩

def size (r : Roster) : Nat :=
  r.entries.size

def get? (r : Roster) (t : Handle) : Option Entry :=
  r.index[t]?.bind (r.entries[·]?)

def contains (r : Roster) (t : Handle) : Bool :=
  r.index.contains t

def things (r : Roster) : List Handle :=
  r.entries.toList.map Entry.thing

theorem push_leads (r : Roster) (e : Entry) (t : Handle) (i : Nat)
    (h : (r.index.insert e.thing r.entries.size)[t]? = some i) :
    (r.entries.push e)[i]?.map Entry.thing = some t := by
  rw [Std.HashMap.getElem?_insert] at h
  split at h
  · next he =>
    cases h
    simpa using eq_of_beq he
  · have hi := r.index_leads t i h
    cases hg : r.entries[i]? with
    | none => simp [hg] at hi
    | some e' =>
      have hlt := (Array.getElem?_eq_some_iff.mp hg).1
      rw [Array.getElem?_push_lt hlt, ← Array.getElem?_eq_getElem hlt]
      exact hi

/-- List a thing behind all others. -/
def add (r : Roster) (e : Entry) : Roster :=
  let index := r.index.insert e.thing r.entries.size
  { entries := r.entries.push e, index, index_leads := r.push_leads e }

/-- The entries without the one at `i`, whose place the last one takes. -/
def dropAt (entries : Array Entry) (i : Nat) (h : i < entries.size) : Array Entry :=
  (entries.swap i (entries.size - 1)).pop

theorem getElem?_dropAt {entries : Array Entry} {i : Nat} {h : i < entries.size} {j : Nat} :
    (dropAt entries i h)[j]? =
      if j < entries.size - 1 then
        if j = i then entries[entries.size - 1]? else entries[j]?
      else none := by
  simp only [dropAt, Array.getElem?_pop, Array.size_swap]
  split
  · next hj =>
    rw [Array.getElem?_eq_getElem (by simp; omega), Array.getElem_swap]
    split
    · rw [Array.getElem?_eq_getElem]
    · rw [if_neg (by omega), Array.getElem?_eq_getElem]
  · rfl

theorem lt_size {r : Roster} {t : Handle} {i : Nat} (h : r.index[t]? = some i) :
    i < r.entries.size := by
  have hi := r.index_leads t i h
  simp only [Option.map_eq_some_iff, Array.getElem?_eq_some_iff] at hi
  obtain ⟨e, ⟨hi, -⟩, -⟩ := hi
  exact hi

/-- The index once the entry of `t` at `i` has made room for the last one. -/
def reindex (index : Std.HashMap Handle Nat) (t : Handle) (i : Nat) (moved : Option Entry) :
    Std.HashMap Handle Nat :=
  match moved with
  | some e => (index.erase t).insert e.thing i
  | none => index.erase t

theorem reindex_leads {r : Roster} {t : Handle} {i : Nat} (h : r.index[t]? = some i) (s : Handle)
    (j : Nat)
    (hj : (reindex r.index t i (dropAt r.entries i (lt_size h))[i]?)[s]? = some j) :
    (dropAt r.entries i (lt_size h))[j]?.map Entry.thing = some s := by
  have hi := lt_size h
  have ht := r.index_leads t i h
  have hold : (r.index.erase t)[s]? = some j → r.index[s]? = some j ∧ j ≠ i := by
    intro he
    rw [Std.HashMap.getElem?_erase] at he
    split at he
    · cases he
    · next hts =>
      refine ⟨he, fun hji => hts ?_⟩
      have hs := r.index_leads s j he
      rw [hji, ht] at hs
      exact beq_iff_eq.mpr (Option.some.inj hs)
  have hstay : r.index[s]? = some j → j ≠ i → j ≠ r.entries.size - 1 →
      (dropAt r.entries i hi)[j]?.map Entry.thing = some s := by
    intro hs hji hlast
    have := lt_size hs
    rw [getElem?_dropAt, if_pos (by omega), if_neg hji]
    exact r.index_leads s j hs
  by_cases hlast : i = r.entries.size - 1
  · rw [getElem?_dropAt, if_neg (by omega)] at hj
    obtain ⟨hs, hji⟩ := hold hj
    exact hstay hs hji (by omega)
  · obtain ⟨moved, hm⟩ : ∃ e, r.entries[r.entries.size - 1]? = some e :=
      ⟨_, Array.getElem?_eq_getElem (by omega)⟩
    have hd : (dropAt r.entries i hi)[i]? = some moved := by
      rw [getElem?_dropAt, if_pos (by omega), if_pos rfl, hm]
    rw [hd, reindex, Std.HashMap.getElem?_insert] at hj
    split at hj
    · next hs =>
      cases hj
      rw [hd]
      exact congrArg some (eq_of_beq hs)
    · next hs =>
      obtain ⟨hs', hji⟩ := hold hj
      refine hstay hs' hji fun hjl => hs (beq_iff_eq.mpr ?_)
      have := r.index_leads s j hs'
      rw [hjl, hm] at this
      exact Option.some.inj this

/-- Strike the entry that the index leads to. -/
def erase (r : Roster) (t : Handle) : Option Entry × Roster :=
  match h : r.index[t]? with
  | none => (none, r)
  | some i =>
    have hi := lt_size h
    let e := r.entries[i]
    let entries := dropAt r.entries i hi
    let moved := entries[i]?
    (some e,
      { entries
        index := reindex r.index t i moved
        index_leads := reindex_leads h })

/-- Go through entries in order with a state, set the zone of each to what `f` says and put it behind
those in `out`. -/
def rezoneList {ε σ : Type} (f : σ → Entry → Except ε (σ × Option ZoneId)) (s : σ)
    (out : Array Entry) : List Entry → Except ε (σ × Array Entry)
  | [] => .ok (s, out)
  | e :: rest =>
    match f s e with
    | .error fault => .error fault
    | .ok (s', zone) => rezoneList f s' (out.push { e with zone }) rest

theorem things_rezoneList {ε σ : Type} {f : σ → Entry → Except ε (σ × Option ZoneId)} {s s' : σ}
    {out out' : Array Entry} {es : List Entry} (h : rezoneList f s out es = .ok (s', out')) :
    out'.map Entry.thing = out.map Entry.thing ++ (es.map Entry.thing).toArray := by
  induction es generalizing s out with
  | nil =>
    cases h
    simp
  | cons e rest ih =>
    rw [rezoneList] at h
    split at h
    · cases h
    · rw [ih h]
      simp

/-- Go through the entries in order with a state, and set the zone of each to what `f` says. -/
def rezone {ε σ : Type} (r : Roster) (f : σ → Entry → Except ε (σ × Option ZoneId)) (s : σ) :
    Except ε (σ × Roster) :=
  match h : rezoneList f s #[] r.entries.toList with
  | .error fault => .error fault
  | .ok (s', entries) =>
    .ok (s',
      { entries
        index := r.index
        index_leads := by
          intro t i hi
          have hleads := r.index_leads t i hi
          rw [← Array.getElem?_map] at hleads ⊢
          rw [things_rezoneList h]
          simpa using hleads })

end Roster

end Whereabouts
