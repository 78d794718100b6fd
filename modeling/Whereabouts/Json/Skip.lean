import Whereabouts.Json.Numeral

/-!
# Values passed over

`skipValue` passes over one JSON value of any kind and depth. The arrays and objects it is inside
of are kept on a stack, and every step takes at least one character off the text. Inside such a
value numbers have no range, and halves of surrogate pairs may stand alone.
-/

namespace Whereabouts.Json

inductive Nesting where
  | array
  | object
deriving DecidableEq

/-- What comes next: a value, or what may follow one. -/
inductive Expecting where
  | value
  | closing
deriving DecidableEq

/-- Pass over the colon behind a key. -/
def skipColon (cs : List Char) : Except Fault (List Char) :=
  match skipBlank cs with
  | [] => .error .ended
  | ':' :: rest => .ok rest
  | _ => .error .malformed

/-- Pass over a key behind its opening quote, and the colon. -/
def skipKey (cs : List Char) : Except Fault (List Char) :=
  match skipString cs with
  | .error e => .error e
  | .ok rest => skipColon rest

/-- Where a reader is within a value: how it is nested, what comes next, and what is left. -/
structure Cursor where
  nesting : List Nesting
  expecting : Expecting
  left : List Char

/-- Pass over the first part of a value: all of a plain one, the opening of an array or object. -/
def beginValue (nesting : List Nesting) (cs : List Char) : Except Fault Cursor :=
  let closing := fun (r : Except Fault (List Char)) => r.map fun rest => ⟨nesting, .closing, rest⟩
  match skipBlank cs with
  | [] => .error .ended
  | '"' :: rest => closing (skipString rest)
  | 'n' :: rest => closing (readLiteral ['u', 'l', 'l'] rest)
  | 't' :: rest => closing (readLiteral ['r', 'u', 'e'] rest)
  | 'f' :: rest => closing (readLiteral ['a', 'l', 's', 'e'] rest)
  | '[' :: rest =>
    match skipBlank rest with
    | [] => .error .ended
    | ']' :: rest => .ok ⟨nesting, .closing, rest⟩
    | rest => .ok ⟨.array :: nesting, .value, rest⟩
  | '{' :: rest =>
    match skipBlank rest with
    | [] => .error .ended
    | '}' :: rest => .ok ⟨nesting, .closing, rest⟩
    | '"' :: rest => (skipKey rest).map fun rest => ⟨.object :: nesting, .value, rest⟩
    | _ => .error .malformed
  | c :: rest =>
    if c = '-' ∨ isDigit c then closing ((readNumeral .malformed (c :: rest)).map Prod.snd)
    else .error .malformed

/-- Pass over what follows a value inside an array or object, up to the next value. -/
def endValue (inside : Nesting) (nesting : List Nesting) (cs : List Char) : Except Fault Cursor :=
  match inside, skipBlank cs with
  | _, [] => .error .ended
  | .array, ',' :: rest => .ok ⟨.array :: nesting, .value, rest⟩
  | .array, ']' :: rest => .ok ⟨nesting, .closing, rest⟩
  | .object, ',' :: rest =>
    match skipBlank rest with
    | [] => .error .ended
    | '"' :: rest => (skipKey rest).map fun rest => ⟨.object :: nesting, .value, rest⟩
    | _ => .error .malformed
  | .object, '}' :: rest => .ok ⟨nesting, .closing, rest⟩
  | _, _ => .error .malformed

theorem length_skipColon {cs rest : List Char} (h : skipColon cs = .ok rest) :
    rest.length < cs.length := by
  have hb := length_skipBlank_le cs
  unfold skipColon at h
  split at h
  · simp at h
  · next hs =>
    cases h
    rw [hs, List.length_cons] at hb
    omega
  · simp at h

theorem length_skipKey {cs rest : List Char} (h : skipKey cs = .ok rest) :
    rest.length < cs.length := by
  unfold skipKey at h
  split at h
  · simp at h
  · next hs => exact Nat.lt_trans (length_skipColon h) (length_skipString hs)

theorem left_of_map {α : Type} {r : Except Fault α} {f : α → Cursor} {c : Cursor}
    (h : r.map f = .ok c) : ∃ a, r = .ok a ∧ f a = c := by
  cases r with
  | error e => cases h
  | ok a => exact ⟨a, rfl, Except.ok.inj h⟩

theorem length_beginValue {nesting : List Nesting} {cs : List Char} {c : Cursor}
    (h : beginValue nesting cs = .ok c) : c.left.length < cs.length := by
  refine Nat.lt_of_lt_of_le ?_ (length_skipBlank_le cs)
  unfold beginValue at h
  dsimp only at h
  split at h
  · simp at h
  · next rest hs =>
    obtain ⟨left, hr, rfl⟩ := left_of_map h
    exact hs ▸ Nat.lt_succ_of_lt (length_skipString hr)
  · next rest hs =>
    obtain ⟨left, hr, rfl⟩ := left_of_map h
    exact hs ▸ Nat.lt_succ_of_le (length_readLiteral_le hr)
  · next rest hs =>
    obtain ⟨left, hr, rfl⟩ := left_of_map h
    exact hs ▸ Nat.lt_succ_of_le (length_readLiteral_le hr)
  · next rest hs =>
    obtain ⟨left, hr, rfl⟩ := left_of_map h
    exact hs ▸ Nat.lt_succ_of_le (length_readLiteral_le hr)
  · next rest hs =>
    have hb := length_skipBlank_le rest
    rw [hs, List.length_cons]
    split at h
    · simp at h
    · next hs' =>
      cases h
      rw [hs', List.length_cons] at hb
      dsimp only
      omega
    · cases h
      dsimp only
      omega
  · next rest hs =>
    have hb := length_skipBlank_le rest
    rw [hs, List.length_cons]
    split at h
    · simp at h
    · next hs' =>
      cases h
      rw [hs', List.length_cons] at hb
      dsimp only
      omega
    · next hs' =>
      obtain ⟨left, hr, rfl⟩ := left_of_map h
      have := length_skipKey hr
      rw [hs', List.length_cons] at hb
      dsimp only
      omega
    · simp at h
  · next c' rest _ _ _ _ _ _ hs =>
    split at h
    · obtain ⟨left, hr, rfl⟩ := left_of_map h
      rw [hs]
      cases hn : readNumeral .malformed (c' :: rest) with
      | error e => rw [hn] at hr; cases hr
      | ok n =>
        rw [hn] at hr
        cases hr
        exact length_readNumeral hn
    · simp at h

theorem length_endValue {inside : Nesting} {nesting : List Nesting} {cs : List Char} {c : Cursor}
    (h : endValue inside nesting cs = .ok c) : c.left.length < cs.length := by
  refine Nat.lt_of_lt_of_le ?_ (length_skipBlank_le cs)
  unfold endValue at h
  split at h
  · simp at h
  · next hs => cases h; rw [hs]; exact Nat.lt_succ_self _
  · next hs => cases h; rw [hs]; exact Nat.lt_succ_self _
  · next rest hs =>
    have hb := length_skipBlank_le rest
    rw [hs, List.length_cons]
    split at h
    · simp at h
    · next hs' =>
      obtain ⟨left, hr, rfl⟩ := left_of_map h
      have := length_skipKey hr
      rw [hs', List.length_cons] at hb
      dsimp only
      omega
    · simp at h
  · next hs => cases h; rw [hs]; exact Nat.lt_succ_self _
  · simp at h

/-- Pass over all that is left of a value. -/
def finishValue (c : Cursor) : Except Fault (List Char) :=
  match c.expecting, c.nesting with
  | .value, nesting =>
    match _h : beginValue nesting c.left with
    | .error e => .error e
    | .ok c => finishValue c
  | .closing, [] => .ok c.left
  | .closing, inside :: nesting =>
    match _h : endValue inside nesting c.left with
    | .error e => .error e
    | .ok c => finishValue c
termination_by c.left.length
decreasing_by
  · exact length_beginValue (by assumption)
  · exact length_endValue (by assumption)

/-- Pass over a value. -/
def skipValue (cs : List Char) : Except Fault (List Char) :=
  finishValue ⟨[], .value, cs⟩

theorem length_finishValue_le {c : Cursor} {rest : List Char} (h : finishValue c = .ok rest) :
    rest.length ≤ c.left.length := by
  fun_induction finishValue c with
  | case1 => simp at h
  | case2 c _ c' hb ih => exact Nat.le_trans (ih h) (Nat.le_of_lt (length_beginValue hb))
  | case3 => cases h; exact Nat.le_refl _
  | case4 => simp at h
  | case5 c _ _ _ _ c' hb ih => exact Nat.le_trans (ih h) (Nat.le_of_lt (length_endValue hb))

theorem length_skipValue_le {cs rest : List Char} (h : skipValue cs = .ok rest) :
    rest.length ≤ cs.length :=
  length_finishValue_le h

end Whereabouts.Json
