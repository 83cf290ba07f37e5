import Mathlib.Data.List.Basic

/-!
# Lists of checks

A check may find something.  `FirstFound finds l e` says that the first check of a list that finds
anything finds `e`, and `Verdict finds l r` that `r` comes out when the checks are made one after
the other up to the first that finds anything.  Lists of checks are made one after the other by
`Verdict.append`.  `Yields finds l a r` says that a computation `r` makes the checks and has the
result `a` if none of them finds anything; `Yields.bind` puts two computations together.
-/

namespace Servo

variable {γ ε : Type}

/-- No check of a list finds anything. -/
def Clear (finds : γ → ε → Prop) (l : List γ) : Prop := ∀ c ∈ l, ∀ e, ¬ finds c e

/-- The first check of a list that finds anything finds `e`. -/
def FirstFound (finds : γ → ε → Prop) (l : List γ) (e : ε) : Prop :=
  ∃ before c after, l = before ++ c :: after ∧ Clear finds before ∧ finds c e

/-- What comes out when checks are made one after the other. -/
inductive Verdict (finds : γ → ε → Prop) (l : List γ) : Option ε → Prop where
  | clear (h : Clear finds l) : Verdict finds l none
  | found {e : ε} (h : FirstFound finds l e) : Verdict finds l (some e)

variable {finds : γ → ε → Prop} {l l' : List γ}

/-- Nothing is found if nothing is found in either part. -/
theorem Clear.append (h : Clear finds l) (h' : Clear finds l') :
  Clear finds (l ++ l')
  := by
  intro c hc
  rcases List.mem_append.1 hc with hc | hc
  · apply h c hc
  · apply h' c hc

theorem clear_singleton {c : γ} (h : ∀ e, ¬ finds c e) :
  Clear finds [c]
  := by
  intro c' hc
  rw [List.mem_singleton.1 hc]
  apply h

theorem firstFound_cons {c : γ} {e : ε} (h : finds c e) (l : List γ) :
  FirstFound finds (c :: l) e
  := by
  use [], c, l, rfl, nofun, h

theorem FirstFound.not_clear {e : ε} (h : FirstFound finds l e) :
  ¬ Clear finds l
  := by
  obtain ⟨before, c, after, rfl, -, hc⟩ := h
  intro hclear
  apply hclear c (List.mem_append_right _ (List.mem_cons_self ..)) e hc

theorem FirstFound.append_right {e : ε} (h : FirstFound finds l e) (l' : List γ) :
  FirstFound finds (l ++ l') e
  := by
  obtain ⟨before, c, after, rfl, hbefore, hc⟩ := h
  use before, c, after ++ l'
  rw [List.append_assoc, List.cons_append]
  use rfl

theorem Clear.append_firstFound {e : ε} (h : Clear finds l) (h' : FirstFound finds l' e) :
  FirstFound finds (l ++ l') e
  := by
  obtain ⟨before, c, after, rfl, hbefore, hc⟩ := h'
  use l ++ before, c, after
  rw [List.append_assoc]
  use rfl, h.append hbefore

/-- If a check finds at most one thing, only one thing is found first. -/
theorem FirstFound.unique (hfinds : ∀ c e e', finds c e → finds c e' → e = e') {e e' : ε}
    (h : FirstFound finds l e) (h' : FirstFound finds l e') :
  e = e'
  := by
  obtain ⟨before, c, after, rfl, hbefore, hc⟩ := h
  obtain ⟨before', c', after', heq, hbefore', hc'⟩ := h'
  rcases List.append_eq_append_iff.1 heq with ⟨more, rfl, hmore⟩ | ⟨more, rfl, hmore⟩
  all_goals rcases List.cons_eq_append_iff.1 hmore with ⟨rfl, hcons⟩ | ⟨more', rfl, -⟩
  · cases hcons
    apply hfinds c e e' hc hc'
  · exact absurd hc (hbefore' c (by simp) e)
  · cases hcons
    apply hfinds c e e' hc hc'
  · exact absurd hc' (hbefore c' (by simp) e')

/-- Two lists of checks are made one after the other: the second only if the first finds
nothing. -/
theorem Verdict.append {r r' : Option ε} (h : Verdict finds l r) (h' : Verdict finds l' r') :
  Verdict finds (l ++ l') (r.or r')
  := by
  cases h with
  | found h => exact .found (h.append_right l')
  | clear h =>
    cases h' with
    | clear h' => exact .clear (h.append h')
    | found h' => exact .found (h.append_firstFound h')

theorem verdict_nil :
  Verdict finds [] none
  := .clear fun _ hc => absurd hc List.not_mem_nil

theorem Verdict.eq_none_iff {r : Option ε} (h : Verdict finds l r) :
  r = none ↔ Clear finds l
  := by
  cases h with
  | clear h => exact ⟨fun _ => h, fun _ => rfl⟩
  | found h => exact ⟨nofun, fun hclear => absurd hclear h.not_clear⟩

/-- What comes out is what is found first, if a check finds at most one thing. -/
theorem Verdict.eq_some_iff (hfinds : ∀ c e e', finds c e → finds c e' → e = e')
    {r : Option ε} (h : Verdict finds l r) {e : ε} :
  r = some e ↔ FirstFound finds l e
  := by
  cases h with
  | clear h => exact ⟨nofun, fun hfound => absurd h hfound.not_clear⟩
  | found h =>
    constructor
    · rintro ⟨⟩
      apply h
    · intro hfound
      rw [h.unique hfinds hfound]

/-! ### Computations -/

section

variable {α β : Type}

/-- A computation makes the checks of a list: it has a result if nothing is found, and otherwise
ends with what is found first. -/
inductive Yields (finds : γ → ε → Prop) (l : List γ) (a : α) : Except ε α → Prop where
  | ok (h : Clear finds l) : Yields finds l a (.ok a)
  | error {e : ε} (h : FirstFound finds l e) : Yields finds l a (.error e)

theorem yields_pure (a : α) :
  Yields finds [] a (pure a)
  := .ok fun _ hc => absurd hc List.not_mem_nil

/-- A computation goes on with another one. -/
theorem Yields.bind {a : α} {r : Except ε α} (h : Yields finds l a r) {f : α → Except ε β} {b : β}
    (h' : Yields finds l' b (f a)) :
  Yields finds (l ++ l') b (r >>= f)
  := by
  cases h with
  | error h => exact .error (h.append_right l')
  | ok h =>
    show Yields finds (l ++ l') b (f a)
    generalize f a = r' at h'
    cases h' with
    | ok h' => exact .ok (h.append h')
    | error h' => exact .error (h.append_firstFound h')

theorem Yields.map {a : α} {r : Except ε α} (h : Yields finds l a r) (f : α → β) :
  Yields finds l (f a) (r.map f)
  := by
  cases h with
  | ok h => exact .ok h
  | error h => exact .error h

/-- What is found is reported in other words. -/
theorem Yields.mapError {ε' : Type} {finds' : γ → ε' → Prop} {a : α} {r : Except ε α}
    (h : Yields finds l a r) (f : ε → ε')
    (hfinds : ∀ c ∈ l, ∀ e', finds' c e' ↔ ∃ e, finds c e ∧ f e = e') :
  Yields finds' l a (r.mapError f)
  := by
  cases h with
  | ok h =>
    apply Yields.ok
    intro c hc e' he'
    obtain ⟨e, he, -⟩ := (hfinds c hc e').1 he'
    exact h c hc e he
  | error h =>
    obtain ⟨before, c, after, rfl, hbefore, hc⟩ := h
    refine .error ⟨before, c, after, rfl, ?_, (hfinds c (by simp) _).2 ⟨_, hc, rfl⟩⟩
    intro b hb e' he'
    obtain ⟨e, he, -⟩ := (hfinds b (List.mem_append_left _ hb) e').1 he'
    exact hbefore b hb e he

/-- The computation has a result exactly if nothing is found, and then it is the expected one. -/
theorem Yields.eq_ok_iff {a : α} {r : Except ε α} (h : Yields finds l a r) {b : α} :
  r = .ok b ↔ Clear finds l ∧ b = a
  := by
  cases h with
  | ok h => exact ⟨fun heq => ⟨h, (Except.ok.inj heq).symm⟩, fun heq => by rw [heq.2]⟩
  | error h => exact ⟨nofun, fun hclear => absurd hclear.1 h.not_clear⟩

/-- The computation ends with what is found first. -/
theorem Yields.eq_error_iff (hfinds : ∀ c e e', finds c e → finds c e' → e = e') {a : α}
    {r : Except ε α} (h : Yields finds l a r) {e : ε} :
  r = .error e ↔ FirstFound finds l e
  := by
  cases h with
  | ok h => exact ⟨nofun, fun hfound => absurd h hfound.not_clear⟩
  | error h =>
    constructor
    · rintro ⟨⟩
      apply h
    · intro hfound
      rw [h.unique hfinds hfound]

end

end Servo
