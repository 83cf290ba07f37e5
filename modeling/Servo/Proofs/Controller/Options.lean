import Servo.Controller.Config
import Servo.Proofs.Checklist

/-!
# Options of controllers

`Config.options` are the parameters that mean something to a controller, with the type at which each
is read, in the order in which they are read.  `ofParams_reports` says that a configuration is read
if nothing is faulty about any of them, that it then is `Config.described`, that otherwise the first
faulty one is the error, and that other parameters do not matter.
-/

namespace Servo

namespace Params

/-- A value can be read at a type. -/
def Value.Readable (v : Value) : Kind → Prop
  | .float => ∃ x, v.asFloat? = some x
  | .bool => ∃ b, v.asBool? = some b
  | .string => ∃ s, v.asString? = some s

/-- The number that a parameter gives, or a default. -/
def numberOr (p : Params) (key : String) (d : Float) : Float :=
  ((p.get? key).bind Value.asFloat?).getD d

/-- The truth value that a parameter gives, or a default. -/
def truthOr (p : Params) (key : String) (d : Bool) : Bool :=
  ((p.get? key).bind Value.asBool?).getD d

/-- The text that a parameter gives, if any. -/
def textOf? (p : Params) (key : String) : Option String := (p.get? key).bind Value.asString?

end Params

namespace Controller.Config

/-- A parameter that means something, with the type at which it is read. -/
structure Choice where
  key : String
  kind : Params.Kind
  deriving DecidableEq

/-- The gains and limits, in the order in which they are read. -/
def gainOptions : List Choice :=
  [⟨"p_gain", .float⟩, ⟨"i_gain", .float⟩, ⟨"d_gain", .float⟩, ⟨"i_max", .float⟩,
    ⟨"i_min", .float⟩, ⟨"cmd_max", .float⟩, ⟨"cmd_min", .float⟩, ⟨"cmd_offset", .float⟩]

/-- The parameters that mean something, in the order in which they are read. -/
def options : List Choice :=
  ⟨"joint_name", .string⟩ :: gainOptions ++
    [⟨"use_force_commands", .bool⟩, ⟨"initial_velocity", .float⟩, ⟨"topic", .string⟩]

/-- An option has a value that cannot be read at its type. -/
def Unreadable (p : Params) (o : Choice) (e : Params.Error) : Prop :=
  ∃ v, p.get? o.key = some v ∧ ¬ v.Readable o.kind ∧ e = ⟨o.key, o.kind, v⟩

/-- What is wrong with an option: the name of the joint may be absent or empty, and any option may
have a value that cannot be read at its type. -/
inductive Faulty (p : Params) : Choice → Error → Prop where
  | absent (h : p.get? "joint_name" = none) :
      Faulty p ⟨"joint_name", .string⟩ (.missing "joint_name")
  | empty (h : p.textOf? "joint_name" = some "") :
      Faulty p ⟨"joint_name", .string⟩ (.missing "joint_name")
  | unreadable {o : Choice} {e : Params.Error} (h : Unreadable p o e) : Faulty p o (.unreadable e)

/-- The configuration that parameters describe where they say something, with the defaults
elsewhere. -/
def described (p : Params) : Config where
  joint := (p.textOf? "joint_name").getD ""
  initialVelocity := p.numberOr "initial_velocity" 0
  mode := if p.truthOr "use_force_commands" false then .force else .velocity
  gains :=
    { proportional := p.numberOr "p_gain" 1
      integral := p.numberOr "i_gain" 0
      derivative := p.numberOr "d_gain" 0
      integralMax := p.numberOr "i_max" 1
      integralMin := p.numberOr "i_min" (-1)
      commandMax := p.numberOr "cmd_max" 1000
      commandMin := p.numberOr "cmd_min" (-1000)
      offset := p.numberOr "cmd_offset" 0 }
  topic := p.textOf? "topic"

/-! ### Reading an option -/

section

variable (p : Params) (key : String)

theorem Unreadable.unique {p : Params} {o : Choice} {e e' : Params.Error} (h : Unreadable p o e)
    (h' : Unreadable p o e') :
  e = e'
  := by
  obtain ⟨v, hv, -, rfl⟩ := h
  obtain ⟨v', hv', -, rfl⟩ := h'
  cases hv.symm.trans hv'
  rfl

/-- A parameter is read at a type. -/
theorem yields_read {α : Type} {kind : Params.Kind} {as? : Params.Value → Option α}
    (hreadable : ∀ v : Params.Value, v.Readable kind ↔ ∃ a, as? v = some a) :
  Yields (Unreadable p) [⟨key, kind⟩] ((p.get? key).bind as?) (p.read key kind as?)
  := by
  rw [Params.read]
  cases hv : p.get? key with
  | none =>
    apply Yields.ok
    apply clear_singleton
    rintro e ⟨v, hv', -⟩
    cases hv.symm.trans hv'
  | some v =>
    rw [Option.bind_some]
    cases ha : as? v with
    | some a =>
      simp only [ha]
      apply Yields.ok
      apply clear_singleton
      rintro e ⟨v', hv', hunreadable, -⟩
      cases hv.symm.trans hv'
      exact hunreadable ((hreadable v).2 ⟨a, ha⟩)
    | none =>
      simp only [ha]
      apply Yields.error
      apply firstFound_cons
      use v, hv
      rw [hreadable, ha]
      simp only [reduceCtorEq, exists_false, not_false_eq_true, true_and]

theorem yields_floatD (d : Float) :
  Yields (Unreadable p) [⟨key, .float⟩] (p.numberOr key d) (p.floatD key d)
  := (yields_read p key fun _ => Iff.rfl).map (·.getD d)

theorem yields_boolD (d : Bool) :
  Yields (Unreadable p) [⟨key, .bool⟩] (p.truthOr key d) (p.boolD key d)
  := (yields_read p key fun _ => Iff.rfl).map (·.getD d)

theorem yields_string? :
  Yields (Unreadable p) [⟨key, .string⟩] (p.textOf? key) (p.string? key)
  := yields_read p key fun _ => Iff.rfl

/-- The gains and limits are read. -/
theorem yields_gainsOfParams :
  Yields (Unreadable p) gainOptions (described p).gains (gainsOfParams p)
  := by
  apply (yields_floatD p _ _).bind
  apply (yields_floatD p _ _).bind
  apply (yields_floatD p _ _).bind
  apply (yields_floatD p _ _).bind
  apply (yields_floatD p _ _).bind
  apply (yields_floatD p _ _).bind
  apply (yields_floatD p _ _).bind
  apply (yields_floatD p _ _).bind
  apply yields_pure

/-- The joint is read.  It must be there, and not be empty. -/
theorem yields_jointOfParams :
  Yields (Faulty p) [⟨"joint_name", .string⟩] (described p).joint (jointOfParams p)
  := by
  have hread : p.string? "joint_name" = p.read "joint_name" .string Params.Value.asString? := rfl
  have htextOf : p.textOf? "joint_name" = (p.get? "joint_name").bind Params.Value.asString? := rfl
  rw [jointOfParams, jointKey, described, hread, Params.read, htextOf]
  cases hv : p.get? "joint_name" with
  | none => exact .error (firstFound_cons (.absent hv) _)
  | some v =>
    cases hs : v.asString? with
    | none =>
      have hfaulty : Unreadable p ⟨"joint_name", .string⟩ ⟨"joint_name", .string, v⟩ := by
        use v, hv
        rw [Params.Value.Readable, hs]
        simp only [reduceCtorEq, exists_false, not_false_eq_true, true_and]
      simp only [hs]
      exact .error (firstFound_cons (.unreadable hfaulty) _)
    | some name =>
      rw [hv, Option.bind_some, hs] at htextOf
      by_cases hname : name = ""
      · subst hname
        simp only [hs]
        exact .error (firstFound_cons (.empty htextOf) _)
      · simp only [hs, Option.bind_some, Option.getD_some]
        show Yields _ _ name (if name = "" then _ else _)
        rw [if_neg hname]
        apply Yields.ok
        apply clear_singleton
        intro e he
        cases he with
        | absent h => cases hv.symm.trans h
        | empty h => exact hname (Option.some.inj (htextOf.symm.trans h))
        | unreadable h =>
          obtain ⟨v', hv', hunreadable, -⟩ := h
          cases hv.symm.trans hv'
          exact hunreadable ⟨name, hs⟩

/-- Nothing but an unreadable value is wrong with an option other than the joint. -/
theorem faulty_iff {o : Choice} (ho : o.key ≠ "joint_name") {e : Error} :
  Faulty p o e ↔ ∃ e', Unreadable p o e' ∧ .unreadable e' = e
  := by
  constructor
  · intro h
    cases h with
    | absent _ => exact absurd rfl ho
    | empty _ => exact absurd rfl ho
    | unreadable h => exact ⟨_, h, rfl⟩
  · rintro ⟨e', h, rfl⟩
    exact .unreadable h

/-- The faults of options other than the joint are reported as those of a controller. -/
theorem yields_mapError {l : List Choice} (hl : ∀ o ∈ l, o.key ≠ "joint_name") {α : Type} {a : α}
    {r : Except Params.Error α} (h : Yields (Unreadable p) l a r) :
  Yields (Faulty p) l a (r.mapError .unreadable)
  := h.mapError _ fun o ho _ => faulty_iff p (hl o ho)

/-- The name of the joint is not unreadable if it can be read. -/
theorem not_unreadable_of_textOf? {s : String} (h : p.textOf? "joint_name" = some s)
    (e : Params.Error) :
  ¬ Unreadable p ⟨"joint_name", .string⟩ e
  := by
  rintro ⟨v, hv, hunreadable, -⟩
  rw [Params.textOf?, hv, Option.bind_some] at h
  exact hunreadable ⟨s, h⟩

/-- One thing at most is wrong with an option. -/
theorem Faulty.unique (o : Choice) (e e' : Error) (h : Faulty p o e) (h' : Faulty p o e') :
  e = e'
  := by
  cases h with
  | absent h =>
    cases h' with
    | absent _ => rfl
    | empty _ => rfl
    | unreadable h' =>
      obtain ⟨v, hv, -⟩ := h'
      cases h.symm.trans hv
  | empty h =>
    cases h' with
    | absent _ => rfl
    | empty _ => rfl
    | unreadable h' => exact absurd h' (not_unreadable_of_textOf? p h _)
  | unreadable h =>
    cases h' with
    | absent h' =>
      obtain ⟨v, hv, -⟩ := h
      cases h'.symm.trans hv
    | empty h' => exact absurd h (not_unreadable_of_textOf? p h' _)
    | unreadable h' => rw [h.unique h']

/-- A configuration is read. -/
theorem yields_ofParams :
  Yields (Faulty p) options (described p) (ofParams p)
  := by
  apply (yields_jointOfParams p).bind
  apply (yields_mapError p (by decide) (yields_gainsOfParams p)).bind
  apply (yields_mapError p (by decide) (yields_boolD p _ _)).bind
  apply (yields_mapError p (by decide) (yields_floatD p _ _)).bind
  apply (yields_mapError p (by decide) (yields_string? p _)).bind
  apply yields_pure

end

/-! ### Configurations -/

/-- Nothing is faulty if the joint is named and every other option that is given can be read. -/
theorem clear_options_iff {p : Params} :
  Clear (Faulty p) options ↔ (∃ name, p.textOf? "joint_name" = some name ∧ name ≠ "")
    ∧ ∀ o ∈ options.tail, ∀ v, p.get? o.key = some v → v.Readable o.kind
  := by
  constructor
  · intro h
    constructor
    · have hjoint := h ⟨"joint_name", .string⟩ (List.mem_cons_self ..)
      cases htext : p.textOf? "joint_name" with
      | some name =>
        use name, rfl
        rintro rfl
        exact hjoint _ (.empty htext)
      | none =>
        cases hv : p.get? "joint_name" with
        | none => exact absurd (.absent hv) (hjoint _)
        | some v =>
          rw [Params.textOf?, hv, Option.bind_some] at htext
          have hunreadable : ¬ v.Readable .string := by
            rintro ⟨s, hs⟩
            cases htext.symm.trans hs
          exact absurd (.unreadable ⟨v, hv, hunreadable, rfl⟩) (hjoint _)
    · intro o ho v hv
      by_contra hunreadable
      exact h o (List.mem_of_mem_tail ho) _ (.unreadable ⟨v, hv, hunreadable, rfl⟩)
  · rintro ⟨⟨name, hname, hne⟩, hreadable⟩ o ho e he
    rcases List.mem_cons.1 ho with rfl | ho
    · cases he with
      | absent h =>
        rw [Params.textOf?, h] at hname
        cases hname
      | empty h => exact hne (Option.some.inj (hname.symm.trans h))
      | unreadable h => exact not_unreadable_of_textOf? p hname _ h
    · have hkey : ∀ o ∈ options.tail, o.key ≠ "joint_name" := by decide
      obtain ⟨_, ⟨v, hv, hunreadable, -⟩, -⟩ := (faulty_iff p (hkey o ho)).1 he
      exact hunreadable (hreadable o ho v hv)

/-- The configuration depends on the parameters that mean something only. -/
theorem ofParams_congr {p q : Params} (h : ∀ key ∈ keys, q.get? key = p.get? key) :
  ofParams q = ofParams p
  := by
  have hread : ∀ {α : Type} (key : String) (kind : Params.Kind) (as? : Params.Value → Option α),
      key ∈ keys → q.read key kind as? = p.read key kind as? := by
    intro α key kind as? hkey
    rw [Params.read, Params.read, h key hkey]
  simp (disch := decide) only [ofParams, jointOfParams, gainsOfParams, Params.floatD,
    Params.float?, Params.boolD, Params.bool?, Params.string?, hread]

/-- Parameters give a configuration exactly if the joint is named and every other option that is
given can be read; it is the one that they describe.  Otherwise the error is what is wrong with the
first faulty option.  Parameters with the same options give the same, whatever else they hold. -/
theorem ofParams_reports (p : Params) :
  (∀ c, ofParams p = .ok c ↔ ((∃ name, p.textOf? "joint_name" = some name ∧ name ≠ "")
      ∧ ∀ o ∈ options.tail, ∀ v, p.get? o.key = some v → v.Readable o.kind) ∧ c = described p)
    ∧ (∀ e, ofParams p = .error e ↔ FirstFound (Faulty p) options e)
    ∧ (options.map (·.key)).Perm keys
    ∧ ∀ q : Params, (∀ key ∈ keys, q.get? key = p.get? key) → ofParams q = ofParams p
  := by
  have hyields := yields_ofParams p
  refine ⟨?_, ?_, by decide, fun q h => ofParams_congr h⟩
  · intro c
    rw [hyields.eq_ok_iff, clear_options_iff]
  · intro e
    rw [hyields.eq_error_iff (Faulty.unique p)]

/-- Parameters with a number for a name, numbers as texts, a misspelt option and two values that
cannot be read. -/
def untidy : Params :=
  .ofList [("cmd_max", .bool true), ("i_gain", .text "\t2e1 "), ("joint_name", .int 7),
    ("p_gian", .float 3), ("p_gain", .text "fast")]

/-- The first value that cannot be read is the error, and the misspelt option does not matter. -/
theorem ofParams_reports_untidy :
  ofParams untidy = .error (.unreadable ⟨"p_gain", .float, .text "fast"⟩)
    ∧ ofParams (untidy.insert "p_gian" (.bool false)) = ofParams untidy
  := by
  obtain ⟨-, herror, -, hcongr⟩ := ofParams_reports untidy
  constructor
  · apply (herror _).2
    refine ⟨[⟨"joint_name", .string⟩], ⟨"p_gain", .float⟩, _, rfl, ?_, ?_⟩
    · apply clear_singleton
      intro e he
      cases he with
      | absent h => revert h; decide +kernel
      | empty h => revert h; decide +kernel
      | unreadable h => exact not_unreadable_of_textOf? untidy (s := "7") (by decide +kernel) _ h
    · refine .unreadable ⟨.text "fast", by decide +kernel, ?_, rfl⟩
      rintro ⟨x, hx⟩
      have hnone : Params.Value.asFloat? (.text "fast") = none := by decide +kernel
      cases hnone.symm.trans hx
  · apply hcongr
    decide +kernel

end Controller.Config

end Servo
