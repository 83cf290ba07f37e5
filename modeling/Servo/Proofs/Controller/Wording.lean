import Servo.Proofs.Controller.Options
import Servo.Proofs.Decimal.Display

/-!
# Options given as texts

An option may be given as a value or as the text in which that value is displayed, with blank
characters around it where a number or a truth value is read.  `ofParams_retold` says that the
configuration is the same in either case, and that otherwise the same option is at fault.  Values
that are more as texts than as values are left out: a float that is no number but a truth value or
a text, and a truth value that is a text.
-/

namespace Servo

namespace Params

/-- The text in which a value is displayed. -/
def Value.display : Value → String
  | .bool b => toString b
  | .int n => toString n.toInt
  | .float x => Layout.message.write x
  | .text s => s

/-- Whether the text of a value may take its place at a type.  A float would become a truth value
or a text, and a truth value a text, which they are not. -/
def Value.isTellable (kind : Kind) : Value → Bool
  | .float _ => kind = .float
  | .bool _ => kind ≠ .string
  | .int _ => true
  | .text _ => true

/-- The text of a value takes its place at a type.  Blank characters may stand around it unless the
text itself is read. -/
inductive Retold (kind : Kind) (v : Value) : Value → Prop where
  | text (front back : String) (tellable : v.isTellable kind = true)
      (blank : ∀ c ∈ front.toList ++ back.toList, Text.isBlank c = true)
      (unpadded : kind = .string → front = "" ∧ back = "") :
    Retold kind v (.text (front ++ v.display ++ back))

/-- Two values are read alike at a type. -/
def Value.ReadsAs (v w : Value) : Kind → Prop
  | .float => w.asFloat? = v.asFloat?
  | .bool => w.asBool? = v.asBool?
  | .string => w.asString? = v.asString?

/-! ### Texts of values -/

/-- An integer of 64 bits has few digits. -/
theorem digitCount_toInt (n : Int64) :
  Decimal.digitCount n.toInt.natAbs ≤ 400
  := by
  have hlow := n.le_toInt
  have hhigh := n.toInt_lt
  have hle : n.toInt.natAbs < 10 ^ 19 := by omega
  apply Nat.le_trans ((Nat.length_toDigits_le_iff (by decide) (by decide)).2 hle)
  decide

/-- The text of a value is read as the number that the value stands for. -/
theorem Value.asFloat?_display (v : Value) :
  (Value.text v.display).asFloat? = v.asFloat?
  := by
  rw [asFloat?]
  cases v with
  | bool b => cases b <;> rfl
  | int n =>
    rw [display, Text.trim_eq_self (isBlank_toString n.toInt)]
    apply Decimal.readFloat?_toString (digitCount_toInt n)
  | float x =>
    rw [display, Text.trim_eq_self (isBlank_message x)]
    apply Decimal.readFloat?_message x
  | text s => rfl

/-- The text of a value that is no float is read as the truth value that the value stands for. -/
theorem Value.asBool?_display {v : Value} (h : v.isTellable .bool = true) :
  (Value.text v.display).asBool? = v.asBool?
  := by
  rw [asBool?]
  cases v with
  | bool b => cases b <;> rfl
  | float x => cases h
  | text s => rfl
  | int n =>
    have hsame : ∀ m : Int64, toString n.toInt = toString m.toInt ↔ n = m := by
      intro m
      rw [Int.toString_eq_repr, Int.toString_eq_repr]
      exact ⟨fun h => Int64.toInt_inj.1 (Int.repr_injective h), fun h => by rw [h]⟩
    have hone : toString n.toInt = "1" ↔ n = 1 := hsame 1
    have hzero : toString n.toInt = "0" ↔ n = 0 := hsame 0
    -- What is read as no number is not the text of an integer.
    have hword : ∀ s, Decimal.readFloat? s = none → toString n.toInt ≠ s := by
      rintro s hs rfl
      rw [Decimal.readFloat?_toString (digitCount_toInt n)] at hs
      cases hs
    have htrue : toString n.toInt ≠ "true" := hword _ rfl
    have hfalse : toString n.toInt ≠ "false" := hword _ rfl
    rw [display, Text.trim_eq_self (isBlank_toString n.toInt)]
    simp only [htrue, hfalse, hone, hzero, false_or, asBool?]
    by_cases hn : n = 1
    · subst hn
      rfl
    · rw [if_neg hn, if_neg hn]

/-- The text of an integer is the text for which the integer stands. -/
theorem Value.asString?_display {v : Value} (h : v.isTellable .string = true) :
  (Value.text v.display).asString? = v.asString?
  := by
  cases v with
  | bool b => cases h
  | float x => cases h
  | int n => rfl
  | text s => rfl

/-- A value is read alike when its text takes its place. -/
theorem Retold.readsAs {kind : Kind} {v w : Value} (h : Retold kind v w) :
  v.ReadsAs w kind
  := by
  obtain ⟨front, back, tellable, blank, unpadded⟩ := h
  obtain ⟨hfront, hback⟩ := List.forall_mem_append.1 blank
  cases kind with
  | float =>
    rw [Value.ReadsAs, ← Value.asFloat?_display v, Value.asFloat?, Value.asFloat?,
      Text.trim_append hfront hback]
  | bool =>
    rw [Value.ReadsAs, ← Value.asBool?_display tellable, Value.asBool?, Value.asBool?,
      Text.trim_append hfront hback]
  | string =>
    obtain ⟨rfl, rfl⟩ := unpadded rfl
    rw [Value.ReadsAs, ← Value.asString?_display tellable, String.empty_append,
      String.append_empty]

/-! ### Values that are read alike -/

namespace Value

theorem ReadsAs.refl (v : Value) (kind : Kind) :
  v.ReadsAs v kind
  := by
  cases kind <;> rfl

theorem ReadsAs.symm {v w : Value} {kind : Kind} (h : v.ReadsAs w kind) :
  w.ReadsAs v kind
  := by
  cases kind <;> exact Eq.symm h

theorem ReadsAs.readable {v w : Value} {kind : Kind} (h : v.ReadsAs w kind)
    (hv : v.Readable kind) :
  w.Readable kind
  := by
  cases kind <;> exact hv.imp fun _ ha => Eq.trans h ha

end Value

end Params

namespace Controller

/-- Two errors are about the same option: its value is missing in both cases, or it cannot be read
at the same type. -/
inductive Error.SameOption : Error → Error → Prop where
  | missing (key : String) : SameOption (.missing key) (.missing key)
  | unreadable (key : String) (expected : Params.Kind) (v w : Params.Value) :
    SameOption (.unreadable ⟨key, expected, v⟩) (.unreadable ⟨key, expected, w⟩)

namespace Config

/-- The options of `q` are those of `p`, but some of them are given as texts. -/
def Retells (p q : Params) : Prop :=
  ∀ o ∈ options, q.get? o.key = p.get? o.key
    ∨ ∃ v w, p.get? o.key = some v ∧ q.get? o.key = some w ∧ Params.Retold o.kind v w

/-- An option is missing from two parameters, or both give it a value and the values are read
alike. -/
inductive SameReading (p q : Params) (o : Choice) : Prop where
  | missing (left : p.get? o.key = none) (right : q.get? o.key = none)
  | given {v w : Params.Value} (left : p.get? o.key = some v) (right : q.get? o.key = some w)
      (same : v.ReadsAs w o.kind)

variable {p q : Params}

/-! ### Giving options as texts -/

theorem Retells.refl (p : Params) :
  Retells p p
  := fun _ _ => .inl rfl

/-- One more option may be given as a text. -/
theorem Retells.insert (h : Retells p q) {o : Choice} (ho : o ∈ options) {v w : Params.Value}
    (hv : p.get? o.key = some v) (hw : Params.Retold o.kind v w) :
  Retells p (q.insert o.key w)
  := by
  intro o' ho'
  have hunique : ∀ a ∈ options, ∀ b ∈ options, a.key = b.key → a = b := by decide
  rw [Dictionary.get?_insert]
  by_cases hkey : o'.key = o.key
  · cases hunique o' ho' o ho hkey
    exact .inr ⟨v, w, hv, if_pos rfl, hw⟩
  · rw [if_neg hkey]
    apply h o' ho'

/-! ### Options that are read alike -/

/-- Options are read alike when some of them are given as texts. -/
theorem Retells.sameReading (h : Retells p q) {o : Choice} (ho : o ∈ options) :
  SameReading p q o
  := by
  rcases h o ho with hsame | ⟨v, w, hp, hq, hretold⟩
  · cases hp : p.get? o.key with
    | none => exact .missing hp (hsame.trans hp)
    | some v => exact .given hp (hsame.trans hp) (.refl v o.kind)
  · exact .given hp hq hretold.readsAs

theorem SameReading.symm {o : Choice} (h : SameReading p q o) :
  SameReading q p o
  := by
  cases h with
  | missing left right => exact .missing right left
  | given left right same => exact .given right left same.symm

/-- Texts are the same if they are read alike. -/
theorem SameReading.textOf? {key : String} (h : SameReading p q ⟨key, .string⟩) :
  q.textOf? key = p.textOf? key
  := by
  rw [Params.textOf?, Params.textOf?]
  cases h with
  | missing left right => rw [left, right]
  | given left right same =>
    rw [left, right]
    exact same

/-- Numbers are the same if they are read alike. -/
theorem SameReading.numberOr {key : String} (h : SameReading p q ⟨key, .float⟩) (d : Float) :
  q.numberOr key d = p.numberOr key d
  := by
  rw [Params.numberOr, Params.numberOr]
  cases h with
  | missing left right => rw [left, right]
  | given left right same =>
    rw [left, right]
    exact congrArg (Option.getD · d) same

/-- Truth values are the same if they are read alike. -/
theorem SameReading.truthOr {key : String} (h : SameReading p q ⟨key, .bool⟩) (d : Bool) :
  q.truthOr key d = p.truthOr key d
  := by
  rw [Params.truthOr, Params.truthOr]
  cases h with
  | missing left right => rw [left, right]
  | given left right same =>
    rw [left, right]
    exact congrArg (Option.getD · d) same

/-- What is wrong with an option is wrong with it also if it is read alike. -/
theorem SameReading.faulty {o : Choice} (h : SameReading p q o) {e : Error}
    (he : Faulty p o e) :
  ∃ e', Faulty q o e' ∧ e.SameOption e'
  := by
  cases he with
  | absent habsent =>
    cases h with
    | missing _ right => exact ⟨_, .absent right, .missing _⟩
    | given left _ _ => cases habsent.symm.trans left
  | empty hempty => exact ⟨_, .empty (h.textOf?.trans hempty), .missing _⟩
  | unreadable hunreadable =>
    obtain ⟨v, hv, hv', rfl⟩ := hunreadable
    cases h with
    | missing left _ => cases hv.symm.trans left
    | @given v' w left right same =>
      cases hv.symm.trans left
      refine ⟨_, .unreadable ⟨w, right, ?_, rfl⟩, .unreadable _ _ _ _⟩
      apply mt same.symm.readable hv'

/-! ### Configurations -/

theorem described_congr (h : ∀ o ∈ options, SameReading p q o) :
  described q = described p
  := by
  have htext := fun key ho => (h ⟨key, .string⟩ ho).textOf?
  have hnumber := fun key ho => (h ⟨key, .float⟩ ho).numberOr
  have htruth := fun key ho => (h ⟨key, .bool⟩ ho).truthOr
  simp (disch := decide) only [described, htext, hnumber, htruth]

theorem Clear.of_sameReading {l : List Choice} (h : ∀ o ∈ l, SameReading p q o)
    (hclear : Clear (Faulty p) l) :
  Clear (Faulty q) l
  := by
  intro o ho e he
  obtain ⟨e', he', -⟩ := (h o ho).symm.faulty he
  exact hclear o ho e' he'

/-- Parameters give a configuration exactly if they give one when some of the options are given as
texts, and it is the same.  Otherwise the error is about the same option. -/
theorem ofParams_retold (h : Retells p q) :
  (∀ c, ofParams q = .ok c ↔ ofParams p = .ok c)
    ∧ ∀ e, ofParams p = .error e → ∃ e', ofParams q = .error e' ∧ e.SameOption e'
  := by
  have hsame : ∀ o ∈ options, SameReading p q o := fun o ho => h.sameReading ho
  have hp := yields_ofParams p
  have hq := yields_ofParams q
  constructor
  · intro c
    rw [hp.eq_ok_iff, hq.eq_ok_iff, described_congr hsame]
    constructor
    · rintro ⟨hclear, rfl⟩
      exact ⟨Clear.of_sameReading (fun o ho => (hsame o ho).symm) hclear, rfl⟩
    · rintro ⟨hclear, rfl⟩
      exact ⟨Clear.of_sameReading hsame hclear, rfl⟩
  · intro e he
    obtain ⟨before, o, after, hsplit, hclear, hfaulty⟩ :=
      (hp.eq_error_iff (Faulty.unique p)).1 he
    have hbefore : ∀ o' ∈ before, SameReading p q o' := by
      intro o' ho'
      apply hsame
      rw [hsplit]
      apply List.mem_append_left _ ho'
    have ho : o ∈ options := by
      rw [hsplit]
      apply List.mem_append_right _ List.mem_cons_self
    obtain ⟨e', hfaulty', halike⟩ := (hsame o ho).faulty hfaulty
    refine ⟨e', (hq.eq_error_iff (Faulty.unique q)).2 ?_, halike⟩
    exact ⟨before, o, after, hsplit, Clear.of_sameReading hbefore hclear, hfaulty'⟩

/-- Parameters with the values of options at their types, or integers. -/
def typed : Params :=
  .ofList [("cmd_max", .float Decimal.infinity), ("i_gain", .float 0.1), ("joint_name", .int 7),
    ("p_gain", .int 9007199254740993), ("use_force_commands", .bool true)]

/-- The same parameters with three texts instead, two of them among blank characters. -/
def worded : Params :=
  ((typed.insert "i_gain" (.text "\t0.1\u3000")).insert "joint_name" (.text "7")).insert
    "use_force_commands" (.text " true")

/-- A tenth, a name of digits and a truth value may be given as texts. -/
theorem ofParams_retold_worded :
  Retells typed worded
    ∧ ∃ c, ofParams worded = .ok c ∧ ofParams typed = .ok c
      ∧ c.joint = "7" ∧ c.mode = .force ∧ c.gains.integral = 0.1
  := by
  have hretells : Retells typed worded := by
    have hpadded : ("\t".toList ++ "\u3000".toList).all Text.isBlank = true := by decide +kernel
    have hspace : (" ".toList ++ "".toList).all Text.isBlank = true := by decide +kernel
    have hgain := (Retells.refl typed).insert (o := ⟨"i_gain", .float⟩) (by decide) rfl
      (.text "\t" "\u3000" rfl (List.all_eq_true.1 hpadded) nofun)
    have hjoint := hgain.insert (o := ⟨"joint_name", .string⟩) (by decide) rfl
      (.text "" "" rfl nofun fun _ => ⟨rfl, rfl⟩)
    have hforce := hjoint.insert (o := ⟨"use_force_commands", .bool⟩) (by decide) rfl
      (.text " " "" rfl (List.all_eq_true.1 hspace) nofun)
    exact hforce
  have hread : (ofParams typed).toOption.map (fun c => (c.joint, c.mode, c.gains.integral))
      = some ("7", .force, 0.1) := by decide +kernel
  obtain ⟨hok, -⟩ := ofParams_retold hretells
  cases hc : ofParams typed with
  | error e =>
    rw [hc] at hread
    cases hread
  | ok c =>
    rw [hc] at hread
    obtain ⟨hname, hmode⟩ := Prod.mk.inj (Option.some.inj hread)
    obtain ⟨hmode, hgain⟩ := Prod.mk.inj hmode
    exact ⟨hretells, c, (hok c).2 hc, rfl, hname, hmode, hgain⟩

end Config

end Controller

end Servo
