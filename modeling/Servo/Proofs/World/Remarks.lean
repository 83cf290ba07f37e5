import Servo.Proofs.Controller.Options
import Servo.Proofs.Decimal.Display
import Servo.Proofs.Text.Separator
import Servo.Proofs.World.Findings

/-!
# The texts of findings

A finding is given as a text, which names a model and a place, and an error.  Names may hold
anything, and so a text could be one about several slots; but the wording of an error that
parameters can have holds no quotation mark, unless it ends in a quoted value (`Text.Worded`).
`Finding.message_disabled_inj` says that such a text tells the model, the place and the wording, and
`Valid.message_mem_findings_iff` which texts are given about a valid world.
-/

namespace Servo

/-! ### Texts with quotation marks -/

namespace Text

/-- There is no quotation mark in a text. -/
structure Unquoted (s : String) : Prop where
  single : '\'' ∉ s.toList
  double : '"' ∉ s.toList

instance (s : String) : Decidable (Unquoted s) :=
  decidable_of_iff ('\'' ∉ s.toList ∧ '"' ∉ s.toList)
    ⟨fun h => ⟨h.1, h.2⟩, fun h => ⟨h.single, h.double⟩⟩

theorem Unquoted.append {s t : String} (hs : Unquoted s) (ht : Unquoted t) :
  Unquoted (s ++ t)
  := by
  constructor
  case single =>
    rw [String.toList_append, List.mem_append, not_or]
    exact ⟨hs.single, ht.single⟩
  case double =>
    rw [String.toList_append, List.mem_append, not_or]
    exact ⟨hs.double, ht.double⟩

/-- There is no quotation mark in a number. -/
theorem unquoted_of_isNumeric {s : String} (h : ∀ c ∈ s.toList, IsNumeric c ∨ c ∈ "NaNinf".toList) :
  Unquoted s
  := by
  have hmarks : ∀ c ∈ ['\'', '"'], ¬ (IsNumeric c ∨ c ∈ "NaNinf".toList) := by
    simp [IsNumeric, Char.isDigit]
  constructor
  case single => exact fun hc => hmarks _ (by simp) (h _ hc)
  case double => exact fun hc => hmarks _ (by simp) (h _ hc)

/-- What stands between the quotation marks if characters are quoted. -/
def quoteBody (cs : List Char) : List Char := cs.flatMap quoteChar

theorem toList_quote (s : String) :
  (quote s).toList = '"' :: (quoteBody s.toList ++ ['"'])
  := by
  rw [quote, String.toList_ofList, quoteBody]

/-- There is no quotation mark in the code of a character. -/
theorem mark_notMem_codeEscape (c : Char) :
  '"' ∉ codeEscape c
  := by
  have hdigits : ∀ n, '"' ∉ Nat.toDigits 16 n := by
    intro n
    induction n using Nat.strong_induction_on with
    | _ n ih =>
      have hdigit : ∀ k < 16, '"' ≠ Nat.digitChar k := by decide
      rw [Nat.toDigits_eq_if (by decide)]
      split
      next hn => exact fun h => hdigit n hn (List.mem_singleton.1 h)
      next hn =>
        rw [List.mem_append, not_or, List.mem_singleton]
        exact ⟨ih _ (by omega), hdigit _ (by omega)⟩
  simp [codeEscape, hdigits]

/-- A quotation mark in what shows a character stands behind a backslash. -/
theorem getLast?_of_quoteChar_eq {c : Char} {before after : List Char}
    (h : quoteChar c = before ++ '"' :: after) :
  before.getLast? = some '\\'
  := by
  have hmark : '"' ∈ quoteChar c := by simp [h]
  have hc : c = '"' := by
    by_contra hc
    have hcode := mark_notMem_codeEscape c
    have hne : '"' ≠ c := Ne.symm hc
    rw [quoteChar] at hmark
    split_ifs at hmark <;> simp_all
  subst hc
  cases before with
  | nil => cases (List.cons.inj h).1
  | cons d before =>
    obtain ⟨rfl, hrest⟩ := List.cons.inj h
    cases before with
    | nil => rfl
    | cons d before => cases List.append_eq_nil_iff.1 (List.cons.inj hrest).2.symm |>.2

/-- A quotation mark inside of a quoted text stands behind a backslash. -/
theorem getLast?_of_quoteBody_eq {cs before after : List Char}
    (h : quoteBody cs = before ++ '"' :: after) :
  before.getLast? = some '\\'
  := by
  induction cs generalizing before with
  | nil => cases (List.append_eq_nil_iff.1 h.symm).2
  | cons c rest ih =>
    rw [quoteBody, List.flatMap_cons, ← quoteBody] at h
    rcases List.append_eq_append_iff.1 h with ⟨more, rfl, hrest⟩ | ⟨more, hc, hafter⟩
    · rw [List.getLast?_append, ih hrest]
      rfl
    · cases more with
      | nil =>
        have hlast : ([] : List Char).getLast? = some '\\' := ih hafter.symm
        cases hlast
      | cons d more =>
        obtain ⟨rfl, -⟩ := List.cons.inj hafter
        apply getLast?_of_quoteChar_eq hc

/-- A text without quotation marks, or one that ends in a quoted text. -/
inductive Worded : String → Prop
  | plain {s : String} (h : Unquoted s) : Worded s
  | quoting {s : String} (h : Unquoted s) (t : String) : Worded (s ++ " " ++ quote t)

theorem Worded.prepend {s t : String} (hs : Unquoted s) (ht : Worded t) :
  Worded (s ++ t)
  := by
  cases ht with
  | plain ht => exact .plain (hs.append ht)
  | quoting ht u =>
    rw [← String.append_assoc, ← String.append_assoc]
    exact .quoting (hs.append ht) u

/-- A worded text does not stand at the end of a quoted one behind a single quotation mark: it would
hold the last mark, and so end in a quoted text itself, whose first mark has no backslash in front
of it. -/
theorem Worded.quoteBody_ne {t : String} (ht : Worded t) (cs before : List Char) :
  quoteBody cs ++ ['"'] ≠ before ++ '\'' :: t.toList
  := by
  intro h
  cases ht with
  | plain ht =>
    have hlast := congrArg List.getLast? h
    rw [List.getLast?_concat, List.getLast?_append_of_ne_nil _ (List.cons_ne_nil _ _)] at hlast
    rcases List.mem_cons.1 (List.mem_of_getLast? hlast.symm) with hmark | hmark
    · cases hmark
    · apply ht.double hmark
  | @quoting t ht v =>
    have hinside : quoteBody cs ++ ['"']
        = (before ++ '\'' :: t.toList ++ [' ']) ++ '"' :: quoteBody v.toList ++ ['"'] := by
      rw [h, String.toList_append, String.toList_append, toList_quote]
      simp
    have hlast := getLast?_of_quoteBody_eq (List.append_cancel_right hinside)
    rw [List.getLast?_concat] at hlast
    cases hlast

/-- A worded text does not stand in another one behind a single quotation mark, which would be
inside of the quoted text at the end. -/
theorem Worded.ne_append {s t : String} (hs : Worded s) (ht : Worded t) (before : List Char) :
  s.toList ≠ before ++ '\'' :: t.toList
  := by
  intro h
  cases hs with
  | plain hs =>
    apply hs.single
    rw [h]
    simp
  | @quoting s hs u =>
    have hblank : Unquoted (s ++ " ") := hs.append (by decide)
    rw [String.toList_append, toList_quote] at h
    rcases List.append_eq_append_iff.1 h with ⟨more, rfl, hmore⟩ | ⟨more, hbefore, hmore⟩
    · cases more with
      | nil => cases (List.cons.inj hmore).1
      | cons c more => apply ht.quoteBody_ne u.toList more (List.cons.inj hmore).2
    · cases more with
      | nil => cases (List.cons.inj hmore).1
      | cons c more =>
        obtain ⟨rfl, -⟩ := List.cons.inj hmore
        apply hblank.single
        rw [hbefore]
        simp

end Text

/-! ### The wording of errors -/

/-- What a parameter has instead is told in a wording. -/
theorem Params.Value.worded_message (v : Params.Value) :
  Text.Worded v.message
  := by
  cases v with
  | bool b => cases b <;> exact .plain (by decide)
  | int n =>
    apply Text.Worded.plain
    apply Text.Unquoted.append (by decide)
    apply Text.unquoted_of_isNumeric
    exact fun c hc => .inl (isNumeric_toString _ c hc)
  | float x =>
    apply Text.Worded.plain
    apply Text.Unquoted.append (by decide)
    apply Text.unquoted_of_isNumeric
    exact fun _ => mem_message
  | text s => exact .quoting (s := "text") (by decide) s

/-- An error that parameters can have is told in a wording. -/
theorem Controller.Config.worded_of_ofParams {p : Params} {e : Error} (h : ofParams p = .error e) :
  Text.Worded e.message
  := by
  obtain ⟨before, o, after, hoptions, -, hfaulty⟩ :=
    ((yields_ofParams p).eq_error_iff (Faulty.unique p)).1 h
  have hkeys : ∀ o ∈ options, Text.Unquoted o.key ∧ Text.Unquoted o.kind.name := by decide
  have ho : o ∈ options := by simp [hoptions]
  cases hfaulty with
  | absent _ => exact .plain (by decide)
  | empty _ => exact .plain (by decide)
  | unreadable hunreadable =>
    obtain ⟨v, -, -, rfl⟩ := hunreadable
    obtain ⟨hkey, hkind⟩ := hkeys o ho
    have hinvalid : Text.Unquoted "Invalid parameter " := by decide
    have hexpected : Text.Unquoted ": expected " := by decide
    have hfound : Text.Unquoted ", found " := by decide
    apply Text.Worded.prepend _ v.worded_message
    apply (((hinvalid.append hkey).append hexpected).append hkind).append hfound

namespace World

/-! ### The texts of findings -/

/-- A number and what stands behind a colon are told by their text. -/
theorem place_eq {place place' : Nat} {s t : String}
    (h : toString place ++ ": " ++ s = toString place' ++ ": " ++ t) :
  place = place' ∧ s = t
  := by
  have hchars : ∀ (n : Nat) (s : String), (toString n ++ ": " ++ s).toList
      = Nat.toDigits 10 n ++ ':' :: ' ' :: s.toList := by
    intro n s
    rw [String.toList_append, String.toList_append, Nat.toString_eq_ofList_toDigits,
      String.toList_ofList, List.append_assoc]
    rfl
  have hcolon : ∀ s : String, ∀ c ∈ (':' :: ' ' :: s.toList).head?, c.isDigit = false := by
    simp [Char.isDigit]
  have hspan := fun n s => Decimal.span_isDigit (Decimal.all_toDigits n) (hcolon s)
  have h := congrArg String.toList h
  rw [hchars, hchars] at h
  constructor
  · have hdigits := congrArg (List.takeWhile Char.isDigit) h
    rw [(hspan _ _).1, (hspan _ _).1] at hdigits
    rw [← Decimal.natOfDigits_toDigits place, hdigits, Decimal.natOfDigits_toDigits]
  · have hrest := congrArg (List.dropWhile Char.isDigit) h
    rw [(hspan _ _).2, (hspan _ _).2] at hrest
    apply String.toList_inj.1 (List.cons.inj (List.cons.inj hrest).2).2

/-- The word between a name and a place does not overlap with itself, and does not stand in the
wording of an error. -/
theorem not_shifts_of_worded {model model' s t : String} (hs : Text.Worded s) (ht : Text.Worded t) :
  ¬ Text.Shifts "' plugin #" model s model' t
  := by
  rw [Text.shifts_iff (by decide)]
  rintro (⟨x, -, rfl⟩ | ⟨u, v, x, hu, hx, hux, hxv, -⟩)
  · have hword : Text.Worded (" plugin #" ++ t) := ht.prepend (by decide)
    apply hs.ne_append hword x.toList
    rw [String.append_assoc, String.toList_append, String.toList_append, String.toList_append]
    rfl
  · obtain ⟨c, us, hu⟩ := List.exists_cons_of_ne_nil (mt String.toList_eq_nil_iff.1 hu)
    obtain ⟨d, xs, hx⟩ := List.exists_cons_of_ne_nil (mt String.toList_eq_nil_iff.1 hx)
    have hux := congrArg String.toList hux
    have hxv := congrArg String.toList hxv
    rw [String.toList_append, hu, hx] at hux
    rw [String.toList_append, hx] at hxv
    obtain ⟨rfl, -⟩ := List.cons.inj hxv
    have hrest : " plugin #".toList = us ++ '\'' :: xs := (List.cons.inj hux).2
    have hmark : '\'' ∈ " plugin #".toList := by
      rw [hrest]
      simp
    revert hmark
    decide

/-- The text about a disabled plugin tells its model, its place and the wording of the error. -/
theorem Finding.message_disabled_inj {model model' : String} {place place' : Nat}
    {e e' : Controller.Error} (he : Text.Worded e.message) (he' : Text.Worded e'.message)
    (h : (disabled model place e).message = (disabled model' place' e').message) :
  model = model' ∧ place = place' ∧ e.message = e'.message
  := by
  have hnumber : ∀ n : Nat, Text.Unquoted (toString n ++ ": ") := by
    intro n
    have hdigits : Text.Unquoted (toString n) := by
      apply Text.unquoted_of_isNumeric
      exact fun c hc => .inl (isNumeric_toString n c hc)
    apply hdigits.append (by decide)
  have hparts : ∀ (m : String) (n : Nat) (e : Controller.Error), (disabled m n e).message
      = "model '" ++ (m ++ "' plugin #" ++ (toString n ++ ": " ++ e.message))
        ++ "; controller will be disabled" := by
    intro m n e
    simp only [message, String.append_assoc]
  rw [hparts, hparts, String.append_left_inj, String.append_right_inj, Text.joined_eq_iff] at h
  rcases h with ⟨hmodel, hrest⟩ | hshifts | hshifts
  · use hmodel
    apply place_eq hrest
  · apply absurd hshifts
    apply not_shifts_of_worded (he.prepend (hnumber place)) (he'.prepend (hnumber place'))
  · apply absurd hshifts
    apply not_shifts_of_worded (he'.prepend (hnumber place')) (he.prepend (hnumber place))

/-- The text about a disabled plugin is none about a parameter. -/
theorem Finding.message_disabled_ne (model model' key : String) (place place' : Nat)
    (e : Controller.Error) :
  (disabled model place e).message ≠ (unrecognized model' place' key).message
  := by
  -- The two texts differ in the last character.
  have hword : "; controller will be disabled" = "; controller will be disable" ++ "d" := rfl
  have hletter : "d".toList = ['d'] := rfl
  have hmark : "'".toList = ['\''] := rfl
  intro h
  have hlast := congrArg (fun s => s.toList.getLast?) h
  rw [message, message, hword, ← String.append_assoc] at hlast
  simp only [String.toList_append] at hlast
  rw [hletter, hmark, List.getLast?_concat, List.getLast?_concat] at hlast
  cases hlast

/-- About a valid world the text is given that a slot is disabled for an error exactly if its
parameters have an error of that wording. -/
theorem Valid.message_mem_findings_iff {w : World} (hw : w.Valid) {x : Slot} (hx : x ∈ w.slots)
    {e : Controller.Error} (he : Text.Worded e.message) :
  (Finding.disabled x.model.name x.place e).message ∈ w.findings.map Finding.message
    ↔ ∃ e', Controller.Config.ofParams x.plugin.params = .error e' ∧ e'.message = e.message
  := by
  rw [List.mem_map]
  constructor
  · rintro ⟨f, hf, hmessage⟩
    rw [findings_eq, List.mem_flatMap] at hf
    obtain ⟨y, hy, hf⟩ := hf
    cases f with
    | unrecognized model place key => cases Finding.message_disabled_ne _ _ _ _ _ _ hmessage.symm
    | disabled model place e' =>
      obtain ⟨rfl, rfl, herror⟩ := Slot.disabled_mem_findings_iff.1 hf
      have hworded := Controller.Config.worded_of_ofParams herror
      obtain ⟨hmodel, hplace, hwording⟩ := Finding.message_disabled_inj hworded he hmessage
      rw [← hw.slot_eq hy hx hmodel hplace]
      use e', herror, hwording
  · rintro ⟨e', herror, hwording⟩
    use .disabled x.model.name x.place e', (hw.disabled_mem_findings_iff hx).2 herror
    rw [Finding.message, Finding.message, hwording]

end World

end Servo
