import Servo.Proofs.Decimal.Layout
import Servo.Proofs.Decimal.Reading
import Servo.Proofs.Document.Embedding
import Servo.Yaml.Writer

/-!
# Readings of written scalars

Every scalar is read as what it was before it was written, `carries_written` and
`keeps_written`.  A text is written without quotes only if it would be read as a text;
integers, truth values and numbers are written without quotes, and never look like each
other.
-/

namespace Servo.Yaml

open Document (Dialect)

/-- The scalar of a document for a scalar that is written. -/
def written : Document.Scalar → Scalar
  | .text s => .content (Written.style s) none s
  | a => .content .plain none (Written.plainText a)

/-- The lists, maps and scalars of a tree are found in its text as they were written. -/
def Scans (t : Document.Tree Document.Scalar) : Prop :=
  (Graph.ofChars? (write t).toList).map Graph.root = some (t.relabel written)

instance (t : Document.Tree Document.Scalar) : Decidable (Scans t) :=
  inferInstanceAs (Decidable (_ = _))

namespace Reading

/-! ### Texts -/

/-- A plain text that is read as a text is read as itself. -/
theorem eq_of_plainValue? {s t : String} (h : plainValue? s = some (.text t)) :
  t = s
  := by
  unfold plainValue? at h
  split at h
  · cases h
  split at h
  · cases h
  split at h
  · unfold intValue? at h
    split at h
    · cases h
    · split at h <;> cases h
  split at h
  · cases h
  · cases h
    rfl

/-- A text that is written without quotes is read as itself. -/
theorem plainValue?_of_style {s : String} (h : Written.style s = .plain) :
  plainValue? s = some (.text s)
  := by
  have hplain : Written.isUnambiguous s = true := by
    unfold Written.style at h
    simp only at h
    split at h
    · split at h <;> cases h
    · split at h
      next hunambiguous => exact (Bool.and_eq_true_iff.1 hunambiguous).1
      · split at h <;> cases h
  have hvalue := (Bool.and_eq_true_iff.1 hplain).2
  split at hvalue
  next t ht => rw [ht, eq_of_plainValue? ht]
  · cases hvalue

/-! ### Integers -/

/-- The number with one digit more, if the character is a digit in base ten. -/
def appendDigit? (n : Nat) (c : Char) : Option Nat := do
  let d ← Quoted.hexValue? c
  if d < 10 then return 10 * n + d else none

theorem appendDigit?_digit {c : Char} (hc : c.isDigit = true) (n : Nat) :
  appendDigit? n c = some (10 * n + Decimal.digitValue c)
  := by
  have hvalue : c.toNat - '0'.toNat < 10 := by
    have hrange := Char.isDigit_iff_toNat.1 hc
    have hzero : '0'.toNat = 48 := rfl
    have hnine : '9'.toNat = 57 := rfl
    omega
  rw [appendDigit?, Quoted.hexValue?, if_pos hc]
  simp only [Option.bind_eq_bind, Option.bind_some, if_pos hvalue]
  rfl

theorem appendDigit?_mark {c : Char} (hc : c = '.' ∨ c = 'e') (n : Nat) :
  appendDigit? n c = none
  := by
  rcases hc with rfl | rfl <;> rfl

theorem natural?_ten {ds : List Char} (hds : ds ≠ []) :
  natural? 10 ds = ds.foldlM appendDigit? 0
  := by
  rw [natural?, if_neg (by simpa using hds)]
  rfl

/-- Digits are read as the number that they make. -/
theorem natural?_toDigits (n : Nat) :
  natural? 10 (Nat.toDigits 10 n) = some n
  := by
  have hdigits (ds : List Char) (hds : ∀ c ∈ ds, c.isDigit = true) (m : Nat) :
      ds.foldlM appendDigit? m = some (ds.foldl (fun n c => 10 * n + Decimal.digitValue c) m) := by
    induction ds generalizing m with
    | nil => rfl
    | cons c ds ih =>
      obtain ⟨hc, hrest⟩ := List.forall_mem_cons.1 hds
      rw [List.foldlM_cons, appendDigit?_digit hc, List.foldl_cons]
      apply ih hrest
  rw [natural?_ten Nat.toDigits_ne_nil, hdigits _ (Decimal.all_toDigits n),
    ← Decimal.natOfDigits, Decimal.natOfDigits_toDigits]

/-- A point and the mark of an exponent are no digits. -/
theorem natural?_of_mark {ds : List Char} (h : ∃ c ∈ ds, c = '.' ∨ c = 'e') :
  natural? 10 ds = none
  := by
  obtain ⟨c, hmem, hc⟩ := h
  have hfold (m : Nat) : ds.foldlM appendDigit? m = none := by
    induction ds generalizing m with
    | nil => cases hmem
    | cons d ds ih =>
      rw [List.foldlM_cons]
      rcases List.mem_cons.1 hmem with rfl | hmem
      · rw [appendDigit?_mark hc]
        rfl
      · cases appendDigit? m d with
        | none => rfl
        | some n => apply ih hmem
  rw [natural?_ten (List.ne_nil_of_mem hmem), hfold]

/-- What may stand in a number has no mark of another base. -/
theorem marked?_eq_none {cs : List Char} (h : ∀ c ∈ cs, IsNumeric c) :
  marked? cs = none
  := by
  have hne (c : Char) (hc : ¬ IsNumeric c) (ds es : List Char) : cs ≠ ds ++ c :: es := by
    rintro rfl
    apply hc (h c (by simp))
  unfold marked?
  split
  · cases hne 'x' (by simp [IsNumeric]) ['0'] _ rfl
  · cases hne 'o' (by simp [IsNumeric]) ['0'] _ rfl
  · cases hne 'b' (by simp [IsNumeric]) ['0'] _ rfl
  · rfl

/-- A written integer has no zero in front that is not needed. -/
theorem isPadded_toString (n : Int) :
  isPadded (toString n) = false
  := by
  rw [isPadded, Decimal.splitSign_toString]
  simp only [Bool.and_eq_false_iff, decide_eq_false_iff_not, beq_eq_false_iff_ne]
  left
  by_cases hhead : (Nat.toDigits 10 n.natAbs).head? = some '0'
  · left
    rw [Decimal.length_toDigits_of_head? hhead]
    omega
  · right
    exact hhead

/-- A written integer is read as that integer. -/
theorem int?_toString (n : Int) :
  int? (toString n) = some n
  := by
  rw [int?, Decimal.splitSign_toString]
  simp only [marked?_eq_none (isNumeric_toDigits _), isPadded_toString, natural?_toDigits,
    Bool.false_eq_true, if_false, Option.none_or, Option.bind_eq_bind, Option.bind_some,
    Option.pure_def]
  rw [Option.map_some]
  by_cases hn : n < 0
  · rw [decide_eq_true hn, if_pos rfl]
    congr
    omega
  · rw [decide_eq_false hn, if_neg Bool.false_ne_true]
    congr
    omega

/-- The empty text and the words for null and truth values are no integers and no numbers. -/
theorem int?_word :
  ∀ s ∈ ["", "null", "Null", "NULL", "~", "true", "True", "TRUE", "false", "False", "FALSE"],
    int? s = none ∧ float? s = none
  := by
  decide +kernel

/-- A text that is an integer or a number is not empty, not null and no truth value. -/
theorem not_word {s : String} (h : int? s ≠ none ∨ float? s ≠ none) :
  ¬ (s = "" ∨ isNull s) ∧ bool? s = none
  := by
  have hword : s ∉ ["", "null", "Null", "NULL", "~", "true", "True", "TRUE", "false", "False",
      "FALSE"] := by
    intro hs
    obtain ⟨hint, hfloat⟩ := int?_word s hs
    rcases h with h | h
    · apply h hint
    · apply h hfloat
  constructor
  · rw [isNull]
    simp_all
  · rw [bool?, if_neg, if_neg] <;> simp_all

theorem plainValue?_of_int {s : String} {n : Int} (hint : int? s ≠ none)
    (hwide : wideInt? s = some n) :
  plainValue? s = intValue? n
  := by
  unfold plainValue?
  rw [if_neg (not_word (.inl hint)).1]
  simp only [(not_word (.inl hint)).2, hwide]

/-- A text that is a number and no integer is read as that number. -/
theorem plainValue?_of_float {s : String} {x : Float} (hwide : wideInt? s = none)
    (hpadded : isPadded s = false) (hfloat : float? s = some x) :
  plainValue? s = some (.float x)
  := by
  have hne : float? s ≠ none := by
    rw [hfloat]
    exact nofun
  unfold plainValue?
  rw [if_neg (not_word (.inr hne)).1]
  simp only [(not_word (.inr hne)).2, hwide, hpadded, hfloat, Bool.false_eq_true, if_false]

/-- A written integer of 64 bits is read as that value of a parameter. -/
theorem plainValue?_toString (n : Int64) :
  plainValue? (toString n.toInt) = some (.int n)
  := by
  have hint := int?_toString n.toInt
  have hmin := n.minValue_le_toInt
  have hmax := n.toInt_le
  have hwide : wideInt? (toString n.toInt) = some n.toInt := by
    rw [wideInt?, hint, Option.filter_some, if_pos]
    rw [Int64.toInt_minValue] at hmin
    rw [Int64.toInt_maxValue] at hmax
    simp
    omega
  have hne : int? (toString n.toInt) ≠ none := by
    rw [hint]
    exact nofun
  rw [plainValue?_of_int hne hwide, intValue?, if_pos ⟨hmin, hmax⟩, Int64.ofInt_toInt]

/-- A written natural number of 32 bits is read as that number. -/
theorem word?_toString (n : UInt32) :
  word? (toString (n.toNat : Int)) = some n.toNat
  := by
  have hn := n.toNat_lt
  have hsign : (toString (n.toNat : Int)).toList.head? ≠ some '-' := by
    intro hhead
    have hdigits := Decimal.toList_toString n.toNat
    rw [if_neg (by omega), List.nil_append] at hdigits
    rw [hdigits] at hhead
    cases Decimal.isDigit_of_mem_toDigits (List.mem_of_head? hhead)
  have hsize : (n.toNat : Int) < UInt64.size := by
    rw [UInt64.size]
    omega
  rw [word?, int?_toString, Option.bind_some, if_pos ⟨hsign, hsize⟩]
  rfl

/-! ### Numbers -/

/-- A text that looks like a number is no integer. -/
theorem int?_of_fractional {s : String} (h : Fractional s.toList) :
  int? s = none ∧ isPadded s = false
  := by
  have hunsigned : Fractional (Decimal.splitSign s.toList).2 := by
    obtain ⟨⟨c, hmem, hc⟩, hnumeric⟩ := h
    unfold Decimal.splitSign
    split
    next rest heq =>
      rw [heq] at hmem hnumeric
      constructor
      case marked =>
        rcases List.mem_cons.1 hmem with rfl | hmem
        · cases hc <;> contradiction
        · exact ⟨c, hmem, hc⟩
      case numeric => exact (List.forall_mem_cons.1 hnumeric).2
    next rest heq =>
      rw [heq] at hnumeric
      have hplus := hnumeric '+' List.mem_cons_self
      simp [IsNumeric] at hplus
    next => exact ⟨⟨c, hmem, hc⟩, hnumeric⟩
  have hpadded : isPadded s = false := by
    obtain ⟨c, hmem, hc⟩ := hunsigned.marked
    rw [isPadded]
    simp only [Bool.and_eq_false_iff]
    right
    rw [List.all_eq_false]
    refine ⟨c, hmem, ?_⟩
    rcases hc with rfl | rfl <;> decide
  refine ⟨?_, hpadded⟩
  rw [int?]
  simp only [marked?_eq_none hunsigned.numeric, hpadded, Bool.false_eq_true, if_false,
    natural?_of_mark hunsigned.marked, Option.none_or, Option.bind_eq_bind, Option.bind_none,
    Option.map_none]

/-- What is read as a number without a sign of its own is none of the words for other numbers. -/
theorem readFloat?_word :
  ∀ s ∈ [".inf", ".Inf", ".INF", "-.inf", "-.Inf", "-.INF", ".nan", ".NaN", ".NAN"],
    Decimal.readFloat? s = none
  := by
  decide +kernel

/-- Every number is read as it is written. -/
theorem float?_write (x : Float) :
  float? (Layout.yaml.write x) = some x
  := by
  by_cases hx : x.isFinite = true
  · have hread := Decimal.readFloat?_write .yaml hx
    have hnumeric := (Layout.fractional_write (l := .yaml) rfl rfl hx).numeric
    generalize Layout.yaml.write x = s at hread hnumeric
    have hword : s ∉ [".inf", ".Inf", ".INF", "-.inf", "-.Inf", "-.INF", ".nan", ".NaN",
        ".NAN"] := by
      intro hs
      rw [readFloat?_word s hs] at hread
      cases hread
    have hplus (cs : List Char) : s.toList ≠ '+' :: cs := by
      intro hcs
      rw [hcs] at hnumeric
      have hplus := hnumeric '+' List.mem_cons_self
      simp [IsNumeric] at hplus
    unfold float?
    split
    next heq => exact absurd heq (hplus _)
    next heq => exact absurd heq (hplus _)
    next heq => exact absurd heq (hplus _)
    next =>
      simp only [List.mem_cons, List.not_mem_nil, or_false, not_or] at hword
      simp [hword, hread, hx]
  · rcases eq_of_not_isFinite hx with rfl | rfl | rfl <;> decide +kernel

/-- A written number is read as that value of a parameter. -/
theorem plainValue?_write (x : Float) :
  plainValue? (Layout.yaml.write x) = some (.float x)
  := by
  have hint : wideInt? (Layout.yaml.write x) = none ∧ isPadded (Layout.yaml.write x) = false := by
    by_cases hfinite : x.isFinite = true
    · obtain ⟨hint, hpadded⟩ :=
        int?_of_fractional (Layout.fractional_write (l := .yaml) rfl rfl hfinite)
      rw [wideInt?, hint]
      exact ⟨rfl, hpadded⟩
    · rcases eq_of_not_isFinite hfinite with rfl | rfl | rfl <;> decide +kernel
  apply plainValue?_of_float hint.1 hint.2 (float?_write x)

end Reading

/-! ### Scalars -/

open Reading

/-- The dialect of a document reads written texts, integers and truth values as what they
were. -/
theorem carries_written (g : Graph) :
  g.dialect.Carries written
  := by
  constructor
  case target => intro a; cases a <;> rfl
  case text => intro s; rfl
  case word => intro s; rfl
  case natural =>
    intro n
    apply word?_toString
  case bool =>
    have hbool : ∀ b, plainValue? (Written.plainText (.bool b)) = some (.bool b) := by
      decide +kernel
    exact hbool
  case int =>
    intro n
    apply plainValue?_toString
  case string =>
    intro s
    have hvalue : (if Written.style s = .plain then plainValue? s else some (.text s))
        = some (.text s) := by
      split
      next hstyle => apply plainValue?_of_style hstyle
      next => rfl
    exact hvalue

/-- Every number is kept. -/
theorem keeps_written (g : Graph) (x : Float) :
  g.dialect.Keeps written x
  := by
  constructor
  case float => exact float?_write x
  case value => exact plainValue?_write x
  case present =>
    have hword := (not_word (.inr (by rw [float?_write x]; exact nofun))).1
    have habsent : some (decide (Layout.yaml.write x = "" ∨ isNull (Layout.yaml.write x)))
        = some false := by
      rw [decide_eq_false hword]
    exact habsent

end Servo.Yaml
