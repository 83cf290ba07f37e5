import Servo.Decimal.Layout
import Servo.Proofs.Decimal.Digits
import Servo.Proofs.Decimal.Shortest

/-!
# Reading written numbers

`readFloat?_write`: in every layout a finite number is read as it was written, whether there
is an exponent or not, and wherever the point is.
-/

namespace Servo.Decimal

/-! ### Digits -/

/-- Zeros behind digits are powers of ten. -/
theorem natOfDigits_zeros (ds : List Char) (k : Nat) :
  natOfDigits (ds ++ List.replicate k '0') = natOfDigits ds * 10 ^ k
  := by
  induction k with
  | zero => rw [List.replicate_zero, List.append_nil, Nat.pow_zero, Nat.mul_one]
  | succ k ih =>
    have hzero : digitValue '0' = 0 := rfl
    rw [List.replicate_succ', ← List.append_assoc, natOfDigits, List.foldl_append,
      ← natOfDigits, ih, List.foldl_cons, List.foldl_nil, hzero, Nat.pow_succ]
    ring

/-- Zeros in front of digits do not count. -/
theorem zeros_natOfDigits (k : Nat) (ds : List Char) :
  natOfDigits (List.replicate k '0' ++ ds) = natOfDigits ds
  := by
  induction k with
  | zero => rfl
  | succ k ih => exact ih

/-! ### Decimals -/

/-- The text is that of an exponent with its mark, or it is empty. -/
inductive IsExponent : List Char → ℤ → Prop where
  | none : IsExponent [] 0
  | marked {cs : List Char} {e : ℤ} : exponentOfChars? cs = some e → IsExponent ('e' :: cs) e

/-- The digits in front are those up to what is no digit. -/
theorem span_isDigit {ds cs : List Char} (hds : ∀ c ∈ ds, c.isDigit = true)
    (hcs : ∀ c ∈ cs.head?, c.isDigit = false) :
  (ds ++ cs).takeWhile Char.isDigit = ds ∧ (ds ++ cs).dropWhile Char.isDigit = cs
  := by
  rw [List.takeWhile_append_of_pos hds, List.dropWhile_append_of_pos hds]
  cases cs with
  | nil => exact ⟨List.append_nil ds, rfl⟩
  | cons c cs =>
    have hc : ¬ c.isDigit = true := by
      rw [hcs c rfl]
      exact Bool.false_ne_true
    rw [List.takeWhile_cons_of_neg hc, List.dropWhile_cons_of_neg hc, List.append_nil]
    exact ⟨rfl, rfl⟩

/-- An exponent does not start with a digit. -/
theorem IsExponent.head {cs : List Char} {e : ℤ} (h : IsExponent cs e) :
  ∀ c ∈ cs.head?, c.isDigit = false
  := by
  cases h with
  | none => exact nofun
  | marked =>
    intro c hc
    cases hc
    rfl

/-- Digits with an exponent are read. -/
theorem ofChars?_whole {whole tail : List Char} {e : ℤ} (hne : whole ≠ [])
    (hwhole : ∀ c ∈ whole, c.isDigit = true) (htail : IsExponent tail e) :
  ofChars? (whole ++ tail) = some ⟨natOfDigits whole, e⟩
  := by
  obtain ⟨htake, hdrop⟩ := span_isDigit hwhole htail.head
  have hempty : whole.isEmpty = false := by
    cases whole with
    | nil => exact absurd rfl hne
    | cons => rfl
  unfold ofChars?
  simp only [htake, hdrop]
  cases htail with
  | none => simp [hempty]
  | marked hexponent => simp [hempty, hexponent]

/-- Digits with a point among them and an exponent are read. -/
theorem ofChars?_point {whole places tail : List Char} {e : ℤ} (hne : whole ≠ [])
    (hwhole : ∀ c ∈ whole, c.isDigit = true) (hplaces : ∀ c ∈ places, c.isDigit = true)
    (htail : IsExponent tail e) :
  ofChars? (whole ++ '.' :: (places ++ tail))
    = some ⟨natOfDigits (whole ++ places), e - places.length⟩
  := by
  have hpoint : ∀ c ∈ ('.' :: (places ++ tail)).head?, c.isDigit = false := by
    intro c hc
    cases hc
    rfl
  obtain ⟨htake, hdrop⟩ := span_isDigit hwhole hpoint
  obtain ⟨htake', hdrop'⟩ := span_isDigit hplaces htail.head
  have hempty : (whole ++ places).isEmpty = false := by
    cases whole with
    | nil => exact absurd rfl hne
    | cons => rfl
  unfold ofChars?
  simp only [htake, hdrop, htake', hdrop', hempty]
  cases htail with
  | none => rfl
  | marked hexponent => simp [hexponent]

/-- A written exponent is read. -/
theorem isExponent_write (plusSign : Bool) (e : ℤ) :
  IsExponent ('e' :: ((if e < 0 then "-" else if plusSign then "+" else "").toList
    ++ (toString e.natAbs).toList)) e
  := by
  apply IsExponent.marked
  have hdigits : (toString e.natAbs).toList = Nat.toDigits 10 e.natAbs := by
    rw [Nat.toString_eq_ofList_toDigits, String.toList_ofList]
  have hall : (Nat.toDigits 10 e.natAbs).all Char.isDigit = true :=
    List.all_eq_true.2 (all_toDigits e.natAbs)
  have hnonempty : (Nat.toDigits 10 e.natAbs).isEmpty = false := by
    rw [List.isEmpty_eq_false_iff]
    apply Nat.toDigits_ne_nil
  have hsplit : splitSign ((if e < 0 then "-" else if plusSign then "+" else "").toList
      ++ Nat.toDigits 10 e.natAbs) = (decide (e < 0), Nat.toDigits 10 e.natAbs) := by
    by_cases he : e < 0
    · rw [if_pos he, decide_eq_true he]
      rfl
    · rw [if_neg he, decide_eq_false he]
      cases plusSign with
      | true => rfl
      | false =>
        cases hcs : Nat.toDigits 10 e.natAbs with
        | nil => rfl
        | cons c cs =>
          apply splitSign_of_isDigit
          apply all_toDigits e.natAbs
          rw [hcs]
          apply List.mem_cons_self
  rw [hdigits, exponentOfChars?, hsplit]
  simp only [hall, hnonempty, natOfDigits_toDigits, Bool.false_eq_true, not_true_eq_false, or_false,
    if_false]
  by_cases he : e < 0
  · have hneg : -(e.natAbs : ℤ) = e := by omega
    rw [decide_eq_true he, if_pos rfl, hneg]
  · have hpos : (e.natAbs : ℤ) = e := by omega
    rw [decide_eq_false he, if_neg Bool.false_ne_true, hpos]

/-! ### Layouts -/

/-- The text starts with a digit, and it is read as a decimal of the same value. -/
structure Reads (cs : List Char) (d : Decimal) : Prop where
  head : ∃ c rest, cs = c :: rest ∧ c.isDigit = true
  read : ∃ d', ofChars? cs = some d' ∧ d'.value = d.value

theorem head_of_isDigit {whole : List Char} (hne : whole ≠ [])
    (hwhole : ∀ c ∈ whole, c.isDigit = true) (tail : List Char) :
  ∃ c rest, whole ++ tail = c :: rest ∧ c.isDigit = true
  := by
  cases whole with
  | nil => exact absurd rfl hne
  | cons c whole => exact ⟨c, whole ++ tail, rfl, hwhole c List.mem_cons_self⟩

theorem Reads.of_whole {whole tail : List Char} {e : ℤ} {d : Decimal} (hne : whole ≠ [])
    (hwhole : ∀ c ∈ whole, c.isDigit = true) (htail : IsExponent tail e)
    (hvalue : Decimal.value ⟨natOfDigits whole, e⟩ = d.value) :
  Reads (whole ++ tail) d
  := ⟨head_of_isDigit hne hwhole tail, _, ofChars?_whole hne hwhole htail, hvalue⟩

/-- Digits with a point among them are read as a decimal of their value. -/
theorem Reads.of_point {whole places tail : List Char} {e : ℤ} {d : Decimal} (hne : whole ≠ [])
    (hwhole : ∀ c ∈ whole, c.isDigit = true) (hplaces : ∀ c ∈ places, c.isDigit = true)
    (htail : IsExponent tail e)
    (hvalue : Decimal.value ⟨natOfDigits (whole ++ places), e - places.length⟩ = d.value) :
  Reads (whole ++ '.' :: (places ++ tail)) d
  := ⟨head_of_isDigit hne hwhole _, _, ofChars?_point hne hwhole hplaces htail, hvalue⟩

/-- A whole number is read, with or without a zero behind a point. -/
theorem reads_writePlain_nonneg (l : Layout) (n k : Nat) :
  Reads (l.writePlain ⟨n, k⟩).toList ⟨n, k⟩
  := by
  have hzeros : ∀ c ∈ Nat.toDigits 10 n ++ List.replicate k '0', c.isDigit = true :=
    List.forall_mem_append.2 ⟨all_toDigits n, all_zeros k⟩
  have hne : Nat.toDigits 10 n ++ List.replicate k '0' ≠ [] :=
    List.append_ne_nil_of_left_ne_nil Nat.toDigits_ne_nil _
  unfold Layout.writePlain
  simp only [Int.natCast_nonneg, if_true, Int.natAbs_natCast]
  rw [String.toList_append, String.toList_ofList]
  cases l.pointZero with
  | false =>
    apply Reads.of_whole hne hzeros .none
    rw [natOfDigits_zeros, natOfDigits_toDigits, value, value, zpow_zero, zpow_natCast]
    push_cast
    ring
  | true =>
    have hzero : ∀ c ∈ ['0'], c.isDigit = true := all_zeros 1
    apply Reads.of_point hne hzeros hzero .none
    rw [List.append_assoc, ← List.replicate_succ', natOfDigits_zeros, natOfDigits_toDigits,
      value, value, zpow_natCast, List.length_singleton, Nat.cast_one, zero_sub, zpow_neg_one,
      pow_succ]
    push_cast
    field_simp

/-- A number with places behind the point is read. -/
theorem reads_writePlain_neg (l : Layout) (n : Nat) {k : Nat} (hk : 0 < k) :
  Reads (l.writePlain ⟨n, -k⟩).toList ⟨n, -k⟩
  := by
  have hall := all_toDigits n
  unfold Layout.writePlain
  have hneg : ¬ (0 : ℤ) ≤ -k := by omega
  simp only [hneg, if_false, Int.natAbs_neg, Int.natAbs_natCast]
  split
  next hlt =>
    obtain ⟨i, hi⟩ : ∃ i, i = (Nat.toDigits 10 n).length - k := ⟨_, rfl⟩
    have htake : (Nat.toDigits 10 n).take i ≠ [] := by
      intro hnil
      rcases List.take_eq_nil_iff.1 hnil with hzero | hnil
      · omega
      · exact Nat.toDigits_ne_nil hnil
    rw [String.toList_ofList, ← hi, ← List.append_nil ((Nat.toDigits 10 n).drop i)]
    apply Reads.of_point htake (fun c hc => hall c (List.mem_of_mem_take hc))
      (fun c hc => hall c (List.mem_of_mem_drop hc)) .none
    rw [List.take_append_drop, natOfDigits_toDigits, List.length_drop]
    congr 2
    omega
  next hge =>
    obtain ⟨i, hi⟩ : ∃ i, i = k - (Nat.toDigits 10 n).length := ⟨_, rfl⟩
    have hzero : ("0." ++ String.ofList (List.replicate i '0' ++ Nat.toDigits 10 n)).toList
        = ['0'] ++ '.' :: (List.replicate i '0' ++ Nat.toDigits 10 n ++ []) := by
      have hplaces : (String.ofList (List.replicate i '0' ++ Nat.toDigits 10 n)).toList
          = List.replicate i '0' ++ Nat.toDigits 10 n := String.toList_ofList
      rw [String.toList_append, hplaces, List.append_nil]
      rfl
    have hone : ∀ c ∈ ['0'], c.isDigit = true := all_zeros 1
    rw [← hi, hzero]
    apply Reads.of_point (List.cons_ne_nil _ _) hone
      (List.forall_mem_append.2 ⟨all_zeros i, hall⟩) .none
    rw [← List.append_assoc, List.singleton_append, ← List.replicate_succ, zeros_natOfDigits,
      natOfDigits_toDigits, List.length_append, List.length_replicate]
    congr 2
    omega

/-- A decimal without an exponent is read. -/
theorem reads_writePlain (l : Layout) (d : Decimal) :
  Reads (l.writePlain d).toList d
  := by
  obtain ⟨n, e⟩ := d
  rcases Int.lt_or_le e 0 with hneg | hpos
  · obtain ⟨k, rfl⟩ : ∃ k : Nat, e = -k := ⟨e.natAbs, by omega⟩
    apply reads_writePlain_neg
    omega
  · obtain ⟨k, rfl⟩ := Int.eq_ofNat_of_zero_le hpos
    apply reads_writePlain_nonneg

/-- A decimal with an exponent is read. -/
theorem reads_writeScientific (l : Layout) (d : Decimal) :
  Reads (l.writeScientific d (d.exponent + digitCount d.digits - 1)).toList d
  := by
  obtain ⟨n, e⟩ := d
  have hall := all_toDigits n
  have hexponent := isExponent_write l.plusSign (e + digitCount n - 1)
  have hmark : ("e" : String).toList = ['e'] := rfl
  have hdigits := natOfDigits_toDigits n
  unfold Layout.writeScientific
  simp only [String.toList_append, hmark, List.append_assoc, List.singleton_append]
  rw [digitCount] at *
  split
  next hnil => exact absurd hnil Nat.toDigits_ne_nil
  next c hc =>
    rw [hc] at hall hdigits hexponent
    rw [String.toList_singleton, hc]
    apply Reads.of_whole (List.cons_ne_nil _ _) hall hexponent
    rw [hdigits, List.length_singleton]
    congr 2
    omega
  next c rest hne hrest =>
    rw [hrest] at hall hdigits hexponent
    obtain ⟨hc, hplaces⟩ := List.forall_mem_cons.1 hall
    rw [String.toList_ofList, hrest]
    apply Reads.of_point (List.cons_ne_nil c []) (List.forall_mem_singleton.2 hc) hplaces hexponent
    rw [List.singleton_append, hdigits, List.length_cons]
    congr 2
    push_cast
    ring

theorem reads_writeDecimal (l : Layout) (d : Decimal) :
  Reads (l.writeDecimal d).toList d
  := by
  rw [Layout.writeDecimal]
  split
  · apply reads_writePlain
  · apply reads_writeScientific

/-- A digit is no letter. -/
theorem toLower_of_isDigit {c : Char} (hc : c.isDigit = true) :
  c.toLower = c
  := by
  rw [Char.isDigit, Bool.and_eq_true_iff, decide_eq_true_iff, decide_eq_true_iff] at hc
  rw [Char.toLower, dif_neg]
  intro hupper
  have hletter : 'A'.val ≤ '9'.val := UInt32.le_trans hupper.1 hc.2
  revert hletter
  decide

/-- What starts with a digit is no word, and has no sign. -/
theorem Reads.unsignedOfChars? {cs : List Char} {d : Decimal} (h : Reads cs d) :
  unsignedOfChars? cs = some d.toFloat ∧ splitSign cs = (false, cs)
  := by
  obtain ⟨c, rest, rfl, hc⟩ := h.head
  obtain ⟨d', hchars, hvalue⟩ := h.read
  refine ⟨?_, splitSign_of_isDigit hc rest⟩
  have hword (first : Char) (others : List Char) (hfirst : first.isDigit = false) :
      String.ofList ((c :: rest).map Char.toLower) ≠ String.ofList (first :: others) := by
    intro heq
    rw [String.ofList_inj, List.map_cons, toLower_of_isDigit hc] at heq
    rw [(List.cons.inj heq).1, hfirst] at hc
    cases hc
  have hinf := hword 'i' ['n', 'f'] rfl
  have hinfinity := hword 'i' ['n', 'f', 'i', 'n', 'i', 't', 'y'] rfl
  have hnan := hword 'n' ['a', 'n'] rfl
  unfold Decimal.unsignedOfChars?
  simp only [hinf, hinfinity, hnan, or_self, if_false, hchars, Option.map_some,
    toFloat_congr hvalue]

/-- A finite number is read as it was written. -/
theorem readFloat?_write (l : Layout) {x : Float} (hx : x.isFinite = true) :
  readFloat? (l.write x) = some x
  := by
  obtain ⟨m, q, hmagnitude⟩ := magnitude_of_isFinite hx
  obtain ⟨hread, hsplit⟩ :=
    (reads_writeDecimal l (shortest l.tie x.abs m q)).unsignedOfChars?
  rw [toFloat_shortest hmagnitude] at hread
  have hsigned := signed_abs hx
  rw [readFloat?, Layout.write]
  simp only [hmagnitude]
  rw [String.toList_append]
  cases hsign : negative x with
  | true =>
    have hminus : splitSign ("-".toList
        ++ (l.writeDecimal (shortest l.tie x.abs m q)).toList)
        = (true, (l.writeDecimal (shortest l.tie x.abs m q)).toList) := rfl
    rw [hsign, if_pos rfl] at hsigned
    rw [if_pos rfl, hminus]
    simp only [hread, Option.map_some, if_true, hsigned]
  | false =>
    rw [hsign, if_neg Bool.false_ne_true] at hsigned
    rw [if_neg Bool.false_ne_true, String.toList_empty, List.nil_append, hsplit]
    simp only [hread, Option.map_some, Bool.false_eq_true, if_false]
    rw [hsigned]

end Servo.Decimal
