import Servo.Decimal.Layout
import Servo.Proofs.Decimal.Digits
import Servo.Proofs.Decimal.Magnitude

/-!
# The look of written numbers

`Layout.fractional_write`: in a layout in which whole numbers end in `.0` and positive
exponents have no sign, a finite number is written with digits, points, minus signs and
marks of exponents only, and with a point or a mark in any case.  So it never looks like an
integer.
-/

namespace Servo

/-- The character may stand in a number. -/
def IsNumeric (c : Char) : Prop := c.isDigit = true ∨ c = '.' ∨ c = 'e' ∨ c = '-'

/-- The characters may stand in a number, and a point or the mark of an exponent is among
them. -/
structure Fractional (cs : List Char) : Prop where
  marked : ∃ c ∈ cs, c = '.' ∨ c = 'e'
  numeric : ∀ c ∈ cs, IsNumeric c

theorem isNumeric_toDigits (n : Nat) :
  ∀ c ∈ Nat.toDigits 10 n, IsNumeric c
  := fun c hc => .inl (Decimal.all_toDigits n c hc)

theorem isNumeric_zeros (n : Nat) :
  ∀ c ∈ List.replicate n '0', IsNumeric c
  := fun c hc => .inl (Decimal.all_zeros n c hc)

/-- What may stand in a number looks like one, before and behind a point or a mark. -/
theorem Fractional.mk_of_mark {c : Char} (hc : c = '.' ∨ c = 'e') {cs ds : List Char}
    (hcs : ∀ d ∈ cs, IsNumeric d) (hds : ∀ d ∈ ds, IsNumeric d) :
  Fractional (cs ++ c :: ds)
  := by
  constructor
  case marked => exact ⟨c, by simp, hc⟩
  case numeric =>
    apply List.forall_mem_append.2 ⟨hcs, List.forall_mem_cons.2 ⟨?_, hds⟩⟩
    right
    rcases hc with hc | hc
    · exact .inl hc
    · exact .inr (.inl hc)

/-- A sign may stand in front of a number. -/
theorem Fractional.minus {cs : List Char} (h : Fractional cs) :
  Fractional ('-' :: cs)
  := by
  obtain ⟨⟨c, hc, hmark⟩, hnumeric⟩ := h
  refine ⟨⟨c, List.mem_cons_of_mem _ hc, hmark⟩, List.forall_mem_cons.2 ⟨?_, hnumeric⟩⟩
  exact .inr (.inr (.inr rfl))

/-! ### Layouts -/

namespace Layout

variable {l : Layout}

/-- A decimal without an exponent has a point, if whole numbers end in one and a zero. -/
theorem fractional_writePlain (hl : l.pointZero = true) (d : Decimal) :
  Fractional (l.writePlain d).toList
  := by
  have hdigits := isNumeric_toDigits d.digits
  have htail : (".0" : String).toList = '.' :: Nat.toDigits 10 0 := rfl
  have hhead : ("0." : String).toList = Nat.toDigits 10 0 ++ ['.'] := rfl
  unfold writePlain
  simp only [hl, if_true]
  split
  · rw [String.toList_append, String.toList_ofList, htail]
    apply Fractional.mk_of_mark (.inl rfl) _ (isNumeric_toDigits 0)
    apply List.forall_mem_append.2 ⟨hdigits, isNumeric_zeros _⟩
  · split
    · rw [String.toList_ofList]
      apply Fractional.mk_of_mark (.inl rfl)
      · intro c hc
        apply hdigits c (List.mem_of_mem_take hc)
      · intro c hc
        apply hdigits c (List.mem_of_mem_drop hc)
    · rw [String.toList_append, hhead, String.toList_ofList, List.append_assoc,
        List.singleton_append]
      apply Fractional.mk_of_mark (.inl rfl) (isNumeric_toDigits 0)
      apply List.forall_mem_append.2 ⟨isNumeric_zeros _, hdigits⟩

/-- A decimal with an exponent has the mark of one, if positive exponents have no sign. -/
theorem fractional_writeScientific (hl : l.plusSign = false) (d : Decimal) (exponent : Int) :
  Fractional (l.writeScientific d exponent).toList
  := by
  have hmark : ("e" : String).toList = ['e'] := rfl
  have hexponent : ∀ c ∈ (if exponent < 0 then ("-" : String) else "").toList
      ++ (toString exponent.natAbs).toList, IsNumeric c := by
    rw [Nat.toString_eq_ofList_toDigits, String.toList_ofList]
    apply List.forall_mem_append.2 ⟨?_, isNumeric_toDigits _⟩
    split
    · exact List.forall_mem_cons.2 ⟨.inr (.inr (.inr rfl)), nofun⟩
    · exact nofun
  unfold writeScientific
  simp only [hl, Bool.false_eq_true, if_false]
  rw [String.toList_append, String.toList_append, String.toList_append, hmark,
    List.append_assoc, List.append_assoc, List.singleton_append]
  apply Fractional.mk_of_mark (.inr rfl) _ hexponent
  have hdigits := isNumeric_toDigits d.digits
  split
  · exact nofun
  next c hc =>
    rw [hc] at hdigits
    rw [String.toList_singleton]
    exact hdigits
  next c rest _ hrest =>
    rw [hrest] at hdigits
    obtain ⟨hc, hrest⟩ := List.forall_mem_cons.1 hdigits
    rw [String.toList_ofList]
    apply List.forall_mem_cons.2 ⟨hc, List.forall_mem_cons.2 ⟨.inr (.inl rfl), hrest⟩⟩

/-- In a layout in which whole numbers end in `.0` and positive exponents have no sign, a
finite number looks like one. -/
theorem fractional_write (hpoint : l.pointZero = true) (hplus : l.plusSign = false) {x : Float}
    (hx : x.isFinite = true) :
  Fractional (l.write x).toList
  := by
  obtain ⟨m, q, hmagnitude⟩ := magnitude_of_isFinite hx
  have hdecimal (d : Decimal) : Fractional (l.writeDecimal d).toList := by
    unfold writeDecimal
    simp only
    split
    · apply fractional_writePlain hpoint
    · apply fractional_writeScientific hplus
  unfold write
  simp only [hmagnitude]
  rw [String.toList_append]
  split
  · apply (hdecimal _).minus
  · apply hdecimal

end Layout

end Servo
