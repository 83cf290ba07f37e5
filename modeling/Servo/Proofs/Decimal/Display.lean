import Servo.Proofs.Decimal.Layout
import Servo.Proofs.Decimal.Reading
import Servo.Text.Blank

/-!
# Displayed numbers

In messages a number has no exponent, and a whole number no point.  `readFloat?_message` says that
every number is read as it is displayed there, the special ones included, and `readFloat?_toString`
that the digits of an integer are read as the number to which it is converted.  There are no blank
characters in either.
-/

namespace Servo

namespace Decimal

/-! ### Reading -/

/-- A number is read as it is displayed. -/
theorem readFloat?_message (x : Float) :
  readFloat? (Layout.message.write x) = some x
  := by
  by_cases hx : x.isFinite = true
  · apply readFloat?_write Layout.message hx
  · rcases eq_of_not_isFinite hx with rfl | rfl | rfl <;> decide +kernel

/-- A natural number is converted to the number nearest to it. -/
theorem toFloat_natCast {n : Nat} (hn : digitCount n ≤ 400) :
  toFloat ⟨n, 0⟩ = Float.ofNat n
  := by
  by_cases hzero : n = 0
  · subst hzero
    rfl
  · have hhigh : ¬ (400 : ℤ) < digitCount n + 0 := by omega
    have hlow : ¬ (digitCount n + 0 : ℤ) < -400 := by omega
    simp only [toFloat, if_neg hzero, if_neg hhigh, if_neg hlow, if_neg (Int.lt_irrefl 0)]
    rfl

/-- An integer is read as the number to which it is converted. -/
theorem readFloat?_toString {n : ℤ} (hn : digitCount n.natAbs ≤ 400) :
  readFloat? (toString n) = some (Float.ofInt n)
  := by
  have hall := all_toDigits n.natAbs
  have hdigits : ofChars? (Nat.toDigits 10 n.natAbs) = some ⟨n.natAbs, 0⟩ := by
    have hread := ofChars?_whole Nat.toDigits_ne_nil hall .none
    rw [List.append_nil, natOfDigits_toDigits] at hread
    exact hread
  have hreads : Reads (Nat.toDigits 10 n.natAbs) ⟨n.natAbs, 0⟩ := by
    have hhead := head_of_isDigit Nat.toDigits_ne_nil hall []
    rw [List.append_nil] at hhead
    exact ⟨hhead, _, hdigits, rfl⟩
  rw [readFloat?, splitSign_toString]
  simp only [hreads.unsignedOfChars?.1, toFloat_natCast hn, Option.map_some]
  cases n with
  | ofNat k =>
    have hsign : ¬ Int.ofNat k < 0 := Int.not_lt.2 (Int.natCast_nonneg k)
    rw [decide_eq_false hsign]
    rfl
  | negSucc k =>
    rw [decide_eq_true (Int.negSucc_lt_zero k)]
    rfl

end Decimal

/-! ### Blank characters -/

/-- What may stand in a number is not blank. -/
theorem IsNumeric.isBlank {c : Char} (h : IsNumeric c) :
  Text.isBlank c = false
  := by
  rcases h with hdigit | rfl | rfl | rfl
  · rw [Char.isDigit, Bool.and_eq_true_iff, decide_eq_true_iff, decide_eq_true_iff] at hdigit
    have hlow : 48 ≤ c.toNat := UInt32.le_iff_toNat_le.1 hdigit.1
    have hhigh : c.toNat ≤ 57 := UInt32.le_iff_toNat_le.1 hdigit.2
    simp only [Text.isBlank, Bool.or_eq_false_iff, Bool.and_eq_false_iff, decide_eq_false_iff_not,
      beq_eq_false_iff_ne]
    omega
  all_goals rfl

/-- A decimal without an exponent has digits and a point only. -/
theorem Layout.isNumeric_writePlain {l : Layout} (hl : l.pointZero = false) (d : Decimal) :
  ∀ c ∈ (l.writePlain d).toList, IsNumeric c
  := by
  have hdigits := isNumeric_toDigits d.digits
  unfold writePlain
  simp only [hl, Bool.false_eq_true, if_false, String.append_empty]
  split
  · rw [String.toList_ofList]
    apply List.forall_mem_append.2 ⟨hdigits, isNumeric_zeros _⟩
  · split
    · rw [String.toList_ofList]
      have hplaces : ∀ i, ∀ c ∈ (Nat.toDigits 10 d.digits).drop i, IsNumeric c :=
        fun i c hc => hdigits c (List.mem_of_mem_drop hc)
      refine List.forall_mem_append.2 ⟨fun c hc => hdigits c (List.mem_of_mem_take hc), ?_⟩
      exact List.forall_mem_cons.2 ⟨.inr (.inl rfl), hplaces _⟩
    · have hhead : ("0." : String).toList = Nat.toDigits 10 0 ++ ['.'] := rfl
      have hpoint : ∀ c ∈ ['.'], IsNumeric c := List.forall_mem_singleton.2 (.inr (.inl rfl))
      have hplaces := List.forall_mem_append.2
        ⟨isNumeric_zeros (d.exponent.natAbs - (Nat.toDigits 10 d.digits).length), hdigits⟩
      rw [String.toList_append, hhead, String.toList_ofList]
      exact List.forall_mem_append.2
        ⟨List.forall_mem_append.2 ⟨isNumeric_toDigits 0, hpoint⟩, hplaces⟩

/-- A displayed number has the characters of a number, or the letters of a word for a special
one. -/
theorem mem_message {x : Float} {c : Char} (hc : c ∈ (Layout.message.write x).toList) :
  IsNumeric c ∨ c ∈ "NaNinf".toList
  := by
  by_cases hx : x.isFinite = true
  · obtain ⟨m, q, hmagnitude⟩ := magnitude_of_isFinite hx
    have hplain : ∀ d : Decimal, Layout.message.writeDecimal d = Layout.message.writePlain d := by
      intro d
      unfold Layout.writeDecimal
      exact if_pos (.inr rfl)
    left
    rw [Layout.write] at hc
    simp only [hmagnitude, hplain, String.toList_append] at hc
    rcases List.mem_append.1 hc with hc | hc
    · split at hc
      · rw [List.mem_singleton.1 hc]
        exact .inr (.inr (.inr rfl))
      · cases hc
    · apply Layout.isNumeric_writePlain rfl _ c hc
  · have hwords : ∀ x ∈ [Decimal.nan, Decimal.infinity, -Decimal.infinity],
        (Layout.message.write x).toList.all (fun c => c = '-' ∨ c ∈ "NaNinf".toList) = true := by
      decide +kernel
    have hword := List.all_eq_true.1 (hwords x (by simpa using eq_of_not_isFinite hx)) c hc
    rcases of_decide_eq_true hword with rfl | hletter
    · exact .inl (.inr (.inr (.inr rfl)))
    · exact .inr hletter

/-- There are no blank characters in a displayed number. -/
theorem isBlank_message (x : Float) :
  ∀ c ∈ (Layout.message.write x).toList, Text.isBlank c = false
  := by
  have hletters : "NaNinf".toList.all (!Text.isBlank ·) = true := by decide +kernel
  intro c hc
  rcases mem_message hc with hnumeric | hletter
  · apply hnumeric.isBlank
  · rw [← Bool.not_eq_true']
    apply List.all_eq_true.1 hletters c hletter

/-- A displayed integer has the characters of a number. -/
theorem isNumeric_toString (n : ℤ) :
  ∀ c ∈ (toString n).toList, IsNumeric c
  := by
  intro c hc
  rw [Decimal.toList_toString] at hc
  rcases List.mem_append.1 hc with hc | hc
  · split at hc
    · rw [List.mem_singleton.1 hc]
      exact .inr (.inr (.inr rfl))
    · cases hc
  · apply isNumeric_toDigits _ c hc

theorem isBlank_toString (n : ℤ) :
  ∀ c ∈ (toString n).toList, Text.isBlank c = false
  := fun c hc => (isNumeric_toString n c hc).isBlank

end Servo
