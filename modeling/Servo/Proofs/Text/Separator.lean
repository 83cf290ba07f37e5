import Mathlib.Data.List.Infix

/-!
# Texts joined by a separator

Two texts can be joined by a separator, and what is joined so does not always tell its parts: the
separator may occur in a part as well.  `joined_eq_iff` says when two pairs of texts are joined to
the same text, and `shifts_iff` what that means for a given separator.
-/

namespace Servo.Text

/-- A text has another one in it. -/
def Occurs (part text : String) : Prop := ∃ u v, text = u ++ part ++ v

/-- Two pairs of words with the same separator between them make the same word only if they are the
same or the separator stands further on in one of them. -/
theorem append_append_eq_iff {α : Type} {s a b a' b' : List α} :
  a ++ s ++ b = a' ++ s ++ b' ↔ (a = a' ∧ b = b')
    ∨ (∃ u v, u ≠ [] ∧ s ++ v = u ++ s ∧ a' = a ++ u ∧ b = v ++ b')
    ∨ ∃ u v, u ≠ [] ∧ s ++ v = u ++ s ∧ a = a' ++ u ∧ b' = v ++ b
  := by
  -- The later one of the two separators is moved behind the other one.
  have hlater : ∀ {a b a' b' u : List α}, a' = a ++ u → s ++ b = u ++ (s ++ b') →
      (a = a' ∧ b = b') ∨ ∃ u v, u ≠ [] ∧ s ++ v = u ++ s ∧ a' = a ++ u ∧ b = v ++ b' := by
    intro a b a' b' u ha hb
    by_cases hu : u = []
    · subst hu
      left
      exact ⟨by rw [ha, List.append_nil], List.append_cancel_left hb⟩
    · right
      rw [← List.append_assoc, List.append_eq_append_iff] at hb
      rcases hb with ⟨v, hv, hb⟩ | ⟨v, hv, -⟩
      · exact ⟨u, v, hu, hv.symm, ha, hb⟩
      · have hlength := congrArg List.length hv
        rw [List.length_append, List.length_append] at hlength
        have hpos := List.length_pos_iff.2 hu
        omega
  constructor
  · intro h
    rw [List.append_assoc, List.append_assoc, List.append_eq_append_iff] at h
    rcases h with ⟨u, ha, hb⟩ | ⟨u, ha, hb⟩
    · rcases hlater ha hb with h | h
      · exact .inl h
      · exact .inr (.inl h)
    · rcases hlater ha hb with ⟨ha, hb⟩ | h
      · exact .inl ⟨ha.symm, hb.symm⟩
      · exact .inr (.inr h)
  · rintro (⟨rfl, rfl⟩ | ⟨u, v, -, huv, rfl, rfl⟩ | ⟨u, v, -, huv, rfl, rfl⟩)
    · rfl
    · rw [List.append_assoc, ← List.append_assoc s, huv]
      simp only [List.append_assoc]
    · rw [List.append_assoc a' u, ← huv]
      simp only [List.append_assoc]

/-- In the text that joins `m` and `j` by a separator, it stands also between `m'` and `j'`,
further on. -/
def Shifts (separator m j m' j' : String) : Prop :=
  ∃ u v, u ≠ "" ∧ separator ++ v = u ++ separator ∧ m' = m ++ u ∧ j = v ++ j'

/-- A separator stands further on if it does so among the characters. -/
theorem shifts_iff_toList {separator m j m' j' : String} :
  Shifts separator m j m' j' ↔ ∃ u v : List Char, u ≠ []
    ∧ separator.toList ++ v = u ++ separator.toList ∧ m'.toList = m.toList ++ u
    ∧ j.toList = v ++ j'.toList
  := by
  constructor
  · rintro ⟨u, v, hu, huv, rfl, rfl⟩
    refine ⟨u.toList, v.toList, mt String.toList_eq_nil_iff.1 hu, ?_, String.toList_append,
      String.toList_append⟩
    rw [← String.toList_append, huv, String.toList_append]
  · rintro ⟨u, v, hu, huv, hm, hj⟩
    refine ⟨String.ofList u, String.ofList v, ?_, ?_, ?_, ?_⟩
    · intro h
      apply hu
      rw [← String.toList_ofList (l := u), h, String.toList_empty]
    all_goals
      apply String.toList_inj.1
      rw [String.toList_append, String.toList_ofList]
      first
        | assumption
        | rwa [String.toList_append, String.toList_ofList]

/-- Two pairs of texts are joined to the same text only if they are the same or the separator stands
further on in one of them. -/
theorem joined_eq_iff {separator m j m' j' : String} :
  m ++ separator ++ j = m' ++ separator ++ j'
    ↔ (m = m' ∧ j = j') ∨ Shifts separator m j m' j' ∨ Shifts separator m' j' m j
  := by
  rw [shifts_iff_toList, shifts_iff_toList, ← String.toList_inj, ← String.toList_inj,
    ← String.toList_inj]
  simp only [String.toList_append]
  apply append_append_eq_iff

/-- A separator stands further on in one of two ways: there are two of it with a text between them,
or it overlaps with itself. -/
theorem shifts_iff {separator m j m' j' : String} (h : separator ≠ "") :
  Shifts separator m j m' j'
    ↔ (∃ x, m' = m ++ separator ++ x ∧ j = x ++ separator ++ j')
      ∨ ∃ u v x, u ≠ "" ∧ x ≠ "" ∧ separator = u ++ x ∧ separator = x ++ v
        ∧ m' = m ++ u ∧ j = v ++ j'
  := by
  constructor
  · rw [shifts_iff_toList]
    rintro ⟨u, v, hu, huv, hm, hj⟩
    rcases List.append_eq_append_iff.1 huv with ⟨x, rfl, rfl⟩ | ⟨x, hux, hxv⟩
    · left
      refine ⟨String.ofList x, ?_, ?_⟩
      all_goals
        apply String.toList_inj.1
        simp [hm, hj]
    · by_cases hx : x = []
      · subst hx
        left
        refine ⟨"", ?_, ?_⟩
        all_goals
          apply String.toList_inj.1
          simp_all
      · right
        refine ⟨String.ofList u, String.ofList v, String.ofList x, ?_, ?_, ?_, ?_, ?_, ?_⟩
        case refine_1 => rwa [Ne, String.ofList_eq_empty_iff]
        case refine_2 => rwa [Ne, String.ofList_eq_empty_iff]
        all_goals
          apply String.toList_inj.1
          rw [String.toList_append, String.toList_ofList]
          first
            | rwa [String.toList_ofList]
            | assumption
  · rintro (⟨x, rfl, rfl⟩ | ⟨u, v, x, hu, -, hux, hxv, rfl, rfl⟩)
    · refine ⟨separator ++ x, x ++ separator, ?_, String.append_assoc.symm, String.append_assoc,
        rfl⟩
      intro hempty
      apply h (String.append_eq_empty_iff.1 hempty).1
    · refine ⟨u, v, hu, ?_, rfl, rfl⟩
      calc separator ++ v = u ++ x ++ v := by rw [← hux]
        _ = u ++ (x ++ v) := String.append_assoc
        _ = u ++ separator := by rw [← hxv]

/-- A slash stands further on if there is another one in the second text. -/
theorem shifts_slash_iff {m j m' j' : String} :
  Shifts "/" m j m' j' ↔ ∃ x, m' = m ++ "/" ++ x ∧ j = x ++ "/" ++ j'
  := by
  rw [shifts_iff (by decide)]
  constructor
  · rintro (h | ⟨u, v, x, hu, hx, hux, -⟩)
    · exact h
    · have hlength := congrArg String.length hux
      rw [String.length_append] at hlength
      have hu := String.length_eq_zero_iff.not.2 hu
      have hx := String.length_eq_zero_iff.not.2 hx
      have hone : "/".length = 1 := rfl
      omega
  · exact .inl

end Servo.Text
