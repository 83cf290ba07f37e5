/-!
# Blank characters

`Text.isBlank` is the Unicode property White_Space, and `Text.trim` removes blank
characters from both ends of a text.
-/

namespace Servo.Text

/-- The character is white space. -/
def isBlank (c : Char) : Bool :=
  let code := c.toNat
  (0x9 ≤ code && code ≤ 0xD) || code == 0x20 || code == 0x85 || code == 0xA0 || code == 0x1680
    || (0x2000 ≤ code && code ≤ 0x200A) || code == 0x2028 || code == 0x2029 || code == 0x202F
    || code == 0x205F || code == 0x3000

/-- The characters without the blank ones at both ends. -/
def trimChars (cs : List Char) : List Char :=
  ((cs.dropWhile isBlank).reverse.dropWhile isBlank).reverse

/-- The text without the blank characters at both ends. -/
def trim (s : String) : String := String.ofList (trimChars s.toList)

/-- Blank characters around others are removed with the blank ones at their ends. -/
theorem trimChars_append {front back : List Char} (hfront : ∀ c ∈ front, isBlank c = true)
    (hback : ∀ c ∈ back, isBlank c = true) (cs : List Char) :
  trimChars (front ++ cs ++ back) = trimChars cs
  := by
  have hnone : back.dropWhile isBlank = [] := by
    rw [← List.append_nil back, List.dropWhile_append_of_pos hback, List.dropWhile_nil]
  have hreversed : ∀ c ∈ back.reverse, isBlank c = true := by
    intro c hc
    apply hback c (List.mem_reverse.1 hc)
  rw [trimChars, trimChars, List.append_assoc, List.dropWhile_append_of_pos hfront,
    List.dropWhile_append]
  split
  next hempty => rw [hnone, List.isEmpty_iff.1 hempty]
  next => rw [List.reverse_append, List.dropWhile_append_of_pos hreversed]

/-- Characters none of which is blank stay as they are. -/
theorem trimChars_eq_self {cs : List Char} (h : ∀ c ∈ cs, isBlank c = false) :
  trimChars cs = cs
  := by
  have hdrop : ∀ {ds : List Char}, (∀ c ∈ ds, isBlank c = false) → ds.dropWhile isBlank = ds := by
    intro ds hds
    cases ds with
    | nil => rfl
    | cons d rest => rw [List.dropWhile_cons_of_neg (by simp [hds d List.mem_cons_self])]
  have hreversed : ∀ c ∈ cs.reverse, isBlank c = false := by
    intro c hc
    apply h c (List.mem_reverse.1 hc)
  rw [trimChars, hdrop h, hdrop hreversed, List.reverse_reverse]

theorem trim_append {front back : String} (hfront : ∀ c ∈ front.toList, isBlank c = true)
    (hback : ∀ c ∈ back.toList, isBlank c = true) (s : String) :
  trim (front ++ s ++ back) = trim s
  := by
  rw [trim, trim, String.toList_append, String.toList_append, trimChars_append hfront hback]

theorem trim_eq_self {s : String} (h : ∀ c ∈ s.toList, isBlank c = false) :
  trim s = s
  := by
  rw [trim, trimChars_eq_self h, String.ofList_toList]

end Servo.Text
