import Mathlib.Data.List.Basic
import Mathlib.Tactic.Use
import Servo.Topic

/-!
# The spelling of topics

A text `IsName` if it is cut into segments by single slashes (`Cut`), without white space and
without an `@`.  `ofString_normalizes` says that exactly these texts name a topic, that the name of
a topic names the topic itself, and that a topic has no other spellings than its name with and
without the slash in front.
-/

namespace Servo.Topic

/-! ### Segments -/

/-- Characters are cut into segments: there are one or more of them, with a single slash between
every two, and there may be a slash in front of all of them and one behind. -/
structure Cut (front : List Char) (segments : List (List Char)) (back cs : List Char) :
    Prop where
  opening : front = [] ∨ front = ['/']
  closing : back = [] ∨ back = ['/']
  nonempty : segments ≠ []
  segment : ∀ s ∈ segments, s ≠ [] ∧ '/' ∉ s
  whole : cs = front ++ ['/'].intercalate segments ++ back

/-- A text is cut into segments, and it has neither white space nor an `@`. -/
def IsName (text : String) : Prop :=
  (∃ front segments back, Cut front segments back text.toList)
    ∧ ∀ c ∈ text.toList, Text.isBlank c = false ∧ c ≠ '@'

/-- Two slashes in a row stand in one of two parts, or where the parts meet. -/
theorem hasEmptySegment_append (cs ds : List Char) :
  hasEmptySegment (cs ++ ds) = true
    ↔ hasEmptySegment cs = true ∨ (cs.getLast? = some '/' ∧ ds.head? = some '/')
      ∨ hasEmptySegment ds = true
  := by
  induction cs with
  | nil => simp [hasEmptySegment]
  | cons c rest ih =>
    rw [List.cons_append, hasEmptySegment, hasEmptySegment, Bool.or_eq_true, Bool.or_eq_true, ih]
    cases rest with
    | nil => simp [hasEmptySegment]
    | cons d later => simp [or_assoc]

/-- Without slashes there are no two in a row. -/
theorem hasEmptySegment_of_not_mem {s : List Char} (h : '/' ∉ s) :
  hasEmptySegment s = false
  := by
  induction s with
  | nil => rfl
  | cons c rest ih =>
    have hrest : '/' ∉ rest := fun hmem => h (List.mem_cons_of_mem c hmem)
    have hc : c ≠ '/' := by
      rintro rfl
      apply h List.mem_cons_self
    rw [hasEmptySegment, ih hrest]
    simp [hc]

/-- Characters that neither begin nor end with a slash and have no two slashes in a row. -/
structure Joined (cs : List Char) : Prop where
  nonempty : cs ≠ []
  head : cs.head? ≠ some '/'
  last : cs.getLast? ≠ some '/'
  single : hasEmptySegment cs = false

/-- A segment is joined of itself alone. -/
theorem joined_segment {s : List Char} (hne : s ≠ []) (h : '/' ∉ s) :
  Joined s
  := by
  constructor
  case nonempty => apply hne
  case head =>
    intro hhead
    apply h (List.mem_of_head? hhead)
  case last =>
    intro hlast
    apply h (List.mem_of_getLast? hlast)
  case single => apply hasEmptySegment_of_not_mem h

/-- Two parts are joined by a single slash. -/
theorem Joined.append {cs ds : List Char} (hcs : Joined cs) (hds : Joined ds) :
  Joined (cs ++ ['/'] ++ ds)
  := by
  constructor
  case nonempty => simp
  case head =>
    rw [List.append_assoc, List.head?_append_of_ne_nil _ hcs.nonempty]
    apply hcs.head
  case last =>
    rw [List.getLast?_append_of_ne_nil _ hds.nonempty]
    apply hds.last
  case single =>
    rw [Bool.eq_false_iff, ne_eq, hasEmptySegment_append, hasEmptySegment_append]
    simp [hcs.single, hds.single, hcs.last, hds.head, hasEmptySegment]

/-- Segments are joined by single slashes. -/
theorem joined_intercalate {segments : List (List Char)} (hne : segments ≠ [])
    (h : ∀ s ∈ segments, s ≠ [] ∧ '/' ∉ s) :
  Joined (['/'].intercalate segments)
  := by
  induction segments with
  | nil => exact absurd rfl hne
  | cons s rest ih =>
    obtain ⟨⟨hs, hplain⟩, hrest⟩ := List.forall_mem_cons.1 h
    by_cases hlast : rest = []
    · rw [hlast, List.intercalate_singleton]
      apply joined_segment hs hplain
    · rw [List.intercalate_cons_of_ne_nil hlast]
      apply (joined_segment hs hplain).append (ih hlast hrest)

/-- What is cut into segments is more than a slash, and no two slashes stand in a row. -/
theorem Cut.single {front back cs : List Char} {segments : List (List Char)}
    (h : Cut front segments back cs) :
  cs ≠ [] ∧ cs ≠ ['/'] ∧ hasEmptySegment cs = false
  := by
  have hjoined := joined_intercalate h.nonempty h.segment
  obtain ⟨c, rest, hcons⟩ := List.exists_cons_of_ne_nil hjoined.nonempty
  have hc : c ≠ '/' := by
    rintro rfl
    apply hjoined.head
    rw [hcons, List.head?_cons]
  have hsingle : hasEmptySegment cs = false := by
    rw [h.whole, Bool.eq_false_iff, ne_eq, hasEmptySegment_append, hasEmptySegment_append]
    have hlast : ('/' :: ['/'].intercalate segments).getLast? ≠ some '/' := by
      rw [List.getLast?_cons_of_ne_nil hjoined.nonempty]
      apply hjoined.last
    rcases h.opening with rfl | rfl <;> rcases h.closing with rfl | rfl <;>
      simp [hjoined.single, hjoined.head, hjoined.last, hlast, hasEmptySegment]
  refine ⟨?_, ?_, hsingle⟩
  · simp [h.whole, hcons]
  · have hmem : c ∈ cs := by simp [h.whole, hcons]
    rintro rfl
    apply hc (List.mem_singleton.1 hmem)

/-- A character in front of segments becomes a part of the first one. -/
theorem intercalate_cons_head (c : Char) (s : List Char) (rest : List (List Char)) :
  ['/'].intercalate ((c :: s) :: rest) = c :: ['/'].intercalate (s :: rest)
  := by
  cases rest with
  | nil => simp
  | cons t later => simp

/-- A character that is no slash is a segment. -/
theorem cut_singleton {c : Char} (hc : c ≠ '/') {back : List Char}
    (hback : back = [] ∨ back = ['/']) :
  Cut [] [[c]] back (c :: back)
  := by
  constructor
  case opening => exact .inl rfl
  case closing => apply hback
  case nonempty => apply List.cons_ne_nil
  case segment => simp [Ne.symm hc]
  case whole => simp

theorem Cut.slash {segments : List (List Char)} {back cs : List Char}
    (h : Cut [] segments back cs) :
  Cut ['/'] segments back ('/' :: cs)
  := ⟨.inr rfl, h.closing, h.nonempty, h.segment, by rw [h.whole]; rfl⟩

/-- Another character can be put in front of segments, as a part of the first one or as one of its
own. -/
theorem Cut.cons {front back cs : List Char} {segments : List (List Char)}
    (h : Cut front segments back cs) {c : Char} (hc : c ≠ '/') :
  ∃ segments', Cut [] segments' back (c :: cs)
  := by
  rcases h.opening with rfl | rfl
  · obtain ⟨s, rest, rfl⟩ := List.exists_cons_of_ne_nil h.nonempty
    obtain ⟨⟨-, hs⟩, hrest⟩ := List.forall_mem_cons.1 h.segment
    use (c :: s) :: rest
    constructor
    case opening => exact .inl rfl
    case closing => apply h.closing
    case nonempty => apply List.cons_ne_nil
    case segment =>
      refine List.forall_mem_cons.2 ⟨⟨List.cons_ne_nil c s, ?_⟩, hrest⟩
      simp [Ne.symm hc, hs]
    case whole =>
      rw [h.whole, intercalate_cons_head]
      rfl
  · use [c] :: segments
    constructor
    case opening => exact .inl rfl
    case closing => apply h.closing
    case nonempty => apply List.cons_ne_nil
    case segment =>
      refine List.forall_mem_cons.2 ⟨⟨List.cons_ne_nil c [], ?_⟩, h.segment⟩
      simp [Ne.symm hc]
    case whole =>
      rw [h.whole, List.intercalate_cons_of_ne_nil h.nonempty]
      rfl

/-- Characters without two slashes in a row are cut into segments, unless there is no other one than
a slash. -/
theorem exists_cut {cs : List Char} (h : hasEmptySegment cs = false) :
  cs = [] ∨ cs = ['/'] ∨ ∃ front segments back, Cut front segments back cs
  := by
  induction cs with
  | nil => exact .inl rfl
  | cons c rest ih =>
    rw [hasEmptySegment, Bool.or_eq_false_iff] at h
    obtain ⟨hpair, hrest⟩ := h
    by_cases hc : c = '/'
    · subst hc
      rcases ih hrest with rfl | rfl | ⟨front, segments, back, hcut⟩
      · exact .inr (.inl rfl)
      · simp at hpair
      · right; right
        rcases hcut.opening with rfl | rfl
        · exact ⟨['/'], segments, back, hcut.slash⟩
        · simp [hcut.whole] at hpair
    · right; right
      rcases ih hrest with rfl | rfl | ⟨front, segments, back, hcut⟩
      · exact ⟨[], _, [], cut_singleton hc (.inl rfl)⟩
      · exact ⟨[], _, ['/'], cut_singleton hc (.inr rfl)⟩
      · obtain ⟨segments', hcut'⟩ := hcut.cons hc
        exact ⟨[], segments', back, hcut'⟩

/-- Characters are cut into segments just if there are others than a slash and no two slashes stand
in a row. -/
theorem exists_cut_iff {cs : List Char} :
  (∃ front segments back, Cut front segments back cs)
    ↔ cs ≠ [] ∧ cs ≠ ['/'] ∧ hasEmptySegment cs = false
  := by
  constructor
  · rintro ⟨front, segments, back, h⟩
    apply h.single
  · rintro ⟨hempty, hslash, hsingle⟩
    rcases exists_cut hsingle with h | h | h
    · exact absurd h hempty
    · exact absurd h hslash
    · apply h

/-! ### Names -/

/-- Valid is what passes the checks of the characters and of the slashes. -/
theorem valid_iff_checks {text : String} :
  valid text = true
    ↔ (text.toList ≠ [] ∧ text.toList ≠ ['/'] ∧ hasEmptySegment text.toList = false)
      ∧ ∀ c ∈ text.toList, Text.isBlank c = false ∧ c ≠ '@'
  := by
  simp only [valid, Bool.and_eq_true, Bool.not_eq_true', List.isEmpty_eq_false_iff, bne_iff_ne,
    List.any_eq_false, Bool.not_eq_true, List.contains_eq_mem, decide_eq_false_iff_not]
  constructor
  · rintro ⟨⟨⟨⟨hempty, hslash⟩, hblank⟩, hat⟩, hsingle⟩
    refine ⟨⟨hempty, hslash, hsingle⟩, fun c hc => ⟨hblank c hc, ?_⟩⟩
    rintro rfl
    apply hat hc
  · rintro ⟨⟨hempty, hslash, hsingle⟩, hplain⟩
    exact ⟨⟨⟨⟨hempty, hslash⟩, fun c hc => (hplain c hc).1⟩, fun hat => (hplain _ hat).2 rfl⟩,
      hsingle⟩

theorem valid_iff {text : String} :
  valid text = true ↔ IsName text
  := by
  rw [valid_iff_checks, IsName, exists_cut_iff]

theorem rooted_of_head {text : String} (h : text.toList.head? = some '/') :
  rooted text = text
  := by
  rw [rooted, if_pos h]

theorem head_rooted (text : String) :
  (rooted text).toList.head? = some '/'
  := by
  rw [rooted]
  split
  case isTrue h => apply h
  case isFalse => simp

/-- A name stays a name when it is rooted. -/
theorem IsName.rooted {text : String} (h : IsName text) :
  IsName (rooted text)
  := by
  obtain ⟨⟨front, segments, back, hcut⟩, hplain⟩ := h
  rw [Topic.rooted]
  split
  case isTrue => exact ⟨⟨front, segments, back, hcut⟩, hplain⟩
  case isFalse hhead =>
    have hslash : ("/" ++ text).toList = '/' :: text.toList := by simp
    constructor
    · rcases hcut.opening with rfl | rfl
      · exact ⟨['/'], segments, back, by rw [hslash]; apply hcut.slash⟩
      · simp [hcut.whole] at hhead
    · rw [hslash]
      apply List.forall_mem_cons.2 ⟨by decide, hplain⟩

/-- To root a text is to leave it as it is, or to put a slash in front. -/
theorem rooted_eq_or (text : String) :
  rooted text = text ∨ rooted text = "/" ++ text
  := by
  rw [rooted]
  split
  case isTrue => exact .inl rfl
  case isFalse => exact .inr rfl

/-- With and without a slash in front a text is rooted the same, if that slash does not make an
empty segment. -/
theorem rooted_slash {text : String} (h : hasEmptySegment ("/" ++ text).toList = false) :
  rooted ("/" ++ text) = rooted text
  := by
  have hslash : text.toList.head? ≠ some '/' := by
    intro hhead
    simp [hasEmptySegment, hhead] at h
  rw [rooted_of_head (by simp), rooted, if_neg hslash]

/-- Two texts without empty segments are rooted the same just if they differ by no more than a slash
in front. -/
theorem rooted_eq_rooted_iff {text text' : String} (h : hasEmptySegment text.toList = false)
    (h' : hasEmptySegment text'.toList = false) :
  rooted text = rooted text' ↔ text = text' ∨ text = "/" ++ text' ∨ text' = "/" ++ text
  := by
  constructor
  · intro heq
    rcases rooted_eq_or text with ht | ht <;> rcases rooted_eq_or text' with ht' | ht' <;>
      rw [ht, ht'] at heq
    · exact .inl heq
    · exact .inr (.inl heq)
    · exact .inr (.inr heq.symm)
    · rw [String.append_right_inj] at heq
      exact .inl heq
  · rintro (rfl | rfl | rfl)
    · rfl
    · apply rooted_slash h
    · rw [rooted_slash h']

/-! ### Topics -/

/-- Just the names name a topic, the one they have when they are rooted. -/
theorem ofString_eq_ok_iff {text : String} {t : Topic} :
  ofString text = .ok t ↔ IsName text ∧ t = ⟨rooted text⟩
  := by
  rw [ofString, ← valid_iff]
  split
  case isTrue h => simp [h, eq_comm]
  case isFalse h => simp [h]

/-- **A text names a topic just if it is one or more segments that are cut by single slashes, with
or without a slash in front and one behind, and it has neither white space nor an `@`.**  The name of
the topic starts with a slash, is valid and names the topic itself; two texts name the same topic
just if they are equal or one is the other with a slash in front; and the error of any other text is
that text. -/
theorem ofString_normalizes :
  (∀ text, (∃ t, ofString text = .ok t) ↔ IsName text)
    ∧ (∀ text t, ofString text = .ok t →
        t.name.toList.head? = some '/' ∧ valid t.name = true ∧ ofString t.name = .ok t)
    ∧ (∀ text text' t t', ofString text = .ok t → ofString text' = .ok t' →
        (t = t' ↔ text = text' ∨ text = "/" ++ text' ∨ text' = "/" ++ text))
    ∧ ∀ text, ¬ IsName text → ofString text = .error (.invalid text)
  := by
  refine ⟨?_, ?_, ?_, ?_⟩
  · intro text
    simp [ofString_eq_ok_iff]
  · intro text t ht
    obtain ⟨hname, rfl⟩ := ofString_eq_ok_iff.1 ht
    refine ⟨head_rooted text, valid_iff.2 hname.rooted, ?_⟩
    apply ofString_eq_ok_iff.2 ⟨hname.rooted, ?_⟩
    rw [rooted_of_head (head_rooted text)]
  · intro text text' t t' ht ht'
    obtain ⟨⟨⟨_, _, _, hcut⟩, -⟩, rfl⟩ := ofString_eq_ok_iff.1 ht
    obtain ⟨⟨⟨_, _, _, hcut'⟩, -⟩, rfl⟩ := ofString_eq_ok_iff.1 ht'
    rw [Topic.mk.injEq]
    apply rooted_eq_rooted_iff hcut.single.2.2 hcut'.single.2.2
  · intro text hname
    rw [ofString, if_neg]
    rwa [valid_iff]

/-- `cmd` and `/cmd` are names of one topic, `/cmd`; `/cmd/` is the name of another; and `a//b` is
no name. -/
theorem ofString_normalizes_cmd :
  (IsName "cmd" ∧ ofString "/cmd" = .ok ⟨"/cmd"⟩)
    ∧ (∀ t t', ofString "cmd" = .ok t → ofString "/cmd/" = .ok t' → t ≠ t')
    ∧ ofString "a//b" = .error (.invalid "a//b")
  := by
  obtain ⟨hname, hfixed, hsame, herror⟩ := ofString_normalizes
  have hcmd : ofString "cmd" = .ok ⟨"/cmd"⟩ := by decide
  have hempty : ¬ IsName "a//b" := by
    rw [← hname]
    rintro ⟨t, ht⟩
    have hinvalid : ofString "a//b" = .error (.invalid "a//b") := by decide
    rw [hinvalid] at ht
    contradiction
  refine ⟨⟨(hname "cmd").1 ⟨_, hcmd⟩, (hfixed "cmd" _ hcmd).2.2⟩, ?_, herror "a//b" hempty⟩
  intro t t' ht ht'
  rw [ne_eq, hsame "cmd" "/cmd/" t t' ht ht']
  decide

end Servo.Topic
