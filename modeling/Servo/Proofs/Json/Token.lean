import Mathlib.Data.List.TakeWhile
import Servo.Json.Token
import Servo.Json.Writer
import Servo.Proofs.Decimal.Digits

/-!
# Tokens of what is written

Every scalar is written as one token, and a text that is put together from tokens is split
into these again.  The tokens of strings and words end by themselves; a number ends where a
character follows with which no number goes on, `Stops`.
-/

namespace Servo.Json

open Document

/-! ### Strings -/

/-- The part as which a character of a string is read. -/
def piece (c : Char) : Piece :=
  if c.toNat < 0x20 ∧ c ≠ '\x08' ∧ c ≠ '\x0c' ∧ c ≠ '\n' ∧ c ≠ '\r' ∧ c ≠ '\t' then
    .code c.toNat
  else .char c

theorem hex?_control {n : Nat} (hn : n < 0x20) :
  hex? ['0', '0', Nat.digitChar (n / 16), Nat.digitChar (n % 16)] = some n
  := by
  revert n
  decide

/-- An escape with one letter is read as the character that it shows. -/
theorem pieces?_letter {l e : Char} (hl : l ≠ 'u') (he : escaped? l = some e) (cs : List Char) :
  pieces? ('\\' :: l :: cs) = (pieces? cs).map fun p => (.char e :: p.1, p.2)
  := by
  rw [pieces?]
  · rw [he]
    cases pieces? cs <;> rfl
  · intro _ _ _ _ _ hu
    cases hl hu

/-- A character that needs no escape is read as itself. -/
theorem pieces?_char {c : Char} (hquote : c ≠ '"') (hslash : c ≠ '\\') (hc : ¬ c.toNat < 0x20)
    (cs : List Char) :
  pieces? (c :: cs) = (pieces? cs).map fun p => (.char c :: p.1, p.2)
  := by
  rw [pieces?]
  · rw [if_neg hc]
    cases pieces? cs <;> rfl
  · exact hquote
  · intro _ _ _ _ _ h
    cases hslash h
  · intro _ _ h
    cases hslash h

/-- An escaped character is read as one part. -/
theorem pieces?_escape (c : Char) (cs : List Char) :
  pieces? (escape c ++ cs) = (pieces? cs).map fun p => (piece c :: p.1, p.2)
  := by
  unfold escape
  split
  · subst c
    apply pieces?_letter <;> decide
  split
  · subst c
    apply pieces?_letter <;> decide
  split
  · subst c
    apply pieces?_letter <;> decide
  split
  · subst c
    apply pieces?_letter <;> decide
  split
  · subst c
    apply pieces?_letter <;> decide
  split
  · subst c
    apply pieces?_letter <;> decide
  split
  · subst c
    apply pieces?_letter <;> decide
  split
  next _ _ hb hf hn hr ht hcontrol =>
    rw [piece, if_pos ⟨hcontrol, hb, hf, hn, hr, ht⟩]
    simp only [List.cons_append, List.nil_append, pieces?, hex?_control hcontrol]
    cases pieces? cs <;> rfl
  next hquote hslash _ _ _ _ _ hcontrol =>
    rw [piece, if_neg (fun h => hcontrol h.1)]
    apply pieces?_char hquote hslash hcontrol

/-- Escaped characters are read up to the quote behind them. -/
theorem pieces?_escapes (cs rest : List Char) :
  pieces? (cs.flatMap escape ++ '"' :: rest) = some (cs.map piece, rest)
  := by
  induction cs with
  | nil => rfl
  | cons c cs ih =>
    rw [List.flatMap_cons, List.append_assoc, pieces?_escape, ih]
    rfl

/-- The parts as which characters are read stand for these. -/
theorem characters?_pieces (cs : List Char) :
  characters? (cs.map piece) = some cs
  := by
  induction cs with
  | nil => rfl
  | cons c cs ih =>
    rw [List.map_cons, piece]
    split
    next h =>
      have hcode : c.toNat < 0x20 := h.1
      rw [characters?.eq_def]
      simp only
      rw [if_neg (by omega), if_neg (by omega), ih, Option.map_some, Char.ofNat_toNat]
    next h => rw [characters?, ih, Option.map_some]

/-- A string is written as one token. -/
theorem token?_writeText (s : String) (rest : List Char) :
  token? ((writeText s).toList ++ rest) = some (.string (some s), rest)
  := by
  rw [writeText, String.toList_ofList, List.cons_append, List.append_assoc, List.singleton_append,
    token?, pieces?_escapes]
  simp only [Option.bind_eq_bind, Option.bind_some, characters?_pieces, Option.map_some,
    String.ofList_toList]
  rfl

/-! ### Numbers -/

/-- No number goes on with the first of the characters. -/
def Stops (cs : List Char) : Prop :=
  ∀ c ∈ cs.head?, c.isDigit = false ∧ c ≠ '.' ∧ c ≠ 'e' ∧ c ≠ 'E'

theorem stops_nil :
  Stops []
  := by
  intro c hc
  cases hc

theorem stops_cons {c : Char} (hc : c.isDigit = false ∧ c ≠ '.' ∧ c ≠ 'e' ∧ c ≠ 'E')
    (cs : List Char) :
  Stops (c :: cs)
  := by
  intro d hd
  cases hd
  exact hc

section Numbers

variable {rest : List Char}

/-- The digits at the start are the same in front of a text with which no number goes on. -/
theorem digits?_append (hrest : Stops rest) {cs ds left : List Char}
    (h : digits? cs = some (ds, left)) :
  digits? (cs ++ rest) = some (ds, left ++ rest)
  := by
  have hstop : rest.takeWhile Char.isDigit = [] ∧ rest.dropWhile Char.isDigit = rest := by
    cases rest with
    | nil => exact ⟨rfl, rfl⟩
    | cons c rest =>
      have hc : ¬ c.isDigit := by simp [(hrest c rfl).1]
      exact ⟨List.takeWhile_cons_of_neg hc, List.dropWhile_cons_of_neg hc⟩
  have hspan : ∀ l : List Char, (l ++ rest).takeWhile Char.isDigit = l.takeWhile Char.isDigit
      ∧ (l ++ rest).dropWhile Char.isDigit = l.dropWhile Char.isDigit ++ rest := by
    intro l
    induction l with
    | nil => exact hstop
    | cons c l ih =>
      rw [List.cons_append, List.takeWhile_cons, List.takeWhile_cons, List.dropWhile_cons,
        List.dropWhile_cons, ih.1, ih.2]
      split <;> exact ⟨rfl, rfl⟩
  rw [digits?] at h ⊢
  simp only [(hspan cs).1, (hspan cs).2]
  split at h
  · cases h
  next hds =>
    cases h
    rw [if_neg hds]

/-- The places behind a point are the same in front of such a text. -/
theorem places?_append (hrest : Stops rest) {cs left : List Char} {p : Option (List Char)}
    (h : places? cs = some (p, left)) :
  places? (cs ++ rest) = some (p, left ++ rest)
  := by
  unfold places? at h
  split at h
  next cs =>
    obtain ⟨⟨ds, left'⟩, hds, heq⟩ := Option.map_eq_some_iff.1 h
    cases heq
    rw [List.cons_append, places?, digits?_append hrest hds, Option.map_some]
  next hpoint =>
    cases h
    cases cs with
    | nil =>
      rw [List.nil_append, places?]
      intro cs hcs
      apply (hrest '.' (by rw [hcs]; rfl)).2.1 rfl
    | cons c cs =>
      rw [List.cons_append, places?]
      intro cs' hcs
      cases hcs
      apply hpoint _ rfl

/-- The sign is that of the first of several texts, if this is not empty. -/
theorem splitSign_append {cs : List Char} (hcs : cs ≠ []) (rest : List Char) :
  Decimal.splitSign (cs ++ rest)
    = ((Decimal.splitSign cs).1, (Decimal.splitSign cs).2 ++ rest)
  := by
  unfold Decimal.splitSign
  cases cs with
  | nil => cases hcs rfl
  | cons c cs =>
    by_cases hminus : c = '-'
    · subst c
      rfl
    by_cases hplus : c = '+'
    · subst c
      rfl
    simp [hminus, hplus]

/-- The exponent is the same in front of such a text. -/
theorem exponent?_append (hrest : Stops rest) {cs left : List Char} {e : Option Int}
    (h : exponent? cs = some (e, left)) :
  exponent? (cs ++ rest) = some (e, left ++ rest)
  := by
  cases cs with
  | nil =>
    cases h
    cases rest with
    | nil => rfl
    | cons c rest =>
      obtain ⟨-, -, he, hE⟩ := hrest c rfl
      rw [List.nil_append, exponent?, if_neg (by simp [he, hE])]
  | cons c cs =>
    rw [exponent?] at h
    rw [List.cons_append, exponent?]
    split at h
    next hmark =>
      rw [if_pos hmark]
      simp only [Option.bind_eq_bind, Option.bind_eq_some_iff] at h
      obtain ⟨⟨ds, left'⟩, hds, heq⟩ := h
      have hne : cs ≠ [] := by
        rintro rfl
        cases hds
      simp only [splitSign_append hne, Option.bind_eq_bind, digits?_append hrest hds,
        Option.bind_some]
      cases heq
      rfl
    next hmark =>
      cases h
      rw [if_neg hmark, List.cons_append]

/-- A number without its sign, and what follows it. -/
def unsigned? (negative : Bool) (cs : List Char) : Option (Numeral × List Char) := do
  let (whole, cs) ← digits? cs
  if whole.head? = some '0' ∧ whole.length ≠ 1 then none
  else
    let (places, cs) ← places? cs
    let (exponent, cs) ← exponent? cs
    return (⟨negative, whole, places, exponent⟩, cs)

theorem numeral?_minus (cs : List Char) : numeral? ('-' :: cs) = unsigned? true cs := rfl

theorem numeral?_of_ne {c : Char} (hc : c ≠ '-') (cs : List Char) :
  numeral? (c :: cs) = unsigned? false (c :: cs)
  := by
  unfold numeral?
  split
  next heq =>
    split at heq
    next h =>
      cases h
      cases hc rfl
    next =>
      cases heq
      rfl

/-- A number without its sign is the same in front of such a text. -/
theorem unsigned?_append (hrest : Stops rest) {negative : Bool} {cs left : List Char}
    {x : Numeral} (h : unsigned? negative cs = some (x, left)) :
  unsigned? negative (cs ++ rest) = some (x, left ++ rest)
  := by
  obtain ⟨⟨whole, cs₁⟩, hwhole, h⟩ := Option.bind_eq_some_iff.1 h
  simp only at h
  split at h
  · cases h
  next hzero =>
    obtain ⟨⟨places, cs₂⟩, hplaces, h⟩ := Option.bind_eq_some_iff.1 h
    obtain ⟨⟨exponent, cs₃⟩, hexponent, heq⟩ := Option.bind_eq_some_iff.1 h
    cases heq
    simp only [unsigned?, Option.bind_eq_bind, digits?_append hrest hwhole, Option.bind_some,
      places?_append hrest hplaces, exponent?_append hrest hexponent]
    rw [if_neg hzero]
    rfl

/-- A number is the same in front of such a text. -/
theorem numeral?_append (hrest : Stops rest) {cs left : List Char} {x : Numeral}
    (h : numeral? cs = some (x, left)) :
  numeral? (cs ++ rest) = some (x, left ++ rest)
  := by
  cases cs with
  | nil => cases h
  | cons c cs =>
    by_cases hminus : c = '-'
    · subst c
      rw [numeral?_minus] at h
      rw [List.cons_append, numeral?_minus, unsigned?_append hrest h]
    · rw [numeral?_of_ne hminus] at h
      rw [List.cons_append, numeral?_of_ne hminus, ← List.cons_append, unsigned?_append hrest h]

/-- A text that starts with a sign or a digit starts with a number. -/
theorem token?_of_numeral {c : Char} (hc : c = '-' ∨ c.isDigit = true) (cs : List Char) :
  token? (c :: cs) = (numeral? (c :: cs)).map fun p => (.scalar p.1.value?, p.2)
  := by
  rw [token?]
  all_goals
    intro rest h
    cases List.head_eq_of_cons_eq h
    revert hc
    decide

/-- A number starts with a sign or a digit. -/
theorem head_of_numeral? {cs left : List Char} {x : Numeral} (h : numeral? cs = some (x, left)) :
  ∃ c ∈ cs.head?, c = '-' ∨ c.isDigit = true
  := by
  cases cs with
  | nil => cases h
  | cons c cs =>
    use c, rfl
    by_cases hminus : c = '-'
    · left
      exact hminus
    · right
      rw [numeral?_of_ne hminus] at h
      obtain ⟨⟨ds, left'⟩, hds, -⟩ := Option.bind_eq_some_iff.1 h
      by_contra hc
      rw [digits?, List.takeWhile_cons_of_neg hc] at hds
      cases hds

/-- A number is one token, if no number goes on with what follows. -/
theorem token?_of_numeral? (hrest : Stops rest) {cs : List Char} {x : Numeral}
    (h : numeral? cs = some (x, [])) :
  token? (cs ++ rest) = some (.scalar x.value?, rest)
  := by
  have happend := numeral?_append hrest h
  obtain ⟨c, hhead, hc⟩ := head_of_numeral? h
  cases cs with
  | nil => cases hhead
  | cons d cs =>
    cases hhead
    rw [List.cons_append] at happend ⊢
    rw [token?_of_numeral hc, happend]
    rfl

/-- The token that is written for a finite number is that number again. -/
def Exact (x : Float) : Prop :=
  token? (writeFloat x).toList = some (.scalar (some (.float x)), [])

instance (x : Float) : Decidable (Exact x) := inferInstanceAs (Decidable (_ = _))

/-- A token that is a number with a point or an exponent is written as a numeral. -/
theorem numeral?_of_token? {cs left : List Char} {x : Float}
    (h : token? cs = some (.scalar (some (.float x)), left)) :
  ∃ n, numeral? cs = some (n, left) ∧ n.value? = some (.float x)
  := by
  unfold token? at h
  split at h
  case h_7 =>
    obtain ⟨p, -, hp⟩ := Option.bind_eq_some_iff.1 h
    cases hp
  case h_11 =>
    obtain ⟨⟨n, rest⟩, hn, heq⟩ := Option.map_eq_some_iff.1 h
    obtain ⟨hvalue, rfl⟩ := Prod.mk.inj heq
    exact ⟨n, hn, Token.scalar.inj hvalue⟩
  all_goals cases h

/-- The digits of a natural number are read as a number without places and exponent. -/
theorem unsigned?_toDigits (negative : Bool) (n : Nat) :
  unsigned? negative (Nat.toDigits 10 n) = some (⟨negative, Nat.toDigits 10 n, none, none⟩, [])
  := by
  have hdigits : digits? (Nat.toDigits 10 n) = some (Nat.toDigits 10 n, []) := by
    have hall := Decimal.all_toDigits n
    rw [digits?, List.takeWhile_eq_self_iff.2 hall, List.dropWhile_eq_nil_iff.2 hall]
    simp
  have hzero : ¬ ((Nat.toDigits 10 n).head? = some '0' ∧ (Nat.toDigits 10 n).length ≠ 1) := by
    rintro ⟨hhead, hlength⟩
    apply hlength (Decimal.length_toDigits_of_head? hhead)
  rw [unsigned?, hdigits]
  simp only [Option.bind_eq_bind, Option.bind_some]
  rw [if_neg hzero]
  rfl

/-- The least integer of 64 bits. -/
theorem minValue_toInt : Int64.minValue.toInt = -0x8000000000000000 := by decide

/-- The digits of an integer of 64 bits are read as that integer. -/
theorem value?_toDigits {n : Int} (hmin : Int64.minValue.toInt ≤ n) (hmax : n < wordSize) :
  (⟨n < 0, Nat.toDigits 10 n.natAbs, none, none⟩ : Numeral).value? = some (.int n)
  := by
  have hinteger :
      (⟨n < 0, Nat.toDigits 10 n.natAbs, none, none⟩ : Numeral).integer? = some n := by
    rw [minValue_toInt] at hmin
    rw [Numeral.integer?, Decimal.natOfDigits_toDigits, minValue_toInt]
    simp only [Option.isSome_none, Bool.false_eq_true, or_self, if_false]
    by_cases hn : n < 0
    · have hpos : 0 < (n.natAbs : Int) := by omega
      have hneg : -(n.natAbs : Int) = n := by omega
      rw [decide_eq_true hn, if_pos rfl, hneg, if_pos ⟨hpos, hmin⟩]
    · have hpos : (n.natAbs : Int) = n := by omega
      rw [decide_eq_false hn, if_neg Bool.false_ne_true, hpos, if_pos hmax]
  rw [Numeral.value?, hinteger]

/-- An integer of 64 bits, with or without a sign, is written as a number that is read as
that integer. -/
theorem numeral?_toString {n : Int} (hmin : Int64.minValue.toInt ≤ n) (hmax : n < wordSize) :
  ∃ x, numeral? (toString n).toList = some (x, []) ∧ x.value? = some (.int n)
  := by
  refine ⟨_, ?_, value?_toDigits hmin hmax⟩
  rw [Decimal.toList_toString]
  by_cases hn : n < 0
  · rw [if_pos hn, List.singleton_append, numeral?_minus, unsigned?_toDigits, decide_eq_true hn]
  · rw [if_neg hn, List.nil_append, decide_eq_false hn]
    cases hdigits : Nat.toDigits 10 n.natAbs with
    | nil => cases Nat.toDigits_ne_nil hdigits
    | cons c cs =>
      have hc : c ≠ '-' := by
        rintro rfl
        have hdigit : '-' ∈ Nat.toDigits 10 n.natAbs := by
          rw [hdigits]
          apply List.mem_cons_self
        cases Decimal.isDigit_of_mem_toDigits hdigit
      rw [numeral?_of_ne hc, ← hdigits, unsigned?_toDigits]

end Numbers

end Servo.Json
