import Servo.Json.Reader
import Servo.Proofs.Document.Embedding
import Servo.Proofs.Json.Token

/-!
# Reading what is written

`read?_writeIndented`: a tree that is written with a line for every value is read again,
with null in place of the numbers that are not finite.  The text of a tree is put together
from texts that each spell some tokens, `Spells`, and the tokens of a tree are parsed as
that tree.
-/

namespace Servo.Json

open Document

/-! ### Splitting into tokens -/

/-- The characters are the tokens, with white space around them. -/
inductive Splits : List Char → List Token → Prop where
  | done {cs : List Char} (h : cs.all isSpace) : Splits cs []
  | token (space : List Char) {cs rest : List Char} {t : Token} {ts : List Token}
      (hspace : ∀ c ∈ space, isSpace c = true) (htoken : token? (cs ++ rest) = some (t, rest))
      (hcs : ∃ c ∈ cs.head?, isSpace c = false) (hrest : Splits rest ts) :
      Splits (space ++ (cs ++ rest)) (t :: ts)

/-- Characters are split into the tokens that they are. -/
theorem tokens?_of_splits {cs : List Char} {ts : List Token} (h : Splits cs ts) {fuel : Nat}
    (hfuel : cs.length ≤ fuel) :
  tokens? fuel cs = some ts
  := by
  induction h generalizing fuel with
  | @done cs h =>
    cases fuel with
    | zero => rw [tokens?, if_pos h]
    | succ fuel => rw [tokens?, List.dropWhile_eq_nil_iff.2 (List.all_eq_true.1 h)]
  | @token space cs rest t ts hspace htoken hcs hrest ih =>
    obtain ⟨c, hhead, hc⟩ := hcs
    cases cs with
    | nil => cases hhead
    | cons d cs =>
      cases hhead
      simp only [List.length_append, List.length_cons] at hfuel
      cases fuel with
      | zero => omega
      | succ fuel =>
        have hdrop : (space ++ (c :: cs ++ rest)).dropWhile isSpace = c :: cs ++ rest := by
          rw [List.dropWhile_append_of_pos hspace, List.cons_append, List.dropWhile_cons_of_neg]
          simp [hc]
        have htokens : tokens? fuel rest = some ts := by
          apply ih
          omega
        rw [tokens?, hdrop]
        simp only [List.cons_append] at htoken ⊢
        rw [htoken]
        simp only [Option.bind_eq_bind, Option.bind_some, htokens]
        rfl

/-- In front of every text with the property `next`, the characters are the tokens. -/
def Spells (next : List Char → Prop) (cs : List Char) (ts : List Token) : Prop :=
  ∀ ⦃rest : List Char⦄ ⦃us : List Token⦄, next rest → Splits rest us →
    Splits (cs ++ rest) (ts ++ us)

/-- Every text. -/
def Anything (_ : List Char) : Prop := True

namespace Spells

variable {next : List Char → Prop}

theorem token {cs : List Char} {t : Token} (hcs : ∃ c ∈ cs.head?, isSpace c = false)
    (h : ∀ rest, next rest → token? (cs ++ rest) = some (t, rest)) :
  Spells next cs [t]
  := by
  intro rest us hnext hrest
  exact .token [] (by simp) (h rest hnext) hcs hrest

/-- White space spells nothing. -/
theorem space {cs : List Char} (h : ∀ c ∈ cs, isSpace c = true) :
  Spells next cs []
  := by
  intro rest us hnext hrest
  rw [List.nil_append]
  cases hrest with
  | done hall =>
    apply Splits.done
    rw [List.all_append, hall, List.all_eq_true.2 h]
    rfl
  | token _ hspace htoken hcs hrest =>
    rw [← List.append_assoc]
    refine .token _ ?_ htoken hcs hrest
    intro c hc
    rcases List.mem_append.1 hc with hc | hc
    · apply h c hc
    · apply hspace c hc

theorem append {first : List Char → Prop} {cs ds : List Char} {ts us : List Token}
    (hcs : Spells first cs ts) (hds : Spells next ds us)
    (h : ∀ rest, next rest → first (ds ++ rest)) :
  Spells next (cs ++ ds) (ts ++ us)
  := by
  intro rest vs hnext hrest
  rw [List.append_assoc, List.append_assoc]
  apply hcs (h rest hnext) (hds hnext hrest)

/-- What is spelled in front of every text is spelled in front of some. -/
theorem of_anything {cs : List Char} {ts : List Token} (h : Spells Anything cs ts) :
  Spells next cs ts
  := by
  intro rest us hnext hrest
  apply h trivial hrest

/-- Texts with commas between them spell their tokens with commas between them. -/
theorem intercalate {sep : String} (hsep : Spells Anything sep.toList [.comma])
    (hstops : ∀ rest, Stops (sep.toList ++ rest)) {parts : List (String × List Token)}
    (hparts : parts ≠ []) (h : ∀ p ∈ parts, Spells Stops p.1.toList p.2) :
  Spells Stops (sep.intercalate (parts.map Prod.fst)).toList
    ([Token.comma].intercalate (parts.map Prod.snd))
  := by
  rw [String.toList_intercalate, List.map_map]
  induction parts with
  | nil => cases hparts rfl
  | cons p parts ih =>
    obtain ⟨hp, hrest⟩ := List.forall_mem_cons.1 h
    cases parts with
    | nil =>
      rw [List.map_singleton, List.map_singleton, List.intercalate_singleton,
        List.intercalate_singleton]
      exact hp
    | cons q parts =>
      rw [List.map_cons, List.map_cons, List.map_cons, List.map_cons,
        List.intercalate_cons_cons, List.intercalate_cons_cons]
      have hspells := ih (by simp) hrest
      rw [List.map_cons, List.map_cons] at hspells
      refine append (append hp hsep ?_) hspells ?_
      · intro rest _
        apply hstops
      · intros
        trivial

end Spells

/-! ### Scalars -/

/-- A scalar that can be read as it is written: an integer has 64 bits, with or without a
sign, and a finite number is written exactly. -/
def Faithful : Scalar → Prop
  | .int n => Int64.minValue.toInt ≤ n ∧ n < wordSize
  | .float x => x.isFinite = true → Exact x
  | .null | .bool _ | .text _ => True

/-- The scalar is a text. -/
def IsText (a : Scalar) : Prop := ∃ s, a = .text s

/-- The scalar that is read for one that is written: a number that is not finite has become
null. -/
def written : Scalar → Option Scalar
  | .float x => some (if x.isFinite then .float x else .null)
  | a => some a

/-- The token of a scalar. -/
def tokenOf : Scalar → Token
  | .text s => .string (some s)
  | a => .scalar (written a)

/-- A string is spelled in front of every text. -/
theorem spells_writeText (s : String) :
  Spells Anything (writeText s).toList [.string (some s)]
  := by
  apply Spells.token
  · rw [writeText, String.toList_ofList]
    exact ⟨'"', rfl, by decide⟩
  · intro rest _
    apply token?_writeText

/-- A number is spelled in front of a text with which it does not go on. -/
theorem spells_numeral {cs : List Char} {x : Numeral} (h : numeral? cs = some (x, [])) :
  Spells Stops cs [.scalar x.value?]
  := by
  apply Spells.token
  · obtain ⟨c, hhead, hc⟩ := head_of_numeral? h
    refine ⟨c, hhead, ?_⟩
    cases hspace : isSpace c with
    | false => rfl
    | true =>
      simp only [isSpace, Bool.or_eq_true, decide_eq_true_eq, or_assoc] at hspace
      rcases hspace with rfl | rfl | rfl | rfl <;> revert hc <;> decide
  · intro rest hrest
    apply token?_of_numeral? hrest h

/-- Every scalar that can be read as it is written spells its token. -/
theorem spells_writeScalar {a : Scalar} (ha : Faithful a) :
  Spells Stops (writeScalar a).toList [tokenOf a]
  := by
  have hnull : Spells Stops "null".toList [.scalar (some .null)] :=
    .token ⟨'n', rfl, by decide⟩ fun rest _ => rfl
  cases a with
  | null => exact hnull
  | bool b =>
    cases b with
    | false => exact .token ⟨'f', rfl, by decide⟩ fun rest _ => rfl
    | true => exact .token ⟨'t', rfl, by decide⟩ fun rest _ => rfl
  | int n =>
    obtain ⟨x, hx, hvalue⟩ := numeral?_toString ha.1 ha.2
    have hspells := spells_numeral hx
    rw [hvalue] at hspells
    exact hspells
  | float x =>
    by_cases hx : x.isFinite = true
    · have htoken : tokenOf (.float x) = .scalar (some (.float x)) := by
        simp only [tokenOf, written, if_pos hx]
      obtain ⟨n, hn, hvalue⟩ := numeral?_of_token? (ha hx)
      rw [htoken, ← hvalue]
      apply spells_numeral hn
    · have htoken : tokenOf (.float x) = .scalar (some .null) := by
        simp only [tokenOf, written, if_neg hx]
      rw [htoken, writeScalar, writeFloat, if_neg hx]
      exact hnull
  | text s => apply (spells_writeText s).of_anything

/-! ### Trees -/

mutual

/-- The tokens of a tree. -/
def tokens : Document.Tree Scalar → List Token
  | .leaf a => [tokenOf a]
  | .list ts => .openList :: ([Token.comma].intercalate (tokensOfItems ts) ++ [.closeList])
  | .map ms => .openMap :: ([Token.comma].intercalate (tokensOfMembers ms) ++ [.closeMap])

/-- The tokens of each item of a list. -/
def tokensOfItems : List (Document.Tree Scalar) → List (List Token)
  | [] => []
  | t :: ts => tokens t :: tokensOfItems ts

/-- The tokens of each member of a map. -/
def tokensOfMembers : List (Scalar × Document.Tree Scalar) → List (List Token)
  | [] => []
  | (k, t) :: ms => (tokenOf k :: .colon :: tokens t) :: tokensOfMembers ms

end

theorem tokensOfItems_eq (ts : List (Document.Tree Scalar)) :
  tokensOfItems ts = ts.map tokens
  := by
  induction ts with
  | nil => rfl
  | cons t ts ih => rw [tokensOfItems, ih, List.map_cons]

/-- The tokens of a member of a map. -/
def tokensOfMember (m : Scalar × Document.Tree Scalar) : List Token :=
  tokenOf m.1 :: .colon :: tokens m.2

theorem tokensOfMembers_eq (ms : List (Scalar × Document.Tree Scalar)) :
  tokensOfMembers ms = ms.map tokensOfMember
  := by
  induction ms with
  | nil => rfl
  | cons m ms ih => rw [tokensOfMembers, ih, List.map_cons, tokensOfMember]

theorem writeItemsAt_eq (depth : Nat) (ts : List (Document.Tree Scalar)) :
  writeItemsAt depth ts = ts.map (writeAt depth)
  := by
  induction ts with
  | nil => rfl
  | cons t ts ih => rw [writeItemsAt, ih, List.map_cons]

theorem writeMembersAt_eq (depth : Nat) (ms : List (Scalar × Document.Tree Scalar)) :
  writeMembersAt depth ms = ms.map fun m => writeKey m.1 ++ ": " ++ writeAt depth m.2
  := by
  induction ms with
  | nil => rfl
  | cons m ms ih => rw [writeMembersAt, ih, List.map_cons]

/-- A new line spells nothing. -/
theorem spells_newLine (next : List Char → Prop) (depth : Nat) :
  Spells next (newLine depth).toList []
  := by
  apply Spells.space
  intro c hc
  rw [newLine, String.toList_ofList] at hc
  rcases List.mem_cons.1 hc with rfl | hc
  · decide
  · rw [List.eq_of_mem_replicate hc]
    decide

/-- A comma with a new line is a comma. -/
theorem spells_comma (depth : Nat) :
  Spells Anything ("," ++ newLine depth).toList [.comma]
  := by
  have hcomma : Spells Anything [','] [.comma] :=
    .token ⟨',', rfl, by decide⟩ fun rest _ => rfl
  rw [String.toList_append]
  apply hcomma.append (spells_newLine Anything depth)
  intros
  trivial

/-- Parts between brackets spell their tokens between those of the brackets. -/
theorem spells_bracketed (left right : String) {l r : Char} (opening closing : Token)
    (hleft : left.toList = [l]) (hl : ∀ rest, token? (l :: rest) = some (opening, rest))
    (hright : right.toList = [r]) (hr : ∀ rest, token? (r :: rest) = some (closing, rest))
    (hspace : isSpace l = false ∧ isSpace r = false) (depth : Nat)
    {parts : List (String × List Token)} (h : ∀ p ∈ parts, Spells Stops p.1.toList p.2) :
  Spells Anything (bracketed left right depth (parts.map Prod.fst)).toList
    (opening :: ([Token.comma].intercalate (parts.map Prod.snd) ++ [closing]))
  := by
  have hopen : Spells Anything left.toList [opening] := by
    rw [hleft]
    exact .token ⟨l, rfl, hspace.1⟩ fun rest _ => hl rest
  have hclose : Spells Anything right.toList [closing] := by
    rw [hright]
    exact .token ⟨r, rfl, hspace.2⟩ fun rest _ => hr rest
  by_cases hparts : parts = []
  · subst hparts
    have hspells := hopen.append hclose fun _ _ => trivial
    rw [← String.toList_append] at hspells
    exact hspells
  · have hcomma : ∀ rest, Stops (("," ++ newLine (depth + 1)).toList ++ rest) := by
      intro rest
      rw [String.toList_append]
      exact stops_cons (c := ',') (by decide) _
    have hend : ∀ rest, Anything rest →
        Stops ((newLine depth).toList ++ right.toList ++ rest) := by
      intro rest _
      rw [newLine, String.toList_ofList]
      exact stops_cons (c := '\n') (by decide) _
    have hitems := Spells.intercalate (spells_comma (depth + 1)) hcomma hparts h
    have hline := (spells_newLine Anything depth).append hclose fun _ _ => trivial
    have hspells := (hopen.append (spells_newLine Anything (depth + 1)) fun _ _ => trivial).append
      (hitems.append hline hend) fun _ _ => trivial
    simpa [bracketed, hparts] using hspells

/-- A tree that can be read as it is written spells its tokens. -/
theorem spells_writeAt {t : Document.Tree Scalar} (ht : t.All Faithful IsText) (depth : Nat) :
  Spells Stops (writeAt depth t).toList (tokens t)
  := by
  induction t generalizing depth with
  | leaf a => apply spells_writeScalar ht
  | list ts ih =>
    rw [Tree.all_list_iff] at ht
    have hitems : ∀ p ∈ ts.map (fun t => (writeAt (depth + 1) t, tokens t)),
        Spells Stops p.1.toList p.2 := by
      intro p hp
      obtain ⟨t, hmem, rfl⟩ := List.mem_map.1 hp
      apply ih t hmem (ht t hmem)
    have hspells := spells_bracketed "[" "]" .openList .closeList rfl (fun _ => rfl) rfl
      (fun _ => rfl) (by decide) depth hitems
    rw [List.map_map, List.map_map] at hspells
    rw [writeAt, writeItemsAt_eq, tokens, tokensOfItems_eq]
    apply hspells.of_anything
  | map ms ih =>
    rw [Tree.all_map_iff] at ht
    have hmembers : ∀ p ∈ ms.map (fun m => (writeKey m.1 ++ ": " ++ writeAt (depth + 1) m.2,
        tokensOfMember m)), Spells Stops p.1.toList p.2 := by
      intro p hp
      obtain ⟨⟨key, t⟩, hmem, rfl⟩ := List.mem_map.1 hp
      obtain ⟨⟨s, rfl⟩, ht⟩ := ht _ hmem
      have hcolon : Spells Anything [':'] [.colon] :=
        .token ⟨':', rfl, by decide⟩ fun rest _ => rfl
      have hblank : Spells Anything [' '] [] := .space (List.forall_mem_singleton.2 rfl)
      have htext : ": ".toList = [':'] ++ [' '] := rfl
      have hmark : Spells Anything ": ".toList [.colon] := by
        rw [htext]
        exact hcolon.append hblank fun _ _ => trivial
      have hmember := ((spells_writeText s).append hmark fun _ _ => trivial).append
        (ih _ hmem ht (depth + 1)) fun _ _ => trivial
      rw [← String.toList_append, ← String.toList_append] at hmember
      exact hmember
    have hspells := spells_bracketed "\x7b" "\x7d" .openMap .closeMap rfl (fun _ => rfl) rfl
      (fun _ => rfl) (by decide) depth hmembers
    rw [List.map_map, List.map_map] at hspells
    rw [writeAt, writeMembersAt_eq, tokens, tokensOfMembers_eq]
    apply hspells.of_anything

/-! ### Parsing -/

/-- With two steps for every token, the tokens of a tree are read as that tree with null in
place of the numbers that are not finite. -/
def Parses (t : Document.Tree Scalar) : Prop :=
  ∀ (fuel : Nat) (rest : List Token), 2 * (tokens t).length ≤ fuel →
    node? fuel (tokens t ++ rest) = some (t.relabel written, rest)

/-- The items of a list are read up to its end. -/
theorem items?_tokens {ts : List (Document.Tree Scalar)} (hts : ts ≠ [])
    (h : ∀ t ∈ ts, Parses t) (fuel : Nat) (rest : List Token)
    (hfuel : 2 * ([Token.comma].intercalate (ts.map tokens)).length + 1 ≤ fuel) :
  items? fuel ([Token.comma].intercalate (ts.map tokens) ++ .closeList :: rest)
    = some (ts.map (Tree.relabel written), rest)
  := by
  induction ts generalizing fuel with
  | nil => cases hts rfl
  | cons t ts ih =>
    obtain ⟨ht, hrest⟩ := List.forall_mem_cons.1 h
    cases fuel with
    | zero => omega
    | succ fuel =>
      cases ts with
      | nil =>
        rw [List.map_singleton, List.intercalate_singleton] at hfuel ⊢
        rw [items?, ht fuel _ (by omega)]
        rfl
      | cons u us =>
        rw [List.map_cons, List.map_cons, List.intercalate_cons_cons, ← List.map_cons] at hfuel ⊢
        simp only [List.length_append, List.length_singleton] at hfuel
        have hitems := ih (by simp) hrest fuel (by omega)
        rw [List.append_assoc, List.append_assoc, List.singleton_append, items?,
          ht fuel _ (by omega)]
        simp only [Option.bind_eq_bind, Option.bind_some, hitems]
        rfl

/-- The members of a map are read up to its end. -/
theorem members?_tokens {ms : List (Scalar × Document.Tree Scalar)} (hms : ms ≠ [])
    (h : ∀ m ∈ ms, IsText m.1 ∧ Parses m.2) (fuel : Nat) (rest : List Token)
    (hfuel : 2 * ([Token.comma].intercalate (ms.map tokensOfMember)).length + 1 ≤ fuel) :
  members? fuel ([Token.comma].intercalate (ms.map tokensOfMember) ++ .closeMap :: rest)
    = some (ms.map fun m => (written m.1, m.2.relabel written), rest)
  := by
  induction ms generalizing fuel with
  | nil => cases hms rfl
  | cons m ms ih =>
    obtain ⟨⟨⟨s, hs⟩, hm⟩, hrest⟩ := List.forall_mem_cons.1 h
    have hmember : tokensOfMember m = .string (some s) :: .colon :: tokens m.2 := by
      rw [tokensOfMember, hs]
      rfl
    cases fuel with
    | zero => omega
    | succ fuel =>
      cases ms with
      | nil =>
        rw [List.map_singleton, List.intercalate_singleton, hmember] at hfuel ⊢
        simp only [List.length_cons] at hfuel
        rw [List.cons_append, List.cons_append, members?, hm fuel _ (by omega),
          List.map_singleton, hs]
        rfl
      | cons n ns =>
        rw [List.map_cons, List.map_cons, List.intercalate_cons_cons, ← List.map_cons, hmember]
          at hfuel ⊢
        simp only [List.length_append, List.length_cons, List.length_nil] at hfuel
        have hmembers := ih (by simp) hrest fuel (by omega)
        rw [List.append_assoc, List.append_assoc, List.singleton_append, List.cons_append,
          List.cons_append, members?, hm fuel _ (by omega)]
        simp only [Option.bind_eq_bind, Option.bind_some, hmembers]
        simp only [List.map_cons, hs]
        rfl

/-- No item starts with a closing bracket. -/
theorem items?_closeList (fuel : Nat) (ts : List Token) :
  items? fuel (.closeList :: ts) = none
  := by
  rcases fuel with _ | _ | fuel <;> rfl

theorem members?_closeMap (fuel : Nat) (ts : List Token) :
  members? fuel (.closeMap :: ts) = none
  := by
  cases fuel <;> rfl

/-- A tree whose keys are texts is read from its tokens. -/
theorem parses {P : Scalar → Prop} {t : Document.Tree Scalar} (ht : t.All P IsText) :
  Parses t
  := by
  induction t with
  | leaf a =>
    intro fuel rest hfuel
    cases fuel with
    | zero => simp [tokens] at hfuel
    | succ fuel => cases a <;> rfl
  | list ts ih =>
    rw [Tree.all_list_iff] at ht
    intro fuel rest hfuel
    rw [tokens, tokensOfItems_eq, List.cons_append, List.append_assoc, List.singleton_append,
      Tree.relabel_list]
    simp only [tokens, tokensOfItems_eq, List.length_cons, List.length_append,
      List.length_nil] at hfuel
    cases fuel with
    | zero => omega
    | succ fuel =>
      by_cases hts : ts = []
      · subst hts
        rfl
      · have hitems := items?_tokens hts (fun t hmem => ih t hmem (ht t hmem)) fuel rest (by omega)
        rw [node?, hitems]
        · rfl
        · intro us hclosing
          rw [hclosing, items?_closeList] at hitems
          cases hitems
  | map ms ih =>
    rw [Tree.all_map_iff] at ht
    intro fuel rest hfuel
    rw [tokens, tokensOfMembers_eq, List.cons_append, List.append_assoc, List.singleton_append,
      Tree.relabel_map]
    simp only [tokens, tokensOfMembers_eq, List.length_cons, List.length_append,
      List.length_nil] at hfuel
    cases fuel with
    | zero => omega
    | succ fuel =>
      by_cases hms : ms = []
      · subst hms
        rfl
      · have hmembers := members?_tokens hms
          (fun m hmem => ⟨(ht m hmem).1, ih m hmem (ht m hmem).2⟩) fuel rest (by omega)
        rw [node?, hmembers]
        · rfl
        · intro us hclosing
          rw [hclosing, members?_closeMap] at hmembers
          cases hmembers

/-- A tree whose scalars can be read as they are written and whose keys are texts is read
again, with null in place of the numbers that are not finite. -/
theorem read?_writeIndented {t : Document.Tree Scalar} (ht : t.All Faithful IsText) :
  read? (writeIndented t) = some (t.relabel written)
  := by
  have hsplits : Splits ((writeIndented t).toList ++ []) (tokens t ++ []) :=
    spells_writeAt ht 0 stops_nil (.done rfl)
  have htokens : Token.ofChars? (writeIndented t).toList = some (tokens t) := by
    rw [List.append_nil, List.append_nil] at hsplits
    apply tokens?_of_splits hsplits (Nat.le_refl _)
  have hnode := parses ht (2 * (tokens t).length + 2) [] (by omega)
  rw [List.append_nil] at hnode
  rw [read?, htokens]
  simp only [Option.bind_eq_bind, Option.bind_some, hnode]
  rfl

/-! ### Reading scalars -/

/-- The dialect reads written texts, integers and truth values as what they were. -/
theorem carries_written :
  dialect.Carries written
  := by
  constructor
  case target => intro a; rfl
  case text => intro s; rfl
  case word => intro s; rfl
  case natural => intro n; rfl
  case bool => intro b; rfl
  case int =>
    intro n
    have hvalue : Scalar.value? (.int n.toInt) = some (.int n) := by
      rw [Scalar.value?, if_pos ⟨n.minValue_le_toInt, n.toInt_le⟩, Int64.ofInt_toInt]
    exact hvalue
  case string => intro s; rfl

/-- A finite number is kept. -/
theorem keeps_written {x : Float} (hx : x.isFinite = true) :
  dialect.Keeps written x
  := by
  have hwritten : written (.float x) = some (.float x) := by
    rw [written, if_pos hx]
  constructor
  case float => rw [hwritten]; rfl
  case present => rw [hwritten]; rfl
  case value => rw [hwritten]; rfl

/-- A number that is not finite is lost. -/
theorem loses_written {x : Float} (hx : ¬ x.isFinite = true) :
  dialect.Loses written x
  := by
  have hwritten : written (.float x) = some .null := by
    rw [written, if_neg hx]
  constructor
  case float => rw [hwritten]; rfl
  case value => rw [hwritten]; rfl

end Servo.Json
