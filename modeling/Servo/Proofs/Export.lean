import Servo.Export
import Servo.Proofs.Decimal.Display
import Servo.Proofs.Simulation.Labels

/-!
# Exported tables are read back

A table is taken apart into its `lines`, and these into their `cells`.  `isTable_table_iff` says
that a table of samples is read back as these samples exactly if no label has a comma or a line
break, for nothing in a table is quoted, and `IsTable.unique` that it is a table of no others.
-/

namespace Servo

namespace Export

/-! ### Lines and cells -/

/-- The lines of a text.  Behind the last line break there is another one, which may be empty. -/
def lines (text : String) : List String := (text.toList.splitOn '\n').map String.ofList

/-- The cells of a line. -/
def cells (line : String) : List String := (line.toList.splitOn ',').map String.ofList

/-- The text has no comma and no line break. -/
structure Plain (text : String) : Prop where
  comma : ',' ∉ text.toList
  lineBreak : '\n' ∉ text.toList

instance (text : String) : Decidable (Plain text) :=
  decidable_of_iff (',' ∉ text.toList ∧ '\n' ∉ text.toList)
    ⟨fun h => ⟨h.1, h.2⟩, fun h => ⟨h.comma, h.lineBreak⟩⟩

/-- Texts one behind the other are plain if each of them is. -/
theorem plain_append_iff {s t : String} :
  Plain (s ++ t) ↔ Plain s ∧ Plain t
  := by
  have hmem : ∀ c, c ∈ (s ++ t).toList ↔ c ∈ s.toList ∨ c ∈ t.toList := by
    intro c
    rw [String.toList_append, List.mem_append]
  constructor
  · rintro ⟨hcomma, hbreak⟩
    rw [hmem, not_or] at hcomma hbreak
    exact ⟨⟨hcomma.1, hbreak.1⟩, ⟨hcomma.2, hbreak.2⟩⟩
  · rintro ⟨hs, ht⟩
    constructor
    case comma => rw [hmem, not_or]; exact ⟨hs.comma, ht.comma⟩
    case lineBreak => rw [hmem, not_or]; exact ⟨hs.lineBreak, ht.lineBreak⟩

/-- A piece between two separators has no separator, and what it has stands in the whole. -/
theorem of_mem_splitOn {α : Type} [DecidableEq α] {a : α} {xs piece : List α}
    (h : piece ∈ xs.splitOn a) :
  a ∉ piece ∧ piece ⊆ xs
  := by
  induction xs generalizing piece with
  | nil =>
    rw [List.splitOn_nil, List.mem_singleton] at h
    rw [h]
    exact ⟨List.not_mem_nil, List.Subset.refl _⟩
  | cons x rest ih =>
    rw [List.splitOn_cons_eq_if_modifyHead] at h
    obtain ⟨head, tail, hsplit⟩ := List.exists_cons_of_ne_nil (List.splitOn_ne_nil a rest)
    split at h
    next =>
      rcases List.mem_cons.1 h with rfl | h
      · exact ⟨List.not_mem_nil, List.nil_subset _⟩
      · exact ⟨(ih h).1, List.subset_cons_of_subset x (ih h).2⟩
    next hx =>
      rw [hsplit] at h ih
      rcases List.mem_cons.1 h with rfl | h
      · obtain ⟨hseparator, hsub⟩ := ih List.mem_cons_self
        refine ⟨?_, List.cons_subset_cons x hsub⟩
        rw [List.mem_cons, not_or]
        refine ⟨?_, hseparator⟩
        rintro rfl
        simp at hx
      · obtain ⟨hseparator, hsub⟩ := ih (List.mem_cons_of_mem _ h)
        exact ⟨hseparator, List.subset_cons_of_subset x hsub⟩

/-- A line before the others. -/
theorem lines_append {row rest : String} (h : '\n' ∉ row.toList) :
  lines (row ++ "\n" ++ rest) = row :: lines rest
  := by
  have hbreak : "\n".toList = ['\n'] := rfl
  rw [lines, String.toList_append, String.toList_append, hbreak, List.append_assoc,
    List.singleton_append, List.splitOn_append_cons_self_of_not_mem h, List.map_cons,
    String.ofList_toList]
  rfl

/-- Texts without commas are the cells of the line that they make. -/
theorem cells_intercalate {cs : List String} (h : ∀ c ∈ cs, ',' ∉ c.toList) (hne : cs ≠ []) :
  cells (",".intercalate cs) = cs
  := by
  have hcomma : ",".toList = [','] := rfl
  rw [cells, String.toList_intercalate, hcomma, List.splitOn_intercalate, List.map_map]
  · simp
  · simpa using h
  · simpa using hne

/-- A character that is in none of the cells and does not separate them is not in their line. -/
theorem not_mem_intercalate {c : Char} {separator : String} (hc : c ∉ separator.toList)
    {cs : List String} (h : ∀ t ∈ cs, c ∉ t.toList) :
  c ∉ (separator.intercalate cs).toList
  := by
  induction cs with
  | nil => simp
  | cons t rest ih =>
    obtain ⟨ht, hrest⟩ := List.forall_mem_cons.1 h
    cases rest with
    | nil =>
      rw [String.intercalate_singleton]
      apply ht
    | cons t' rest =>
      rw [String.intercalate_cons_cons, String.toList_append, String.toList_append,
        List.mem_append, List.mem_append, not_or, not_or]
      exact ⟨⟨ht, hc⟩, ih hrest⟩

/-- A cell of a line of a text is plain. -/
theorem plain_of_mem_cells {text row cell : String} (hrow : row ∈ lines text)
    (hcell : cell ∈ cells row) :
  Plain cell
  := by
  obtain ⟨line, hline, rfl⟩ := List.mem_map.1 hrow
  obtain ⟨piece, hpiece, rfl⟩ := List.mem_map.1 hcell
  rw [String.toList_ofList] at hpiece
  obtain ⟨hcomma, hsub⟩ := of_mem_splitOn hpiece
  constructor
  case comma =>
    rw [String.toList_ofList]
    apply hcomma
  case lineBreak =>
    rw [String.toList_ofList]
    apply mt (@hsub _) (of_mem_splitOn hline).1

/-! ### Reading a table -/

/-- A cell holds a number, or none if it is empty. -/
structure Holds (cell : String) (x : Option Float) : Prop where
  empty : cell = "" ↔ x = none
  value : ∀ v, x = some v → Decimal.readFloat? cell = some v

/-- The five cells of a line tell a sample. -/
def Tells (row : String) (s : Sample) : Prop :=
  ∃ time velocity velocityCommand forceCommand,
    cells row = [time, s.joint, velocity, velocityCommand, forceCommand]
      ∧ Decimal.readFloat? time = some s.time ∧ Holds velocity s.velocity
      ∧ Holds velocityCommand s.velocityCommand ∧ Holds forceCommand s.forceCommand

/-- The text is a table of samples: behind the titles of the cells it has one line for each sample,
and no others. -/
def IsTable (text : String) (samples : List Sample) : Prop :=
  ∃ rows, lines text = "time_s,joint,velocity,velocity_cmd,force_cmd" :: rows ++ [""]
    ∧ List.Forall₂ Tells rows samples

/-- A cell holds one number at most. -/
theorem Holds.unique {cell : String} {x y : Option Float} (hx : Holds cell x)
    (hy : Holds cell y) :
  x = y
  := by
  cases x with
  | none => rw [hy.empty.1 (hx.empty.2 rfl)]
  | some v =>
    cases y with
    | none => cases hx.empty.1 (hy.empty.2 rfl)
    | some v' => rw [← hx.value v rfl, ← hy.value v' rfl]

/-- A line tells one sample at most. -/
theorem Tells.unique {row : String} {s t : Sample} (hs : Tells row s) (ht : Tells row t) :
  s = t
  := by
  obtain ⟨time, velocity, velocityCommand, forceCommand, hcells, htime, hv, hvc, hfc⟩ := hs
  obtain ⟨time', velocity', velocityCommand', forceCommand', hcells', htime', hv', hvc', hfc'⟩ := ht
  rw [hcells] at hcells'
  simp only [List.cons.injEq, and_true] at hcells'
  obtain ⟨rfl, hjoint, rfl, rfl, rfl⟩ := hcells'
  rw [htime] at htime'
  cases s with
  | mk => cases t with
    | mk =>
      cases hv.unique hv'
      cases hvc.unique hvc'
      cases hfc.unique hfc'
      cases hjoint
      cases htime'
      rfl

/-- A text is a table of one list of samples at most. -/
theorem IsTable.unique {text : String} {samples samples' : List Sample}
    (h : IsTable text samples) (h' : IsTable text samples') :
  samples = samples'
  := by
  obtain ⟨rows, hlines, hrows⟩ := h
  obtain ⟨rows', hlines', hrows'⟩ := h'
  rw [hlines] at hlines'
  obtain rfl := List.append_cancel_right (List.cons_inj_right _ |>.1 hlines')
  apply List.right_unique_forall₂' (fun _ _ _ hs ht => hs.unique ht) hrows hrows'

/-- The labels of the samples in a table are plain. -/
theorem IsTable.plain {text : String} {samples : List Sample} (h : IsTable text samples) :
  ∀ s ∈ samples, Plain s.joint
  := by
  obtain ⟨rows, hlines, hrows⟩ := h
  obtain ⟨hlength, htells⟩ := List.forall₂_iff_get.1 hrows
  intro s hs
  obtain ⟨i, hi, rfl⟩ := List.mem_iff_getElem.1 hs
  have hrow : i < rows.length := by rwa [hlength]
  obtain ⟨time, velocity, velocityCommand, forceCommand, hcells, -⟩ := htells i hrow hi
  have hmem : rows[i] ∈ lines text := by
    rw [hlines]
    simp
  apply plain_of_mem_cells hmem
  rw [List.get_eq_getElem, List.get_eq_getElem] at hcells
  rw [hcells]
  simp

/-! ### Tables of samples -/

/-- A number is displayed without commas and line breaks. -/
theorem plain_message (x : Float) :
  Plain (Layout.message.write x)
  := by
  have hnumeric : ¬ IsNumeric ',' ∧ ¬ IsNumeric '\n' := by
    simp [IsNumeric, Char.isDigit]
  have hletters : ',' ∉ "NaNinf".toList ∧ '\n' ∉ "NaNinf".toList := by decide
  constructor
  case comma =>
    intro hc
    rcases mem_message hc with h | h
    · exact hnumeric.1 h
    · exact hletters.1 h
  case lineBreak =>
    intro hc
    rcases mem_message hc with h | h
    · exact hnumeric.2 h
    · exact hletters.2 h

theorem plain_cell (x : Option Float) :
  Plain (cell x)
  := by
  cases x with
  | none => exact ⟨List.not_mem_nil, List.not_mem_nil⟩
  | some v => apply plain_message

/-- The cell of a number holds it. -/
theorem holds_cell (x : Option Float) :
  Holds (cell x) x
  := by
  cases x with
  | none => exact ⟨⟨fun _ => rfl, fun _ => rfl⟩, nofun⟩
  | some v =>
    constructor
    case empty =>
      refine ⟨?_, nofun⟩
      intro hempty
      have hread : Decimal.readFloat? (cell (some v)) = some v := Decimal.readFloat?_message v
      rw [hempty] at hread
      cases hread
    case value =>
      rintro v' ⟨⟩
      apply Decimal.readFloat?_message

/-- The cells of a sample. -/
def cellsOf (s : Sample) : List String :=
  [Layout.message.write s.time, s.joint, cell s.velocity, cell s.velocityCommand,
    cell s.forceCommand]

/-- The line of a sample without its end. -/
def row (s : Sample) : String := ",".intercalate (cellsOf s)

theorem plain_cellsOf {s : Sample} (h : Plain s.joint) :
  ∀ c ∈ cellsOf s, Plain c
  := by
  simp [cellsOf, h, plain_message, plain_cell]

/-- The line of a sample tells it if its label is plain. -/
theorem tells_row {s : Sample} (h : Plain s.joint) :
  Tells (row s) s
  := by
  refine ⟨_, _, _, _, ?_, Decimal.readFloat?_message s.time, holds_cell _, holds_cell _,
    holds_cell _⟩
  apply cells_intercalate (fun c hc => (plain_cellsOf h c hc).comma) (List.cons_ne_nil _ _)

/-- The line of a sample has no line break if its label is plain. -/
theorem lineBreak_row {s : Sample} (h : Plain s.joint) :
  '\n' ∉ (row s).toList
  := by
  apply not_mem_intercalate (by decide)
  intro c hc
  apply (plain_cellsOf h c hc).lineBreak

/-- The lines of a table are the titles and those of the samples, if the labels are plain. -/
theorem lines_table {samples : List Sample} (h : ∀ s ∈ samples, Plain s.joint) :
  lines (table samples)
    = "time_s,joint,velocity,velocity_cmd,force_cmd" :: samples.map row ++ [""]
  := by
  have hrest : lines (String.join (samples.map line)) = samples.map row ++ [""] := by
    induction samples with
    | nil => rfl
    | cons s rest ih =>
      obtain ⟨hs, hrest⟩ := List.forall_mem_cons.1 h
      have hline : line s = row s ++ "\n" := rfl
      rw [List.map_cons, String.join_cons, hline, lines_append (lineBreak_row hs), ih hrest]
      rfl
  have hheader : header = "time_s,joint,velocity,velocity_cmd,force_cmd" ++ "\n" := rfl
  rw [table, String.join_cons, hheader, lines_append (by decide), hrest]
  rfl

/-- The table of samples is a table of them exactly if their labels are plain. -/
theorem isTable_table_iff {samples : List Sample} :
  IsTable (table samples) samples ↔ ∀ s ∈ samples, Plain s.joint
  := by
  constructor
  · exact IsTable.plain
  · intro h
    refine ⟨samples.map row, lines_table h, ?_⟩
    rw [List.forall₂_map_left_iff, List.forall₂_same]
    intro s hs
    apply tells_row (h s hs)

/-- The text tells the samples: it is a table of them and of no others. -/
def Determines (text : String) (samples : List Sample) : Prop :=
  ∀ samples', IsTable text samples' ↔ samples' = samples

/-- The table of samples determines them exactly if their labels are plain. -/
theorem determines_table_iff {samples : List Sample} :
  Determines (table samples) samples ↔ ∀ label ∈ samples.map (·.joint), Plain label
  := by
  rw [List.forall_mem_map, ← isTable_table_iff]
  constructor
  · intro h
    apply (h samples).2 rfl
  · intro h samples'
    constructor
    · intro h'
      apply h'.unique h
    · rintro rfl
      exact h

/-- A label is plain if the names in it are. -/
theorem plain_label_iff {p : World.Model × World.Joint} :
  Plain (World.label p) ↔ Plain p.1.name ∧ Plain p.2.name
  := by
  have hslash : Plain "/" := by
    constructor
    case comma => decide
    case lineBreak => decide
  rw [World.label, plain_append_iff, plain_append_iff]
  simp only [hslash, and_true]

end Export

namespace Simulation

open Export

/-- The table of what a run of a world records determines the samples exactly if there is no comma
and no line break in the name of a joint or of a model with joints.  Then it has one line for the
titles and one for each sample, in order, and every line has five cells, which are read as the time,
the label and the three quantities of the sample; a cell is empty exactly if there is no number. -/
theorem table_of_run {w : World} (hw : w.fault? = none) :
  (Entity.capacity < w.size ∧ ofWorld w = .error (.store .exhausted))
    ∨ ∃ b, ofWorld w = .ok b ∧ ∀ y, b.simulation.Reaches y → ∀ o commands samples,
      (y.run o commands).result = .ok samples →
      (Determines (table samples) samples
        ↔ ∀ p ∈ w.joints, Plain p.1.name ∧ Plain p.2.name)
  := by
  rcases ofWorld_of_valid (World.fault?_eq_none_iff.1 hw) with hfull | ⟨b, hb⟩
  · exact .inl hfull
  · right
    obtain ⟨sites, cs, h⟩ := mirrors_of_ofWorld hb
    refine ⟨b, hb, ?_⟩
    intro y hy o commands samples hresult
    have hlaid := (h.laid hb).congr hy.outline
    obtain ⟨n, hpasses, -, hsamples⟩ := passes_of_run (fault?_of_run hresult) hresult
    have hlabels := hpasses.labels hlaid (le_of_mem_recorded o.recordEvery n)
    have hend := List.mem_of_getLast? (recorded_increasing o.recordEvery n).2
    calc Determines (table samples) samples
      _ ↔ ∀ label ∈ samples.map (·.joint), Plain label := determines_table_iff
      _ ↔ ∀ label ∈ w.labels, Plain label := by
        rw [hsamples, hlabels]
        constructor
        · intro hplain label hlabel
          apply hplain label (List.mem_flatMap.2 ⟨n, hend, hlabel⟩)
        · intro hplain label hlabel
          obtain ⟨k, -, hlabel⟩ := List.mem_flatMap.1 hlabel
          apply hplain label hlabel
      _ ↔ ∀ p ∈ w.joints, Plain p.1.name ∧ Plain p.2.name := by
        rw [World.labels, List.forall_mem_map]
        simp only [plain_label_iff]

/-- Slashes in the names do no harm to a table. -/
theorem table_of_run_forkedPaths :
  forkedPaths.fault? = none ∧ ∃ b, ofWorld forkedPaths = .ok b ∧ ∀ o commands samples,
    (b.simulation.run o commands).result = .ok samples → Determines (table samples) samples
  := by
  have hvalid : forkedPaths.fault? = none := by decide +kernel
  use hvalid
  rcases table_of_run hvalid with ⟨hfull, -⟩ | ⟨b, hb, hkept⟩
  · exact absurd hfull (by decide)
  · use b, hb
    intro o commands samples hsamples
    apply (hkept b.simulation .refl o commands samples hsamples).2
    decide

/-- A world in which there is a comma in the name of a joint. -/
def listedWheel : World where
  version := 1
  name := "road"
  models := [{ name := "cart", joints := [{ name := "left,front" }] }]

/-- A comma in a name is taken for one between cells: the line of a sample has six cells, so it
tells no sample. -/
theorem table_of_listedWheel :
  listedWheel.fault? = none ∧ ∃ b samples, ofWorld listedWheel = .ok b
    ∧ (b.simulation.run { dt := 0.5, maxSteps := 1 } []).result = .ok samples
    ∧ (lines (table samples)).map (fun row => (cells row).length) = [5, 6, 6, 1]
    ∧ ¬ Determines (table samples) samples
  := by
  have hruns : ((ofWorld listedWheel).toOption.bind fun b =>
      (b.simulation.run { dt := 0.5, maxSteps := 1 } []).result.toOption.map fun samples =>
        (samples.map (·.joint), (lines (table samples)).map fun row => (cells row).length))
      = some (["cart/left,front", "cart/left,front"], [5, 6, 6, 1]) := by
    decide +kernel
  obtain ⟨b, hb, hruns⟩ := Option.bind_eq_some_iff.1 hruns
  obtain ⟨samples, hsamples, htable⟩ := Option.map_eq_some_iff.1 hruns
  obtain ⟨hlabels, hcells⟩ := Prod.mk.inj htable
  refine ⟨by decide +kernel, b, samples, eq_ok_of_toOption hb, eq_ok_of_toOption hsamples, hcells,
    ?_⟩
  rw [determines_table_iff, hlabels]
  decide

end Simulation

end Servo
