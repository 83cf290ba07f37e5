import Servo.Proofs.Document.World
import Servo.Proofs.Json.Reading
import Servo.Proofs.World.Valid
import Servo.Proofs.Yaml.Reading
import Servo.World.File

/-!
# Files of worlds

What is saved is loaded again.  `save_yaml` says so for YAML files, given that the lists,
maps and scalars in a file are found as they were written; which kind a scalar is must still
be told from its text.  `save_json` says for JSON files that the world is loaded again
exactly if the numbers on which validity puts no bounds are finite: the others are written
as null, and a file with null in place of a number is no document of a world.
-/

namespace Servo.World

open Document

/-! ### Saving and loading -/

theorem fromUTF8?_toUTF8 (s : String) :
  String.fromUTF8? s.toUTF8 = some s
  := by
  rw [String.fromUTF8?, String.toUTF8_eq_toByteArray, dif_pos s.isValidUTF8]
  rfl

/-- What is loaded is what the text stands for, if that is a valid world. -/
theorem load_toUTF8 (f : Format) (text : String) :
  load f (some text.toUTF8) = match codec.parse? f text with
    | none => .error (.malformed f)
    | some w => w.check.mapError .invalid
  := by
  rw [load, Option.bind_some, fromUTF8?_toUTF8]
  simp only [parse, read]
  cases codec.parse? f text <;> rfl

/-- The numbers of a valid world that have bounds are finite. -/
theorem Valid.isFinite_of_mem_boundNumbers {w : World} (h : w.Valid) {x : Float}
    (hx : x ∈ w.boundNumbers) :
  x.isFinite = true
  := by
  simp only [boundNumbers, List.mem_append, List.mem_cons, List.not_mem_nil, or_false,
    List.mem_flatMap, List.mem_filterMap, List.mem_map] at hx
  rcases hx with (rfl | rfl) | ⟨m, hm, j, hj, hv⟩ | ⟨c, hc, rfl⟩
  · exact h.inertia.1
  · exact h.damping.1
  · exact (h.models m hm).joints j hj x hv
  · exact (h.commands c hc).finite

theorem check_of_fault? {w : World} (h : w.fault? = none) :
  w.check = .ok w
  := by rw [check, h]

/-- A world that passes the check is valid. -/
theorem valid_of_check {w : World} (h : w.check = .ok w) :
  w.Valid
  := by
  apply fault?_eq_none_iff.1
  rw [check] at h
  cases hfault : w.fault? with
  | none => rfl
  | some f => rw [hfault] at h; cases h

/-- A world with a joint at rest, one without a velocity, texts that look like other things,
and a command of some value. -/
def trial (value : Float) : World where
  version := 1
  name := "1"
  models := [{
    name := "m"
    joints := [{ name := "j", initialVelocity := some (-0.0) }, { name := "k" }]
    plugins := [{
      kind := .jointController
      params := .ofList [("a", .float 1), ("b", .text "true"), ("c", .int 1)] }] }]
  commands := [{ time := 0, topic := "/a", value }]

/-! ### YAML -/

/-- A world whose file is scanned as it was written is read again. -/
theorem ofYaml?_write {w : World} (hscan : Yaml.Scans w.toTree) :
  codec.ofYaml? (Yaml.write w.toTree) = some w
  := by
  obtain ⟨g, hg, hroot⟩ := Option.map_eq_some_iff.1 hscan
  have hcarries := Yaml.carries_written g
  have hspend : g.dialect.spend? codec.shape g.allowance g.root = some g.allowance := by
    rw [hroot]
    apply hcarries.spend?
  have hread : codec.read? g.dialect g.root = some w := by
    rw [hroot]
    apply ofTree?_toTree hcarries
    intro x _
    apply Yaml.keeps_written
  rw [Codec.ofYaml?, hg]
  simp only [Option.bind_eq_bind, Option.bind_some, hspend, hread]

/-- A world that is not valid is not saved, and the error is its fault.  A valid world is
saved in a file from which it is loaded again, if the lists, maps and scalars of the file
are scanned as they were written. -/
theorem save_yaml (w : World) :
  (∀ f, w.check = .error f → w.save .yaml = .error f)
    ∧ (w.check = .ok w → Yaml.Scans w.toTree →
      ∃ text, w.save .yaml = .ok text ∧ load .yaml (some text.toUTF8) = .ok w)
  := by
  constructor
  · intro f hf
    rw [save, hf]
    rfl
  · intro hw hscan
    use Yaml.write w.toTree
    constructor
    · rw [save, hw]
      rfl
    · rw [load_toUTF8, Codec.parse?, ofYaml?_write hscan]
      simp only [hw]
      rfl

/-- The trial world is loaded again, even if its command has what is no number as its value. -/
theorem save_yaml_trial :
  ∃ text, (trial Decimal.nan).save .yaml = .ok text
    ∧ load .yaml (some text.toUTF8) = .ok (trial Decimal.nan)
  := by
  apply (save_yaml (trial Decimal.nan)).2 (check_of_fault? (by decide +kernel))
  decide +kernel

/-! ### JSON -/

/-- A world is read from its file exactly if its numbers without bounds are finite. -/
theorem ofJson?_write {w : World} (hw : w.Valid)
    (hexact : ∀ x ∈ w.numbers, x.isFinite = true → Json.Exact x) :
  codec.ofJson? (Json.writeIndented w.toTree)
    = if ∀ x ∈ w.freeNumbers, x.isFinite = true then some w else none
  := by
  have hfaithful : w.toTree.All Json.Faithful Json.IsText := by
    apply all_toTree
    case hkey => exact fun s => ⟨s, rfl⟩
    case hbool => exact fun _ => trivial
    case htext => exact fun _ => trivial
    case hint =>
      intro n
      use n.minValue_le_toInt
      have hmax := n.toInt_lt
      rw [Json.wordSize, UInt64.size]
      omega
    case hversion =>
      intro n
      have hn := n.toNat_lt
      rw [Json.Faithful, Json.minValue_toInt, Json.wordSize, UInt64.size]
      omega
    case hnumber => exact hexact
  rw [Codec.ofJson?, Json.read?_writeIndented hfaithful, Option.bind_some]
  split
  next hfinite =>
    apply ofTree?_toTree Json.carries_written
    intro x hx
    apply Json.keeps_written
    rcases List.mem_append.1 hx with hx | hx
    · apply hw.isFinite_of_mem_boundNumbers hx
    · apply hfinite x hx
  next hinfinite =>
    push Not at hinfinite
    obtain ⟨x, hx, hlost⟩ := hinfinite
    apply ofTree?_toTree_eq_none Json.carries_written hx (Json.loses_written hlost)

/-- The file of a valid world is loaded as that world, or not at all. -/
theorem load_writeIndented {w : World} (hw : w.check = .ok w)
    (hexact : ∀ x ∈ w.numbers, x.isFinite = true → Json.Exact x) :
  load .json (some (Json.writeIndented w.toTree).toUTF8)
    = if ∀ x ∈ w.freeNumbers, x.isFinite = true then .ok w else .error (.malformed .json)
  := by
  rw [load_toUTF8, Codec.parse?, ofJson?_write (valid_of_check hw) hexact]
  by_cases hfinite : ∀ x ∈ w.freeNumbers, x.isFinite = true
  · rw [if_pos hfinite, if_pos hfinite]
    simp only [hw]
    rfl
  · rw [if_neg hfinite, if_neg hfinite]

/-- A valid world whose finite numbers are written exactly is saved in a file from which it
is loaded again, if its numbers without bounds are finite.  If one of them is not, it is
saved all the same, but the file is no document of a world. -/
theorem save_json (w : World) (hw : w.check = .ok w)
    (hexact : ∀ x ∈ w.numbers, x.isFinite = true → Json.Exact x) :
  ∃ text, w.save .json = .ok text
    ∧ load .json (some text.toUTF8)
      = if ∀ x ∈ w.freeNumbers, x.isFinite = true then .ok w else .error (.malformed .json)
  := by
  use Json.writeIndented w.toTree
  constructor
  · rw [save, hw]
    rfl
  · apply load_writeIndented hw hexact

/-- The trial world is loaded again if the value of its command is finite. -/
theorem save_json_trial :
  ∃ text, (trial 2.5).save .json = .ok text ∧ load .json (some text.toUTF8) = .ok (trial 2.5)
  := by
  obtain ⟨text, hsave, hload⟩ := save_json (trial 2.5) (check_of_fault? (by decide +kernel))
    (by decide +kernel)
  refine ⟨text, hsave, ?_⟩
  rw [hload, if_pos]
  decide +kernel

/-- Not every valid world is loaded again, even if all its numbers are numbers. -/
theorem save_json_infinity :
  ¬ ∀ w : World, w.check = .ok w → (∀ x ∈ w.numbers, x.isNaN = false) →
    (∀ x ∈ w.numbers, x.isFinite = true → Json.Exact x) →
      ∀ text, w.save .json = .ok text → load .json (some text.toUTF8) = .ok w
  := by
  intro h
  have hcheck : (trial Decimal.infinity).check = .ok (trial Decimal.infinity) :=
    check_of_fault? (by decide +kernel)
  have hexact : ∀ x ∈ (trial Decimal.infinity).numbers, x.isFinite = true → Json.Exact x := by
    decide +kernel
  have hlost := load_writeIndented hcheck hexact
  rw [if_neg (by decide +kernel)] at hlost
  have hload := h (trial Decimal.infinity) hcheck (by decide +kernel) hexact
    (Json.writeIndented (trial Decimal.infinity).toTree) (by rw [save, hcheck]; rfl)
  rw [hlost] at hload
  cases hload

end Servo.World
