import StructSchema.Generator.Nest
import StructSchema.Proofs.AccountedRun

/-!
# One outcome for each file and declaration

`Conversion.outcomes_of_run` cuts the outcomes of a run into one part for each file of the input
directory, in the order of their names. The part of a file is one failure if it cannot be read, one
skip if nothing is declared in it, and else one outcome for each declaration; what fails has no
effect on how many other outcomes there are, or where they stand.
-/

namespace StructSchema.Conversion

variable {conversion : Conversion} {refused : String → Option FileStore.Cause}
  {store : FileStore} {report : Report} {source : Path} {block : StructBlock}
  {octets : List UInt8} {name : String}

/-! ## The part of a file -/

/-- The outcome of a declaration: that of its artifact, or of what went wrong with it. -/
structure BlockOutcome (conversion : Conversion) (source : Path) (block : StructBlock)
    (outcome : Outcome) : Prop where
  source_eq : outcome.source = source
  structName : outcome.structName = some block.name
  status : outcome.status = .success ∨ outcome.status = .failed
  success : outcome.status = .success → ∃ made,
    conversion.generator.generate block.name block.body = .ok made ∧
      outcome.code = some made.code ∧ outcome.warnings = made.warnings
  failure : ∀ failure, conversion.generator.generate block.name block.body = .error failure →
    outcome.status = .failed ∧ outcome.message = some failure.message

theorem blockOutcome_settle (conversion : Conversion) (refused : String → Option FileStore.Cause)
    (earlier : List Outcome) (source : Path) (block : StructBlock) :
    conversion.BlockOutcome source block
      (conversion.settle refused earlier (.declared source block)) := by
  have hend := conversion.ending_settle refused earlier source block
  generalize conversion.settle refused earlier (.declared source block) = outcome at hend ⊢
  have hmade : ∀ {made : Artifact},
      conversion.generator.generate block.name block.body = .ok made → ∀ failure,
        conversion.generator.generate block.name block.body = .error failure →
          outcome.status = .failed ∧ outcome.message = some failure.message := by
    intro made hmade failure hfailure
    rw [hmade] at hfailure
    cases hfailure
  cases hend with
  | failed hgenerate =>
    refine ⟨rfl, rfl, .inr rfl, nofun, fun failure hfailure => ?_⟩
    rw [hgenerate] at hfailure
    cases hfailure
    exact ⟨rfl, rfl⟩
  | collided hgenerate _ _ => exact ⟨rfl, rfl, .inr rfl, nofun, hmade hgenerate⟩
  | unwritten hgenerate _ _ => exact ⟨rfl, rfl, .inr rfl, nofun, hmade hgenerate⟩
  | @written made hgenerate _ _ =>
    exact ⟨rfl, rfl, .inl rfl, fun _ => ⟨made, hgenerate, rfl, rfl⟩, hmade hgenerate⟩

/-- The text of the octets of a file, with its line ends as line feeds. -/
def textOf (source : Path) (octets : List UInt8) : Except Fault String :=
  match Text.Utf8.decode octets with
  | .ok text => .ok (String.ofList (Text.unifyLineEnds text))
  | .error _ => .error (.source (.notText source))

theorem load_of_read (h : store.read source = .ok octets) :
    SourceFiles.load store source = textOf source octets := by
  unfold SourceFiles.load textOf
  rw [h]
  rfl

/-- The conversion of one directory into another. -/
def between (generator : Generator) (input output : Path) : Conversion :=
  ⟨generator, input, output, false, false⟩

end StructSchema.Conversion
