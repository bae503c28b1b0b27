import RayTracer.Png
import RayTracer.Program

/-!
# Command line

The program on real files. Its only argument, if any, is the path of a settings
file. Warnings and failures are printed to the standard error.
-/

set_option autoImplicit false

namespace RayTracer

/-- The real files. -/
def fileHost : Host IO where
  content path := do
    try return some (← IO.FS.readFile path)
    catch _ => return none
  writePicture path image := do
    match Png.encode image with
    | .error _ => return false
    | .ok file =>
      try
        IO.FS.writeBinFile path ⟨file.toArray⟩
        return true
      catch _ => return false

end RayTracer

/-- Run the program on real files, with floating point numbers. -/
def main (arguments : List String) : IO UInt32 := do
  let ending ← RayTracer.run Float RayTracer.fileHost arguments
  for warning in ending.warnings do
    IO.eprintln ("Warning: " ++ warning)
  if let some failure := ending.failure then
    IO.eprintln ("Error: " ++ failure.message)
  return UInt32.ofNat ending.exitCode
