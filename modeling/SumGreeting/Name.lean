import SumGreeting.Failure

/-!
# Names that a strict run accepts

A strict run greets only names of at most 256 characters without a control character.  The length
is looked at first, so a long name with a control character is reported as too long.

## Main definitions

* `Name.lengthLimit` : the most characters that a name may have.
* `Name.validate` : accepts a name or says what is wrong with it.
-/

namespace SumGreeting.Name

/-- The most characters that a name may have. -/
def lengthLimit : Nat := 256

/-- Accepts a name of at most `lengthLimit` characters without a control character. -/
def validate (name : String) : Except Failure Unit :=
  if lengthLimit < name.length then .error (.nameTooLong name.length lengthLimit)
  else if name.toList.any isControl then .error (.controlCharacters name)
  else .ok ()

end SumGreeting.Name
