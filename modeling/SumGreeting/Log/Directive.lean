import SumGreeting.Log.Event

/-!
# Directives

A directive of a filter gives a threshold to the events that match it.  It may name a target, a
span and a field, and ask for the value of the field.  An event matches if its target begins with
the target of the directive and it has the field.  A directive that names a span matches no event
outside of that span, and one that asks for a value matches no event outside of a span whose field
has it; no event here lies in a span.

## Main definitions

* `Directive.Field` : a field that is asked for, perhaps with its value.
* `Directive` : a threshold with the conditions on the events it is for.
* `Directive.ceiling` : the highest threshold that a directive can lead to.
* `Directive.covers` : whether a directive is for events with a target and fields.
* `Directive.yieldsTo` : whether another directive is at least as specific.
* `Directive.decisive` : the directive of a list that decides on an event.
-/

namespace SumGreeting

/-- What a directive asks about a field. -/
structure Directive.Field where
  /-- The name of the field. -/
  name : String
  /-- What its value has to be, as it is written, where there is a condition on it. -/
  value : Option String := none
  deriving DecidableEq, Inhabited

/-- One directive of a filter. -/
structure Directive where
  /-- What the target of an event has to begin with. -/
  target : Option String := none
  /-- The span in which an event has to lie. -/
  span : Option String := none
  /-- The field that is asked for. -/
  field : Option Directive.Field := none
  /-- Up to which severity the events are logged. -/
  threshold : Threshold := .trace
  deriving DecidableEq, Inhabited

namespace Directive

/-- Whether the target of an event begins with the target of the directive. -/
def coversTarget (directive : Directive) (target : String) : Bool :=
  match directive.target with
  | none => true
  | some wanted => wanted.toList.isPrefixOf target.toList

/-- Whether the directive asks for the value of a field. -/
def asksForValue (directive : Directive) : Bool :=
  directive.field.any fun field => field.value.isSome

/-- The highest threshold that the directive can lead to.  The values of the fields of a span are
not known when the span is looked at, so that every span has to be let through where one of them is
asked for. -/
def ceiling (directive : Directive) : Threshold :=
  if directive.asksForValue then .trace else directive.threshold

/-- Whether the field of the directive is among the fields of an event.  The value of a field is a
condition on spans and not on events. -/
def coversFields (directive : Directive) (names : List String) : Bool :=
  match directive.field with
  | none => true
  | some wanted => wanted.value.isNone && names.contains wanted.name

/-- Whether the directive is for events with the target and the fields. -/
def covers (directive : Directive) (target : String) (names : List String) : Bool :=
  directive.span.isNone && directive.coversTarget target && directive.coversFields names

/-- How specific the target of a directive is: none is the least, and a longer one is more. -/
def targetRank (directive : Directive) : Nat :=
  match directive.target with
  | none => 0
  | some target => target.utf8ByteSize + 1

/-- Whether the field `g` is at least as specific as the field `f`: none is the least, and of two
names the one that comes later in the order of texts is more. -/
def fieldYields (f g : Option Field) : Bool :=
  match f, g with
  | none, _ => true
  | some _, none => false
  | some f, some g => f.name ≤ g.name

/-- Whether `e` is at least as specific as `d`.  The targets are compared first, by their length;
two directives for one event whose targets are equally long have the same target. -/
def yieldsTo (d e : Directive) : Bool :=
  d.targetRank < e.targetRank ||
    (d.targetRank = e.targetRank && fieldYields d.field e.field)

/-- The more specific one of two directives, the second one if they are equally specific. -/
def prefer (best : Option Directive) (directive : Directive) : Option Directive :=
  match best with
  | none => some directive
  | some d => if d.yieldsTo directive then some directive else some d

/-- The directive that decides on events with the target and the fields: the most specific one
that is for them, and the last one of several that are equally specific. -/
def decisive (directives : List Directive) (target : String) (names : List String) :
    Option Directive :=
  (directives.filter fun d => d.covers target names).foldl prefer none

end Directive

end SumGreeting
