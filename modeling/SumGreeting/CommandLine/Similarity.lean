import SumGreeting.CommandLine.OptionName

/-!
# Similar option names

For a long name that no option has, the most similar name is suggested.  Equal characters of two
words can be partners if their positions are the same or closer than half the length of the longer
word, and each has at most one partner.  The score is the mean of three ratios: the share of the
characters with a partner in each of the words, and the share of the partners that stand in the
same order.  It is a number of double precision, rounded after each operation.

## Main definitions

* `Similarity.score` : how similar two words are, between 0 and 1.
* `Similarity.suggestion?` : the option whose long name is similar enough to a word.
-/

namespace SumGreeting.CommandLine.Similarity

/-- The first position at or after `position` whose character equals `c` and has no partner yet,
within the next `count` positions. -/
def findPartner (c : Char) (position count : Nat) : List (Char × Bool) → Option Nat
  | [] => none
  | (d, taken) :: rest =>
    match count with
    | 0 => none
    | count + 1 =>
      if c = d && !taken then some position else findPartner c (position + 1) count rest

/-- The partners of the characters of a word: each character takes the first free equal character
of the other word within `reach` positions.  Gives the characters that found a partner, and the
other word with the characters that are partners marked. -/
def pair (reach : Nat) : Nat → List Char → List (Char × Bool) → List Char × List (Char × Bool)
  | _, [], other => ([], other)
  | position, c :: rest, other =>
    let least := position - reach
    match findPartner c least (position + reach + 1 - least) (other.drop least) with
    | none => pair reach (position + 1) rest other
    | some partner =>
      let (paired, other) := pair reach (position + 1) rest (other.set partner (c, true))
      (c :: paired, other)

/-- How similar two words are. -/
def score (s t : List Char) : Float :=
  if s.isEmpty && t.isEmpty then 1.0
  else if s.isEmpty || t.isEmpty then 0.0
  else
    let reach := max s.length t.length / 2 - 1
    let (paired, marked) := pair reach 0 s (t.map fun c => (c, false))
    let partners := (marked.filter Prod.snd).map Prod.fst
    let count := paired.length
    if count = 0 then 0.0
    else
      let moved := ((paired.zip partners).filter fun p => p.1 ≠ p.2).length / 2
      let m := count.toFloat
      (m / s.length.toFloat + m / t.length.toFloat + (m - moved.toFloat) / m) / 3.0

/-- The better one of two suggestions, the later one if they are equally good. -/
def better (best : Option (Float × OptionName)) (word : List Char) (option : OptionName) :
    Option (Float × OptionName) :=
  let reached := score word option.long.toList
  if reached > 0.7 then
    match best with
    | none => some (reached, option)
    | some (highest, bestOption) =>
      if highest ≤ reached then some (reached, option) else some (highest, bestOption)
  else best

/-- The option whose long name is the most similar one to the word, if that similarity is above
seven tenths. -/
def suggestion? (word : String) : Option OptionName :=
  (OptionName.all.foldl (fun best option => better best word.toList option) none).map Prod.snd

end SumGreeting.CommandLine.Similarity
