import Chip8.Text.CaseTable

/-!
# Upper and lower case of texts

The full case mappings: a character may become several, and a capital sigma at the end of a word
becomes the final form of the small letter. A sigma ends a word when the nearest neighbour before
it that is not skipped is a cased letter, and the nearest one after it is not.

## Main definitions

* `Chip8.Text.lower`, `Chip8.Text.upper` : the case mappings of texts.
-/

namespace Chip8.Text

/-- Whether a code point lies in one of the closed ranges. -/
def inRanges (ranges : List (Nat × Nat)) (code : Nat) : Bool :=
  ranges.any fun r => r.1 ≤ code && code ≤ r.2

/-- Whether a code point belongs to a run. -/
def CaseRun.contains (run : CaseRun) (code : Nat) : Bool :=
  run.first ≤ code && code ≤ run.last && (code - run.first) % run.step == 0

/-- The images of a character under a case mapping, which are the character itself when no table
mentions it. -/
def mapCase (runs : List CaseRun) (sequences : List (Nat × List Nat)) (c : Char) : List Char :=
  match sequences.lookup c.toNat with
  | some codes => codes.map Char.ofNat
  | none =>
    match runs.find? fun run => run.contains c.toNat with
    | some run => [Char.ofNat (c.toNat + run.shift).toNat]
    | none => [c]

/-- The nearest character of a list that is not skipped is a cased letter. -/
def nextIsCased (l : List Char) : Bool :=
  match l.dropWhile fun c => inRanges caseIgnorableRanges c.toNat with
  | [] => false
  | c :: _ => inRanges casedRanges c.toNat

/-- The lower case of the characters after `before`, which is given in reverse. -/
def lowerAfter (before : List Char) : List Char → List Char
  | [] => []
  | c :: l =>
    let images :=
      if c = 'Σ' then [if nextIsCased before && !nextIsCased l then 'ς' else 'σ']
      else mapCase lowerRuns lowerSequences c
    images ++ lowerAfter (c :: before) l

/-- The lower case of a text. -/
def lower (s : String) : String :=
  String.ofList (lowerAfter [] s.toList)

/-- The upper case of a text. -/
def upper (s : String) : String :=
  String.ofList (s.toList.flatMap (mapCase upperRuns upperSequences))

end Chip8.Text
