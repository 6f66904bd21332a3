/-!
# Blank characters

A literal in a document may stand between blank characters, and a list of names is written with blanks
between the names. *Blank* is the Unicode property of white space together with the four information
separators U+001C to U+001F. The characters are given as closed ranges of code points.

`trim` drops the blanks at both ends of a text and keeps the ones inside. `words` cuts a text at its
blanks and drops them all.
-/

namespace EntityModel.Text

/-! ## Ranges of code points -/

/-- A code point lies in one of the closed ranges. -/
def inRanges (ranges : List (Nat × Nat)) (n : Nat) : Bool :=
  ranges.any fun r => r.1 ≤ n && n ≤ r.2

/-- The blank characters, as closed ranges of code points, ascending and apart. -/
def blankRanges : List (Nat × Nat) :=
  [(0x09, 0x0D), (0x1C, 0x20), (0x85, 0x85), (0xA0, 0xA0), (0x1680, 0x1680), (0x2000, 0x200A),
   (0x2028, 0x2029), (0x202F, 0x202F), (0x205F, 0x205F), (0x3000, 0x3000)]

/-- White space that may surround a literal. -/
def isBlank (c : Char) : Bool := inRanges blankRanges c.toNat

/-- A blank that is white space by the Unicode property alone: the information separators are not. -/
def isWhiteSpace (c : Char) : Bool := isBlank c && !(0x1C ≤ c.toNat && c.toNat ≤ 0x1F)

/-! ## Trimming -/

/-- The characters without the ones at either end that satisfy `p`. -/
def trimWhile (p : Char → Bool) (s : List Char) : List Char :=
  ((s.dropWhile p).reverse.dropWhile p).reverse

/-- The text without the blanks at its two ends. -/
def trim (s : String) : String := String.ofList (trimWhile isBlank s.toList)

/-- A text of blanks only. -/
def isBlankText (s : String) : Bool := s.toList.all isBlank

/-! ## Words -/

/-- The maximal blank-free runs of a text, given the run that is being read. -/
def wordsFrom (run : List Char) : List Char → List (List Char)
  | [] => if run.isEmpty then [] else [run.reverse]
  | c :: cs =>
      if isBlank c then
        if run.isEmpty then wordsFrom [] cs else run.reverse :: wordsFrom [] cs
      else wordsFrom (c :: run) cs

/-- The words of a text: its maximal blank-free runs, in order. -/
def words (s : String) : List String := (wordsFrom [] s.toList).map String.ofList

end EntityModel.Text
