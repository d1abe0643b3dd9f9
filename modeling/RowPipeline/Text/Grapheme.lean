import RowPipeline.Text.GraphemeClass

/-! # Grapheme clusters

What a reader takes for one character may be several: a letter with its marks, a syllable, an emoji
put together from others, a flag. A text is cut into such clusters by the rules for extended
grapheme clusters of the Unicode standard. Whether two neighbours belong together depends on them
and on what stands in front of them.
-/

namespace RowPipeline.Text

/-- The characters in front, nearest first, end in a consonant with linkers behind it, so that a
consonant that follows belongs to it. -/
def endsInLinkedConsonant (before : List Char) : Bool :=
  let signs := before.takeWhile isConjunctExtender
  let rest := before.dropWhile isConjunctExtender
  signs.any isConjunctLinker && (rest.head?.map isConjunctConsonant).getD false

/-- The characters in front, nearest first, end in a pictograph with its marks and a joiner, so that
a pictograph that follows belongs to it. -/
def endsInJoinedPictograph : List Char → Bool
  | [] => false
  | c :: before =>
    let rest := before.dropWhile fun d => graphemeClass d == .extender
    graphemeClass c == .joiner && (rest.head?.map (graphemeClass · == .pictograph)).getD false

/-- The characters in front, nearest first, end in the first half of a flag. -/
def endsInHalfFlag (before : List Char) : Bool :=
  (before.takeWhile fun c => graphemeClass c == .regional).length % 2 == 1

/-- A character of the second class belongs to one of the first class right in front of it, whatever
stands further in front. -/
def GraphemeClass.joins : GraphemeClass → GraphemeClass → Bool
  | .carriageReturn, .lineFeed => true
  | .carriageReturn, _ | .lineFeed, _ | .control, _ => false
  | _, .carriageReturn | _, .lineFeed | _, .control => false
  | _, .extender | _, .joiner | _, .spacingMark => true
  | .prefixMark, _ => true
  | .leading, .leading | .leading, .vowel => true
  | .leading, .openSyllable | .leading, .closedSyllable => true
  | .openSyllable, .vowel | .openSyllable, .trailing => true
  | .vowel, .vowel | .vowel, .trailing => true
  | .closedSyllable, .trailing | .trailing, .trailing => true
  | _, _ => false

/-- The character belongs to the cluster that the characters in front of it, nearest first, end
in. -/
def joinsCluster (before : List Char) (c : Char) : Bool :=
  match before.head? with
  | none => false
  | some b =>
    (graphemeClass b).joins (graphemeClass c) ||
      (isConjunctConsonant c && endsInLinkedConsonant before) ||
      (graphemeClass c == .pictograph && endsInJoinedPictograph before) ||
      (graphemeClass c == .regional && endsInHalfFlag before)

/-- Puts a character in front of the first of several clusters. -/
def prependToFirst (c : Char) : List (List Char) → List (List Char)
  | [] => [[c]]
  | cluster :: clusters => (c :: cluster) :: clusters

/-- The clusters of a text that stands behind `before`, nearest character first. -/
def graphemesAfter (before : List Char) : List Char → List (List Char)
  | [] => []
  | [c] => [[c]]
  | c :: d :: cs =>
    let clusters := graphemesAfter (c :: before) (d :: cs)
    if joinsCluster (c :: before) d then prependToFirst c clusters else [c] :: clusters

/-- The clusters of a text, in order. -/
def graphemes (cs : List Char) : List (List Char) :=
  graphemesAfter [] cs

end RowPipeline.Text
