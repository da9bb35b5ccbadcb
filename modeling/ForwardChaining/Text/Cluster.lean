import ForwardChaining.Text.BreakClass

/-!
# Clusters

A cluster is what a reader takes for one character: a letter with its accents, a syllable, a
flag, an emoji made of several.  A text is divided into clusters by looking, before each
character, at the cluster that has been formed so far (Unicode's extended grapheme clusters).
-/

namespace ForwardChaining.Text

/-- The class stands alone, whatever its neighbours are. -/
def BreakClass.isAlone (x : BreakClass) : Bool :=
  x = .control || x = .carriageReturn || x = .lineFeed

/-- Two parts of one Hangul syllable. -/
def BreakClass.formsSyllable : BreakClass → BreakClass → Bool
  | .hangulL, next => next = .hangulL || next = .hangulV || next = .hangulLV || next = .hangulLVT
  | .hangulV, next | .hangulLV, next => next = .hangulV || next = .hangulT
  | .hangulT, next | .hangulLVT, next => next = .hangulT
  | _, _ => false

/-- The character may stand between the two consonants of a conjunct. -/
def isWithinConjunct (c : Char) : Bool :=
  (breakClass c = .extend || breakClass c = .joiner) && c.toNat ≠ 0x200C

/-- The cluster, given from its last character to its first, ends in a consonant with a
linker. -/
def awaitsConsonant (cluster : List Char) : Bool :=
  let marks := cluster.takeWhile isWithinConjunct
  let base := (cluster.drop marks.length).head?
  marks.any isLinker && base.any (breakClass · = .consonant)

/-- The cluster, given from its last character to its first, ends in a pictograph and
extending characters. -/
def endsInPictograph (cluster : List Char) : Bool :=
  (cluster.dropWhile (breakClass · = .extend)).head?.any (breakClass · = .pictograph)

/-- The cluster, given from its last character to its first, ends in half a flag. -/
def endsInHalfFlag (cluster : List Char) : Bool :=
  (cluster.takeWhile (breakClass · = .regional)).length % 2 = 1

/-- The character `c` belongs to the cluster before it, given from its last character to its
first. -/
def joins (cluster : List Char) (c : Char) : Bool :=
  match cluster with
  | [] => false
  | last :: before =>
    let a := breakClass last
    let b := breakClass c
    if a.isAlone || b.isAlone then a = .carriageReturn && b = .lineFeed
    else
      b = .extend || b = .joiner || b = .spacing || a = .prepend || a.formsSyllable b
        || (b = .consonant && awaitsConsonant cluster)
        || (a = .joiner && b = .pictograph && endsInPictograph before)
        || (b = .regional && endsInHalfFlag cluster)

/-- Puts a character after clusters, which are given from the last to the first, and each from
its last character to its first. -/
def addToClusters (done : List (List Char)) (c : Char) : List (List Char) :=
  match done with
  | [] => [[c]]
  | cluster :: before => if joins cluster c then (c :: cluster) :: before else [c] :: done

/-- The clusters of a text, in order. -/
def clusters (cs : List Char) : List (List Char) :=
  ((cs.foldl addToClusters []).map List.reverse).reverse

end ForwardChaining.Text
