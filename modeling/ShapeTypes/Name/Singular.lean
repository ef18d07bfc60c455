import ShapeTypes.Text.WordChar

/-!
# The singular of a noun

The singular of an English noun, by a list of rules on the end of the word. The first rule that fits
decides; letters are compared without regard to case.

* `foldLetter`: the letter that a character counts as.
* `uncountables`, `singularRules`: the nouns without a plural, and the rules in their order.
* `singular`: the singular; a noun that no rule fits, or that has no plural, is its own.
-/

namespace ShapeTypes.Name

open ShapeTypes.Text

/-- The lower-case letter that a character counts as: the long s, the Kelvin sign and the dotless
and dotted i are spellings of Latin letters. -/
def foldLetter (c : Char) : Char :=
  if c = 'ſ' then 's'
  else if c = '\u212A' then 'k'
  else if c = 'ı' ∨ c = 'İ' then 'i'
  else c.toLower

/-- A place of a pattern, which fits one character. -/
inductive Letter where
  /-- A letter in any case. -/
  | any (letter : Char)
  /-- One of several letters, in any case. -/
  | oneOf (letters : List Char)
  /-- Any character but some letters, in any case. -/
  | noneOf (letters : List Char)
  /-- One of several characters, case included. -/
  | exactly (chars : List Char)

/-- The character fits the place. -/
def Letter.fits : Letter → Char → Bool
  | any letter, c => foldLetter c == letter
  | oneOf letters, c => letters.contains (foldLetter c)
  | noneOf letters, c => !letters.contains (foldLetter c)
  | exactly chars, c => chars.contains c

/-- The characters fit the places one by one. -/
def fitsAll : List Letter → List Char → Bool
  | [], [] => true
  | p :: ps, c :: cs => p.fits c && fitsAll ps cs
  | _, _ => false

/-- The places of a word, in any case. -/
def spelled (word : String) : List Letter := word.toList.map .any

/-- Where a rule's pattern has to stand. -/
inductive Place where
  /-- At the end of the word. -/
  | atEnd
  /-- It has to be the whole word. -/
  | whole
  /-- At the start of the word. -/
  | atStart

/-- A rule: a pattern made of a part that is kept and a part that is replaced by `added`, each with
its alternatives. -/
structure SingularRule where
  /-- Where the pattern has to stand. -/
  place : Place
  /-- The alternatives of the part that is kept. -/
  kept : List (List Letter)
  /-- The alternatives of the part that is replaced. -/
  replaced : List (List Letter)
  /-- What replaces it. -/
  added : String

/-- The nouns that have no plural of their own. -/
def uncountables : List String :=
  ["equipment", "fish", "information", "jeans", "money", "rice", "series", "sheep", "species"]

/-- A rule on the end of a word that keeps one of some spelled parts and replaces one of others. -/
def atEnd (kept replaced : List String) (added : String) : SingularRule :=
  ⟨.atEnd, kept.map spelled, replaced.map spelled, added⟩

/-- The rules, in the order in which they are tried. -/
def singularRules : List SingularRule := [
  atEnd ["z"] ["ombies"] "ombie",
  ⟨.atEnd, [[]], [[.exactly ['k'], .exactly ['i', 'I'], .exactly ['n', 'N'], .exactly ['e', 'E']]],
    "cow"⟩,
  ⟨.atEnd, [[]], [[.exactly ['K'], .exactly ['i', 'I'], .exactly ['n', 'N'], .exactly ['e', 'E']]],
    "Cow"⟩,
  atEnd ["m"] ["oves"] "ove",
  atEnd ["s"] ["exes"] "ex",
  atEnd ["c"] ["hildren"] "hild",
  atEnd ["h"] ["umans"] "uman",
  atEnd ["m"] ["en"] "an",
  atEnd ["p"] ["eople"] "erson",
  atEnd ["database"] ["s"] "",
  atEnd ["quiz"] ["zes"] "",
  atEnd ["matr"] ["ices"] "ix",
  atEnd ["vert", "ind"] ["ices"] "ex",
  atEnd ["passer"] ["sby"] "by",
  ⟨.atStart, [spelled "ox"], [spelled "en"], ""⟩,
  atEnd ["alias", "status"] ["es", ""] "",
  atEnd ["octop", "vir"] ["us", "i"] "us",
  ⟨.whole, [spelled "a"], [[.any 'x', .oneOf ['i', 'e'], .any 's']], "xis"⟩,
  atEnd ["cris", "test"] ["is", "es"] "is",
  atEnd ["shoe"] ["s"] "",
  atEnd ["o"] ["es"] "",
  atEnd ["bus"] ["es", ""] "",
  atEnd ["m", "l"] ["ice"] "ouse",
  atEnd ["x", "ch", "ss", "sh"] ["es"] "",
  atEnd ["m"] ["ovies"] "ovie",
  atEnd ["s"] ["eries"] "eries",
  ⟨.atEnd, [[.noneOf ['a', 'e', 'i', 'o', 'u', 'y']], spelled "qu"], [spelled "ies"], "y"⟩,
  ⟨.atEnd, [[.oneOf ['l', 'r']]], [spelled "ves"], "f"⟩,
  atEnd ["tive"] ["s"] "",
  atEnd ["hive"] ["s"] "",
  ⟨.atEnd, [[.noneOf ['f']]], [spelled "ves"], "fe"⟩,
  atEnd ["t"] ["hesis", "heses"] "hesis",
  atEnd ["s"] ["ynopsis", "ynopses"] "ynopsis",
  atEnd ["p"] ["rognosis", "rognoses"] "rognosis",
  atEnd ["p"] ["arenthesis", "arentheses"] "arenthesis",
  atEnd ["d"] ["iagnosis", "iagnoses"] "iagnosis",
  atEnd ["b"] ["asis", "ases"] "asis",
  atEnd ["a"] ["nalysis", "nalyses"] "nalysis",
  ⟨.atEnd, [[.oneOf ['t', 'i']]], [spelled "a"], "um"⟩,
  atEnd ["n"] ["ews"] "ews",
  atEnd ["ss"] [""] "",
  atEnd [""] ["s"] "" ]

/-- The word cut in two, the second part being one of `length` characters that fits the pattern. -/
def cutAtEnd? (pattern : List Letter) (word : List Char) : Option (List Char × List Char) :=
  let stem := word.length - pattern.length
  if fitsAll pattern (word.drop stem) then some (word.take stem, word.drop stem) else none

/-- What one pair of alternatives of a rule makes of a word. -/
def SingularRule.pairResult? (place : Place) (kept replaced : List Letter)
    (added word : List Char) : Option (List Char) :=
  match place with
  | .atEnd =>
    (cutAtEnd? (kept ++ replaced) word).map fun (stem, ending) =>
      stem ++ ending.take kept.length ++ added
  | .whole =>
    if fitsAll (kept ++ replaced) word then some (word.take kept.length ++ added) else none
  | .atStart =>
    let size := (kept ++ replaced).length
    if fitsAll (kept ++ replaced) (word.take size) then
      some (word.take kept.length ++ added ++ word.drop size)
    else none

/-- What a rule makes of a word that it fits. -/
def SingularRule.result? (rule : SingularRule) (word : List Char) : Option (List Char) :=
  rule.kept.findSome? fun kept =>
    rule.replaced.findSome? fun replaced =>
      SingularRule.pairResult? rule.place kept replaced rule.added.toList word

/-- The word ends in a noun without plural that starts where a word starts. -/
def isUncountable (word : List Char) : Bool :=
  uncountables.any fun noun =>
    match cutAtEnd? (spelled noun) word with
    | some (stem, _) => !(stem.getLast?.any isWordChar)
    | none => false

/-- The word without one line feed at its end, and that line feed. -/
def splitFinalNewline (word : List Char) : List Char × List Char :=
  if word.getLast? = some '\n' then (word.dropLast, ['\n']) else (word, [])

/-- The singular of a noun. A rule on the end of the word also fits before a final line feed. -/
def singularChars (word : List Char) : List Char :=
  if isUncountable word then word
  else
    let (line, newline) := splitFinalNewline word
    match singularRules.findSome? (SingularRule.result? · line) with
    | some result => result ++ newline
    | none => word

/-- The singular of a noun. -/
def singular (noun : String) : String := String.ofList (singularChars noun.toList)

end ShapeTypes.Name
