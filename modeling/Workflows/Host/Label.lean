/-
Labels of host names: which texts are labels, and the ASCII form of those that are not ASCII. Some
signs are allowed only beside certain others, and the directions of the characters have to agree.
-/
import Workflows.Host.LabelTables
import Workflows.Host.Punycode
import Workflows.Text.Compose
import Workflows.Text.Direction
import Workflows.Text.Quoted
import Workflows.Text.Search

namespace Workflows.Host

open Workflows.Text

/-! ## Errors -/

/-- Why a text is no label, or a list of labels no host. A character is given with its place in the
label, counted from one. -/
inductive LabelError
  | empty
  | tooLong
  | notComposed
  | hyphens
  | edgeHyphen
  | mark
  | joiner (c : Char) (place : Nat) (label : String)
  | context (c : Char) (place : Nat) (label : String)
  | character (c : Char) (place : Nat) (label : String)
  | direction (error : DirectionError) (label : String)
  | noDirection (place : Nat) (label : String)
  | nothingSpelled
  | endHyphen
  | badSpelling
  | hostTooLong
  | hostEmpty
deriving DecidableEq, Repr

/-- The number of a character, in at least four digits. -/
def codeText (c : Char) : String :=
  let digits := (Nat.toDigits 16 c.toNat).map Char.toUpper
  "U+" ++ String.ofList (List.replicate (4 - digits.length) '0' ++ digits)

/-- The message for directions that do not agree. -/
def directionMessage (label : String) : DirectionError → String
  | .start => "First codepoint in label " ++ quoted label ++ " must be directionality L, R or AL"
  | .inRightToLeft place =>
    "Invalid direction for codepoint at position " ++ toString place ++ " in a right-to-left label"
  | .inLeftToRight place =>
    "Invalid direction for codepoint at position " ++ toString place ++ " in a left-to-right label"
  | .mixedNumbers => "Can not mix numeral types in a right-to-left label"
  | .ending => "Label ends with illegal codepoint directionality"

/-- The message of an error. -/
def LabelError.message : LabelError → String
  | empty => "Empty Label"
  | tooLong => "Label too long"
  | notComposed => "Label must be in Normalization Form C"
  | hyphens => "Label has disallowed hyphens in 3rd and 4th position"
  | edgeHyphen => "Label must not start or end with a hyphen"
  | mark => "Label begins with an illegal combining character"
  | joiner c place label =>
    "Unknown codepoint adjacent to joiner " ++ codeText c ++ " at position " ++ toString place ++
      " in " ++ quoted label
  | context c place label =>
    "Codepoint " ++ codeText c ++ " not allowed at position " ++ toString place ++ " in " ++
      quoted label
  | character c place label =>
    "Codepoint " ++ codeText c ++ " at position " ++ toString place ++ " of " ++ quoted label ++
      " not allowed"
  | direction error label => directionMessage label error
  | noDirection place label =>
    "Unknown directionality in label " ++ quoted label ++ " at position " ++ toString place
  | nothingSpelled => "Malformed A-label, no Punycode eligible content found"
  | endHyphen => "A-label must not end with a hyphen"
  | badSpelling => "Invalid A-label"
  | hostTooLong => "Domain too long"
  | hostEmpty => "Empty domain"

/-! ## Signs between others -/

/-- A sign that joins letters or keeps them apart. -/
def isJoiner (c : Char) : Bool := c == '\u200c' || c == '\u200d'

/-- A character is of one of two classes, once those that joining passes over are left out. -/
def joinsFirst (one other : List (Nat × Nat)) (cs : List Char) : Bool :=
  match cs.dropWhile fun c => inRanges passedOver c.toNat with
  | c :: _ => inRanges one c.toNat || inRanges other c.toNat
  | [] => false

/-- A joiner fits between what stands before it, the nearest first, and what stands after it. Both
joiners may follow a sign that takes the vowel from a letter; the one that keeps letters apart may
also stand where they would join. -/
def joinerFits (before : List Char) (c : Char) (after : List Char) : Bool :=
  (before.head?.map fun last => orderClass last.toNat == 9) == some true ||
    (c == '\u200c' && joinsFirst joinsNext joinsBoth before &&
      joinsFirst joinsPrevious joinsBoth after)

/-- A digit of the Arabic script. -/
def isArabicDigit (c : Char) : Bool := 0x660 ≤ c.toNat && c.toNat ≤ 0x669

/-- A digit of the eastern forms of the Arabic script. -/
def isEasternDigit (c : Char) : Bool := 0x6F0 ≤ c.toNat && c.toNat ≤ 0x6F9

/-- A sign that is allowed only beside certain others. -/
def needsContext (c : Char) : Bool :=
  c == '\u00b7' || c == '\u0375' || c == '\u05f3' || c == '\u05f4' || c == '\u30fb' ||
    isArabicDigit c || isEasternDigit c

/-- Such a sign fits between what stands before it, the nearest first, and what stands after it. -/
def signFits (before : List Char) (c : Char) (after : List Char) : Bool :=
  let others := before ++ after
  if c = '\u00b7' then before.head? == some 'l' && after.head? == some 'l'
  else if c = '\u0375' then (after.head?.map fun d => inRanges greek d.toNat) == some true
  else if c = '\u30fb' then others.any fun d => d != '\u30fb' && inRanges japanese d.toNat
  else if isArabicDigit c then !others.any isEasternDigit
  else if isEasternDigit c then !others.any isArabicDigit
  else (before.head?.map fun d => inRanges hebrew d.toNat) == some true

/-- A test of every character with what stands before it, the nearest first, and after it. -/
def firstMisfit? (fits : List Char → Char → List Char → Bool) (before : List Char) :
    List Char → Option (Char × Nat)
  | [] => none
  | c :: rest =>
    if fits before c rest then firstMisfit? fits (c :: before) rest
    else some (c, before.length + 1)

/-- A character fits where it stands in a label. -/
def characterFits (before : List Char) (c : Char) (after : List Char) : Bool :=
  inRanges letters c.toNat ||
    (if isJoiner c then joinerFits before c after else needsContext c && signFits before c after)

/-! ## Labels -/

/-- A text begins with a combining mark. -/
def beginsWithMark (label : List Char) : Bool :=
  (label.head?.map fun c => inRanges marks c.toNat) == some true

/-- A text begins with a letter that is too new for its direction to be known. -/
def beginsWithNew (label : List Char) : Bool :=
  (label.head?.map fun c => inRanges newLetters c.toNat) == some true

/-- What is wrong with the directions in a label, where it has any to agree. -/
def labelDirectionError? (label : List Char) : Option LabelError :=
  let text := String.ofList label
  match label.findIdx? fun c => inRanges newLetters c.toNat with
  | some place => some (.noDirection (place + 1) text)
  | none => if isTurned label then (directionError? label).map (.direction · text) else none

/-- What is wrong with a label. -/
def labelError? (label : List Char) : Option LabelError :=
  let text := String.ofList label
  if label.isEmpty then some .empty
  else if 254 < label.length then some .tooLong
  else if composed label ≠ label then some .notComposed
  else if (label.drop 2).take 2 = ['-', '-'] then some .hyphens
  else if label.head? = some '-' ∨ label.getLast? = some '-' then some .edgeHyphen
  else if beginsWithMark label && !beginsWithNew label then some .mark
  else
    match firstMisfit? characterFits [] label with
    | some (c, place) =>
      if isJoiner c then some (.joiner c place text)
      else if needsContext c then some (.context c place text)
      else some (.character c place text)
    | none => labelDirectionError? label

/-- What every spelling of a label begins with. -/
def spellingMark : List Char := "xn--".toList

/-- The label of an ASCII text, which may be a spelling. -/
def readLabel (label : List Char) : Except LabelError (List Char) :=
  let checked (label : List Char) : Except LabelError (List Char) :=
    match labelError? label with
    | some e => .error e
    | none => .ok label
  let label := label.map Char.toLower
  match spellingMark.isPrefixOf? label with
  | none => checked label
  | some [] => .error .nothingSpelled
  | some spelling =>
    if spelling.getLast? = some '-' then .error .endHyphen
    else
      match Punycode.decode? spelling with
      | some label => checked label
      | none => .error .badSpelling

/-- The ASCII form of a label. -/
def writeLabel? (label : List Char) : Option (List Char) :=
  let written :=
    if label.all (·.toNat < 128) then
      match readLabel label with
      | .ok _ => some label
      | .error _ => none
    else
      match labelError? label with
      | some _ => none
      | none => some (spellingMark ++ Punycode.encode label)
  written.filter (·.length ≤ 63)

/-! ## Hosts -/

/-- A dot of any width. -/
def isDot (c : Char) : Bool := c == '.' || c == '\u3002' || c == '\uff0e' || c == '\uff61'

/-- The labels of a host, and whether a dot ends it. -/
def splitLabels (host : List Char) : List (List Char) × Bool :=
  let labels := (host.map fun c => if isDot c then '.' else c).splitOn '.'
  if labels.getLast? = some [] then (labels.dropLast, true) else (labels, false)

/-- Labels as a host. -/
def joinLabels (labels : List (List Char)) (endsInDot : Bool) : List Char :=
  List.intercalate ['.'] labels ++ (if endsInDot then ['.'] else [])

/-- The host that is shown for an ASCII one. -/
def readHost (host : List Char) : Except LabelError (List Char) :=
  if 254 < host.length then .error .hostTooLong
  else if host.isEmpty then .error .hostEmpty
  else
    let (labels, endsInDot) := splitLabels host
    (labels.mapM readLabel).map (joinLabels · endsInDot)

/-- The ASCII form of a host. -/
def writeHost? (host : List Char) : Option (List Char) :=
  if host.isEmpty ∨ 254 < host.length then none
  else
    let (labels, endsInDot) := splitLabels host
    ((labels.mapM writeLabel?).map (joinLabels · endsInDot)).filter fun written =>
      written.length ≤ 253 + (if endsInDot then 1 else 0)

end Workflows.Host
