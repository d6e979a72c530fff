import Rollout.Text.Break
import Rollout.Text.Script.Extension

/-!
# Sets that patterns name

Patterns name sets of characters by the properties of the Unicode standard: by a name alone, as in
`\p{Greek}`, or by a property and its value, as in `\p{script=Greek}`. `Query.set?` is the set that
is asked for. In names, case, blanks, hyphens and underscores do not count, nor does `is` at the
start.
-/

namespace Rollout.Pattern

open Text

/-- The first number of the version of the standard whose characters patterns know. -/
def version : Nat := 16

/-! ### Digits, blanks and words -/

/-- The digits of all scripts, or those of ASCII. -/
def digits (unicode : Bool) : CharSet :=
  if unicode then Category.set version (· == .decimalNumber) else .range '0' '9'

/-- The blanks of all scripts, or those of ASCII. -/
def blanks (unicode : Bool) : CharSet :=
  if unicode then Property.ofListed version ["whitespace"]
  else .ofSorted [(0x9, 0xD), (0x20, 0x20)]

/-- The characters of words in all scripts, which are letters, marks, digits, connectors and
joiners, or those in ASCII. -/
def words (unicode : Bool) : CharSet :=
  if unicode then
    .unions [Property.alphabetic version, Property.ofListed version ["joincontrol"],
      Category.set version fun k =>
        k.group == 'M' || k == .decimalNumber || k == .connectorPunctuation]
  else .ofSorted [(0x30, 0x39), (0x41, 0x5A), (0x5F, 0x5F), (0x61, 0x7A)]

/-- What is asked for: a name, or the value of a property. -/
inductive Query where
  | name (s : List Char)
  | value (property value : List Char)
  deriving Repr, DecidableEq

namespace Query

/-- A name without what does not count. `isc` is a name of its own. -/
def simplified (cs : List Char) : String :=
  let startsWithIs := (cs.take 2).map Char.toLower == ['i', 's']
  let kept := (if startsWithIs then cs.drop 2 else cs).filter fun c =>
    c.toNat < 128 && c != ' ' && c != '_' && c != '-'
  let key := kept.map Char.toLower
  String.ofList (if startsWithIs && key == ['c'] then ['i', 's', 'c'] else key)

/-! ### Categories -/

/-- The categories by their long names, with more names for some of them. -/
def categoryNames : List (List String × Category) :=
  [(["uppercaseletter"], .uppercaseLetter), (["lowercaseletter"], .lowercaseLetter),
   (["titlecaseletter"], .titlecaseLetter), (["modifierletter"], .modifierLetter),
   (["otherletter"], .otherLetter), (["nonspacingmark"], .nonspacingMark),
   (["spacingmark"], .spacingMark), (["enclosingmark"], .enclosingMark),
   (["decimalnumber", "digit"], .decimalNumber), (["letternumber"], .letterNumber),
   (["othernumber"], .otherNumber), (["connectorpunctuation"], .connectorPunctuation),
   (["dashpunctuation"], .dashPunctuation), (["openpunctuation"], .openPunctuation),
   (["closepunctuation"], .closePunctuation), (["initialpunctuation"], .initialPunctuation),
   (["finalpunctuation"], .finalPunctuation), (["otherpunctuation"], .otherPunctuation),
   (["mathsymbol"], .mathSymbol), (["currencysymbol"], .currencySymbol),
   (["modifiersymbol"], .modifierSymbol), (["othersymbol"], .otherSymbol),
   (["spaceseparator"], .spaceSeparator), (["lineseparator"], .lineSeparator),
   (["paragraphseparator"], .paragraphSeparator), (["control", "cntrl"], .control),
   (["format"], .format), (["privateuse"], .privateUse), (["unassigned"], .unassigned)]

/-- The groups of categories by name. -/
def groupNames : List (List String × Char) :=
  [(["letter", "l"], 'L'), (["mark", "m", "combiningmark"], 'M'), (["number", "n"], 'N'),
   (["punctuation", "p", "punct"], 'P'), (["symbol", "s"], 'S'), (["separator", "z"], 'Z'),
   (["other", "c"], 'C')]

/-- The category with a given name. Surrogates are not characters and have none. -/
def category? (name : String) : Option Category :=
  ((categoryNames.find? fun (names, _) => names.contains name).map (·.2)).or
    (Category.all.find? fun k => k != .surrogate && lowercase k.abbreviation == name)

/-- The set of the categories with a given name. -/
def categories? (name : String) : Option CharSet :=
  if name = "any" then some .characters
  else if name = "ascii" then some (.range '\x00' '\x7f')
  else if name = "assigned" then
    some (Category.set version fun k => k != .unassigned && k != .surrogate)
  else if name = "lc" ∨ name = "casedletter" then
    some (Category.set version
      [.uppercaseLetter, .lowercaseLetter, .titlecaseLetter].contains)
  else match groupNames.find? fun (names, _) => names.contains name with
    | some (_, group) => some (Category.set version fun k => k.group == group && k != .surrogate)
    | none => (category? name).map fun k => Category.set version (· == k)

/-! ### Scripts and ages -/

/-- The part of a set that the version of patterns knows, if there is one. -/
def known? (s : CharSet) : Option CharSet :=
  let s := s.diff (Age.after version)
  if s.ranges.isEmpty then none else some s

/-- The characters of a version and of those before it, by its name, as in `3.1` or `v31`. -/
def age? (name : String) : Option CharSet :=
  (Age.table.find? fun ((major, minor), _) => major ≤ version &&
    (name == toString major ++ "." ++ toString minor ||
      name == "v" ++ toString major ++ toString minor)).map
    fun (v, _) => (Age.upTo v).inter .characters

/-! ### Sets -/

/-- The set with a given name: a property that characters have or have not, a category or a
script. Three abbreviations are those of categories only. -/
def named? (name : String) : Option CharSet :=
  ((if ["cf", "sc", "lc"].contains name then none else Property.named? version name).or
    (categories? name)).or ((Script.named? name).bind known?)

/-- The properties with values by name, each with its sets. -/
def valued : List (List String × (String → Option CharSet)) :=
  [(["gc", "generalcategory"], categories?),
   (["sc", "script"], fun name => (Script.named? name).bind known?),
   (["scx", "scriptextensions"], fun name =>
     ((Script.named? name).bind known?).bind fun _ => (Script.using? name).bind known?),
   (["age"], age?), (["gcb", "graphemeclusterbreak"], Break.grapheme? version),
   (["wb", "wordbreak"], Break.word? version), (["sb", "sentencebreak"], Break.sentence? version)]

/-- The set of characters that is asked for. -/
def set? : Query → Option CharSet
  | .name s => named? (simplified s)
  | .value p v =>
    (valued.find? fun (names, _) => names.contains (simplified p)).bind fun (_, set?) =>
      set? (simplified v)

end Query

end Rollout.Pattern
