import LogLens.Pattern.Age
import LogLens.Pattern.Script
import LogLens.Pattern.Segmentation
/-!
# Properties of characters by name

A property is asked for by its name, or by the name of a kind of property and a value. Names are
compared in lower case without blanks, hyphens and underscores, and a leading `is` does not count.

A bare name is first looked for among the properties, then among the general categories and last
among the scripts. Three names of properties are left to the categories, which are asked for more
often. A property may be known without there being a class of it, because it has values that have to
be named or because it says something else of a character than whether it belongs to a class.
-/

namespace LogLens.Pattern

/-- What a property is asked for by. -/
inductive Query where
  | named (name : List Char)
  | valued (kind value : List Char)
  deriving DecidableEq, Repr

/-- Why there is no class. -/
inductive QueryFault where
  | unknownProperty
  | unknownValue
  deriving DecidableEq, Repr

/-- A name in the form in which names are compared. -/
def looseName (cs : List Char) : String :=
  let plain := (cs.map Char.toLower).filter fun c =>
    c != ' ' && c != '_' && c != '-' && c.toNat < 128
  match cs.map Char.toLower, plain with
  | 'i' :: 's' :: _, _ :: _ :: rest => if rest = ['c'] then "isc" else String.ofList rest
  | _, _ => String.ofList plain

/-- Kinds of properties with values that have classes. -/
inductive Kind where
  | age
  | category
  | clusterBreak
  | script
  | scriptUse
  | sentenceBreak
  | wordBreak
  deriving DecidableEq, Repr

/-- The kind of a name. -/
def Kind.ofName? : String → Option Kind
  | "age" => some age
  | "gc" => some category
  | "generalcategory" => some category
  | "gcb" => some clusterBreak
  | "graphemeclusterbreak" => some clusterBreak
  | "sc" => some script
  | "script" => some script
  | "scx" => some scriptUse
  | "scriptextensions" => some scriptUse
  | "sb" => some sentenceBreak
  | "sentencebreak" => some sentenceBreak
  | "wb" => some wordBreak
  | "wordbreak" => some wordBreak
  | _ => none

/-- The class of a value. -/
def Kind.value? (kind : Kind) (name : String) : Option CharClass :=
  match kind with
  | age => age? name
  | category => category? name
  | clusterBreak => clusterBreak? name
  | script => script? name
  | scriptUse => scriptUse? name
  | sentenceBreak => sentenceBreak? name
  | wordBreak => wordBreak? name

/-- The names of properties without classes. -/
def furtherProperties : String :=
  "bc bidiclass bidimirroringglyph bidipairedbracket bidipairedbrackettype blk block bmg bpb " ++
  "bpt canonicalcombiningclass casefolding ccc ce cf changeswhennfkccasefolded " ++
  "cjkaccountingnumeric cjkcompatibilityvariant cjkiicore cjkirggsource cjkirghsource " ++
  "cjkirgjsource cjkirgkpsource cjkirgksource cjkirgmsource cjkirgssource cjkirgtsource " ++
  "cjkirguksource cjkirgusource cjkirgvsource cjkothernumeric cjkprimarynumeric cjkrsunicode " ++
  "compex compositionexclusion cwkcf decompositionmapping decompositiontype dm dt ea " ++
  "eastasianwidth equideo equivalentunifiedideograph expandsonnfc expandsonnfd expandsonnfkc " ++
  "expandsonnfkd fcnfkc fcnfkcclosure fullcompositionexclusion hangulsyllabletype hst incb " ++
  "indicconjunctbreak indicpositionalcategory indicsyllabiccategory inpc insc isc " ++
  "jamoshortname jg joininggroup joiningtype jsn jt kaccountingnumeric kcompatibilityvariant " ++
  "kehcat kehdesc kehhg kehifao kehjsesh kehnomirror kehnorotate kiicore kirggsource " ++
  "kirghsource kirgjsource kirgkpsource kirgksource kirgmsource kirgssource kirgtsource " ++
  "kirguksource kirgusource kirgvsource kothernumeric kprimarynumeric krsunicode lb lc " ++
  "linebreak lowercasemapping na na1 name namealias nfcqc nfcquickcheck nfdqc nfdquickcheck " ++
  "nfkccasefold nfkccf nfkcqc nfkcquickcheck nfkcscf nfkcsimplecasefold nfkdqc nfkdquickcheck " ++
  "nt numerictype numericvalue nv ocomment scf sfc simplecasefolding simplelowercasemapping " ++
  "simpletitlecasemapping simpleuppercasemapping slc stc suc tc titlecasemapping uc " ++
  "unicode1name unicoderadicalstroke uppercasemapping urs verticalorientation vo xonfc xonfd " ++
  "xonfkc xonfkd"

/-- Whether there is a property of a name. -/
def isProperty (name : String) : Bool :=
  (Kind.ofName? name).isSome || (binary? name).isSome ||
    (Text.pieces ' ' furtherProperties.toList).contains name.toList

/-- Whether a name is left to the categories. -/
def isCategoryFirst (name : String) : Bool := ["cf", "sc", "lc"].contains name

/-- The class of a bare name. -/
def namedClass (name : String) : Except QueryFault CharClass :=
  match (if isCategoryFirst name then none else binary? name) with
  | some cls => .ok cls
  | none =>
    if isProperty name && !isCategoryFirst name then .error .unknownProperty
    else
      match (category? name).or (script? name) with
      | some cls => .ok cls
      | none =>
        .error (if isSurrogateCategory name || isEmptyScript name then .unknownValue
          else .unknownProperty)

/-- The class of a property. -/
def Query.class : Query → Except QueryFault CharClass
  | named name => namedClass (looseName name)
  | valued kind value =>
    match Kind.ofName? (looseName kind) with
    | some kind =>
      match kind.value? (looseName value) with
      | some cls => .ok cls
      | none => .error .unknownValue
    | none =>
      .error (if isProperty (looseName kind) then .unknownValue else .unknownProperty)

/-- Decimal digits. -/
def digitClass : CharClass := categories.union ["nd"]

/-- Blank characters. -/
def spaceClass : CharClass := listed "whitespace"

/-- Characters of words: letters, marks, digits, connectors and the join controls. -/
def wordClass : CharClass :=
  (alphabetic.union (categories.union ["mn", "mc", "me", "nd", "pc"])).union (listed "joincontrol")

end LogLens.Pattern
