import LogLens.Level
/-!
# Errors of filters

What can be wrong with the text of a condition or of a level set. All of these are found before the
first record is looked at.
-/

namespace LogLens

/-- Why a text is no filter. -/
inductive FilterError where
  | malformed (piece : String)
  | patternExpected (operand : String)
  | unknownLevel (name : String)
  | badLevelSet (text : String)
  deriving DecidableEq, Repr

/-- The wording of an error. -/
def FilterError.message : FilterError → String
  | malformed piece => "Malformed condition: '" ++ piece ++ "'"
  | patternExpected operand =>
    "Operator '=~' expects a /regex/ on its right side, got: '" ++ operand ++ "'"
  | unknownLevel name => Level.unknownMessage name
  | badLevelSet text => "Invalid level set: '" ++ text ++ "'"

end LogLens
