/-!
# Errors of input fields

Input is checked field by field, and every field that fails yields one error: where it is and what
is wrong with it. `Cause.kind` and `Cause.message` give the words for a cause.
-/

namespace LabelPress.Validation

/-- A step on the way to a field: the name of a member or the index of an item. -/
inductive Step where
  | member (name : String)
  | item (index : Nat)
  deriving Repr, DecidableEq

/-- What is wrong with a field. -/
inductive Cause where
  /-- The field is required but absent. -/
  | missing
  /-- An object was expected, or an instance of the named model. -/
  | notModel (model : String)
  /-- An object was expected. -/
  | notExtractable
  /-- A string was expected. -/
  | notString
  /-- A string has unpaired surrogates in it. -/
  | notUnicode
  /-- A string has fewer characters than this. -/
  | stringTooShort (least : Nat)
  /-- A string has more characters than this. -/
  | stringTooLong (most : Nat)
  /-- A string does not have the form of this pattern. -/
  | patternMismatch (pattern : String)
  /-- An integer was expected. -/
  | notInteger
  /-- A string does not denote an integer. -/
  | unreadableInteger
  /-- An integer is too long to be read. -/
  | oversizedInteger
  /-- A number has a fractional part. -/
  | fractionalNumber
  /-- A number is not finite. -/
  | infiniteNumber
  /-- An integer is not greater than this. -/
  | notAbove (bound : Int)
  /-- An integer is less than this. -/
  | belowLeast (bound : Int)
  /-- An integer is greater than this. -/
  | aboveMost (bound : Int)
  /-- A truth value was expected. -/
  | notTruthValue
  /-- A string or number does not stand for a truth value. -/
  | unreadableTruthValue
  /-- A list was expected. -/
  | notList
  /-- An object was expected. -/
  | notObject
  /-- A list has fewer items than this; it has `found`. -/
  | tooFewItems (least found : Nat)
  /-- The value is not one of the names of an enumeration. -/
  | notMember (names : List String)
  /-- The value is not one of these words. -/
  | notLiteral (words : List String)
  /-- The fields are valid one by one but not together. -/
  | rejected (reason : String)
  /-- The input is not a document. -/
  | unreadableDocument
  deriving Repr, DecidableEq

/-- Words between apostrophes, separated by commas, the last two by `or`. -/
def alternatives : List String → String
  | [] => ""
  | [w] => "'" ++ w ++ "'"
  | [v, w] => "'" ++ v ++ "' or '" ++ w ++ "'"
  | w :: ws => "'" ++ w ++ "', " ++ alternatives ws

/-- A count of things, in the singular for one. -/
def counted (n : Nat) (thing : String) : String :=
  toString n ++ " " ++ thing ++ (if n = 1 then "" else "s")

namespace Cause

/-- The word for a cause. -/
def kind : Cause → String
  | missing => "missing"
  | notModel _ => "model_type"
  | notExtractable => "model_attributes_type"
  | notString => "string_type"
  | notUnicode => "string_unicode"
  | stringTooShort _ => "string_too_short"
  | stringTooLong _ => "string_too_long"
  | patternMismatch _ => "string_pattern_mismatch"
  | notInteger => "int_type"
  | unreadableInteger => "int_parsing"
  | oversizedInteger => "int_parsing_size"
  | fractionalNumber => "int_from_float"
  | infiniteNumber => "finite_number"
  | notAbove _ => "greater_than"
  | belowLeast _ => "greater_than_equal"
  | aboveMost _ => "less_than_equal"
  | notTruthValue => "bool_type"
  | unreadableTruthValue => "bool_parsing"
  | notList => "list_type"
  | notObject => "dict_type"
  | tooFewItems _ _ => "too_short"
  | notMember _ => "enum"
  | notLiteral _ => "literal_error"
  | rejected _ => "value_error"
  | unreadableDocument => "json_invalid"

/-- The wording of a cause. -/
def message : Cause → String
  | missing => "Field required"
  | notModel model => "Input should be a valid dictionary or instance of " ++ model
  | notExtractable => "Input should be a valid dictionary or object to extract fields from"
  | notString => "Input should be a valid string"
  | notUnicode =>
    "Input should be a valid string, unable to parse raw data as a unicode string"
  | stringTooShort n => "String should have at least " ++ counted n "character"
  | stringTooLong n => "String should have at most " ++ counted n "character"
  | patternMismatch pattern => "String should match pattern '" ++ pattern ++ "'"
  | notInteger => "Input should be a valid integer"
  | unreadableInteger => "Input should be a valid integer, unable to parse string as an integer"
  | oversizedInteger =>
    "Unable to parse input string as an integer, exceeded maximum size"
  | fractionalNumber => "Input should be a valid integer, got a number with a fractional part"
  | infiniteNumber => "Input should be a finite number"
  | notAbove n => "Input should be greater than " ++ toString n
  | belowLeast n => "Input should be greater than or equal to " ++ toString n
  | aboveMost n => "Input should be less than or equal to " ++ toString n
  | notTruthValue => "Input should be a valid boolean"
  | unreadableTruthValue => "Input should be a valid boolean, unable to interpret input"
  | notList => "Input should be a valid list"
  | notObject => "Input should be a valid dictionary"
  | tooFewItems least found =>
    "List should have at least " ++ counted least "item" ++ " after validation, not "
      ++ toString found
  | notMember names => "Input should be " ++ alternatives names
  | notLiteral words => "Input should be " ++ alternatives words
  | rejected reason => "Value error, " ++ reason
  | unreadableDocument => "JSON decode error"

end Cause

/-- An error of one field. -/
structure FieldError where
  /-- The way to the field, from the outside in. -/
  path : List Step
  /-- What is wrong with it. -/
  cause : Cause
  deriving Repr, DecidableEq

end LabelPress.Validation
