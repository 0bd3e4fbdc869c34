/-
# Checked decoding

A document is decoded against the types that it should have.  Decoding does not stop at the first
complaint: `Checked` is an applicative that keeps the complaints of all parts, in the order in which
the parts are listed, each with the place in the document that it is about.
-/
import ModifierLint.Value

namespace ModifierLint.Schema

/-- What can be wrong with a moment that is given by a number or that has been read. -/
inductive MomentFault
  | tooEarly
  | tooLate
  | notANumber
  | yearZero
  deriving Repr, DecidableEq

/-- The text of the fault. -/
def MomentFault.message : MomentFault → String
  | tooEarly => "dates before 0000 are not supported as unix timestamps"
  | tooLate => "dates after 9999 are not supported as unix timestamps"
  | notANumber => "NaN values not permitted"
  | yearZero => "year 0 is out of range"

/-- What can be wrong with a day in text. -/
inductive DayFault
  | tooShort
  | moreText
  | yearText
  | separator
  | monthText
  | dayText
  | month
  | day
  | number (fault : MomentFault)
  deriving Repr, DecidableEq

/-- The text of the fault. -/
def DayFault.message : DayFault → String
  | tooShort => "input is too short"
  | moreText => "unexpected extra characters at the end of the input"
  | yearText => "invalid character in year"
  | separator => "invalid date separator, expected \x60-\x60"
  | monthText => "invalid character in month"
  | dayText => "invalid character in day"
  | month => "month value is outside expected range of 1-12"
  | day => "day value is outside expected range"
  | number fault => fault.message

/-- One step from a document to a part of it. -/
inductive Step
  | name (s : String)
  | index (i : Int)
  deriving Repr, DecidableEq

/-- What can be wrong with a value. -/
inductive Complaint
  | missing
  | extraForbidden
  | stringType
  | stringEncoding
  | intType
  | intParsing
  | intSize
  | intFromFraction
  | notFinite
  | boolType
  | boolParsing
  | listType
  | tupleType
  | dictType
  | modelType (model : String)
  | notOneOf (allowed : List String)
  | keyType
  | frozen
  | lessThan (least : Int)
  | dateTimeType
  | dateTimeParsing (fault : MomentFault)
  | dayParsing (fault : DayFault)
  deriving Repr, DecidableEq

/-- Alternatives joined by commas, the last one by `or`. -/
def alternatives : List String → String
  | [] => ""
  | [a] => a
  | [a, b] => a ++ " or " ++ b
  | a :: rest => a ++ ", " ++ alternatives rest

namespace Complaint

/-- The short name of a complaint. -/
def code : Complaint → String
  | missing => "missing"
  | extraForbidden => "extra_forbidden"
  | stringType => "string_type"
  | stringEncoding => "string_unicode"
  | intType => "int_type"
  | intParsing => "int_parsing"
  | intSize => "int_parsing_size"
  | intFromFraction => "int_from_float"
  | notFinite => "finite_number"
  | boolType => "bool_type"
  | boolParsing => "bool_parsing"
  | listType => "list_type"
  | tupleType => "tuple_type"
  | dictType => "dict_type"
  | modelType _ => "model_type"
  | notOneOf _ => "enum"
  | keyType => "invalid_key"
  | frozen => "frozen_instance"
  | lessThan _ => "greater_than_equal"
  | dateTimeType => "datetime_type"
  | dateTimeParsing _ => "datetime_parsing"
  | dayParsing _ => "datetime_from_date_parsing"

/-- The text of a complaint. -/
def message : Complaint → String
  | missing => "Field required"
  | extraForbidden => "Extra inputs are not permitted"
  | stringType => "Input should be a valid string"
  | stringEncoding =>
    "Input should be a valid string, unable to parse raw data as a unicode string"
  | intType => "Input should be a valid integer"
  | intParsing => "Input should be a valid integer, unable to parse string as an integer"
  | intSize => "Unable to parse input string as an integer, exceeded maximum size"
  | intFromFraction => "Input should be a valid integer, got a number with a fractional part"
  | notFinite => "Input should be a finite number"
  | boolType => "Input should be a valid boolean"
  | boolParsing => "Input should be a valid boolean, unable to interpret input"
  | listType => "Input should be a valid list"
  | tupleType => "Input should be a valid tuple"
  | dictType => "Input should be a valid dictionary"
  | modelType model => "Input should be a valid dictionary or instance of " ++ model
  | notOneOf allowed => "Input should be " ++ alternatives (allowed.map Text.Quoted.text)
  | keyType => "Keys should be strings"
  | frozen => "Instance is frozen"
  | lessThan least => "Input should be greater than or equal to " ++ Text.ofInt least
  | dateTimeType => "Input should be a valid datetime"
  | dateTimeParsing fault => "Input should be a valid datetime, " ++ fault.message
  | dayParsing fault => "Input should be a valid datetime or date, " ++ fault.message

end Complaint

/-- A complaint about the part of a document at a place. -/
structure Issue where
  place : List Step
  complaint : Complaint
  deriving Repr, DecidableEq

/-- A decoded value, or all complaints about it. -/
inductive Checked (α : Type) where
  | valid (a : α)
  | invalid (issues : List Issue)

namespace Checked

variable {α β : Type}

/-- Applies a function to a decoded value. -/
def map (f : α → β) : Checked α → Checked β
  | valid a => valid (f a)
  | invalid issues => invalid issues

/-- The complaints about a function come before those about its argument. -/
def apply : Checked (α → β) → Checked α → Checked β
  | valid f, valid a => valid (f a)
  | valid _, invalid issues => invalid issues
  | invalid issues, valid _ => invalid issues
  | invalid issues, invalid more => invalid (issues ++ more)

instance : Applicative Checked where
  pure := valid
  map := map
  seq f x := apply f (x ())

/-- A complaint about the whole value. -/
def complain (complaint : Complaint) : Checked α :=
  invalid [⟨[], complaint⟩]

/-- The complaints are about a part. -/
def at_ (step : Step) : Checked α → Checked α
  | valid a => valid a
  | invalid issues => invalid (issues.map fun i => { i with place := step :: i.place })

/-- Decodes all parts. -/
def all : List (Checked α) → Checked (List α)
  | [] => valid []
  | x :: rest => (· :: ·) <$> x <*> all rest

/-- Decodes the items of a list, where `i` is the index of the first. -/
def items (i : Nat) : List (Checked α) → Checked (List α)
  | [] => valid []
  | x :: rest => (· :: ·) <$> x.at_ (.index i) <*> items (i + 1) rest

end Checked

end ModifierLint.Schema
