import Extrinsics.Format.Tree
import Extrinsics.Text.Quoted

/-!
# Mismatches

What a document has in place of what a type asks for, and the message that says so.
-/

namespace Extrinsics

/-- What a type asks for. -/
inductive Expected where
  | text
  | flag
  | word (width : Nat)
  | list
  | object
  | null
  | choice
  | soleMember
  | record (name : String)
  | recordOf (name : String) (fields : Nat)
  | fewerItems
deriving DecidableEq

/-- A difference between a document and the type it is read as. -/
inductive Mismatch where
  | wrongType (found : Found) (expected : Expected)
  | wrongValue (found : Found) (expected : Expected)
  | wrongLength (length : Nat) (expected : Expected)
  | missingField (name : String)
  | duplicateField (name : String)
  | unknownVariant (name : String) (variants : List String)
deriving DecidableEq

namespace Mismatch

/-- A name between back quotes. -/
private def ticked (name : String) : String := "`" ++ name ++ "`"

/-- The words for a found value. How a binary64 number is written depends on the kind of
document. -/
def describe (number : Binary64 → String) : Found → String
  | .null => "null"
  | .flag b => "boolean " ++ ticked (if b then "true" else "false")
  | .whole i => "integer " ++ ticked (toString i)
  | .real x => "floating point " ++ ticked (number x)
  | .text s => "string " ++ Text.quoted s
  | .list => "sequence"
  | .object => "map"

/-- The words for what is expected. -/
def describeExpected : Expected → String
  | .text => "a string"
  | .flag => "a boolean"
  | .word width => "u" ++ toString width
  | .list => "a sequence"
  | .object => "a map"
  | .null => "unit"
  | .choice => "string or map"
  | .soleMember => "map with a single key"
  | .record name => "struct " ++ name
  | .recordOf name fields => "struct " ++ name ++ " with " ++ toString fields
      ++ (if fields = 1 then " element" else " elements")
  | .fewerItems => "fewer elements in array"

/-- The words for a list of permitted names. -/
def describeVariants : List String → String
  | [] => "there are no variants"
  | [a] => "expected " ++ ticked a
  | [a, b] => "expected " ++ ticked a ++ " or " ++ ticked b
  | names => "expected one of " ++ String.intercalate ", " (names.map ticked)

/-- The message of a mismatch. -/
def message (number : Binary64 → String) : Mismatch → String
  | wrongType found expected =>
    "invalid type: " ++ describe number found ++ ", expected " ++ describeExpected expected
  | wrongValue found expected =>
    "invalid value: " ++ describe number found ++ ", expected " ++ describeExpected expected
  | wrongLength length expected =>
    "invalid length " ++ toString length ++ ", expected " ++ describeExpected expected
  | missingField name => "missing field " ++ ticked name
  | duplicateField name => "duplicate field " ++ ticked name
  | unknownVariant name variants =>
    "unknown variant " ++ ticked name ++ ", " ++ describeVariants variants

end Mismatch

end Extrinsics
