import BulkInsert.Decimal.Layout
import BulkInsert.Text.Quoted

/-!
# Errors of a configuration document

A document is read from the left and the first problem decides. Either the document is not
JSON, because it ends too early or breaks the grammar, or it is JSON that does not describe
the settings. Only the latter has a report.
-/

namespace BulkInsert.Config

/-- What a document holds in place of what was expected. -/
inductive Found where
  | null
  | boolean (value : Bool)
  | integer (value : Int)
  | fraction (value : Float)
  | text (value : Text)
  | sequence
  | map
  deriving DecidableEq, Repr

/-- What the settings expect at a place of the document. -/
inductive Expected where
  /-- A whole number for the batch size. -/
  | size
  /-- The settings themselves. -/
  | settings
  deriving DecidableEq, Repr

/-- Why a document is refused. -/
inductive ConfigError where
  /-- The document ends too early. -/
  | endOfText
  /-- The document breaks the grammar. -/
  | malformed
  /-- A value of one kind stands where another kind was expected. -/
  | wrongType (found : Found) (expected : Expected)
  /-- A number is out of range. -/
  | wrongValue (found : Found) (expected : Expected)
  /-- A sequence holds no batch size. -/
  | emptySequence
  /-- An object holds no batch size. -/
  | missingSize
  /-- An object holds a second batch size. -/
  | duplicateSize
  deriving DecidableEq, Repr

/-- Fractions are written positionally from `10 ^ -5` up to, but not including, `10 ^ 16`. -/
def fractionLayout : Decimal.Layout := ⟨-5, 15⟩

/-- The description of what was found. -/
def Found.describe : Found → Text
  | null => "null".toList
  | boolean true => "boolean \x60true\x60".toList
  | boolean false => "boolean \x60false\x60".toList
  | integer n => "integer \x60".toList ++ Text.integerDigits n ++ ['\x60']
  | fraction x => "floating point \x60".toList ++ fractionLayout.writeFloat x ++ ['\x60']
  | text t => "string ".toList ++ t.quote
  | sequence => "sequence".toList
  | map => "map".toList

/-- The description of what was expected. -/
def Expected.describe : Expected → Text
  | size => "usize".toList
  | settings => "struct BatchConfig".toList

/-- The report of an error, for a document that is JSON so far. -/
def ConfigError.report? : ConfigError → Option Text
  | endOfText | malformed => none
  | wrongType found expected =>
    some ("invalid type: ".toList ++ found.describe ++ ", expected ".toList ++ expected.describe)
  | wrongValue found expected =>
    some ("invalid value: ".toList ++ found.describe ++ ", expected ".toList ++ expected.describe)
  | emptySequence =>
    some "invalid length 0, expected struct BatchConfig with 1 element".toList
  | missingSize => some "missing field \x60batch_size\x60".toList
  | duplicateSize => some "duplicate field \x60batch_size\x60".toList

end BulkInsert.Config
