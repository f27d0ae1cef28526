import FederationConfig.Duration.Reading
import FederationConfig.Tree.Wording

namespace FederationConfig

inductive DecodeFault where
  | wrongType (found : Tree) (expected : String)
  | outOfRange (value : Int) (expected : String)
  | surplus (length greatest : Nat)
  | missingField (name : String)
  | duplicateField (name : String)
  | unknownVariant (name : String) (expected : List String)
  | malformedDuration (error : Duration.ReadError)
  | unsupportedTag
  deriving Repr

namespace DecodeFault

def codeQuote (name : String) : String := "`" ++ name ++ "`"

def message (wording : Wording) : DecodeFault → String
  | wrongType found expected =>
    "invalid type: " ++ wording.describe found ++ ", expected " ++ expected
  | outOfRange value expected =>
    "invalid value: " ++ wording.describe (.integer value) ++ ", expected " ++ expected
  | surplus length greatest =>
    "invalid length " ++ length.repr ++ ", expected " ++ wording.surplus greatest
  | missingField name => "missing field " ++ codeQuote name
  | duplicateField name => "duplicate field " ++ codeQuote name
  | unknownVariant name expected =>
    "unknown variant " ++ codeQuote name ++ ", expected " ++
      " or ".intercalate (expected.map codeQuote)
  | malformedDuration error => error.message
  | unsupportedTag => "untagged and internally tagged enums do not support enum input"

end DecodeFault

end FederationConfig
