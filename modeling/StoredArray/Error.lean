import StoredArray.Text.Decimal
import StoredArray.Text.Quoted

namespace StoredArray

/-- A failure of a store: its text and the texts of the failures under it, outermost first. -/
structure StoreError where
  text : String
  causes : List String
  deriving DecidableEq

inductive Error where
  | indexOutOfRange (index : Int64) (length : Nat)
  | invalidValue (count : Nat)
  | lengthMismatch (expected actual : Nat)
  | lengthTooLarge (length : Nat)
  | zeroStep
  | unreadable (text : String)
  | storeUnavailable (cause : StoreError)
  deriving DecidableEq

inductive Error.Kind where
  | indexOutOfRange
  | invalidValue
  | lengthMismatch
  | lengthTooLarge
  | invalidIndex
  | storeUnavailable
  deriving DecidableEq

namespace Error

def kind : Error → Kind
  | indexOutOfRange .. => .indexOutOfRange
  | invalidValue .. => .invalidValue
  | lengthMismatch .. => .lengthMismatch
  | lengthTooLarge .. => .lengthTooLarge
  | zeroStep => .invalidIndex
  | unreadable .. => .invalidIndex
  | storeUnavailable .. => .storeUnavailable

def message : Error → String
  | indexOutOfRange index length =>
    "Index " ++ Decimal.word index ++ " out of range for length " ++ Decimal.text length ++ "."
  | invalidValue count =>
    "Single index assignment expects one byte, got " ++ Decimal.text count ++ "."
  | lengthMismatch expected actual =>
    "Cannot assign " ++ Decimal.text actual ++ " values to a slice of " ++
      Decimal.text expected ++ "."
  | lengthTooLarge length => "Length " ++ Decimal.text length ++ " is too large."
  | zeroStep => "Invalid index: slice step cannot be zero."
  | unreadable text => "Invalid index: " ++ Text.quote text ++ "."
  | storeUnavailable cause => "Store unavailable: " ++ cause.text

def causes : Error → List String
  | storeUnavailable cause => cause.text :: cause.causes
  | _ => []

end Error

end StoredArray
