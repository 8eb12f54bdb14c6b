/-!
# Python exceptions

The control plane tells exceptions apart by class only (`except (KeyError, ValueError)`,
`except (json.JSONDecodeError, OSError)`, `except Exception`), and copies their text
into event payloads. An exception is its class and its text.
-/

namespace Flotilla

/-- The exception classes that the modelled code raises or catches. -/
inductive ExcClass
  | illegalTransition
  | integrityError
  | operationalError
  | keyError
  | valueError
  | jsonDecodeError
  | unicodeDecodeError
  | recursionError
  | typeError
  | osError
  | runtimeError
  | httpException (status : Nat)
  | exception
  deriving DecidableEq, Repr

/-- A raised exception: its class and `str(exc)`. -/
structure PyErr where
  cls : ExcClass
  msg : String
  deriving DecidableEq, Repr

namespace ExcClass

/-- `isinstance(exc, ValueError)`: `json.JSONDecodeError` and `UnicodeDecodeError` are
subclasses of `ValueError`. -/
def isValueError : ExcClass → Bool
  | .valueError | .jsonDecodeError | .unicodeDecodeError => true
  | _ => false

/-- `isinstance(exc, (KeyError, ValueError))`. -/
def isKeyOrValueError (c : ExcClass) : Bool := c == .keyError || c.isValueError

end ExcClass

/-- `repr` of a text without unprintable characters: single quotes, unless the text has
a single quote and no double quote. -/
def pyRepr (s : String) : String :=
  let q := if s.toList.contains '\'' && !s.toList.contains '"' then '"' else '\''
  let body := s.toList.flatMap fun c =>
    if c = '\\' then ['\\', '\\']
    else if c = '\n' then ['\\', 'n']
    else if c = '\r' then ['\\', 'r']
    else if c = '\t' then ['\\', 't']
    else if c = q then ['\\', c]
    else [c]
  String.ofList (q :: body ++ [q])

end Flotilla
