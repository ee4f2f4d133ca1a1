import Mathlib.Init

/-!
# Exceptions

The exception classes that the modelled code raises or catches, with the
subclass relation its handlers rely on.
-/

namespace Kuber

inductive ExceptionClass where
  | valueError
  | rbacParseError
  | unsupportedResourceError
  | keyError
  | typeError
  | assertionError
  | calledProcessError
  | safetyError
  | dryRunOnlyError
  | graphRecursionError
  | other (name : String)
deriving DecidableEq, Repr

namespace ExceptionClass

/-- The class name, as `type(error).__name__` prints it. -/
def name : ExceptionClass → String
  | valueError => "ValueError"
  | rbacParseError => "RbacParseError"
  | unsupportedResourceError => "UnsupportedResourceError"
  | keyError => "KeyError"
  | typeError => "TypeError"
  | assertionError => "AssertionError"
  | calledProcessError => "CalledProcessError"
  | safetyError => "SafetyError"
  | dryRunOnlyError => "DryRunOnlyError"
  | graphRecursionError => "GraphRecursionError"
  | other name => name

/-- `ValueError` and its subclasses among the modelled classes. -/
def isValueError : ExceptionClass → Bool
  | valueError | rbacParseError | unsupportedResourceError => true
  | _ => false

end ExceptionClass

structure PyException where
  kind : ExceptionClass
  message : String
deriving DecidableEq, Repr

namespace PyException

def valueError (message : String) : PyException := ⟨.valueError, message⟩

def keyError (key : String) : PyException := ⟨.keyError, key⟩

end PyException

end Kuber
