/-!
Exceptions.

An exception has a class and a message.  A class is known by its qualified name and its module, and
derives from a built-in one, which decides who catches it.
-/

namespace DocExamples

/-- The class of an exception. -/
structure ExceptionClass where
  /-- The name with the names of the classes it is nested in, such as `Outer.Inner`. -/
  qualifiedName : String
  module : String
  /-- The built-in class that it is, or derives from. -/
  base : String
deriving DecidableEq, Repr

namespace ExceptionClass

/-- The module of the built-in classes. -/
def builtinModule : String := "builtins"

/-- The names that are further names of another class. -/
def aliases : List (String × String) := [("EnvironmentError", "OSError"), ("IOError", "OSError")]

/-- The proper name of a built-in class. -/
def properName (name : String) : String := (aliases.lookup name).getD name

/-- A built-in class. -/
def builtin (name : String) : ExceptionClass := ⟨properName name, builtinModule, properName name⟩

/-- A class of a module that derives from the built-in class with a name. -/
def derived (qualifiedName module base : String) : ExceptionClass :=
  ⟨qualifiedName, module, properName base⟩

/-- The name without the names of enclosing classes. -/
def name (c : ExceptionClass) : String :=
  .ofList (c.qualifiedName.toList.reverse.takeWhile (· ≠ '.')).reverse

/-- The built-in classes that do not stand for errors of a program. -/
def extraordinary : List String :=
  ["BaseException", "BaseExceptionGroup", "GeneratorExit", "KeyboardInterrupt", "SystemExit"]

/-- The class stands for an error of a program, which a test may expect. -/
def isOrdinary (c : ExceptionClass) : Bool := !extraordinary.contains c.base

/-- The class stands for a request to end the program. -/
def isExit (c : ExceptionClass) : Bool := c.base = "SystemExit"

/-- The class stands for a source that does not parse. -/
def isSyntaxError (c : ExceptionClass) : Bool :=
  ["SyntaxError", "IndentationError", "TabError"].contains c.base

/-- The class has this name, alone or behind its module's. -/
def matchesName (c : ExceptionClass) (name : String) : Bool :=
  name = c.qualifiedName || name = c.module ++ "." ++ c.qualifiedName

/-- The built-in classes that a program can raise by name. -/
def builtinNames : List String :=
  ["ArithmeticError", "AssertionError", "AttributeError", "BaseException", "BaseExceptionGroup",
   "BlockingIOError", "BrokenPipeError", "BufferError", "BytesWarning", "ChildProcessError",
   "ConnectionAbortedError", "ConnectionError", "ConnectionRefusedError", "ConnectionResetError",
   "DeprecationWarning", "EOFError", "EncodingWarning", "EnvironmentError", "Exception",
   "ExceptionGroup", "FileExistsError", "FileNotFoundError", "FloatingPointError", "FutureWarning",
   "GeneratorExit", "IOError", "ImportError", "ImportWarning", "IndentationError", "IndexError",
   "InterruptedError", "IsADirectoryError", "KeyError", "KeyboardInterrupt", "LookupError",
   "MemoryError", "ModuleNotFoundError", "NameError", "NotADirectoryError", "NotImplementedError",
   "OSError", "OverflowError", "PendingDeprecationWarning", "PermissionError",
   "ProcessLookupError", "RecursionError", "ReferenceError", "ResourceWarning", "RuntimeError",
   "RuntimeWarning", "StopAsyncIteration", "StopIteration", "SyntaxError", "SyntaxWarning",
   "SystemError", "SystemExit", "TabError", "TimeoutError", "TypeError", "UnboundLocalError",
   "UnicodeDecodeError", "UnicodeEncodeError", "UnicodeError", "UnicodeTranslateError",
   "UnicodeWarning", "UserWarning", "ValueError", "Warning", "ZeroDivisionError"]

end ExceptionClass

/-- An exception that was raised. -/
structure Raised where
  cls : ExceptionClass
  message : String
deriving DecidableEq, Repr

/-- An exception of a built-in class. -/
def Raised.builtin (name message : String) : Raised := ⟨.builtin name, message⟩

end DocExamples
