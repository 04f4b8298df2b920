/-! Why a generation fails. -/
namespace SchemaTypes

inductive OptionsFault
  | emptyEnumName
  | emptyTypeName
  | sharedName (name : String)
  deriving DecidableEq, Repr

def OptionsFault.message : OptionsFault → String
  | .emptyEnumName => "tables enum name must not be empty"
  | .emptyTypeName => "tables type name must not be empty"
  | .sharedName name => "tables enum and tables type share the name `" ++ name ++ "`"

/-- Failures of the output: it took no byte of a write, or it refused. -/
inductive OutputFault
  | writeZero
  | refused (message : String)
  deriving DecidableEq, Repr

def OutputFault.message : OutputFault → String
  | .writeZero => "write zero"
  | .refused message => message

inductive Error
  | database (message : String)
  | output (fault : OutputFault)
  | resolver (key message : String)
  | options (fault : OptionsFault)
  deriving DecidableEq, Repr

def Error.message : Error → String
  | .database message => "database error: " ++ message
  | .output fault => "io error: " ++ fault.message
  | .resolver key message => "override `" ++ key ++ "` failed: " ++ message
  | .options fault => "invalid configuration: " ++ fault.message

end SchemaTypes
