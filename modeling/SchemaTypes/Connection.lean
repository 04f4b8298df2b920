import SchemaTypes.Text.CaseMap
import SchemaTypes.Text.Cut

/-! Connection strings. Passwords are hidden before a connection string is shown: the one in front
of the host, and those among the parameters. -/
namespace SchemaTypes.Connection

def mask : List Char := "***".toList

/-- Hides what stands between the first `:` and the last `@` after `://`. -/
def redactAuthority (s : List Char) : List Char :=
  match Text.cutAtMark "://".toList s with
  | none => s
  | some (scheme, rest) =>
    match Text.cutLast '@' rest with
    | none => s
    | some (userinfo, host) =>
      match Text.cutFirst ':' userinfo with
      | none => s
      | some (user, _) => scheme ++ "://".toList ++ user ++ ':' :: mask ++ '@' :: host

/-- Keys of parameters that hold secrets, in whatever case they are written. -/
def isSensitive (key : List Char) : Bool :=
  Text.lowercase (String.ofList key) ∈ ["password", "pass", "token", "sslpassword"]

def redactParameter (s : List Char) : List Char :=
  match Text.cutFirst '=' s with
  | some (key, _) => if isSensitive key then key ++ '=' :: mask else s
  | none => s

def redactParameters (s : List Char) : List Char :=
  ['&'].intercalate ((s.splitOn '&').map redactParameter)

def redactChars (s : List Char) : List Char :=
  match Text.cutFirst '?' s with
  | some (base, query) => redactAuthority base ++ '?' :: redactParameters query
  | none => redactAuthority s

def redact (s : String) : String := String.ofList (redactChars s.toList)

def isPostgres (s : String) : Bool :=
  "postgres://".toList.isPrefixOf s.toList || "postgresql://".toList.isPrefixOf s.toList

end SchemaTypes.Connection
