/-! The tokens of a JSON text, and how a text can end where a token cannot. -/
namespace DependencyAudit.Json

inductive Token
  | openBracket
  | closeBracket
  | openBrace
  | closeBrace
  | comma
  | colon
  | null
  | bool (value : Bool)
  | number (spelling : String)
  | string (content : Option String)
deriving DecidableEq

/-- What is wrong with a text: it breaks a rule, or it is only the beginning of one. -/
inductive Fault
  | malformed
  | unfinished
deriving DecidableEq

/-- What follows the last token: nothing, or something that is no token. A string or a scalar may be
looked at strictly, where its value is wanted, or loosely, where it is only passed over. -/
inductive Ending
  | complete
  | brokenString (strict loose : Fault)
  | brokenScalar (strict loose : Fault)
deriving DecidableEq

end DependencyAudit.Json
