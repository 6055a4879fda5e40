import SpanMeter.Fault.Codes
import SpanMeter.Text.Quoted

/-!
# Why a request fails

A report fails because its destination cannot be created or written, any request because the engine
has stopped. Each cause has a kind, a full text that names all its parts (`SystemFault.text`,
`ReportFault.text`), and a system fault also a plain message (`SystemFault.message`).
-/

namespace SpanMeter

/-- What the operating system, or a layer above it, reports about a destination. -/
inductive SystemFault where
  /-- A failure that the operating system reports by a code. -/
  | os (code : Int)
  /-- A failure found without asking the operating system. -/
  | plain (kind message : String)
  /-- A failure of no particular kind, in the words of whoever reports it. -/
  | custom (message : String)
  deriving DecidableEq

namespace SystemFault

/-- The kind of failure. -/
def kind : SystemFault → String
  | os code => Fault.kindOf code
  | plain kind _ => kind
  | custom _ => "Other"

/-- The failure in words. -/
def message : SystemFault → String
  | os code => Fault.messageOf code ++ " (os error " ++ Number.numeral code ++ ")"
  | plain _ message => message
  | custom message => message

/-- The failure with all its parts. -/
def text : SystemFault → String
  | os code =>
    "Os \x7b code: " ++ Number.numeral code ++ ", kind: " ++ Fault.kindOf code ++ ", message: " ++
      Text.quoted (Fault.messageOf code) ++ " \x7d"
  | plain kind message =>
    "Error \x7b kind: " ++ kind ++ ", message: " ++ Text.quoted message ++ " \x7d"
  | custom message => "Custom \x7b kind: Other, error: " ++ Text.quoted message ++ " \x7d"

/-- There is no such file, or no such directory on the way to it. -/
def notFound : SystemFault := os 2

/-- A file stands where the path needs a directory. -/
def notADirectory : SystemFault := os 20

/-- The path names a directory. -/
def isADirectory : SystemFault := os 21

/-- The destination has no room left. -/
def noSpace : SystemFault := os 28

/-- The path, or a name in it, is too long. -/
def nameTooLong : SystemFault := os 36

/-- The path holds the null character. -/
def nulInPath : SystemFault :=
  plain "InvalidInput" "file name contained an unexpected NUL byte"

/-- The destination takes no more bytes. -/
def writeZero : SystemFault := plain "WriteZero" "failed to write whole buffer"

end SystemFault

/-- Why a request other than a report is not answered. -/
inductive RequestFault where
  /-- The engine has stopped. -/
  | stopped
  deriving DecidableEq

/-- Why a report is not written. -/
inductive ReportFault where
  /-- The engine has stopped. -/
  | stopped
  /-- The destination could not be created or written. -/
  | destination (cause : SystemFault)
  deriving DecidableEq

/-- The fault with all its parts. -/
def RequestFault.text : RequestFault → String
  | stopped => "Stopped"

namespace ReportFault

/-- The fault of a request as a fault of a report. -/
def ofRequest : RequestFault → ReportFault
  | .stopped => stopped

/-- The fault with all its parts. -/
def text : ReportFault → String
  | stopped => "Stopped"
  | destination cause => "Io(" ++ cause.text ++ ")"

/-- The system fault behind a fault. -/
def cause? : ReportFault → Option SystemFault
  | stopped => none
  | destination cause => some cause

end ReportFault

end SpanMeter
