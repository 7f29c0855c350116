import HelpText.Text.Quoted

/-!
What can go wrong when a path is used: the system refuses, the path holds a NUL, or its `~` stands
for an unknown home directory.
-/

namespace HelpText

namespace FileSystem

/-- Why the system refuses an operation. -/
inductive Cause where
  | notPermitted
  | notFound
  | exists
  | notDirectory
  | isDirectory
  | nameTooLong
  | tooManyLinks
  deriving DecidableEq, Repr

def Cause.number : Cause → Nat
  | .notPermitted => 1
  | .notFound => 2
  | .exists => 17
  | .notDirectory => 20
  | .isDirectory => 21
  | .nameTooLong => 36
  | .tooManyLinks => 40

def Cause.text : Cause → Text
  | .notPermitted => .of "Operation not permitted"
  | .notFound => .of "No such file or directory"
  | .exists => .of "File exists"
  | .notDirectory => .of "Not a directory"
  | .isDirectory => .of "Is a directory"
  | .nameTooLong => .of "File name too long"
  | .tooManyLinks => .of "Too many levels of symbolic links"

/-- Why a path could not be used. A refusal by the system carries the path as it was given. -/
inductive Fault where
  | system (cause : Cause) (path : Text)
  | nullByte
  | unknownHome
  deriving DecidableEq, Repr

def Fault.text : Fault → Text
  | .system cause path =>
    .of "[Errno " ++ Text.decimal cause.number ++ .of "] " ++ cause.text ++ .of ": " ++
      Text.quoted path
  | .nullByte => .of "embedded null byte"
  | .unknownHome => .of "Could not determine home directory."

/-- Faults that leave open whether something stands at the path; the others say that nothing does.
-/
def Fault.isDoubtful : Fault → Bool
  | .system .notFound _ | .system .notDirectory _ | .system .tooManyLinks _ | .nullByte => false
  | _ => true

def Fault.isRefusal : Fault → Bool
  | .system .. => true
  | _ => false

/-- Faults for want of permission. -/
def Fault.isPermission : Fault → Bool
  | .system .notPermitted _ => true
  | _ => false

end FileSystem

end HelpText
