import HelpText.FileSystem.Access

/-!
Reading a file as strict UTF-8 text.
-/

namespace HelpText

namespace FileSystem

/-- Why a file gives no text: its path cannot be used or its bytes are no UTF-8. -/
inductive ReadFault where
  | access (fault : Fault)
  | encoding (fault : Utf8.Fault)
  deriving DecidableEq, Repr

def ReadFault.text : ReadFault → Text
  | .access fault => fault.text
  | .encoding fault => fault.text

def readText (fs : FileSystem) (path : Path) : Except ReadFault Text :=
  match fs.readFile path with
  | .ok bytes => (Utf8.decode bytes).mapError .encoding
  | .error fault => .error (.access fault)

end FileSystem

end HelpText
