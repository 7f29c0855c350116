import HelpText.Document.Basic
import HelpText.Path

/-!
The generated Go source file: the license header, the marker of generated code, the package clause
and one variable declaration for every field of a document that holds text.
-/

namespace HelpText

namespace GoSource

/-- The line by which tools recognise generated code. -/
def generatedMarker : Text := .of "// Code generated by \"mdtogo\"; DO NOT EDIT."

/-- A variable and the inside of the raw string literal that gives its value. -/
structure Declaration where
  name : Text
  value : Text
  deriving DecidableEq, Repr

/-- What the names of a field's variables end in. -/
def suffix : Document.Field → Text
  | .short => ['S', 'h', 'o', 'r', 't']
  | .long => ['L', 'o', 'n', 'g']
  | .examples => ['E', 'x', 'a', 'm', 'p', 'l', 'e', 's']

def fieldValue (document : Document) : Document.Field → Text
  | .short => document.short
  | .long => document.long
  | .examples => document.examples

/-- The declarations of a document: one for each field that is not empty. -/
def declarations (document : Document) : List Declaration :=
  ([.short, .long, .examples].filter fun field => !(fieldValue document field).isEmpty).map
    fun field => ⟨document.name ++ suffix field, fieldValue document field⟩

/-- One declaration as a line of source, which the value may continue over several. -/
def Declaration.text (declaration : Declaration) : Text :=
  ['v', 'a', 'r', ' '] ++ declaration.name ++ ['=', '\x60'] ++ declaration.value ++ ['\x60']

/-- The block of a document's declarations; a document without any leaves an empty line. -/
def declarationBlock (document : Document) : Text :=
  Text.join ['\n'] ((declarations document).map Declaration.text) ++ ['\n']

/-- The clause that opens the file below the license. -/
def packageHeader (package : Text) : Text :=
  ['\n'] ++ generatedMarker ++ .of "\npackage " ++ package ++ ['\n']

def render (license package : Text) (documents : List Document) : Text :=
  Text.join ['\n'] (license :: packageHeader package :: documents.map declarationBlock)

/-- The package name that the path text of a destination implies: the last name of its normal form.
-/
def packageName (destination : Text) : Text := Path.lastPiece (Path.normalText destination)

end GoSource

end HelpText
