import HelpText.GoSource
import HelpText.License
import HelpText.Log.Record
import HelpText.Output
import HelpText.Settings.Basic
import HelpText.Source

/-!
A run: reads the documents of a directory, writes the Go source that holds them and reports what it
does. The first stage that fails ends the run. What a run works on is left open; all it needs is a
file system and someone who takes its reports.
-/

namespace HelpText

namespace Generation

open Log (Event)

/-- How a run reads and changes the files of what it works on, and reports to it. -/
structure Surroundings (σ : Type) where
  files : σ → FileSystem
  withFiles : σ → FileSystem → σ
  report : σ → Event → σ

/-- A file system with the reports taken so far, oldest first. -/
structure Journal where
  files : FileSystem
  events : List Event := []

/-- Works on a journal. -/
def journal : Surroundings Journal where
  files := Journal.files
  withFiles := fun s files => { s with files }
  report := fun s event => { s with events := s.events ++ [event] }

/-- A part of a run. -/
abbrev Stage (σ : Type) := ExceptT Stop (StateM σ)

variable {σ : Type} (surroundings : Surroundings σ)

def report (event : Event) : Stage σ Unit := fun s => (.ok (), surroundings.report s event)

def reportAll : List Event → Stage σ Unit
  | [] => pure ()
  | event :: rest => do
    report surroundings event
    reportAll rest

def consult {α : Type} (f : FileSystem → Except Stop α) : Stage σ α :=
  fun s => (f (surroundings.files s), s)

def change {α : Type} (f : FileSystem → FileSystem × Except Stop α) : Stage σ α := fun s =>
  let (files, result) := f (surroundings.files s)
  (result, surroundings.withFiles s files)

/-- Reported first. -/
def starting (settings : Settings) (destination : Text) : Event where
  level := Log.info
  template := .of "Starting generation"
  extra := [(.of "source_dir", .text settings.source.text), (.of "dest_dir", .text destination),
    (.of "full", .boolean settings.full), (.of "sort", .boolean settings.sort)]

/-- Reported when the documents are read. -/
def loaded (count : Nat) : Event where
  level := Log.info
  template := .of "Loaded documentation sources"
  extra := [(.of "source_count", .integer count)]

/-- Reported for every document, with the fields that it has. -/
def parsed (source : Source) (document : Document) : Event where
  level := Log.debug
  template := .of "Parsed document"
  extra := [(.of "source", .text source.path.text), (.of "document", .text document.name),
    (.of "short", .boolean (!document.short.isEmpty)),
    (.of "long", .boolean (!document.long.isEmpty)),
    (.of "examples", .boolean (!document.examples.isEmpty))]

/-- Reported for every name that several files give. -/
def sharedName (name : Text) (files : List Text) : Event where
  level := Log.warning
  template := .of "Multiple documents derive the same name"
  extra := [(.of "document", .text name), (.of "files", .list (files.map .text))]

/-- Reported when the license header is found. -/
def licensed (license : License) : Event where
  level := Log.debug
  template := .of "Resolved license header"
  extra := [(.of "license", .text license.origin)]

/-- Reported last. -/
def wrote (target : Path) (count bytes : Nat) : Event where
  level := Log.info
  template := .of "Wrote generated source"
  extra := [(.of "output_path", .text target.text), (.of "document_count", .integer count),
    (.of "bytes", .integer bytes)]

/-- Reported when a stage fails. -/
def failed (failure : Failure) : Event where
  level := Log.error
  template := .of "Generation failed"
  extra := [(.of "category", .text failure.category.word), (.of "reason", .text failure.message)]

/-- The file names that every document name comes from, in order. -/
def filesByName (names filenames : List Text) : Table Text (List Text) :=
  (names.zip filenames).foldl (fun table item =>
    table.put item.1 ((table.get? item.1).getD [] ++ [item.2])) []

/-- The names that come from more than one file, with these files. -/
def collisions (names filenames : List Text) : List (Text × List Text) :=
  (filesByName names filenames).filter fun row => row.2.length > 1

def documentOf (settings : Settings) (source : Source) : Document :=
  Document.parse settings.full source.name source.content

/-- Reports the names that several files give, and stops there if that is not allowed. -/
def checkNames (strict : Bool) (documents : List Document) (sources : List Source) :
    Stage σ Unit := do
  let groups := collisions (documents.map Document.name) (sources.map Source.name)
  reportAll surroundings (groups.map fun (name, files) => sharedName name files)
  if strict && !groups.isEmpty then throw (.failure (.duplicateNames groups))

/-- Everything before the package name is needed: reads the documents and the license header. The
destination is only reported. -/
def gather (settings : Settings) (destination : Text) : Stage σ (License × List Document) := do
  report surroundings (starting settings destination)
  let sources ← consult surroundings fun fs =>
    Source.load fs settings.source settings.extension settings.sort
  report surroundings (loaded sources.length)
  let documents := sources.map (documentOf settings)
  reportAll surroundings
    ((sources.zip documents).map fun (source, document) => parsed source document)
  checkNames surroundings settings.strictNames documents sources
  let license ← consult surroundings (License.resolve · settings.license)
  report surroundings (licensed license)
  pure (license, documents)

/-- What a run leaves behind when all went well. -/
structure Product where
  documents : List Document
  target : Path
  deriving DecidableEq, Repr

def stages (settings : Settings) : Stage σ Product := do
  let (license, documents) ← gather surroundings settings settings.destination.text
  -- The package is named by the destination as it was given, whatever links it leads through.
  let package := GoSource.packageName settings.destination.text
  let text := GoSource.render license.text package documents
  let target ← change surroundings
    (Output.write · settings.destination settings.outputName Output.fileMode text)
  report surroundings (wrote target documents.length (Utf8.encode text).length)
  pure { documents, target }

/-- How a run ended: with a product or with a failure. -/
abbrev Outcome := Except Failure Product

/-- The documents of a run; a failed run has none, however far it came. -/
def Outcome.documents : Outcome → List Document
  | .ok product => product.documents
  | .error _ => []

def Outcome.target? : Outcome → Option Path
  | .ok product => some product.target
  | .error _ => none

def Outcome.failure? : Outcome → Option Failure
  | .ok _ => none
  | .error failure => some failure

def Outcome.exitStatus : Outcome → Nat
  | .ok _ => 0
  | .error _ => 1

/-- Carries stages out. A failure is reported and becomes the outcome; an interruption passes. -/
def conclude (action : Stage σ Product) (s : σ) : Except Interruption Outcome × σ :=
  match action s with
  | (.ok product, s) => (.ok (.ok product), s)
  | (.error (.failure failure), s) => (.ok (.error failure), surroundings.report s (failed failure))
  | (.error (.interruption interruption), s) => (.error interruption, s)

/-- Carries a run out. -/
def run (settings : Settings) (s : σ) : Except Interruption Outcome × σ :=
  conclude surroundings (stages surroundings settings) s

end Generation

end HelpText
