import FeatureSuite.Files.Tree
import FeatureSuite.Files.Utf8
import FeatureSuite.Suite.FeatureFile
import FeatureSuite.Text.Word

/-!
# Batches

Many documents are compiled with the same handlers and settings. What fails for one document is told
in its result and does not stop the others. The order in which documents are done is free; results
stand in the order of the paths.
-/

namespace FeatureSuite

/-! ## Sources and modules -/

/-- The name of a document: its path below the root of all documents, or its whole path elsewhere.
-/
def documentUri (path root : Path) : String := ((path.relativeTo? root).getD path).toText

/-- The words that the module for a file is named after. -/
def Path.words (path : Path) : String :=
  let words := Text.slugWords path.stem
  if words = "" then "feature" else words

def Path.moduleName (path : Path) : String := s!"test_{path.words}.py"

/-- The path of the module for a document: a file beside it, below the output directory. -/
def outputPath (uri : String) (outDir : Path) : Path :=
  let source := Path.ofText uri
  (outDir.join source.parent).child source.moduleName

def fileResult {α : Type} : Except FileFault α → Except Failure α
  | .ok a => .ok a
  | .error fault => .error (.file fault)

/-- Loads the document of a file. All line ends count as line feeds. -/
def loadDocument (tree : FileTree) (path root : Path) : Except Failure LoadedDocument := do
  let uri := documentUri path root
  let bytes ← fileResult (tree.read path)
  match Utf8.decode bytes with
  | .error fault => throw (.document (.unreadable uri fault))
  | .ok text => parseDocument (String.ofList (Utf8.plainLineEnds text.toList)) uri

/-! ## Compiling -/

/-- What has come of a document. -/
structure CompileResult where
  uri : String
  outputPath : Option String := none
  content : String := ""
  undefined : List UndefinedStep := []
  error : Option String := none
  deriving DecidableEq, Repr

def CompileResult.failed (uri : String) (failure : Failure) : CompileResult :=
  { uri, error := some failure.message }

/-- What is told of a document that failed; an empty text tells nothing. -/
def CompileResult.failure? (result : CompileResult) : Option String := result.error.filter (· ≠ "")

/-- A fault of the document is told in its result. -/
def caught (uri : String) : Failure → Except Failure CompileResult
  | .document fault => .ok (.failed uri (.document fault))
  | failure => .error failure

def FeatureFile.result (file : FeatureFile) (uri : String) : CompileResult :=
  { uri, outputPath := file.outputPath.map Path.toText, content := file.content
    undefined := file.undefined }

structure Batch where
  registry : Registry
  settings : Settings := {}
  /-- The directory that documents are named from. -/
  root : Path
  outDir : Path
  /-- Whether modules are written. -/
  write : Bool := true

namespace Batch

def compile (batch : Batch) (tree : FileTree) (path : Path) : Except Failure FeatureFile := do
  let uri := documentUri path batch.root
  let loaded ← loadDocument tree path batch.root
  let file : FeatureFile :=
    { document := loaded.document, pickles := loaded.pickles, registry := batch.registry
      settings := batch.settings, outputPath := some (outputPath uri batch.outDir) }
  file.build

/-- Compiles the document of a file, and writes its module if modules are written. A fault of the
document is told in its result; any other failure is unexpected. -/
def generate (batch : Batch) (tree : FileTree) (path : Path) :
    FileTree × Except Failure CompileResult :=
  let uri := documentUri path batch.root
  match batch.compile tree path with
  | .error failure => (tree, caught uri failure)
  | .ok file =>
      if batch.write then
        match file.save with
        | .error failure => (tree, caught uri failure)
        | .ok (target, text) =>
            match tree.save target (Utf8.encode text) with
            | (tree, some fault) => (tree, .error (.file fault))
            | (tree, none) => (tree, .ok (file.result uri))
      else (tree, .ok (file.result uri))

/-- The result of a document in a batch. An unexpected failure is told in it, too. -/
def told (batch : Batch) (path : Path) : Except Failure CompileResult → CompileResult
  | .ok result => result
  | .error failure => .failed (documentUri path batch.root) failure

/-- A document that is done: its index in the batch, its path, and what has come of it. -/
structure Completion where
  index : Nat
  path : Path
  result : CompileResult
  deriving DecidableEq, Repr

/-- Compiles documents one after the other, in the order of the indexes given. -/
def complete (batch : Batch) (paths : List Path) : FileTree → List Nat → FileTree × List Completion
  | tree, [] => (tree, [])
  | tree, index :: rest =>
      match paths[index]? with
      | none => complete batch paths tree rest
      | some path =>
          let (tree, outcome) := batch.generate tree path
          let (tree, completions) := complete batch paths tree rest
          (tree, ⟨index, path, batch.told path outcome⟩ :: completions)

/-- The results in the order of the paths, whatever the order of completion is. -/
def results (total : Nat) (completions : List Completion) : List CompileResult :=
  (List.range total).filterMap fun index =>
    (completions.find? fun completion => completion.index = index).map (·.result)

/-- The documents that are done, each with their number so far. -/
def counted (completions : List Completion) : List (Nat × Completion) :=
  completions.mapIdx fun i completion => (i + 1, completion)

/-- Compiles the documents of files in the order of their paths. -/
def run (batch : Batch) (tree : FileTree) (paths : List Path) : FileTree × List Completion :=
  batch.complete paths tree (List.range paths.length)

end Batch

end FeatureSuite
