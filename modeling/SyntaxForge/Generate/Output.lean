import SyntaxForge.Files.Disk
import SyntaxForge.Generate.Files
import SyntaxForge.Grammar.Builtin

/-!
# Writing the generated files

The files of the Swift grammar are brought up to date in a directory.
-/

namespace SyntaxForge.Generate

/-- A reason why the generated files are not up to date. -/
inductive OutputError where
  | grammar (error : GrammarError)
  | generate (error : GenerateError)
  | disk (error : Files.DiskError)
  deriving DecidableEq, Repr

/-- The files of the Swift grammar. -/
def builtinFiles : Except OutputError (List SourceFile) := do
  let grammar ← Builtin.grammar?.mapError .grammar
  (files grammar).mapError .generate

/-- Brings generated files up to date in a directory, up to the first that fails. -/
def writeFiles (directory : Files.Path) (sources : List SourceFile) : Files.Disk.Action Unit :=
  Files.Disk.ensureAll (sources.map fun source => (directory.join [source.name], source.text))

/-- Brings the files of the Swift grammar up to date in a directory. -/
def writeBuiltinFiles (directory : Files.Path) (disk : Files.Disk) :
    Except OutputError Unit × Files.Disk :=
  match builtinFiles with
  | .error e => (.error e, disk)
  | .ok sources =>
    let (result, disk) := (writeFiles directory sources).run.run disk
    (result.mapError .disk, disk)

end SyntaxForge.Generate
