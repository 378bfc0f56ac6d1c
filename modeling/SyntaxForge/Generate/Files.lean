import SyntaxForge.Code.File
import SyntaxForge.Generate.CollectionStruct
import SyntaxForge.Generate.Protocols

/-!
# Generated files

A grammar generates four files of Swift: the protocols of its bases, the structs of its collections
and of its concrete kinds, and the protocols of its conversions.  Generation fails if two kinds
claim the same name, or if some name is no identifier.
-/

namespace SyntaxForge.Generate

open Code

/-- A generated file. -/
structure SourceFile where
  name : String
  text : String
  deriving DecidableEq, Repr

/-- A reason why no files are generated. -/
inductive GenerateError where
  | collision (collision : NameCollision)
  | invalidName (error : TokenError)
  deriving DecidableEq, Repr

/-- The declarations of each file, in order. -/
def fileDrafts (grammar : Grammar) : List (String × List Draft) :=
  [("BuildableBaseProtocols.swift", (baseProtocols grammar).map fun decl => { decl }),
   ("BuildableCollectionNodes.swift", collectionStructs grammar),
   ("BuildableNodes.swift", nodeStructs grammar),
   ("ExpressibleAsProtocols.swift", (expressibleProtocols grammar).map fun decl => { decl })]

/-- Lays a file out. -/
def sourceFile (name : String) (drafts : List Draft) : SourceFile where
  name := name
  text := fileText (drafts.map Draft.decl)

/-- The files of a grammar. -/
def files (grammar : Grammar) : Except GenerateError (List SourceFile) := do
  grammar.checkNames.mapError .collision
  (fileDrafts grammar).forM fun (_, drafts) =>
    (NameUse.checkAll (drafts.flatMap Draft.names)).mapError .invalidName
  return (fileDrafts grammar).map fun (name, drafts) => sourceFile name drafts

end SyntaxForge.Generate
