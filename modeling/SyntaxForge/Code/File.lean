import SyntaxForge.Code.Decl

/-!
# Source files

A generated file has a comment that says where it comes from, one import, and declarations with a
blank line in front of each.
-/

namespace SyntaxForge.Code

/-- The first line of every generated file. -/
def header : String := "// Generated by `swiftb-gen`, do not edit by hand."

/-- The import that every generated file starts with. -/
def importNode : Node :=
  (Node.make Builtin.importDecl
    [.none, .token (.ofKind Builtin.importKeyword),
     .node (Shorthand.path [Token.name "SwiftSyntax"])]).withOwn
    (.lineComment header :: Trivia.newline ++ Trivia.newline)

/-- A generated file with some declarations. -/
def fileNode (decls : List Decl) : Node :=
  let items := decls.map fun decl => (blockItem (Shorthand.asDecl decl.node)).withOwn Trivia.newline
  Node.make Builtin.sourceFile
    [.node (.list itemLayout (blockItem (Shorthand.asDecl importNode) :: items))]

/-- The text of a generated file.  The layout puts every item on a new line, also the first one;
the file starts with the item itself and ends with a line break. -/
def fileText (decls : List Decl) : String :=
  let text := ((fileNode decls).source {}).toList
  String.ofList ((Text.stripStart? ['\n'] text).getD text) ++ "\n"

end SyntaxForge.Code
