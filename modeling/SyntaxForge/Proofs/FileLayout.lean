import SyntaxForge.Proofs.Documentation

/-!
# How a generated file is put together

The items of a file get their line breaks from three places: the list puts each on a new line, each
declaration has a newline of its own, and a comment brings one for each of its lines.  All of it
ends up in one run of trivia in front of the first token, and is respaced there.

A declaration that is built on its own has the same tokens as in a file, apart from two line breaks
in front:

* **`Code.leaves_fileNode`** says it of the tokens of the tree, trivia included;
* **`Generate.files_text`** says it of the texts of all generated files.
-/

namespace SyntaxForge

namespace Tree

/-- The tokens of a tree with other trivia in front. -/
lemma leaves_withLeading (tree : Tree) (trivia : Trivia) :
    (tree.withLeading trivia).leaves = trivia.leaves ++ tree.split.2.leaves := by
  rw [withLeading, leaves, Element.leavesOf_append, Trivia.leavesOf_toElements]
  rfl

/-- A parent has the tokens of its children, one after the other. -/
lemma leaves_map_toElement (kind : Kind) (trees : List Tree) :
    Tree.leaves { kind, children := trees.map toElement } = trees.flatMap leaves := by
  induction trees with
  | nil => rfl
  | cons tree rest ih =>
      rw [leaves] at ih
      rw [leaves, List.map_cons, Element.leavesOf, ih, List.flatMap_cons]
      rfl

end Tree

namespace Code

/-- What is built of a declaration is its comment and what is built without it. -/
lemma Decl.split_build (decl : Decl) :
    (decl.node.build {} none).split
      = (docTrivia decl.docs, decl.undocumented.node.build {} none) := by
  rw [Decl.build_node, Tree.split_withLeading,
    Tree.split_of_leading_eq_nil decl.starts_with_token.1]

lemma Decl.leaves_build (decl : Decl) :
    (decl.node.build {} none).leaves
      = (docTrivia decl.docs).leaves ++ (decl.undocumented.node.build {} none).leaves := by
  rw [Decl.build_node, Tree.leaves_withLeading,
    Tree.split_of_leading_eq_nil decl.starts_with_token.1]

lemma Decl.source_node (decl : Decl) :
    decl.node.source {} = (docTrivia decl.docs).text ++ decl.undocumented.node.source {} := by
  rw [Node.source, Decl.build_node, Tree.text_withLeading,
    Tree.split_of_leading_eq_nil decl.starts_with_token.1]
  rfl

/-- In a file a declaration has two line breaks more. -/
lemma leaves_fileItem (decl : Decl) :
    ((fileItem decl).build {} (some (Format.newLine {}))).leaves
      = Trivia.leaves [.newlines 1, .newlines 1] ++ (decl.node.build {} none).leaves := by
  have hbuild : (fileItem decl).build {} (some (Format.newLine {}))
      = Tree.lead
          { kind := .node "CodeBlockItem", children := [(decl.node.build {} none).toElement] }
          [.newlines 1] (some [.newlines 1]) := rfl
  have hitem := Tree.split_singleton (.node "CodeBlockItem") (decl.node.build {} none)
    (by rw [decl.split_build]; exact decl.starts_with_token.2)
  have hspaces : ∀ piece ∈ [.newlines 1] ++ [.newlines 1] ++ docTrivia decl.docs,
      piece.isSpaceOrTab = false := by
    simpa [Piece.isSpaceOrTab] using isSpaceOrTab_docTrivia decl.docs
  have hsingle := Tree.leaves_map_toElement (.node "CodeBlockItem")
    [decl.undocumented.node.build {} none]
  rw [List.map_singleton, List.flatMap_singleton] at hsingle
  rw [hbuild, Tree.lead_some, Tree.leaves_withLeading, Tree.leading, hitem, Tree.leading,
    decl.split_build, Trivia.respaced_eq_self hspaces, hsingle, decl.leaves_build,
    ← List.append_assoc, ← Trivia.leaves_append]
  rfl

/-- What every file starts with. -/
def prefaceTrivia : Trivia := [.newlines 1, .lineComment header, .newlines 1, .newlines 1]

/-- The tokens of the first lines, and then those of every declaration built on its own, with two
line breaks in front of each. -/
def joinedLeaves (decls : List Decl) : List Leaf :=
  prefaceTrivia.leaves ++ ((importNode.withOwn []).build {} none).leaves
    ++ decls.flatMap fun decl =>
      Trivia.leaves [.newlines 1, .newlines 1] ++ (decl.node.build {} none).leaves

/-- The first lines, and then the text of every declaration built on its own, with a blank line in
front of each, up to a line break at the end. -/
def joinedText (decls : List Decl) : String :=
  header ++ "\n" ++ "\n" ++ "import SwiftSyntax"
    ++ String.join (decls.map fun decl => "\n\n" ++ (decl.node.build {} none).text) ++ "\n"

/-- **A file has the tokens of its declarations**: nothing is added but line breaks, and nothing is
dropped or moved. -/
theorem leaves_fileNode (decls : List Decl) :
    ((fileNode decls).build {} none).leaves = joinedLeaves decls := by
  have hbuild : (fileNode decls).build {} none
      = { kind := .node "SourceFile"
          children := [Tree.toElement
            { kind := .node "CodeBlockItemList"
              children := Node.listElements itemLayout {}
                (blockItem (Shorthand.asDecl importNode) :: decls.map fileItem) }] } := rfl
  have himport : ((blockItem (Shorthand.asDecl importNode)).build {}
      (some (Format.newLine {}))).leaves
        = prefaceTrivia.leaves ++ ((importNode.withOwn []).build {} none).leaves := by
    decide
  have hblock := Tree.leaves_map_toElement (.node "CodeBlockItemList")
    ((blockItem (Shorthand.asDecl importNode) :: decls.map fileItem).map fun item =>
      item.build {} (some (Format.newLine {})))
  have hfile := Tree.leaves_map_toElement (.node "SourceFile")
    [{ kind := .node "CodeBlockItemList"
       children := Node.listElements itemLayout {}
        (blockItem (Shorthand.asDecl importNode) :: decls.map fileItem) }]
  rw [List.map_map, Function.comp_def, ← listElements_itemLayout] at hblock
  rw [List.map_singleton, List.flatMap_singleton, hblock, List.map_cons, List.flatMap_cons,
    himport, List.map_map, List.flatMap_map] at hfile
  rw [hbuild, hfile]
  simp only [Function.comp_apply, leaves_fileItem]
  rfl

/-- **A file has the texts of its declarations.** -/
theorem fileText_eq_joinedText (decls : List Decl) : fileText decls = joinedText decls := by
  have hblock : (fun decl : Decl => "\n" ++ decl.node.source {} ++ "\n") = Decl.block := by
    funext decl
    rw [Decl.source_node, Decl.block, ← String.append_assoc]
  have hjoin := join_append_newline (decls.map fun decl => decl.node.source {})
  simp only [List.map_map, Function.comp_def, hblock] at hjoin
  have himport : header ++ "\n\nimport SwiftSyntax\n"
      = header ++ "\n" ++ "\n" ++ "import SwiftSyntax" ++ "\n" := rfl
  rw [fileText_eq, himport, String.append_assoc, ← hjoin, ← String.append_assoc]
  rfl

end Code

namespace Generate

open Code

variable {grammar : Grammar} {sources : List SourceFile}

/-- **Every generated file is a comment, a blank line and an import, and then its declarations**:
each has a blank line in front and the text that it has when it is built on its own, without
indentation or trivia supplied.  The file ends with a line break.  What is put in front of a
declaration is respaced with its comment, but the tokens of the tree that is printed are those of
the declarations, in order and unchanged. -/
theorem files_text (hfiles : files grammar = .ok sources) :
    sources = (fileDecls grammar).map (fun file => { name := file.1, text := joinedText file.2 })
      ∧ ∀ file ∈ fileDecls grammar,
        ((fileNode file.2).build {} none).leaves = joinedLeaves file.2 := by
  constructor
  · rw [sources_eq hfiles]
    simp only [fileText_eq_joinedText]
  · intro file _
    exact leaves_fileNode file.2

theorem files_text_twoLines :
    ∃ sources, files (documentedGrammar "A block.\nlet x = 1") = .ok sources
      ∧ sources = (fileDecls (documentedGrammar "A block.\nlet x = 1")).map
        (fun file => { name := file.1, text := joinedText file.2 }) := by
  have haccepted : Grammar.ofDeclarations (documentedDeclarations "A block.\nlet x = 1")
      = .ok (documentedGrammar "A block.\nlet x = 1") := by decide
  obtain ⟨sources, hfiles⟩ := exists_files_documented haccepted
  exact ⟨sources, hfiles, (files_text hfiles).1⟩

end Generate

end SyntaxForge
