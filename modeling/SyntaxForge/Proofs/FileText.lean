import SyntaxForge.Code.File
import SyntaxForge.Proofs.FirstToken
import SyntaxForge.Text.Lines

/-!
# The text of a generated file

A declaration is laid out by putting its comment in front of what is built without it, and an item
of a file by putting line breaks in front of that.  Each step takes leading trivia off, respaces it
and puts it back.  Comments and line breaks have no spaces to carry from line to line and a
declaration starts with a token, so none of this changes anything: **`Code.fileText_eq`**.

* `Text.withoutDocs` leaves the lines of documentation out of a text; it goes through a text line
  by line, so it can be computed part by part.
* **`Code.withoutDocs_fileText_eq_bareFile_iff`**: nothing is left of the comments of the
  declarations exactly if every line of every comment is one of documentation.
-/

namespace SyntaxForge

namespace Element

/-- A walk that takes nothing off changes nothing. -/
lemma splitAll_eq_self (elements : List Element) (h : (splitAll elements).1 = []) :
    (splitAll elements).2 = elements := by
  induction elements using listInduction with
  | nil => simp
  | trivia kind text rest _ => simp at h
  | token kind text rest hkind _ => rw [splitAll_cons_token hkind]
  | node kind children rest ihchildren ihrest =>
      rw [splitAll_cons_node] at h ⊢
      split at h
      · rw [if_pos (by assumption), ihchildren h]
      · rw [List.append_eq_nil_iff] at h
        rw [if_neg (by assumption), ihchildren h.1, ihrest h.2]

end Element

/-- Without spaces and tabs the spacing pass has nothing to carry on. -/
lemma Trivia.respaced_eq_self {trivia : Trivia}
    (h : ∀ piece ∈ trivia, piece.isSpaceOrTab = false) : respaced trivia = trivia := by
  rw [respaced]
  induction trivia with
  | nil => rfl
  | cons piece rest ih =>
      rw [List.forall_mem_cons] at h
      cases hpiece : piece.isNewline with
      | false => rw [respacedFrom_cons_other hpiece, ih h.2]
      | true =>
          rcases newline_cases rest with ⟨next, hnext, hspace⟩ | ⟨next, hnext, hnewline⟩ | hbare
          · rw [h.2 next (List.mem_of_mem_head? hnext)] at hspace
            exact Bool.noConfusion hspace
          · rw [respacedFrom_cons_newline hpiece hnext hnewline, ih h.2]
          · rw [respacedFrom_cons_bare hpiece hbare, ih h.2]
            rfl

namespace Code

/-- The declaration without its comment.  Its members keep theirs. -/
def Decl.undocumented (decl : Decl) : Decl := { decl with docs := [] }

/-- What is built of it starts with a token: a modifier or the keyword of the declaration. -/
lemma Decl.starts_with_token (decl : Decl) :
    (decl.undocumented.node.build {} none).leading = []
      ∧ Element.anyHasText (decl.undocumented.node.build {} none).children = true := by
  obtain ⟨docs, isPublic, form, name, inherits, requirement, members⟩ := decl
  cases isPublic with
  | true =>
      cases form with
      | protocol => exact ⟨rfl, rfl⟩
      | struct => exact ⟨rfl, rfl⟩
      | extend => exact ⟨rfl, rfl⟩
  | false =>
      cases form with
      | protocol => exact ⟨rfl, rfl⟩
      | struct => exact ⟨rfl, rfl⟩
      | extend => exact ⟨rfl, rfl⟩

end Code

namespace Tree

/-- A tree that starts with a token has nothing to be taken off. -/
lemma split_of_leading_eq_nil {tree : Tree} (h : tree.leading = []) : tree.split = ([], tree) := by
  have hbare : (Element.splitAll tree.children).2 = tree.children :=
    Element.splitAll_eq_self tree.children h
  rw [leading] at h
  rw [← h]
  exact Prod.ext rfl (congrArg (Tree.mk tree.kind) hbare)

/-- Such a tree is given trivia without spaces as it is. -/
lemma lead_none_eq_withLeading {tree : Tree} (h : tree.leading = []) {own : Trivia}
    (hown : ∀ piece ∈ own, piece.isSpaceOrTab = false) :
    tree.lead own none = tree.withLeading own := by
  cases own with
  | nil =>
      rw [lead_nil_none, withLeading, split_of_leading_eq_nil h]
      rfl
  | cons piece own =>
      rw [lead_cons_none, h, List.append_nil, Trivia.respaced_eq_self hown]

/-- What a tree starts with, a parent of that tree alone starts with. -/
lemma split_singleton (kind : Kind) (tree : Tree)
    (htext : Element.anyHasText tree.split.2.children = true) :
    split { kind, children := [tree.toElement] }
      = (tree.leading, { kind, children := [tree.split.2.toElement] }) := by
  have hstop : Element.anyHasText (Element.splitAll tree.children).2 = true := htext
  rw [split, toElement, Element.splitAll_cons_node, if_pos hstop]
  rfl

/-- A parent has the texts of its children, one after the other. -/
lemma text_map_toElement (kind : Kind) (trees : List Tree) :
    Tree.text { kind, children := trees.map toElement } = String.join (trees.map text) := by
  rw [text, leaves]
  induction trees with
  | nil => rfl
  | cons tree rest ih =>
      rw [List.map_cons, Element.leavesOf, List.map_append, String.join_append, ih, List.map_cons,
        String.join_cons]
      rfl

lemma text_singleton (kind : Kind) (tree : Tree) :
    Tree.text { kind, children := [tree.toElement] } = tree.text := by
  have htext := text_map_toElement kind [tree]
  simpa using htext

end Tree

namespace Code

lemma isSpaceOrTab_docTrivia (docs : List String) :
    ∀ piece ∈ docTrivia docs, piece.isSpaceOrTab = false := by
  intro piece hpiece
  obtain ⟨line, -, hline⟩ := List.mem_flatMap.mp hpiece
  have hcases : piece = .docLineComment line ∨ piece = .newlines 1 := by
    simpa [Trivia.newline, Trivia.newlines] using hline
  rcases hcases with rfl | rfl
  · rfl
  · rfl

/-- The comment of a declaration is put in front of what is built without it. -/
lemma Decl.build_node (decl : Decl) :
    decl.node.build {} none
      = (decl.undocumented.node.build {} none).withLeading (docTrivia decl.docs) := by
  have hbuild : decl.node.build {} none
      = (decl.undocumented.node.build {} none).lead (docTrivia decl.docs) none := by
    rw [Node.build_eq_lead]
    obtain ⟨docs, isPublic, form, name, inherits, requirement, members⟩ := decl
    cases form with
    | protocol => rfl
    | struct => rfl
    | extend => rfl
  rw [hbuild, Tree.lead_none_eq_withLeading decl.starts_with_token.1
    (isSpaceOrTab_docTrivia decl.docs)]

/-- The item of a declaration in a file. -/
def fileItem (decl : Decl) : Node :=
  (blockItem (Shorthand.asDecl decl.node)).withOwn Trivia.newline

lemma text_fileItem (decl : Decl) :
    ((fileItem decl).build {} (some (Format.newLine {}))).text
      = "\n\n" ++ (docTrivia decl.docs).text ++ decl.undocumented.node.source {} := by
  have hbuild : (fileItem decl).build {} (some (Format.newLine {}))
      = Tree.lead
          { kind := .node "CodeBlockItem", children := [(decl.node.build {} none).toElement] }
          [.newlines 1] (some [.newlines 1]) := rfl
  have hsplit : (decl.node.build {} none).split
      = (docTrivia decl.docs, decl.undocumented.node.build {} none) := by
    rw [Decl.build_node, Tree.split_withLeading,
      Tree.split_of_leading_eq_nil decl.starts_with_token.1]
  have hitem := Tree.split_singleton (.node "CodeBlockItem") (decl.node.build {} none)
    (by rw [hsplit]; exact decl.starts_with_token.2)
  have hspaces : ∀ piece ∈ [.newlines 1] ++ [.newlines 1] ++ docTrivia decl.docs,
      piece.isSpaceOrTab = false := by
    simpa [Piece.isSpaceOrTab] using isSpaceOrTab_docTrivia decl.docs
  rw [hbuild, Tree.lead_some, Tree.text_withLeading, Tree.leading, hitem, Tree.leading, hsplit,
    Trivia.respaced_eq_self hspaces, Tree.text_singleton, Trivia.text_append]
  rfl

/-- The first item of every file. -/
lemma text_importItem :
    ((blockItem (Shorthand.asDecl importNode)).build {} (some (Format.newLine {}))).text
      = "\n" ++ header ++ "\n\nimport SwiftSyntax" := by
  decide

/-- The items of a block stand on lines of their own, with nothing in between. -/
lemma listElements_itemLayout (items : List Node) :
    Node.listElements itemLayout {} items
      = items.map fun item => (item.build {} (some (Format.newLine {}))).toElement := by
  have hcomma : itemLayout.comma = none := by decide
  induction items with
  | nil => rw [Node.listElements, List.map_nil]
  | cons item rest ih =>
      rw [Node.listElements, ih, ListLayout.separated, hcomma, ite_self, List.map_cons]
      rfl

lemma text_fileNode (decls : List Decl) :
    (fileNode decls).source {}
      = "\n" ++ (header ++ "\n\nimport SwiftSyntax"
        ++ String.join (decls.map fun decl =>
          "\n\n" ++ (docTrivia decl.docs).text ++ decl.undocumented.node.source {})) := by
  have hbuild : (fileNode decls).build {} none
      = { kind := .node "SourceFile"
          children := [Tree.toElement
            { kind := .node "CodeBlockItemList"
              children := Node.listElements itemLayout {}
                (blockItem (Shorthand.asDecl importNode) :: decls.map fileItem) }] } := rfl
  rw [Node.source, hbuild, Tree.text_singleton, listElements_itemLayout, ← Function.comp_def,
    ← List.map_map, Tree.text_map_toElement, List.map_map, List.map_cons, String.join_cons,
    List.map_map, Function.comp_apply, text_importItem]
  simp only [Function.comp_def, text_fileItem, String.append_assoc]

/-- The part of a declaration in the text of a file: a blank line, its comment, and the rest. -/
def Decl.block (decl : Decl) : String :=
  "\n" ++ (docTrivia decl.docs).text ++ decl.undocumented.node.source {} ++ "\n"

/-- Line breaks in front of every part and at the end are line breaks behind every part. -/
lemma join_append_newline (parts : List String) :
    String.join (parts.map fun part => "\n\n" ++ part) ++ "\n"
      = "\n" ++ String.join (parts.map fun part => "\n" ++ part ++ "\n") := by
  induction parts with
  | nil => rfl
  | cons part rest ih =>
      rw [List.map_cons, List.map_cons, String.join_cons, String.join_cons, String.append_assoc, ih]
      simp only [← String.append_assoc]
      rfl

/-- **A file is its first line, the import, and its declarations.** -/
theorem fileText_eq (decls : List Decl) :
    fileText decls
      = header ++ "\n\nimport SwiftSyntax\n" ++ String.join (decls.map Decl.block) := by
  have hstrip (rest : String) : Text.stripStart? ['\n'] ("\n" ++ rest).toList = some rest.toList :=
    Text.stripStart?_eq_some_iff.mpr (String.toList_append ..)
  have hjoin := join_append_newline
    (decls.map fun decl => (docTrivia decl.docs).text ++ decl.undocumented.node.source {})
  simp only [List.map_map, Function.comp_def, ← String.append_assoc] at hjoin
  rw [fileText, text_fileNode, hstrip, Option.getD_some, String.ofList_toList, String.append_assoc,
    hjoin, ← String.append_assoc]
  rfl

end Code

/-! ## Lines of documentation -/

namespace Text

/-- Behind indentation, the line starts with the slashes of a comment that documents what
follows. -/
def isDocLine (line : List Char) : Bool :=
  ['/', '/', '/'].isPrefixOf (line.dropWhile fun c => c = ' ' || c = '\t')

/-- The text without its lines of documentation. -/
def withoutDocs (text : String) : String :=
  String.ofList ((lines text.toList).filter fun line => !isDocLine line).flatten

/-- The lines of a text that ends with a line break come first. -/
lemma lines_append_newline (front back : List Char) :
    lines (front ++ '\n' :: back) = lines (front ++ ['\n']) ++ lines back := by
  induction front using lineInduction with
  | nil => simp [lines]
  | last line hline _ => rw [lines_append_break hline, lines_append_break hline]; rfl
  | line line rest hline ih =>
      rw [List.append_assoc, List.append_assoc, List.cons_append, List.cons_append,
        lines_append_break hline, lines_append_break hline, ih, List.cons_append]

/-- No line is empty. -/
lemma ne_nil_of_mem_lines (text : List Char) : ∀ line ∈ lines text, line ≠ [] := by
  induction text using lineInduction with
  | nil => simp [lines]
  | last line hline hne => simpa [lines_of_not_mem hline hne] using hne
  | line line rest hline ih => simpa [lines_append_break hline] using ih

lemma withoutDocs_append (front back : String) :
    withoutDocs (front ++ "\n" ++ back) = withoutDocs (front ++ "\n") ++ withoutDocs back := by
  have hbreak : "\n".toList = ['\n'] := rfl
  rw [withoutDocs, String.toList_append, String.toList_append, hbreak, List.append_assoc,
    List.singleton_append, lines_append_newline, List.filter_append, List.flatten_append,
    String.ofList_append, withoutDocs, String.toList_append, hbreak, withoutDocs]

lemma withoutDocs_newline_append (back : String) :
    withoutDocs ("\n" ++ back) = "\n" ++ withoutDocs back := by
  have hblank : withoutDocs "\n" = "\n" := by decide
  have happend := withoutDocs_append "" back
  rwa [String.empty_append, hblank] at happend

/-- Texts that end with a line break are gone through one by one. -/
lemma withoutDocs_join_append {α : Type} (text : α → String) (list : List α) (back : String) :
    withoutDocs (String.join (list.map fun a => text a ++ "\n") ++ back)
      = String.join (list.map fun a => withoutDocs (text a ++ "\n")) ++ withoutDocs back := by
  induction list with
  | nil => simp
  | cons a rest ih =>
      rw [List.map_cons, List.map_cons, String.join_cons, String.join_cons, String.append_assoc,
        withoutDocs_append, ih, String.append_assoc]

/-- Nothing is left of a text if all its lines are documentation. -/
lemma withoutDocs_eq_empty_iff {text : String} :
    withoutDocs text = "" ↔ ∀ line ∈ lines text.toList, isDocLine line = true := by
  rw [withoutDocs, ← String.toList_inj, String.toList_ofList, String.toList_empty,
    List.flatten_eq_nil_iff]
  constructor
  · intro hempty line hline
    by_contra hcode
    exact ne_nil_of_mem_lines _ line hline
      (hempty line (List.mem_filter.mpr ⟨hline, by simpa using hcode⟩))
  · intro hdocs line hline
    obtain ⟨hmem, hcode⟩ := List.mem_filter.mp hline
    rw [hdocs line hmem] at hcode
    exact absurd hcode Bool.false_ne_true

end Text

namespace Code

/-- The comment is left out with its lines of documentation. -/
def Decl.IsCommented (decl : Decl) : Prop :=
  ∀ doc ∈ decl.docs, ∀ line ∈ Text.lines (doc ++ "\n").toList, Text.isDocLine line = true

/-- What is left of the comment of a declaration. -/
def Decl.leaked (decl : Decl) : String :=
  String.join (decl.docs.map fun doc => Text.withoutDocs (doc ++ "\n"))

lemma Decl.leaked_eq_empty_iff {decl : Decl} : decl.leaked = "" ↔ decl.IsCommented := by
  rw [leaked, ← String.toList_inj, String.toList_join]
  simp only [List.flatMap_map, String.toList_empty, List.flatMap_eq_nil_iff,
    String.toList_eq_nil_iff, Text.withoutDocs_eq_empty_iff]
  rfl

/-- The part of a declaration in a file, without documentation. -/
def Decl.bareBlock (decl : Decl) : String :=
  Text.withoutDocs (decl.undocumented.node.source {} ++ "\n")

lemma text_docTrivia (docs : List String) :
    (docTrivia docs).text = String.join (docs.map fun doc => doc ++ "\n") := by
  induction docs with
  | nil => rfl
  | cons doc rest ih =>
      rw [docTrivia, List.flatMap_cons, ← docTrivia, Trivia.text_append, ih, List.map_cons,
        String.join_cons, Trivia.text_cons]
      rfl

/-- What is left of the part of a declaration in a file. -/
lemma Decl.withoutDocs_block (decl : Decl) :
    Text.withoutDocs decl.block = "\n" ++ (decl.leaked ++ decl.bareBlock) := by
  rw [block, String.append_assoc, String.append_assoc, Text.withoutDocs_newline_append,
    text_docTrivia, Text.withoutDocs_join_append fun doc => doc]
  rfl

/-- **What is left of a file.** -/
lemma withoutDocs_fileText (decls : List Decl) :
    Text.withoutDocs (fileText decls)
      = header ++ "\n\nimport SwiftSyntax\n"
        ++ String.join (decls.map fun decl => "\n" ++ (decl.leaked ++ decl.bareBlock)) := by
  have hpreface : Text.withoutDocs (header ++ "\n\nimport SwiftSyntax" ++ "\n")
      = header ++ "\n\nimport SwiftSyntax\n" := by decide
  have hempty : Text.withoutDocs "" = "" := by decide
  have hblocks := Text.withoutDocs_join_append (fun decl : Decl =>
    "\n" ++ (docTrivia decl.docs).text ++ decl.undocumented.node.source {}) decls ""
  rw [String.append_empty, hempty, String.append_empty] at hblocks
  have hfile : fileText decls = header ++ "\n\nimport SwiftSyntax" ++ "\n"
      ++ String.join (decls.map Decl.block) := fileText_eq decls
  rw [hfile, Text.withoutDocs_append, hpreface]
  refine congrArg _ (hblocks.trans ?_)
  simp only [← Decl.withoutDocs_block]
  rfl

/-- A file of declarations without comments of their own, without documentation. -/
def bareFile (decls : List Decl) : String :=
  header ++ "\n\nimport SwiftSyntax\n"
    ++ String.join (decls.map fun decl => "\n" ++ decl.bareBlock)

/-- Everything that is left of the comments makes a file longer. -/
lemma length_withoutDocs_fileText (decls : List Decl) :
    (Text.withoutDocs (fileText decls)).length
      = (bareFile decls).length + (String.join (decls.map Decl.leaked)).length := by
  rw [withoutDocs_fileText, bareFile]
  induction decls with
  | nil => simp
  | cons decl rest ih =>
      simp only [List.map_cons, String.join_cons, String.length_append] at ih ⊢
      omega

/-- **Nothing is left of the comments exactly if all of them are comments to the end.** -/
theorem withoutDocs_fileText_eq_bareFile_iff {decls : List Decl} :
    Text.withoutDocs (fileText decls) = bareFile decls ↔ ∀ decl ∈ decls, decl.IsCommented := by
  constructor
  · intro heq decl hdecl
    have hlength := length_withoutDocs_fileText decls
    rw [heq, Nat.left_eq_add, String.length_eq_zero_iff, ← String.toList_eq_nil_iff,
      String.toList_join, List.flatMap_eq_nil_iff] at hlength
    have hleaked := hlength _ (List.mem_map_of_mem hdecl)
    rwa [String.toList_eq_nil_iff, Decl.leaked_eq_empty_iff] at hleaked
  · intro hcommented
    rw [withoutDocs_fileText, bareFile]
    refine congrArg _ (congrArg String.join (List.map_congr_left ?_))
    intro decl hdecl
    rw [Decl.leaked_eq_empty_iff.mpr (hcommented decl hdecl), String.empty_append]

lemma bareFile_undocumented (decls : List Decl) :
    bareFile (decls.map Decl.undocumented) = bareFile decls := by
  rw [bareFile, List.map_map]
  rfl

end Code

end SyntaxForge
