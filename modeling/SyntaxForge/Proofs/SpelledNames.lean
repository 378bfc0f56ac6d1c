import SyntaxForge.Proofs.CombinedLists
import SyntaxForge.Proofs.EscapedNames
import SyntaxForge.Proofs.PlainNames

/-!
# Names that are spelled out as trees

Two shorthands take a text apart and build a tree from the parts: a path is cut at its dots, a type
is freed from the question marks at its end.  Either way the tree is written as the text that it
was made of.

* `Shorthand.accessPath_eq_ok_iff`: a path is made exactly of the texts whose parts between dots are
  identifiers, empty parts included.
* `Code.TypeExpr.checkAll_ofText_iff`: a type is made exactly of an identifier and question marks.
* **`Shorthand.spelled_back`**: what is made of a text is written as that text.
-/

namespace SyntaxForge

open Identifier

namespace Shorthand

/-! ## Dotted paths -/

lemma splitDots_eq_splitOn (text : List Char) : splitDots text = text.splitOn '.' := by
  induction text with
  | nil => rfl
  | cons c rest ih =>
      rw [splitDots, ih, List.splitOn_eq_splitOnP, List.splitOn_eq_splitOnP,
        List.splitOnP_cons_eq_if_modifyHead]
      by_cases hc : c = '.'
      · simp [hc]
      · rw [if_neg hc, if_neg (by simpa using hc)]
        cases hrest : rest.splitOnP (· == '.') with
        | nil => exact absurd hrest (List.splitOnP_ne_nil _ _)
        | cons part parts => rfl

/-- The tokens of a path, from its parts. -/
def pathNames (parts : List (List Char)) : List Token :=
  parts.map fun part => Token.name (String.ofList part)

lemma mapM_identifier_eq_ok_iff {parts : List (List Char)} {names : List Token} :
    (parts.mapM fun part => Token.identifier (String.ofList part)) = .ok names
      ↔ (∀ part ∈ parts, isIdentifier part = true) ∧ names = pathNames parts := by
  induction parts generalizing names with
  | nil =>
      rw [List.mapM_nil, pure_eq_ok_iff]
      exact ⟨fun h => ⟨by simp, h.symm⟩, fun h => h.2.symm⟩
  | cons part rest ih =>
      simp only [List.mapM_cons, bind_eq_ok_iff, pure_eq_ok_iff, ih, Token.identifier_eq_ok_iff,
        String.toList_ofList, List.forall_mem_cons]
      constructor
      · rintro ⟨_, ⟨hpart, rfl⟩, _, ⟨hrest, rfl⟩, rfl⟩
        exact ⟨⟨hpart, hrest⟩, rfl⟩
      · rintro ⟨⟨hpart, hrest⟩, rfl⟩
        exact ⟨_, ⟨hpart, rfl⟩, _, ⟨hrest, rfl⟩, rfl⟩

/-- **Which texts spell a path.** -/
theorem accessPath_eq_ok_iff {text : String} {node : Node} :
    accessPath text = .ok node
      ↔ (∀ part ∈ text.toList.splitOn '.', isIdentifier part = true)
        ∧ node = path (pathNames (text.toList.splitOn '.')) := by
  simp only [accessPath, bind_eq_ok_iff, pure_eq_ok_iff, splitDots_eq_splitOn,
    mapM_identifier_eq_ok_iff]
  constructor
  · rintro ⟨_, ⟨hparts, rfl⟩, rfl⟩
    exact ⟨hparts, rfl⟩
  · rintro ⟨hparts, rfl⟩
    exact ⟨_, ⟨hparts, rfl⟩, rfl⟩

/-- The last component of a path is written as its name, and every other one with a dot. -/
lemma text_component (name : String) (format : Format) :
    ((Node.make Builtin.accessPathComponent [.token (Token.name name)]).build format none).text
        = name
      ∧ ((Node.make Builtin.accessPathComponent
        [.token (Token.name name), .token (.ofKind Builtin.period)]).build format none).text
        = name ++ "." := by
  have hlast : ((Node.make Builtin.accessPathComponent [.token (Token.name name)]).build format
      none).text = String.join [name] := rfl
  have hdotted : ((Node.make Builtin.accessPathComponent
      [.token (Token.name name), .token (.ofKind Builtin.period)]).build format none).text
      = String.join [name, "."] := rfl
  rw [hlast, hdotted]
  simp

/-- A path is written as its parts with dots between them. -/
lemma source_path (parts : List (List Char)) (format : Format) :
    (path (pathNames parts)).source format = String.ofList (['.'].intercalate parts) := by
  have hlayout : Builtin.declarations.listLayout Builtin.accessPath
      = { name := "AccessPath", onNewLines := false, comma := none } := rfl
  rw [path, hlayout, Node.source_list]
  induction parts with
  | nil => rfl
  | cons part rest ih =>
      cases rest with
      | nil =>
          have hcomponents : pathComponents (pathNames [part])
              = [Node.make Builtin.accessPathComponent
                  [.token (Token.name (String.ofList part))]] := rfl
          rw [hcomponents, Node.listElements, Element.textOf_cons_toElement]
          simp [ListLayout.lead, text_component, Node.listElements]
      | cons next others =>
          have hcomponents : pathComponents (pathNames (part :: next :: others))
              = Node.make Builtin.accessPathComponent
                  [.token (Token.name (String.ofList part)), .token (.ofKind Builtin.period)]
                :: pathComponents (pathNames (next :: others)) := rfl
          rw [hcomponents, Node.listElements, Element.textOf_cons_toElement, ih,
            List.intercalate_cons_cons]
          simp [ListLayout.lead, ListLayout.separated, text_component, String.ofList_append,
            String.append_assoc]

end Shorthand

namespace Code.TypeExpr

/-! ## Optional types -/

/-- A type is written as its name and its marks. -/
lemma source_node (type : TypeExpr) (format : Format) : type.node.source format = type.text := by
  induction type with
  | named name =>
      have hsource : (named name).node.source format = String.join [name] := rfl
      rw [hsource]
      simp [text]
  | optional wrapped ih =>
      have hsource : (optional wrapped).node.source format
          = Element.textOf [(wrapped.node.build format none).toElement,
              .token (.token Builtin.postfixQuestionMark) "?"] := rfl
      rw [hsource, Element.textOf_cons_toElement, ← Node.source, ih]
      rfl
  | array element ih =>
      have hsource : (array element).node.source format
          = Element.textOf ([.token (.token Builtin.leftSquareBracket) "["]
              ++ [(element.node.build format none).toElement]
              ++ [.token (.token Builtin.rightSquareBracket) "]"]) := rfl
      rw [hsource, Element.textOf_append, Element.textOf_append, Element.textOf_cons_toElement,
        ← Node.source, ih, Element.textOf_nil, String.append_empty]
      rfl

/-- So many question marks. -/
def marks (count : Nat) : String := String.ofList (List.replicate count '?')

lemma marks_succ (count : Nat) : marks (count + 1) = marks count ++ "?" := by
  rw [marks, List.replicate_succ', String.ofList_append]
  rfl

lemma names_ofText_append_marks (name : String) (count : Nat) :
    (ofText (name ++ marks count)).names = (ofText name).names := by
  induction count with
  | zero => rw [marks, List.replicate_zero, String.ofList_nil, String.append_empty]
  | succ count ih =>
      rw [marks_succ, ← String.append_assoc, ← ih]
      exact names_ofText_append (name ++ marks count) true

/-- Every text is a name with question marks behind it. -/
lemma exists_eq_append_marks (text : String) :
    ∃ name count, text = name ++ marks count ∧ (ofText text).names = [.declared name] := by
  have hreversed (chars : List Char) : ∃ name count,
      String.ofList chars.reverse = name ++ marks count
        ∧ (ofReversed chars).names = [.declared name] := by
    fun_induction ofReversed chars with
    | case1 rest ih =>
        obtain ⟨name, count, htext, hnames⟩ := ih
        refine ⟨name, count + 1, ?_, hnames⟩
        rw [List.reverse_cons, String.ofList_append, htext, marks_succ, String.append_assoc]
    | case2 chars => exact ⟨_, 0, (String.append_empty).symm, rfl⟩
  obtain ⟨name, count, htext, hnames⟩ := hreversed text.toList.reverse
  rw [List.reverse_reverse, String.ofList_toList] at htext
  exact ⟨name, count, htext, hnames⟩

lemma isValid_declared_iff {name : String} :
    (NameUse.declared name).IsValid ↔ isIdentifier name.toList = true :=
  Token.exists_identifier_iff

/-- **Which texts spell a type.** -/
theorem checkAll_ofText_iff {text : String} :
    NameUse.checkAll (ofText text).names = .ok ()
      ↔ ∃ name count, isIdentifier name.toList = true ∧ text = name ++ marks count := by
  constructor
  · intro h
    obtain ⟨name, count, htext, hnames⟩ := exists_eq_append_marks text
    rw [hnames, NameUse.checkAll_cons_iff, isValid_declared_iff] at h
    exact ⟨name, count, h.1, htext⟩
  · rintro ⟨name, count, hname, rfl⟩
    have hmark : '?' ∉ name.toList := by
      intro hmem
      have hpart := isPart_of_mem (by decide) hname hmem
      revert hpart
      decide
    rw [names_ofText_append_marks, names_ofText hmark]
    exact NameUse.checkAll_cons_iff.mpr ⟨isValid_declared_iff.mpr hname, rfl⟩

end Code.TypeExpr

open Code Code.TypeExpr

/-- **What is made of a text is written as that text.**  A path is made of a text exactly if all
parts between its dots are identifiers, and a type exactly if the text is an identifier with any
number of question marks behind it. -/
theorem Shorthand.spelled_back (text : String) :
    ((∃ node, accessPath text = .ok node)
        ↔ ∀ part ∈ text.toList.splitOn '.', isIdentifier part = true)
      ∧ (∀ node, accessPath text = .ok node → ∀ format, node.source format = text)
      ∧ (NameUse.checkAll (ofText text).names = .ok ()
        ↔ ∃ name count, isIdentifier name.toList = true ∧ text = name ++ marks count)
      ∧ ∀ format, (ofText text).node.source format = text := by
  refine ⟨?_, ?_, checkAll_ofText_iff, fun format => ?_⟩
  · simp only [accessPath_eq_ok_iff, exists_and_left, exists_eq, and_true]
  · intro node hnode format
    obtain ⟨_, rfl⟩ := accessPath_eq_ok_iff.mp hnode
    rw [source_path, List.intercalate_splitOn, String.ofList_toList]
  · rw [source_node, text_ofText]

theorem Shorthand.spelled_back_nested :
    (∃ node, accessPath "Foundation.NSString" = .ok node
        ∧ node.source { width := 2, depth := 1 } = "Foundation.NSString")
      ∧ NameUse.checkAll (ofText "Trivia??").names = .ok ()
      ∧ (ofText "Trivia??").node.source {} = "Trivia??" := by
  have hparts : ∀ part ∈ "Foundation.NSString".toList.splitOn '.', isIdentifier part = true := by
    have hsplit : "Foundation.NSString".toList.splitOn '.'
        = ["Foundation".toList, "NSString".toList] := by decide
    rw [hsplit, List.forall_mem_cons, List.forall_mem_singleton]
    exact ⟨IsPlain.isIdentifier (by decide), IsPlain.isIdentifier (by decide)⟩
  have hname : isIdentifier "Trivia".toList = true := IsPlain.isIdentifier (by decide)
  obtain ⟨haccepts, hback, _, _⟩ := spelled_back "Foundation.NSString"
  obtain ⟨_, _, hspells, htype⟩ := spelled_back "Trivia??"
  obtain ⟨node, hnode⟩ := haccepts.mpr hparts
  exact ⟨⟨node, hnode, hback node hnode _⟩, hspells.mpr ⟨"Trivia", 2, hname, rfl⟩, htype {}⟩

end SyntaxForge
