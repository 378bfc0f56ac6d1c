import SyntaxForge.Proofs.Documentation
import SyntaxForge.Proofs.EscapedNames
import SyntaxForge.Proofs.Spelling

/-!
# Identifiers in generated files

Names are checked on lists of names, and code is laid out without checking anything.  So the lists
have to be complete: every identifier among the tokens of a file must come from a name that was
checked.

* **`Code.Decl.wellSpelled_node`**: a declaration is laid out without an ill-formed identifier if
  its names pass the check.  Each form of code goes back to the forms that it is made of.
* **`Generate.files_or_collision`**: where kinds, slots and tokens have plain names, nothing but a
  collision of names keeps files from being generated, and no identifier in them is ill-formed.
-/

namespace SyntaxForge

/-! ## Code -/

namespace Code

open Shorthand

section Names

variable {text : String}

lemma NameUse.IsValid.wellSpelled_name (h : (declared text).IsValid) :
    (Token.name text).WellSpelled := by
  have hidentifier := Token.exists_identifier_iff.mp h
  exact ⟨fun _ => hidentifier, fun hkind => absurd (Kind.token.inj hkind) (by decide)⟩

lemma NameUse.IsValid.wellSpelled_operandToken (h : (operand text).IsValid) :
    (operandToken text).WellSpelled := by
  rw [IsValid, token, exprName] at h
  rw [operandToken]
  split at h
  · next hdollar =>
      obtain ⟨token, htoken⟩ := h
      rw [if_pos hdollar]
      refine ⟨fun hkind => absurd (Kind.token.inj hkind) (by decide), fun _ => ?_⟩
      rw [Token.dollarIdentifier] at htoken
      split at htoken
      · assumption
      · simp at htoken
  · next hplain =>
      rw [if_neg hplain]
      exact IsValid.wellSpelled_name h

end Names

section Shapes

variable {node : Node}

@[simp] lemma wellSpelled_asExpr : (asExpr node).WellSpelled ↔ node.WellSpelled :=
  Node.wellSpelled_upcast

@[simp] lemma wellSpelled_asStmt : (asStmt node).WellSpelled ↔ node.WellSpelled :=
  Node.wellSpelled_upcast

@[simp] lemma wellSpelled_asDecl : (asDecl node).WellSpelled ↔ node.WellSpelled :=
  Node.wellSpelled_upcast

@[simp] lemma wellSpelled_asType : (asType node).WellSpelled ↔ node.WellSpelled :=
  Node.wellSpelled_upcast

@[simp] lemma wellSpelled_asPattern : (asPattern node).WellSpelled ↔ node.WellSpelled :=
  Node.wellSpelled_upcast

lemma wellSpelled_blockItem (h : node.WellSpelled) : (blockItem node).WellSpelled :=
  Node.wellSpelled_make (by simpa using h)

lemma wellSpelled_unlabeled (h : node.WellSpelled) : (unlabeled node).WellSpelled :=
  Node.wellSpelled_make (by simpa using h)

variable {nodes : List Node} (h : ∀ node ∈ nodes, node.WellSpelled)

include h

lemma wellSpelled_blockItems : (blockItems nodes).WellSpelled := by
  rw [blockItems, Node.wellSpelled_list, itemLayout, List.forall_mem_map]
  exact ⟨Builtin.wellSpelled_listLayout _, fun node hnode => wellSpelled_blockItem (h node hnode)⟩

lemma wellSpelled_block : (block nodes).WellSpelled :=
  Node.wellSpelled_make (by simp (disch := decide) [wellSpelled_blockItems h])

lemma wellSpelled_sequence : (sequence nodes).WellSpelled := by
  unfold sequence
  split
  · exact h _ (List.mem_singleton_self _)
  · rw [wellSpelled_asExpr]
    exact Node.wellSpelled_make (by simpa [operandLayout] using h)

lemma wellSpelled_arrayLiteral : (arrayLiteral nodes).WellSpelled := by
  have helements : ∀ node ∈ nodes, (Node.make Builtin.arrayElement [.node node]).WellSpelled :=
    fun node hnode => Node.wellSpelled_make (by simpa using h node hnode)
  rw [arrayLiteral, wellSpelled_asExpr]
  exact Node.wellSpelled_make (by simpa (disch := decide) [arrayLayout] using helements)

end Shapes

lemma TypeExpr.wellSpelled_node :
    ∀ {type : TypeExpr}, NameUse.checkAll type.names = .ok () → type.node.WellSpelled
  | .named name, h => by
      rw [names, NameUse.checkAll_cons_iff] at h
      rw [node, nameType, wellSpelled_asType]
      exact Node.wellSpelled_make (by simpa using h.1.wellSpelled_name)
  | .optional wrapped, h => by
      have hwrapped : wrapped.node.WellSpelled := wellSpelled_node h
      rw [node, wellSpelled_asType]
      exact Node.wellSpelled_make (by simpa (disch := decide) using hwrapped)
  | .array element, h => by
      have helement : element.node.WellSpelled := wellSpelled_node h
      rw [node, wellSpelled_asType]
      exact Node.wellSpelled_make (by simpa (disch := decide) using helement)

/-- An expression of a single operand. -/
lemma wellSpelled_operand {kind : NodeKind} {contents : List Content}
    (h : ∀ content ∈ contents, content.WellSpelled) :
    ∀ node ∈ [asExpr (Node.make kind contents)], node.WellSpelled := by
  rw [List.forall_mem_singleton, wellSpelled_asExpr]
  exact Node.wellSpelled_make h

mutual

/-- The operands of an expression spell its names. -/
lemma Expr.wellSpelled_operands :
    ∀ {expr : Expr}, NameUse.checkAll expr.names = .ok () →
      ∀ node ∈ expr.operands, node.WellSpelled
  | .name text, h => by
      rw [Expr.names, NameUse.checkAll_cons_iff] at h
      rw [Expr.operands]
      exact wellSpelled_operand (by simpa using h.1.wellSpelled_operandToken)
  | .nil, _ => by
      rw [Expr.operands]
      exact wellSpelled_operand (by simp (disch := decide))
  | .member base name, h => by
      rw [Expr.names, NameUse.checkAll_append_iff, NameUse.checkAll_cons_iff] at h
      have hbase := wellSpelled_sequence (Expr.wellSpelled_operands h.1)
      have hname := h.2.1.wellSpelled_name
      rw [Expr.operands]
      exact wellSpelled_operand (by simp (disch := decide) [hbase, hname])
  | .implicitMember name, h => by
      rw [Expr.names, NameUse.checkAll_cons_iff] at h
      have hname := h.1.wellSpelled_name
      rw [Expr.operands]
      exact wellSpelled_operand (by simp (disch := decide) [hname])
  | .chained base, h => by
      rw [Expr.names] at h
      have hbase := wellSpelled_sequence (Expr.wellSpelled_operands h)
      rw [Expr.operands]
      exact wellSpelled_operand (by simp (disch := decide) [hbase])
  | .call callee arguments, h => by
      rw [Expr.names, NameUse.checkAll_append_iff] at h
      have hcallee := wellSpelled_sequence (Expr.wellSpelled_operands h.2)
      have harguments := Arguments.wellSpelled_nodes h.1
      rw [Expr.operands]
      exact wellSpelled_operand (by
        simpa (disch := decide) [argumentLayout, hcallee] using harguments)
  | .closureCall callee body, h => by
      rw [Expr.names, NameUse.checkAll_append_iff] at h
      have hcallee := wellSpelled_sequence (Expr.wellSpelled_operands h.2)
      have hbody := wellSpelled_sequence (Expr.wellSpelled_operands h.1)
      have hclosure : (closure (sequence body.operands)).WellSpelled :=
        Node.wellSpelled_make (by
          simpa (disch := decide) using
            wellSpelled_blockItems (List.forall_mem_singleton.mpr hbody))
      rw [Expr.operands]
      exact wellSpelled_operand (by simp [argumentLayout, hcallee, hclosure])
  | .emptyArray, _ => by
      rw [Expr.operands, List.forall_mem_singleton]
      exact wellSpelled_arrayLiteral (by simp)
  | .arrayOf element, h => by
      rw [Expr.names] at h
      have helement := wellSpelled_sequence (Expr.wellSpelled_operands h)
      rw [Expr.operands, List.forall_mem_singleton]
      exact wellSpelled_arrayLiteral (List.forall_mem_singleton.mpr helement)
  | .paren inner, h => by
      rw [Expr.names] at h
      have hinner := wellSpelled_unlabeled (wellSpelled_sequence (Expr.wellSpelled_operands h))
      rw [Expr.operands]
      exact wellSpelled_operand (by simp (disch := decide) [argumentLayout, hinner])
  | .binary left operator right, h => by
      rw [Expr.names, NameUse.checkAll_append_iff] at h
      have hright := wellSpelled_sequence (Expr.wellSpelled_operands h.2)
      have hoperator : (Shorthand.operator operator).WellSpelled :=
        Node.wellSpelled_make (by simp)
      rw [Expr.operands, List.forall_mem_append, List.forall_mem_cons, List.forall_mem_singleton,
        wellSpelled_asExpr]
      exact ⟨Expr.wellSpelled_operands h.1, hoperator, hright⟩

/-- The arguments of a call spell its names and labels. -/
lemma Arguments.wellSpelled_nodes :
    ∀ {arguments : Arguments}, NameUse.checkAll arguments.names = .ok () →
      ∀ node ∈ arguments.nodes, node.WellSpelled
  | .nil, _ => by simp [Arguments.nodes]
  | .cons (some label) value rest, h => by
      simp only [Arguments.names, NameUse.checkAll_append_iff, Option.toList_some,
        List.map_cons, NameUse.checkAll_cons_iff] at h
      have hvalue := wellSpelled_sequence (Expr.wellSpelled_operands h.1.1)
      have hlabel := h.1.2.1.wellSpelled_name
      rw [Arguments.nodes, List.forall_mem_cons]
      exact ⟨Node.wellSpelled_make (by simp (disch := decide) [hvalue, hlabel]),
        Arguments.wellSpelled_nodes h.2⟩
  | .cons none value rest, h => by
      simp only [Arguments.names, NameUse.checkAll_append_iff] at h
      have hvalue := wellSpelled_sequence (Expr.wellSpelled_operands h.1.1)
      rw [Arguments.nodes, List.forall_mem_cons]
      exact ⟨wellSpelled_unlabeled hvalue, Arguments.wellSpelled_nodes h.2⟩

end

lemma Expr.wellSpelled_node {expr : Expr} (h : NameUse.checkAll expr.names = .ok ()) :
    expr.node.WellSpelled :=
  wellSpelled_sequence (Expr.wellSpelled_operands h)

/-! ## Declarations -/

section Values

variable {name : String} {value : Expr}

lemma wellSpelled_initialValue (h : NameUse.checkAll value.names = .ok ()) :
    (initialValue value).WellSpelled :=
  Node.wellSpelled_make (by simp (disch := decide) [Expr.wellSpelled_node h])

lemma wellSpelled_returning (h : NameUse.checkAll value.names = .ok ()) :
    (returning value).WellSpelled := by
  rw [returning, wellSpelled_asStmt]
  exact Node.wellSpelled_make (by simp (disch := decide) [Expr.wellSpelled_node h])

lemma wellSpelled_namePattern (h : (NameUse.declared name).IsValid) :
    (namePattern (Token.name name)).WellSpelled := by
  rw [namePattern, wellSpelled_asPattern]
  exact Node.wellSpelled_make (by simp [h.wellSpelled_name])

lemma wellSpelled_constantNode {ascription : Option TypeExpr} {initial : Option Expr}
    (hname : (NameUse.declared name).IsValid)
    (hascription : ∀ type ∈ ascription, NameUse.checkAll type.names = .ok ())
    (hinitial : ∀ value ∈ initial, NameUse.checkAll value.names = .ok ()) :
    (constantNode name ascription initial).WellSpelled := by
  have hpattern := wellSpelled_namePattern hname
  refine Node.wellSpelled_make ?_
  rw [List.forall_mem_cons, List.forall_mem_cons, List.forall_mem_singleton,
    Content.wellSpelled_node, Node.wellSpelled_list, List.forall_mem_singleton]
  refine ⟨trivial, Token.wellSpelled_ofKind rfl, Builtin.wellSpelled_listLayout _,
    Node.wellSpelled_make ?_⟩
  rw [List.forall_mem_cons, List.forall_mem_cons, List.forall_mem_singleton]
  refine ⟨hpattern, ?_, ?_⟩
  · cases ascription with
    | none => trivial
    | some type =>
        have htype := TypeExpr.wellSpelled_node (hascription type rfl)
        exact Node.wellSpelled_make (by simp (disch := decide) [htype])
  · cases initial with
    | none => trivial
    | some value => exact wellSpelled_initialValue (hinitial value rfl)

end Values

lemma Statement.wellSpelled_node {statement : Statement}
    (h : NameUse.checkAll statement.names = .ok ()) : statement.node.WellSpelled := by
  cases statement with
  | ret value => exact wellSpelled_returning h
  | bind name value =>
      rw [names, NameUse.checkAll_append_iff, NameUse.checkAll_cons_iff] at h
      rw [node, wellSpelled_asDecl]
      exact wellSpelled_constantNode h.2.1 (by simp) (by simpa using h.1)
  | assign target value =>
      rw [names, NameUse.checkAll_append_iff] at h
      have htarget := Expr.wellSpelled_node h.2
      have hvalue := Expr.wellSpelled_node h.1
      have hequals : ∀ content ∈ [Content.token (.ofKind Builtin.equal)], content.WellSpelled := by
        simp (disch := decide)
      rw [node]
      exact wellSpelled_sequence (by simp [htarget, hvalue, Node.wellSpelled_make hequals])
  | run expr => exact Expr.wellSpelled_node h
  | returnBound name value found missing =>
      simp only [names, List.cons_append, NameUse.checkAll_cons_iff,
        NameUse.checkAll_append_iff] at h
      obtain ⟨hname, ⟨hvalue, hfound⟩, hmissing⟩ := h
      have hpattern := wellSpelled_namePattern hname
      have hinitial := wellSpelled_initialValue hvalue
      have hblock := wellSpelled_block
        (List.forall_mem_singleton.mpr (wellSpelled_returning hfound))
      have helse := wellSpelled_block
        (List.forall_mem_singleton.mpr (wellSpelled_returning hmissing))
      have hkeyword : (Token.ofKind Builtin.elseKeyword).WellSpelled := Token.wellSpelled_ofKind rfl
      have hcondition : (bindingCondition name value).WellSpelled := by
        refine Node.wellSpelled_make ?_
        rw [List.forall_mem_singleton, Content.wellSpelled_node, Node.wellSpelled_upcast]
        exact Node.wellSpelled_make (by simp (disch := decide) [hpattern, hinitial])
      rw [node, wellSpelled_asStmt, withElse]
      refine Node.wellSpelled_set (Content.wellSpelled_node.mpr helse)
        (Node.wellSpelled_set (Content.wellSpelled_token.mpr hkeyword) ?_)
      exact Node.wellSpelled_make (by
        simp (disch := decide) [conditionLayout, hcondition, hblock])

lemma Parameter.wellSpelled_node {parameter : Parameter}
    (h : NameUse.checkAll parameter.names = .ok ()) : parameter.node.WellSpelled := by
  obtain ⟨label, innerName, type, isVariadic, fallback⟩ := parameter
  simp only [names, NameUse.checkAll_append_iff] at h
  obtain ⟨⟨⟨htype, hlabel⟩, hinner⟩, hfallback⟩ := h
  refine Node.wellSpelled_make ?_
  simp only [List.forall_mem_cons]
  refine ⟨?_, ?_, ?_, ?_, ?_, ?_, by simp⟩
  · cases label with
    | wildcard => exact Token.wellSpelled_ofKind rfl
    | name text => exact (NameUse.checkAll_cons_iff.mp hlabel).1.wellSpelled_name
  · cases innerName with
    | none => trivial
    | some name => exact (NameUse.checkAll_cons_iff.mp hinner).1.wellSpelled_name
  · exact Token.wellSpelled_ofKind rfl
  · exact TypeExpr.wellSpelled_node htype
  · cases isVariadic with
    | true => exact Token.wellSpelled_ofKind rfl
    | false => trivial
  · cases fallback with
    | none => trivial
    | some value => exact wellSpelled_initialValue (by simpa using hfallback)

lemma wellSpelled_signature {parameters : List Parameter} {returns : Option TypeExpr}
    (hparameters : NameUse.checkAll (parameters.flatMap Parameter.names) = .ok ())
    (hreturns : ∀ type ∈ returns, NameUse.checkAll type.names = .ok ()) :
    (signature parameters returns).WellSpelled := by
  rw [NameUse.checkAll_flatMap_iff] at hparameters
  have hnodes : ∀ node ∈ parameters.map Parameter.node, node.WellSpelled :=
    List.forall_mem_map.mpr fun parameter hparameter =>
      Parameter.wellSpelled_node (hparameters parameter hparameter)
  refine Node.wellSpelled_make ?_
  rw [List.forall_mem_cons, List.forall_mem_singleton]
  constructor
  · exact Node.wellSpelled_make (by simpa (disch := decide) [parameterLayout] using hnodes)
  · cases returns with
    | none => trivial
    | some type =>
        have htype := TypeExpr.wellSpelled_node (hreturns type rfl)
        exact Node.wellSpelled_make (by simp (disch := decide) [htype])

lemma wellSpelled_modifiers (isPublic : Bool) : (modifiers isPublic).WellSpelled := by
  cases isPublic with
  | false => trivial
  | true =>
      have hmodifier : (modifier (.ofKind Builtin.publicKeyword)).WellSpelled :=
        Node.wellSpelled_make (by simp (disch := decide))
      simp [modifiers, modifierLayout, hmodifier]

lemma wellSpelled_body {statements : List Statement}
    (h : NameUse.checkAll (statements.flatMap Statement.names) = .ok ()) :
    (block (statements.map Statement.node)).WellSpelled := by
  rw [NameUse.checkAll_flatMap_iff] at h
  exact wellSpelled_block (List.forall_mem_map.mpr fun statement hstatement =>
    Statement.wellSpelled_node (h statement hstatement))

lemma Function.wellSpelled_node {function : Function}
    (h : NameUse.checkAll function.names = .ok ()) : function.node.WellSpelled := by
  obtain ⟨docs, isPublic, name, parameters, returns, body⟩ := function
  simp only [names, NameUse.checkAll_append_iff, NameUse.checkAll_cons_iff] at h
  obtain ⟨⟨⟨hbody, hparameters⟩, hreturns⟩, hname, _⟩ := h
  have hsignature : (signature parameters (some returns)).WellSpelled :=
    wellSpelled_signature hparameters (by simpa using hreturns)
  rw [node, Node.wellSpelled_withOwn]
  refine Node.wellSpelled_make ?_
  simp only [List.forall_mem_cons]
  refine ⟨wellSpelled_modifiers isPublic, Token.wellSpelled_ofKind rfl, hname.wellSpelled_name,
    hsignature, ?_, by simp⟩
  cases body with
  | none => trivial
  | some statements => exact wellSpelled_body hbody

lemma Initializer.wellSpelled_node {initializer : Initializer}
    (h : NameUse.checkAll initializer.names = .ok ()) : initializer.node.WellSpelled := by
  rw [names, NameUse.checkAll_append_iff] at h
  have hsignature : (signature initializer.parameters none).WellSpelled :=
    wellSpelled_signature h.1 (by simp)
  rw [node, Node.wellSpelled_withOwn]
  exact Node.wellSpelled_make (by
    simp (disch := decide) [wellSpelled_modifiers, hsignature, wellSpelled_body h.2])

lemma Member.wellSpelled_node {member : Member} (h : NameUse.checkAll member.names = .ok ()) :
    member.node.WellSpelled := by
  refine Node.wellSpelled_make ?_
  rw [List.forall_mem_singleton, Content.wellSpelled_node, wellSpelled_asDecl]
  cases member with
  | constant name type =>
      rw [names, NameUse.checkAll_append_iff, NameUse.checkAll_cons_iff] at h
      exact wellSpelled_constantNode h.2.1 (by simpa using h.1) (by simp)
  | function declared => exact Function.wellSpelled_node h
  | initializer declared => exact Initializer.wellSpelled_node h

lemma wellSpelled_memberBlock {members : List Member}
    (h : ∀ member ∈ members, NameUse.checkAll member.names = .ok ()) :
    (memberBlock members).WellSpelled := by
  have hnodes : ∀ node ∈ members.map Member.node, node.WellSpelled :=
    List.forall_mem_map.mpr fun member hmember => Member.wellSpelled_node (h member hmember)
  exact Node.wellSpelled_make (by simpa (disch := decide) [memberLayout] using hnodes)

lemma wellSpelled_inheritance {types : List TypeExpr}
    (h : ∀ type ∈ types, NameUse.checkAll type.names = .ok ()) :
    (inheritance types).WellSpelled := by
  have hnodes : ∀ node ∈ types.map fun type => Node.make Builtin.inheritedType [.node type.node],
      node.WellSpelled := by
    rw [List.forall_mem_map]
    exact fun type htype =>
      Node.wellSpelled_make (by simpa using TypeExpr.wellSpelled_node (h type htype))
  rw [inheritance]
  split
  · trivial
  · exact Node.wellSpelled_make (by simpa (disch := decide) [inheritedLayout] using hnodes)

lemma SameType.wellSpelled_node {same : SameType}
    (hparameter : (NameUse.declared same.parameter).IsValid)
    (htype : NameUse.checkAll same.type.names = .ok ()) : same.node.WellSpelled := by
  have hnamed : (TypeExpr.named same.parameter).node.WellSpelled :=
    TypeExpr.wellSpelled_node (by simpa [TypeExpr.names] using hparameter)
  have htype := TypeExpr.wellSpelled_node htype
  refine Node.wellSpelled_make ?_
  rw [List.forall_mem_cons, List.forall_mem_singleton, Content.wellSpelled_node,
    Node.wellSpelled_list, List.forall_mem_singleton]
  refine ⟨Token.wellSpelled_ofKind rfl, Builtin.wellSpelled_listLayout _,
    Node.wellSpelled_make ?_⟩
  rw [List.forall_mem_singleton, Content.wellSpelled_node, Node.wellSpelled_upcast]
  exact Node.wellSpelled_make (by simp [hnamed, htype])

/-- **A declaration is laid out without an ill-formed identifier** if its names pass the check. -/
theorem Decl.wellSpelled_node {decl : Decl} (h : NameUse.checkAll decl.names = .ok ()) :
    decl.node.WellSpelled := by
  obtain ⟨docs, isPublic, form, name, inherits, requirement, members⟩ := decl
  simp only [names, headNames, NameUse.checkAll_append_iff, NameUse.checkAll_cons_iff,
    NameUse.checkAll_flatMap_iff, List.cons_append] at h
  obtain ⟨hmembers, hname, hinherits, hrequirement⟩ := h
  have hextended : (TypeExpr.named name).node.WellSpelled :=
    TypeExpr.wellSpelled_node (by simpa [TypeExpr.names] using hname)
  rw [node, Node.wellSpelled_withOwn]
  refine Node.wellSpelled_make ?_
  simp only [List.forall_mem_cons]
  refine ⟨wellSpelled_modifiers isPublic, ?_, ?_, wellSpelled_inheritance hinherits, ?_,
    wellSpelled_memberBlock hmembers, by simp⟩
  · cases form <;> exact Token.wellSpelled_ofKind rfl
  · cases form with
    | protocol => exact hname.wellSpelled_name
    | struct => exact hname.wellSpelled_name
    | extend => exact hextended
  · cases requirement with
    | none => trivial
    | some same =>
        obtain ⟨hparameter, htype⟩ := hrequirement same (by simp)
        exact same.wellSpelled_node hparameter htype

lemma wellSpelled_importNode : importNode.WellSpelled := by
  have hname : (Token.name "SwiftSyntax").WellSpelled :=
    (NameUse.isValid_declared (by decide : Identifier.IsPlain "SwiftSyntax")).wellSpelled_name
  have hcomponent : (Node.make Builtin.accessPathComponent
      [.token (Token.name "SwiftSyntax")]).WellSpelled :=
    Node.wellSpelled_make (by simpa using hname)
  rw [importNode, Node.wellSpelled_withOwn]
  exact Node.wellSpelled_make (by simp (disch := decide) [path, pathComponents, hcomponent])

lemma wellSpelled_fileNode {decls : List Decl}
    (h : ∀ decl ∈ decls, NameUse.checkAll decl.names = .ok ()) :
    (fileNode decls).WellSpelled := by
  refine Node.wellSpelled_make ?_
  rw [List.forall_mem_singleton, Content.wellSpelled_node, Node.wellSpelled_list,
    List.forall_mem_cons, List.forall_mem_map]
  refine ⟨Builtin.wellSpelled_listLayout _, wellSpelled_blockItem ?_, fun decl hdecl => ?_⟩
  · exact wellSpelled_asDecl.mpr wellSpelled_importNode
  · rw [Node.wellSpelled_withOwn]
    exact wellSpelled_blockItem (wellSpelled_asDecl.mpr (Decl.wellSpelled_node (h decl hdecl)))

end Code

namespace Generate

open Code

variable {declarations : Declarations} {grammar : Grammar} {kind : NodeKind}

/-! ## Generated files -/

/-- The names of a struct are checked in another order than they are written, but all of them. -/
lemma checkAll_nodeStruct (h : NameUse.checkAll (nodeStructNames grammar kind) = .ok ()) :
    NameUse.checkAll (nodeStruct grammar kind).names = .ok () := by
  simp only [nodeStructNames, NameUse.checkAll_append_iff, NameUse.checkAll_flatMap_iff] at h
  obtain ⟨⟨⟨⟨⟨hproperties, _⟩, _⟩, hslots⟩, hfunctions⟩, hhead⟩ := h
  -- a parameter was checked together with the statement that stores it
  have hinitializer : NameUse.checkAll
      (memberwiseInitializer grammar kind (slotViews grammar kind)).names = .ok () := by
    simp only [Initializer.names, memberwiseInitializer, NameUse.checkAll_append_iff,
      NameUse.checkAll_flatMap_iff, List.forall_mem_cons, List.forall_mem_map]
    exact ⟨⟨checkAll_triviaParameter, fun view hview => (hslots view hview).1⟩,
      checkAll_triviaAssignment, fun view hview => (hslots view hview).2⟩
  rw [Decl.names, NameUse.checkAll_append_iff, NameUse.checkAll_flatMap_iff, nodeStruct,
    List.forall_mem_append]
  refine ⟨⟨hproperties, List.forall_mem_cons.mpr ⟨hinitializer, ?_⟩⟩, hhead⟩
  exact List.forall_mem_map.mpr hfunctions

lemma checkAll_collectionStruct {element : SwiftType}
    (h : NameUse.checkAll (collectionStructNames kind element) = .ok ()) :
    NameUse.checkAll (collectionStruct kind element).names = .ok () := by
  simp only [collectionStructNames, NameUse.checkAll_append_iff] at h
  obtain ⟨⟨⟨⟨⟨⟨hbody, hparameters⟩, hcombining⟩, hliteral⟩, hproperty⟩, hfunctions⟩, hhead⟩ := h
  have hinitializer : NameUse.checkAll (elementsInitializer kind element).names = .ok () :=
    NameUse.checkAll_append_iff.mpr ⟨hparameters, hbody⟩
  rw [NameUse.checkAll_flatMap_iff] at hfunctions
  rw [Decl.names, NameUse.checkAll_append_iff, NameUse.checkAll_flatMap_iff, collectionStruct,
    List.forall_mem_append, List.forall_mem_cons, List.forall_mem_cons, List.forall_mem_cons,
    List.forall_mem_singleton, List.forall_mem_map]
  exact ⟨⟨⟨hproperty, hinitializer, hcombining, hliteral⟩, hfunctions⟩, hhead⟩

/-- What is checked for a draft covers its declaration. -/
lemma checkAll_draft {file : String × List Draft} (hfile : file ∈ fileDrafts grammar)
    {draft : Draft} (hdraft : draft ∈ file.2) (h : NameUse.checkAll draft.names = .ok ()) :
    NameUse.checkAll draft.decl.names = .ok () := by
  simp only [fileDrafts, List.mem_cons, List.not_mem_nil, or_false] at hfile
  rcases hfile with rfl | rfl | rfl | rfl
  · obtain ⟨decl, _, rfl⟩ := List.mem_map.mp hdraft
    exact h
  · obtain ⟨kind, _, hdraft⟩ := List.mem_flatMap.mp hdraft
    rw [collectionDrafts] at hdraft
    split at hdraft
    · simp at hdraft
    · rcases List.mem_cons.mp hdraft with rfl | hdraft
      · exact checkAll_collectionStruct h
      · split at hdraft
        · rw [List.mem_singleton.mp hdraft] at h ⊢
          exact h
        · simp at hdraft
  · obtain ⟨kind, _, rfl⟩ := List.mem_map.mp hdraft
    exact checkAll_nodeStruct h
  · obtain ⟨decl, _, rfl⟩ := List.mem_map.mp hdraft
    exact h

/-- The names of the four files. -/
def fileNames : List String :=
  ["BuildableBaseProtocols.swift", "BuildableCollectionNodes.swift", "BuildableNodes.swift",
   "ExpressibleAsProtocols.swift"]

/-- **Plain names are enough for files to be generated.**  If the names of the kinds and slots of an
accepted grammar, and of its tokens with a fixed text, are plain identifiers, then either two kinds
claim the same name and this is reported, or the four files are generated.  Either way every name in
the declarations of a file may stand where it does, and no identifier or dollar identifier in the
tree of a file is ill-formed. -/
theorem files_or_collision (hgrammar : Grammar.ofDeclarations declarations = .ok grammar)
    (hplain : grammar.HasPlainNames) :
    ((∃ collision, files grammar = .error (.collision collision))
        ∨ ∃ sources, files grammar = .ok sources ∧ sources.map SourceFile.name = fileNames)
      ∧ ∀ file ∈ fileDrafts grammar,
        (∀ draft ∈ file.2, ∀ use ∈ draft.names, use.IsValid)
          ∧ ∀ leaf ∈ ((fileNode (file.2.map Draft.decl)).build {} none).leaves,
            leaf.WellSpelled := by
  have haccepts := Grammar.accepts_of_ofDeclarations hgrammar
  have hchecked : ∀ file ∈ fileDrafts grammar, ∀ draft ∈ file.2,
      NameUse.checkAll draft.names = .ok () := fun file hfile =>
    NameUse.checkAll_flatMap_iff.mp (checkAll_fileDrafts haccepts hplain file hfile)
  constructor
  · cases hnames : grammar.checkNames with
    | error collision =>
        refine Or.inl ⟨collision, ?_⟩
        rw [files, hnames]
        rfl
    | ok _ =>
        obtain ⟨sources, hfiles⟩ := exists_files_of_hasPlainNames haccepts hplain hnames
        refine Or.inr ⟨sources, hfiles, ?_⟩
        rw [sources_eq hfiles]
        rfl
  · intro file hfile
    refine ⟨fun draft hdraft => NameUse.checkAll_iff.mp (hchecked file hfile draft hdraft), ?_⟩
    refine Node.wellSpelled_leaves (wellSpelled_fileNode ?_) {} none
    rw [List.forall_mem_map]
    exact fun draft hdraft => checkAll_draft hfile hdraft (hchecked file hfile draft hdraft)

/-! A clause starts with a keyword and a name; its other slots may stay empty, and one of them holds
clauses again. -/

/-- A kind with a slot of every sort. -/
def clauseKind : NodeKind :=
  Builtin.node "Clause" "Decl"
    [Builtin.tokenOf "CaseKeyword" Builtin.caseKeyword, Builtin.tokenOf "Name" Builtin.identifier,
     (Builtin.child "Nested" "ClauseList").optional,
     (Builtin.tokenOf "TrailingComma" Builtin.comma).optional]

/-- A grammar of clauses. -/
def clauseDeclarations : Declarations where
  tokens := [Builtin.identifier, Builtin.caseKeyword, Builtin.comma]
  kinds :=
    [Builtin.root, Builtin.collectionBase, Builtin.declBase, clauseKind,
     Builtin.list "ClauseList" (.node "Clause")]
  expressibleAs := []

/-- The grammar with its conformances. -/
def clauseGrammar : Grammar where
  toCatalog := clauseDeclarations.toCatalog
  conformanceTable :=
    [("Syntax", []), ("SyntaxCollection", []), ("Decl", []), ("Clause", [⟨"Decl", .upcast⟩]),
     ("ClauseList", [])]

theorem files_or_collision_clauses :
    (∃ sources, files clauseGrammar = .ok sources ∧ sources.map SourceFile.name = fileNames)
      ∧ ∀ file ∈ fileDrafts clauseGrammar,
        ∀ leaf ∈ ((fileNode (file.2.map Draft.decl)).build {} none).leaves, leaf.WellSpelled := by
  have haccepted : Grammar.ofDeclarations clauseDeclarations = .ok clauseGrammar := by decide
  have hplain : clauseGrammar.HasPlainNames := ⟨by decide, by decide, by decide⟩
  obtain ⟨hfiles, hspelled⟩ := files_or_collision haccepted hplain
  refine ⟨hfiles.resolve_left ?_, fun file hfile => (hspelled file hfile).2⟩
  rintro ⟨collision, hcollision⟩
  obtain ⟨sources, hfiles⟩ := exists_files_of_hasPlainNames
    (Grammar.accepts_of_ofDeclarations haccepted) hplain (by decide)
  rw [hfiles] at hcollision
  cases hcollision

end Generate

end SyntaxForge
