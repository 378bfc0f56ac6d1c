import SyntaxForge.Proofs.WrittenTokens

/-!
# Spelling of identifiers in nodes

A token of any kind can be given any text, and layout prints it as it is.  `Node.WellSpelled` says
that no identifier in a node is ill-formed, and no dollar identifier.  It is checked slot by slot,
however a node is put together (`Node.wellSpelled_make`, `Node.wellSpelled_set`).

**`Node.wellSpelled_leaves`**: then no identifier among the tokens of its tree is ill-formed.
Layout adds tokens of its own: trivia, and the commas of lists, which in the Swift grammar are
nothing but commas (`Builtin.eq_comma_of_mem`).
-/

namespace SyntaxForge

/-! ## Nodes -/

/-- A token that is an identifier reads like one; so does one that is a dollar identifier. -/
def Leaf.WellSpelled (leaf : Leaf) : Prop :=
  (leaf.kind = .token Builtin.identifier → Identifier.isIdentifier leaf.text.toList = true)
    ∧ (leaf.kind = .token Builtin.dollarIdentifier → Identifier.isDollar leaf.text.toList = true)

/-- The token is no ill-formed identifier. -/
def Token.WellSpelled (token : Token) : Prop :=
  Leaf.WellSpelled { kind := token.kind, text := token.text }

/-- The comma that a list fills in is no ill-formed identifier. -/
def ListLayout.WellSpelled (layout : ListLayout) : Prop :=
  ∀ comma ∈ layout.comma, (Token.ofKind comma).WellSpelled

mutual

/-- No token of the node is an ill-formed identifier. -/
def Node.WellSpelled : Node → Prop
  | .concrete _ _ fields => fields.WellSpelled
  | .list layout elements => layout.WellSpelled ∧ Node.AllWellSpelled elements
  | .tokens _ elements => ∀ leaf ∈ elements, leaf.WellSpelled
  | .upcast _ child => child.WellSpelled

/-- No token in the slots of a node is an ill-formed identifier. -/
def Fields.WellSpelled : Fields → Prop
  | .nil => True
  | .empty _ rest => rest.WellSpelled
  | .token _ leaf rest => leaf.WellSpelled ∧ rest.WellSpelled
  | .node _ child rest => child.WellSpelled ∧ rest.WellSpelled

/-- No token of the nodes is an ill-formed identifier. -/
def Node.AllWellSpelled : List Node → Prop
  | [] => True
  | node :: rest => node.WellSpelled ∧ Node.AllWellSpelled rest

end

/-- No token of the content of a slot is an ill-formed identifier. -/
def Content.WellSpelled : Content → Prop
  | .none => True
  | .token leaf => leaf.WellSpelled
  | .node child => child.WellSpelled

@[simp] lemma Content.wellSpelled_none : Content.none.WellSpelled := trivial

@[simp] lemma Content.wellSpelled_token {leaf : Token} :
    (Content.token leaf).WellSpelled ↔ leaf.WellSpelled := Iff.rfl

@[simp] lemma Content.wellSpelled_node {child : Node} :
    (Content.node child).WellSpelled ↔ child.WellSpelled := Iff.rfl

lemma Token.wellSpelled_of_written {token : Token} (h : token.WellSpelled) :
    ∀ leaf ∈ token.written, leaf.WellSpelled := by
  intro leaf hleaf
  rw [written] at hleaf
  split at hleaf
  · simp at hleaf
  · rw [List.mem_singleton.mp hleaf]
    exact h

/-- Keywords and punctuation marks are no identifiers. -/
@[simp] lemma Token.wellSpelled_ofKind {kind : TokenKind} (h : kind.text.isSome = true) :
    (Token.ofKind kind).WellSpelled := by
  have hkind : ∀ other : TokenKind, Kind.ofTokenKind kind = .token other → kind = other := by
    intro other hother
    rw [Kind.ofTokenKind] at hother
    split at hother
    · -- a kind of trivia without a name of its own is kept as a token
      cases hname : TriviaKind.ofName? kind.name with
      | none => simpa [hname] using hother
      | some trivia => simp [hname] at hother
    · simpa using hother
  constructor
  · intro hidentifier
    rw [hkind _ hidentifier] at h
    exact absurd h (by decide)
  · intro hdollar
    rw [hkind _ hdollar] at h
    exact absurd h (by decide)

@[simp] lemma Token.wellSpelled_operator {text : String} : (operator text).WellSpelled :=
  ⟨fun hkind => absurd (Kind.token.inj hkind) (by decide),
    fun hkind => absurd (Kind.token.inj hkind) (by decide)⟩

namespace Node

lemma allWellSpelled_iff :
    ∀ {nodes : List Node}, AllWellSpelled nodes ↔ ∀ node ∈ nodes, node.WellSpelled
  | [] => by simp [AllWellSpelled]
  | node :: rest => by rw [AllWellSpelled, allWellSpelled_iff, List.forall_mem_cons]

@[simp] lemma wellSpelled_list {layout : ListLayout} {elements : List Node} :
    (Node.list layout elements).WellSpelled
      ↔ layout.WellSpelled ∧ ∀ node ∈ elements, node.WellSpelled := by
  rw [WellSpelled, allWellSpelled_iff]

@[simp] lemma wellSpelled_upcast {base : String} {node : Node} :
    (Node.upcast base node).WellSpelled ↔ node.WellSpelled := by
  rw [WellSpelled]

@[simp] lemma wellSpelled_withOwn {own : Trivia} :
    ∀ {node : Node}, (node.withOwn own).WellSpelled ↔ node.WellSpelled
  | .concrete _ _ _ => by rw [withOwn, WellSpelled, WellSpelled]
  | .list _ _ => Iff.rfl
  | .tokens _ _ => Iff.rfl
  | .upcast _ node => by rw [withOwn, WellSpelled, WellSpelled, wellSpelled_withOwn]

end Node

namespace Fields

variable {slot : Slot} {content : Content} {rest : Fields}

lemma wellSpelled_cons (hcontent : content.WellSpelled) (hrest : rest.WellSpelled) :
    (cons slot content rest).WellSpelled := by
  cases content with
  | none => simpa [cons, WellSpelled] using hrest
  | token leaf => exact ⟨hcontent, hrest⟩
  | node child => exact ⟨hcontent, hrest⟩

lemma ofContents_cons (slots : List Slot) (contents : List Content) :
    ofContents (slot :: slots) (content :: contents)
      = cons slot content (ofContents slots contents) := by
  cases content <;> rfl

lemma wellSpelled_ofContents :
    ∀ {slots : List Slot} {contents : List Content},
      (∀ content ∈ contents, content.WellSpelled) → (ofContents slots contents).WellSpelled
  | [], _, _ => by simp [ofContents, WellSpelled]
  | slot :: slots, [], h => by
      rw [ofContents, WellSpelled]
      exact wellSpelled_ofContents h
  | slot :: slots, content :: contents, h => by
      rw [List.forall_mem_cons] at h
      rw [ofContents_cons]
      exact wellSpelled_cons h.1 (wellSpelled_ofContents h.2)

lemma wellSpelled_set {name : String} (hcontent : content.WellSpelled) :
    ∀ {fields : Fields}, fields.WellSpelled → (fields.set name content).WellSpelled
  | .nil, h => h
  | .empty slot rest, h => by
      rw [WellSpelled] at h
      rw [set]
      split
      · exact wellSpelled_cons hcontent h
      · rw [WellSpelled]
        exact wellSpelled_set hcontent h
  | .token slot leaf rest, h => by
      rw [set]
      split
      · exact wellSpelled_cons hcontent h.2
      · exact ⟨h.1, wellSpelled_set hcontent h.2⟩
  | .node slot child rest, h => by
      rw [set]
      split
      · exact wellSpelled_cons hcontent h.2
      · exact ⟨h.1, wellSpelled_set hcontent h.2⟩

end Fields

namespace Node

lemma wellSpelled_make {kind : NodeKind} {contents : List Content}
    (h : ∀ content ∈ contents, content.WellSpelled) : (make kind contents).WellSpelled := by
  rw [make, WellSpelled]
  exact Fields.wellSpelled_ofContents h

lemma wellSpelled_set {name : String} {content : Content} (hcontent : content.WellSpelled) :
    ∀ {node : Node}, node.WellSpelled → (node.set name content).WellSpelled
  | .concrete _ _ fields, h => by
      rw [set, WellSpelled]
      exact Fields.wellSpelled_set hcontent h
  | .list _ _, h => h
  | .tokens _ _, h => h
  | .upcast _ node, h => by
      rw [set, WellSpelled]
      exact wellSpelled_set hcontent h

end Node

/-! ## Layout -/

mutual

/-- **Layout keeps identifiers as they are**, and adds none. -/
lemma Node.wellSpelled_build {format : Format} {supplied : Option Trivia} :
    ∀ {node : Node}, node.WellSpelled →
      ∀ leaf ∈ (node.build format supplied).realLeaves, leaf.WellSpelled
  | .concrete _ _ fields, h => by
      rw [Node.build, Tree.realLeaves_lead, Tree.realLeaves_eq]
      exact Fields.wellSpelled_elements h
  | .list layout elements, h => by
      rw [Node.build, Tree.realLeaves_lead, Tree.realLeaves_eq]
      exact Node.wellSpelled_listElements h.1 h.2
  | .tokens layout elements, h => by
      rw [Node.build, Tree.realLeaves_lead, Tree.realLeaves_eq]
      rw [Node.WellSpelled] at h
      induction elements with
      | nil => simp
      | cons token rest ih =>
          rw [List.flatMap_cons, Element.realLeavesOf_append, Token.realLeavesOf_elements,
            List.forall_mem_append]
          rw [List.forall_mem_cons] at h
          exact ⟨Token.wellSpelled_of_written h.1, ih h.2⟩
  | .upcast _ node, h => by
      rw [Node.build]
      exact Node.wellSpelled_build h

/-- So does the layout of slots. -/
lemma Fields.wellSpelled_elements {format : Format} :
    ∀ {fields : Fields}, fields.WellSpelled →
      ∀ leaf ∈ Element.realLeavesOf (fields.elements format), leaf.WellSpelled
  | .nil, _ => by simp [Fields.elements]
  | .empty _ rest, h => by
      rw [Fields.elements]
      exact Fields.wellSpelled_elements h
  | .token _ token rest, h => by
      rw [Fields.elements, Element.realLeavesOf_append, Token.realLeavesOf_elements,
        List.forall_mem_append]
      exact ⟨Token.wellSpelled_of_written h.1, Fields.wellSpelled_elements h.2⟩
  | .node _ node rest, h => by
      rw [Fields.elements, Tree.realLeavesOf_cons_toElement, List.forall_mem_append]
      exact ⟨Node.wellSpelled_build h.1, Fields.wellSpelled_elements h.2⟩

/-- A list adds its commas. -/
lemma Node.wellSpelled_listElements {layout : ListLayout} (hlayout : layout.WellSpelled)
    {format : Format} :
    ∀ {elements : List Node}, Node.AllWellSpelled elements →
      ∀ leaf ∈ Element.realLeavesOf (Node.listElements layout format elements), leaf.WellSpelled
  | [], _ => by simp [Node.listElements]
  | node :: rest, h => by
      have hnode : ∀ leaf ∈ (node.build format (layout.lead format)).realLeaves,
          leaf.WellSpelled := Node.wellSpelled_build h.1
      rw [Node.listElements, Tree.realLeavesOf_cons_toElement, List.forall_mem_append]
      refine ⟨?_, Node.wellSpelled_listElements hlayout h.2⟩
      split
      · exact hnode
      · rw [ListLayout.realLeaves_separated, List.forall_mem_append]
        refine ⟨hnode, fun leaf hleaf => ?_⟩
        obtain ⟨comma, hcomma, hleaf⟩ := List.mem_flatMap.mp hleaf
        exact Token.wellSpelled_of_written (hlayout comma (Option.mem_toList.mp hcomma)) leaf hleaf

end

/-- Trivia is no identifier either. -/
lemma Node.wellSpelled_leaves {node : Node} (h : node.WellSpelled) (format : Format)
    (supplied : Option Trivia) :
    ∀ leaf ∈ (node.build format supplied).leaves, leaf.WellSpelled := by
  intro leaf hleaf
  cases htrivia : leaf.kind.isTrivia with
  | false => exact wellSpelled_build h leaf (List.mem_filter.mpr ⟨hleaf, by simp [htrivia]⟩)
  | true =>
      constructor
      · intro hkind
        simp [hkind, Kind.isTrivia] at htrivia
      · intro hkind
        simp [hkind, Kind.isTrivia] at htrivia

namespace Builtin

/-- The lists of the Swift grammar fill in nothing but commas. -/
lemma eq_comma_of_mem {kind : NodeKind} {mark : TokenKind}
    (h : mark ∈ (declarations.listLayout kind).comma) : mark = comma := by
  obtain ⟨pair, hfound, rfl⟩ := Option.map_eq_some_iff.mp h
  obtain ⟨element, _, hfound⟩ := Option.bind_eq_some_iff.mp hfound
  simp only [Catalog.commaSlot?, Option.bind_eq_bind, Option.bind_eq_some_iff, Option.pure_def,
    Option.some.injEq] at hfound
  obtain ⟨name, _, elementKind, hkind, slot, hslot, token, htoken, rfl, rfl⟩ := hfound
  have hmem := (Catalog.mem_and_name_of_kind? hkind).1
  have hname : slot.name = trailingCommaName := by simpa using List.find?_some hslot
  rw [tokenOf?_trailingComma elementKind hmem slot (List.mem_of_find?_eq_some hslot) hname]
    at htoken
  exact (Option.some.inj htoken).symm

@[simp] lemma wellSpelled_listLayout (kind : NodeKind) :
    (declarations.listLayout kind).WellSpelled := by
  intro mark hmark
  rw [eq_comma_of_mem hmark]
  exact Token.wellSpelled_ofKind rfl

end Builtin

end SyntaxForge
