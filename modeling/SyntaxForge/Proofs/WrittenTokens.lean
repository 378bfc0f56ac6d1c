import SyntaxForge.Proofs.Lookup
import SyntaxForge.Proofs.SuppliedTrivia
import SyntaxForge.Proofs.Values

/-!
# Layout keeps the tokens that were written

Building a node inserts whitespace, takes the leading trivia of subtrees off, respaces it and puts
it in front of their parents.  None of this touches a token that is no trivia.

* `Tree.realLeaves` lists the tokens of a tree that are no trivia, `Node.written` those of a node
  as they were written down, slot by slot.
* **`realLeaves_build`**: for values of the Swift grammar the two lists are the same, under every
  format and with any trivia supplied.

Lists add one token of their own: behind every element but the last stands a comma, which is made
up where the element leaves the slot for it empty.
-/

namespace SyntaxForge

/-! ## Tokens of trees -/

namespace Element

/-- The tokens among some elements that are no trivia, from left to right. -/
def realLeavesOf (elements : List Element) : List Leaf :=
  (leavesOf elements).filter fun leaf => !leaf.kind.isTrivia

@[simp] lemma realLeavesOf_nil : realLeavesOf [] = [] := rfl

@[simp] lemma realLeavesOf_cons_trivia (kind : TriviaKind) (text : String)
    (rest : List Element) :
    realLeavesOf (.token (.trivia kind) text :: rest) = realLeavesOf rest := by
  simp [realLeavesOf, leavesOf, leaves, Kind.isTrivia]

@[simp] lemma realLeavesOf_cons_node (kind : Kind) (children rest : List Element) :
    realLeavesOf (.node kind children :: rest) = realLeavesOf children ++ realLeavesOf rest := by
  simp [realLeavesOf, leavesOf, leaves]

lemma leavesOf_append (front back : List Element) :
    leavesOf (front ++ back) = leavesOf front ++ leavesOf back := by
  induction front with
  | nil => rfl
  | cons element front ih => rw [List.cons_append, leavesOf, leavesOf, ih, List.append_assoc]

@[simp] lemma realLeavesOf_append (front back : List Element) :
    realLeavesOf (front ++ back) = realLeavesOf front ++ realLeavesOf back := by
  simp [realLeavesOf, leavesOf_append]

@[simp] lemma realLeavesOf_toElements (trivia : Trivia) : realLeavesOf trivia.toElements = [] := by
  induction trivia with
  | nil => rfl
  | cons piece rest ih => rw [Trivia.toElements_cons, realLeavesOf_cons_trivia, ih]

/-- **Taking leading trivia off loses no other token.**  The walk may pass over tokens without text
on its way; they stay where they are. -/
theorem realLeavesOf_splitAll (elements : List Element) :
    realLeavesOf (splitAll elements).2 = realLeavesOf elements := by
  induction elements using listInduction with
  | nil => simp
  | trivia kind text rest ih => simpa using ih
  | token kind text rest h _ => rw [splitAll_cons_token h]
  | node kind children rest ihchildren ihrest =>
      rw [splitAll_cons_node]
      split
      · simp [ihchildren]
      · simp [ihchildren, ihrest]

end Element

namespace Tree

/-- The tokens of a tree that are no trivia, from left to right. -/
def realLeaves (tree : Tree) : List Leaf :=
  tree.leaves.filter fun leaf => !leaf.kind.isTrivia

lemma realLeaves_eq (tree : Tree) : tree.realLeaves = Element.realLeavesOf tree.children := rfl

lemma realLeavesOf_cons_toElement (tree : Tree) (rest : List Element) :
    Element.realLeavesOf (tree.toElement :: rest)
      = tree.realLeaves ++ Element.realLeavesOf rest := by
  rw [toElement, Element.realLeavesOf_cons_node, realLeaves_eq]

@[simp] lemma realLeaves_withLeading (tree : Tree) (trivia : Trivia) :
    (tree.withLeading trivia).realLeaves = tree.realLeaves := by
  simp [realLeaves_eq, withLeading, split, Element.realLeavesOf_splitAll]

/-- Trivia in front of a tree makes no difference to its other tokens. -/
lemma realLeaves_lead (tree : Tree) (own : Trivia) (supplied : Option Trivia) :
    (tree.lead own supplied).realLeaves = tree.realLeaves := by
  cases supplied with
  | some supplied => rw [lead_some, realLeaves_withLeading]
  | none =>
      cases own with
      | nil => rw [lead_nil_none]
      | cons piece own => rw [lead_cons_none, realLeaves_withLeading]

lemma realLeaves_push (tree : Tree) (extra : List Element) :
    (tree.push extra).realLeaves = tree.realLeaves ++ Element.realLeavesOf extra := by
  simp [realLeaves_eq, push]

end Tree

/-! ## Tokens as they are written down -/

/-- The token, unless it is trivia. -/
def Token.written (token : Token) : List Leaf :=
  if token.kind.isTrivia then [] else [{ kind := token.kind, text := token.text }]

/-- A token contributes itself, whatever trivia stands around it. -/
@[simp] lemma Token.realLeavesOf_elements (token : Token) (supplied : Option Trivia) :
    Element.realLeavesOf (token.elements supplied) = token.written := by
  rw [elements, Element.realLeavesOf_append, Element.realLeavesOf_append,
    Element.realLeavesOf_toElements, Element.realLeavesOf_toElements, List.nil_append,
    List.append_nil, written]
  cases h : token.kind.isTrivia <;>
    simp [Element.realLeavesOf, Element.leavesOf, Element.leaves, h]

/-- The slots of a node by name, each with whether it has any content. -/
def Fields.usage : Fields → List (String × Bool)
  | .nil => []
  | .empty slot rest => (slot.name, false) :: rest.usage
  | .token slot _ rest | .node slot _ rest => (slot.name, true) :: rest.usage

/-- Whether a node has a slot of this name and leaves it empty. -/
def Node.leavesOpen (name : String) : Node → Bool
  | .concrete _ _ fields => (name, false) ∈ fields.usage
  | .list _ _ | .tokens _ _ | .upcast _ _ => false

/-- The comma between two elements of a list. -/
def commaLeaf : Leaf where
  kind := .token Builtin.comma
  text := ","

mutual

/-- The tokens of a node that are no trivia, in the order of its slots and elements. -/
def Node.written : Node → List Leaf
  | .concrete _ _ fields => fields.written
  | .list _ elements => Node.writtenAll elements
  | .tokens _ elements => elements.flatMap Token.written
  | .upcast _ node => node.written

/-- The tokens in the slots of a node. -/
def Fields.written : Fields → List Leaf
  | .nil => []
  | .empty _ rest => rest.written
  | .token _ token rest => token.written ++ rest.written
  | .node _ node rest => node.written ++ rest.written

/-- The tokens of the elements of a list, with a comma behind every element but the last that
leaves its own out. -/
def Node.writtenAll : List Node → List Leaf
  | [] => []
  | node :: rest =>
    node.written
      ++ (if !rest.isEmpty && node.leavesOpen trailingCommaName then [commaLeaf] else [])
      ++ Node.writtenAll rest

end

/-! ## The comma slot

A list takes the comma of its elements from the slot of that name in the element kind.  Slots have
distinct names, so a value of that kind either holds a comma or leaves the slot open.
-/

namespace Fields

/-- A slot holds something if it is used. -/
lemma holds_eq_true_iff (name : String) :
    ∀ fields : Fields, fields.holds name = true ↔ (name, true) ∈ fields.usage
  | .nil => by simp [holds, usage]
  | .empty slot rest => by simp [holds, usage, holds_eq_true_iff name rest]
  | .token slot leaf rest => by
      simp [holds, usage, holds_eq_true_iff name rest, @eq_comm _ slot.name]
  | .node slot child rest => by
      simp [holds, usage, holds_eq_true_iff name rest, @eq_comm _ slot.name]

/-- Fields that fill the slots of a kind have exactly these slots. -/
lemma map_fst_usage {catalog : Catalog} :
    ∀ {fields : Fields} {slots : List Slot}, catalog.Fills slots fields →
      fields.usage.map Prod.fst = slots.map Slot.name
  | .nil, _, .nil => rfl
  | .empty slot rest, _, .empty _ hrest => by simp [usage, map_fst_usage hrest]
  | .token slot leaf rest, _, .token _ hrest => by simp [usage, map_fst_usage hrest]
  | .node slot child rest, _, .node _ _ hrest => by simp [usage, map_fst_usage hrest]

/-- A slot that the kind has is either filled or left open. -/
lemma open_iff_not_holds {catalog : Catalog} {name : String} {fields : Fields} {slots : List Slot}
    (hfills : catalog.Fills slots fields) (hnodup : (slots.map Slot.name).Nodup)
    (hname : name ∈ slots.map Slot.name) :
    (name, false) ∈ fields.usage ↔ fields.holds name = false := by
  rw [← map_fst_usage hfills] at hnodup hname
  obtain ⟨⟨found, isUsed⟩, hmem, rfl⟩ := List.mem_map.mp hname
  have hunique : ∀ flag, (found, flag) ∈ fields.usage → flag = isUsed := by
    intro flag hflag
    have := List.inj_on_of_nodup_map hnodup hflag hmem rfl
    simpa using this
  rw [← Bool.not_eq_true, holds_eq_true_iff]
  constructor
  · intro hopen hholds
    exact Bool.noConfusion ((hunique _ hopen).trans (hunique _ hholds).symm)
  · intro hholds
    cases isUsed with
    | true => exact absurd hmem hholds
    | false => exact hmem

end Fields

namespace Builtin

lemma distinctNames : declarations.DistinctNames := by
  unfold Catalog.DistinctNames
  decide +kernel

/-- Within a kind, slots have distinct names. -/
lemma nodup_slot_names : ∀ kind ∈ declarations.kinds, (kind.slots.map Slot.name).Nodup := by
  decide

/-- The slot for the comma behind an element is always one for a comma. -/
lemma tokenOf?_trailingComma : ∀ kind ∈ declarations.kinds, ∀ slot ∈ kind.slots,
    slot.name = trailingCommaName → declarations.tokenOf? slot.type = some comma := by
  decide

/-- The comma of a kind is that of its slot for one. -/
lemma map_snd_commaSlot? {kind : NodeKind} (hkind : kind ∈ declarations.kinds) :
    (declarations.commaSlot? (.node kind.name)).map Prod.snd
      = if trailingCommaName ∈ kind.slots.map Slot.name then some comma else none := by
  have hlookup : declarations.commaSlot? (.node kind.name)
      = (kind.slots.find? (·.name = trailingCommaName)).bind fun slot =>
          (declarations.tokenOf? slot.type).bind fun token => some (slot, token) := by
    simp [Catalog.commaSlot?, TypeRef.node?, distinctNames.kind?_eq_some hkind]
  rw [hlookup]
  cases hfind : kind.slots.find? (·.name = trailingCommaName) with
  | none =>
      have hnone : trailingCommaName ∉ kind.slots.map Slot.name := by
        intro hname
        obtain ⟨slot, hslot, hname⟩ := List.mem_map.mp hname
        exact absurd hname (by simpa using List.find?_eq_none.mp hfind slot hslot)
      rw [if_neg hnone]
      rfl
  | some slot =>
      have hslot : slot ∈ kind.slots := List.mem_of_find?_eq_some hfind
      have hname : slot.name = trailingCommaName := by simpa using List.find?_some hfind
      rw [if_pos (hname ▸ List.mem_map_of_mem hslot), Option.bind_some,
        tokenOf?_trailingComma kind hkind slot hslot hname]
      rfl

/-- A kind without slots has no comma. -/
lemma map_snd_commaSlot?_eq_none {kind : NodeKind} (hkind : kind ∈ declarations.kinds)
    (h : kind.isConcrete = false) :
    (declarations.commaSlot? (.node kind.name)).map Prod.snd = none := by
  rw [map_snd_commaSlot? hkind, NodeKind.slots_eq_nil_of_isConcrete_eq_false h]
  rfl

/-- **A list puts a comma behind an element exactly if the element leaves its slot open.** -/
theorem comma_eq_of_isValue {element : String} {node : Node}
    (h : declarations.IsValue element node) :
    (if node.holds trailingCommaName then none
      else (declarations.commaSlot? (.node element)).map Prod.snd)
      = if node.leavesOpen trailingCommaName then some comma else none := by
  cases h with
  | @concrete kind own fields hkind hfills =>
      have hmem := List.mem_of_mem_filter hkind
      rw [map_snd_commaSlot? hmem, Node.holds, Node.leavesOpen]
      by_cases hname : trailingCommaName ∈ kind.slots.map Slot.name
      · have hopen := Fields.open_iff_not_holds hfills (nodup_slot_names kind hmem) hname
        cases hholds : fields.holds trailingCommaName <;> simp [hname, hopen, hholds]
      · have hopen : (trailingCommaName, false) ∉ fields.usage := by
          intro hused
          rw [← Fields.map_fst_usage hfills] at hname
          exact hname (List.mem_map_of_mem hused)
        simp [hname, hopen]
  | list hkind _ _ =>
      have hconcrete := NodeKind.isConcrete_eq_false_of_isCollection (List.of_mem_filter hkind)
      simp [map_snd_commaSlot?_eq_none (List.mem_of_mem_filter hkind) hconcrete, Node.leavesOpen]
  | tokens hkind _ _ =>
      have hconcrete := NodeKind.isConcrete_eq_false_of_isCollection (List.of_mem_filter hkind)
      simp [map_snd_commaSlot?_eq_none (List.mem_of_mem_filter hkind) hconcrete, Node.leavesOpen]
  | base hbase hisBase _ _ _ _ _ =>
      have hconcrete := NodeKind.isConcrete_eq_false_of_isBase hisBase
      simp [map_snd_commaSlot?_eq_none hbase hconcrete, Node.leavesOpen]
  | root _ =>
      have hroot : root ∈ declarations.kinds := by decide
      have hcomma : (declarations.commaSlot? (.node rootName)).map Prod.snd = none :=
        map_snd_commaSlot?_eq_none hroot rfl
      simp [hcomma, Node.leavesOpen]

end Builtin

/-! ## Building -/

/-- The comma of a list contributes itself. -/
lemma ListLayout.realLeaves_separated (layout : ListLayout) (tree : Tree) :
    (layout.separated tree).realLeaves = tree.realLeaves
      ++ layout.comma.toList.flatMap fun comma => (Token.ofKind comma).written := by
  rw [separated]
  cases layout.comma with
  | none => simp
  | some comma => simp [Tree.realLeaves_push]

namespace Builtin

/-- An element of a list contributes its tokens, and the comma behind it if it leaves that out and
is not the last. -/
lemma realLeaves_element {kind : NodeKind} {element : String} {node : Node}
    (helement : kind.element? = some (.node element)) (hnode : declarations.IsValue element node)
    (isLast : Bool) (tree : Tree) :
    (if isLast || node.holds trailingCommaName then tree
        else (declarations.listLayout kind).separated tree).realLeaves
      = tree.realLeaves
        ++ if !isLast && node.leavesOpen trailingCommaName then [commaLeaf] else [] := by
  have hcomma := comma_eq_of_isValue hnode
  have hlayout : (declarations.listLayout kind).comma
      = (declarations.commaSlot? (.node element)).map Prod.snd := by
    simp [Catalog.listLayout, helement]
  cases isLast with
  | true => simp
  | false =>
      cases hholds : node.holds trailingCommaName with
      | true =>
          cases hopen : node.leavesOpen trailingCommaName with
          | true => simp [hholds, hopen] at hcomma
          | false => simp
      | false =>
          rw [hholds, if_neg (by simp), ← hlayout] at hcomma
          rw [if_neg (by simp), ListLayout.realLeaves_separated, hcomma]
          cases node.leavesOpen trailingCommaName <;> rfl

mutual

/-- The body of a value holds the tokens that were written. -/
lemma realLeaves_body (format : Format) :
    ∀ {node : Node} {type : String}, declarations.IsValue type node →
      (node.body format).realLeaves = node.written
  | .concrete _ _ fields, _, .concrete _ hfills => by
      rw [Node.body, Tree.realLeaves_eq, Node.written]
      exact realLeavesOf_fields format hfills
  | .list _ elements, _, .list _ helement hall => by
      rw [Node.body, Tree.realLeaves_eq, Node.written]
      exact realLeavesOf_listElements format helement hall
  | .tokens _ elements, _, .tokens _ _ _ => by
      rw [Node.body, Tree.realLeaves_eq, Node.written]
      induction elements with
      | nil => rfl
      | cons token rest ih =>
          rw [List.flatMap_cons, List.flatMap_cons, Element.realLeavesOf_append,
            Token.realLeavesOf_elements, ih]
  | .upcast _ node, _, .base _ _ _ _ _ _ hnode => by
      rw [Node.body, Node.written]
      exact realLeaves_body format hnode
  | .upcast _ node, _, .root hnode => by
      rw [Node.body, Node.written]
      exact realLeaves_body format hnode

/-- So do the slots of a concrete node. -/
lemma realLeavesOf_fields (format : Format) :
    ∀ {fields : Fields} {slots : List Slot}, declarations.Fills slots fields →
      Element.realLeavesOf (fields.elements format) = fields.written
  | .nil, _, .nil => rfl
  | .empty _ rest, _, .empty _ hrest => by
      rw [Fields.elements, Fields.written, realLeavesOf_fields format hrest]
  | .token slot token rest, _, .token _ hrest => by
      rw [Fields.elements, Fields.written, Element.realLeavesOf_append,
        Token.realLeavesOf_elements, realLeavesOf_fields format hrest]
  | .node slot node rest, _, .node _ hnode hrest => by
      rw [Fields.elements, Fields.written, Tree.realLeavesOf_cons_toElement, Node.build_eq_lead,
        Tree.realLeaves_lead, realLeaves_body _ hnode, realLeavesOf_fields format hrest]

/-- And the elements of a list, with the commas between them. -/
lemma realLeavesOf_listElements (format : Format) {kind : NodeKind} {element : String}
    (helement : kind.element? = some (.node element)) :
    ∀ {elements : List Node}, (∀ node ∈ elements, declarations.IsValue element node) →
      Element.realLeavesOf (Node.listElements (declarations.listLayout kind) format elements)
        = Node.writtenAll elements
  | [], _ => rfl
  | node :: rest, hall => by
      have hnode := hall node List.mem_cons_self
      rw [Node.listElements, Node.writtenAll, Tree.realLeavesOf_cons_toElement,
        realLeaves_element helement hnode, Node.build_eq_lead, Tree.realLeaves_lead,
        realLeaves_body format hnode,
        realLeavesOf_listElements format helement
          fun other h => hall other (List.mem_cons_of_mem _ h)]

end

/-- **Layout keeps the tokens that were written.**  A value of the Swift grammar is built with the
same tokens under any two formats and with any trivia supplied, trivia aside: the tokens that were
written in it, in the order of its slots and elements, with a comma behind every element of a list
but the last that leaves the slot for it open. -/
theorem realLeaves_build {type : String} {node : Node} (hnode : declarations.IsValue type node)
    (format other : Format) (supplied otherSupplied : Option Trivia) :
    (node.build format supplied).realLeaves = (node.build other otherSupplied).realLeaves
      ∧ (node.build format supplied).realLeaves = node.written := by
  have hwritten : ∀ format supplied, (node.build format supplied).realLeaves = node.written := by
    intro format supplied
    rw [Node.build_eq_lead, Tree.realLeaves_lead, realLeaves_body format hnode]
  rw [hwritten, hwritten]
  exact ⟨rfl, rfl⟩

/-- A name of a `case` declaration, without a comma of its own. -/
def caseElement (own : Trivia) (text : String) : Node :=
  .concrete enumCaseElement.name own (.ofContents enumCaseElement.slots [.token (.name text)])

/-- Two of them, the first with a comment in front. -/
def twoCases : Node :=
  .list (declarations.listLayout enumCaseElementList)
    [caseElement [.lineComment "// warm", .newlines 1] "red", caseElement [] "green"]

lemma isValue_caseElement (own : Trivia) (text : String) :
    declarations.IsValue "EnumCaseElement" (caseElement own text) := by
  have hkind : enumCaseElement ∈ declarations.concreteKinds := by decide
  exact .concrete hkind (.token rfl (.empty rfl (.empty rfl .nil)))

theorem realLeaves_build_twoCases :
    declarations.IsValue "EnumCaseElementList" twoCases
      ∧ (twoCases.build {} none).realLeaves
        = (twoCases.build { width := 2, depth := 1 } (some [.newlines 1])).realLeaves
      ∧ (twoCases.build {} none).realLeaves
        = [{ kind := .token identifier, text := "red" }, { kind := .token comma, text := "," },
           { kind := .token identifier, text := "green" }] := by
  have hvalue : declarations.IsValue "EnumCaseElementList" twoCases := by
    have hkind : enumCaseElementList ∈ declarations.collectionKinds := by decide +kernel
    refine .list hkind rfl ?_
    intro node hnode
    simp only [List.mem_cons, List.not_mem_nil, or_false] at hnode
    rcases hnode with rfl | rfl <;> exact isValue_caseElement _ _
  have h := realLeaves_build hvalue {} { width := 2, depth := 1 } none (some [.newlines 1])
  refine ⟨hvalue, h.1, ?_⟩
  rw [h.2]
  rfl

end Builtin

end SyntaxForge
