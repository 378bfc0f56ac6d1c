import SyntaxForge.Proofs.ListCommas

/-!
# Lists made of lists

A collection can be put together from several of its kind.  Whether an element gets a comma depends
on its place in the list that it ends up in, so the texts of the lists are not simply set one behind
the other: the last element of a list has no comma behind it there, and gets one when another list
follows.

* `Element.textOf_listElements_append` says what stands where two lists meet.
* `joined` sets texts one behind the other, with something in between.
* **`source_combined`**: the text of a collection that is put together is that of its parts, joined
  by a comma where the elements take one and the part in front does not end in one.
-/

namespace SyntaxForge

/-! ## Texts of elements -/

namespace Element

/-- The text of some elements. -/
def textOf (elements : List Element) : String :=
  String.join ((leavesOf elements).map Leaf.text)

@[simp] lemma textOf_nil : textOf [] = "" := rfl

@[simp] lemma textOf_append (front back : List Element) :
    textOf (front ++ back) = textOf front ++ textOf back := by
  simp [textOf, leavesOf_append]

lemma textOf_cons_toElement (tree : Tree) (rest : List Element) :
    textOf (tree.toElement :: rest) = tree.text ++ textOf rest := by
  simp [textOf, leavesOf, leaves, Tree.toElement, Tree.text, Tree.leaves]

end Element

lemma Tree.text_push (tree : Tree) (extra : List Element) :
    (tree.push extra).text = tree.text ++ Element.textOf extra :=
  Element.textOf_append tree.children extra

/-! ## Where two lists meet -/

/-- What a list puts behind an element that another one follows. -/
def ListLayout.gap (layout : ListLayout) (node : Node) : String :=
  if node.holds trailingCommaName then ""
  else Element.textOf (layout.comma.toList.flatMap fun comma => (Token.ofKind comma).elements none)

/-- What it puts behind the last element of a collection that another one follows. -/
def ListLayout.gapBehind (layout : ListLayout) (collection : Node) : String :=
  (collection.listed.getLast?.map layout.gap).getD ""

lemma ListLayout.gapBehind_list (layout : ListLayout) (front : List Node) (last : Node) :
    layout.gapBehind (.list layout (front ++ [last])) = layout.gap last := by
  simp [gapBehind, Node.listed]

lemma ListLayout.text_separated (layout : ListLayout) (node : Node) (tree : Tree) :
    (if node.holds trailingCommaName then tree else layout.separated tree).text
      = tree.text ++ layout.gap node := by
  rw [gap, separated]
  split
  · simp
  · cases layout.comma with
    | none => simp
    | some comma => simp [Tree.text_push]

/-- **Only the element in front of the seam notices that two lists are put together.** -/
theorem Element.textOf_listElements_append (layout : ListLayout) (format : Format) (last : Node)
    {back : List Node} (hback : back ≠ []) : ∀ front : List Node,
      textOf (Node.listElements layout format (front ++ last :: back))
        = textOf (Node.listElements layout format (front ++ [last])) ++ layout.gap last
          ++ textOf (Node.listElements layout format back)
  | [] => by
      have hopen : back.isEmpty = false := by simpa using hback
      simp only [List.nil_append, Node.listElements, textOf_cons_toElement, hopen, Bool.false_or,
        ListLayout.text_separated, List.isEmpty_nil, Bool.true_or, if_true, textOf_nil,
        String.append_empty]
  | first :: front => by
      have hmore : (front ++ last :: back).isEmpty = false := by simp
      have hmore' : (front ++ [last]).isEmpty = false := by simp
      simp only [List.cons_append, Node.listElements, textOf_cons_toElement, hmore, hmore',
        textOf_listElements_append layout format last hback front, String.append_assoc]

/-! ## Lists one behind the other -/

/-- Texts one behind the other, with a gap behind each but the last. -/
def joined {α : Type} (text gap : α → String) : List α → String
  | [] => ""
  | [a] => text a
  | a :: b :: rest => text a ++ gap a ++ joined text gap (b :: rest)

lemma joined_congr {α : Type} (text : α → String) {gap gap' : α → String} :
    ∀ {parts : List α}, (∀ a ∈ parts, gap a = gap' a) →
      joined text gap parts = joined text gap' parts
  | [], _ => rfl
  | [_], _ => rfl
  | first :: second :: rest, h => by
      rw [joined, joined, h first List.mem_cons_self,
        joined_congr text fun a ha => h a (List.mem_cons_of_mem _ ha)]

namespace Node

lemma source_list (layout : ListLayout) (format : Format) (elements : List Node) :
    (list layout elements).source format
      = Element.textOf (listElements layout format elements) := by
  rw [source, build, Tree.lead_nil_none]
  rfl

lemma source_tokens (layout : ListLayout) (format : Format) (elements : List Token) :
    (tokens layout elements).source format
      = Element.textOf (elements.flatMap fun token => token.elements (layout.lead format)) := by
  rw [source, build, Tree.lead_nil_none]
  rfl

/-- Whether a collection has any elements. -/
def hasElements (node : Node) : Bool :=
  !node.listed.isEmpty || !node.listedTokens.isEmpty

/-- Whether the last element of a collection has a comma of its own. -/
def endsWithComma (node : Node) : Bool :=
  node.listed.getLast?.any (·.holds trailingCommaName)

lemma hasElements_eq_false {node : Node} :
    node.hasElements = false ↔ node.listed = [] ∧ node.listedTokens = [] := by
  simp [hasElements]

lemma flatMap_filter_hasElements {α : Type} {part : Node → List α}
    (hpart : ∀ node, node.hasElements = false → part node = []) (lists : List Node) :
    (lists.filter hasElements).flatMap part = lists.flatMap part := by
  induction lists with
  | nil => rfl
  | cons node rest ih =>
      cases hnode : node.hasElements with
      | true => rw [List.filter_cons_of_pos hnode, List.flatMap_cons, List.flatMap_cons, ih]
      | false =>
          rw [List.filter_cons_of_neg (by simp [hnode]), List.flatMap_cons, hpart node hnode, ih,
            List.nil_append]

/-- Collections without elements contribute nothing. -/
lemma combining_filter (layout : ListLayout) (lists : List Node) :
    combining layout (lists.filter hasElements) = combining layout lists := by
  rw [combining, flatMap_filter_hasElements fun _ h => (hasElements_eq_false.mp h).1, combining]

lemma combiningTokens_filter (layout : ListLayout) (lists : List Node) :
    combiningTokens layout (lists.filter hasElements) = combiningTokens layout lists := by
  rw [combiningTokens, flatMap_filter_hasElements fun _ h => (hasElements_eq_false.mp h).2,
    combiningTokens]

/-- **Lists of nodes one behind the other**, none of them empty. -/
theorem source_combining (layout : ListLayout) (format : Format) :
    ∀ {lists : List Node},
      (∀ node ∈ lists, ∃ elements, node = list layout elements ∧ elements ≠ []) →
      (combining layout lists).source format
        = joined (source format) layout.gapBehind lists
  | [], _ => by
      rw [combining, source_list]
      rfl
  | [first], h => by
      obtain ⟨elements, rfl, _⟩ := h first List.mem_cons_self
      simp [combining, listed, joined]
  | first :: second :: rest, h => by
      obtain ⟨elements, rfl, helements⟩ := h first List.mem_cons_self
      have hrest := source_combining layout format fun node hnode =>
        h node (List.mem_cons_of_mem _ hnode)
      rw [combining, source_list] at hrest
      -- the list in front ends in an element, and the lists behind it start with one
      obtain ⟨front, last, rfl⟩ := (List.eq_nil_or_concat' elements).resolve_left helements
      have hback : (second :: rest).flatMap listed ≠ [] := by
        obtain ⟨others, rfl, hothers⟩ := h second (by simp)
        simp [listed, hothers]
      rw [combining, source_list, List.flatMap_cons, listed, List.append_assoc,
        List.singleton_append, Element.textOf_listElements_append layout format last hback, hrest,
        joined, source_list, ListLayout.gapBehind_list]

/-- Lists of tokens simply follow each other. -/
lemma source_combiningTokens (layout : ListLayout) (format : Format) :
    ∀ {lists : List Node}, (∀ node ∈ lists, ∃ elements, node = tokens layout elements) →
      (combiningTokens layout lists).source format
        = joined (source format) (fun _ => "") lists
  | [], _ => by
      rw [combiningTokens, source_tokens]
      rfl
  | [first], h => by
      obtain ⟨elements, rfl⟩ := h first List.mem_cons_self
      simp [combiningTokens, listedTokens, joined]
  | first :: second :: rest, h => by
      obtain ⟨elements, rfl⟩ := h first List.mem_cons_self
      have hrest := source_combiningTokens layout format fun node hnode =>
        h node (List.mem_cons_of_mem _ hnode)
      rw [combiningTokens, source_tokens] at hrest
      rw [combiningTokens, source_tokens, List.flatMap_cons, listedTokens, List.flatMap_append,
        Element.textOf_append, hrest, joined, source_tokens, String.append_empty]

end Node

/-! ## Collections of the Swift grammar -/

namespace Catalog

/-- One collection of a kind with the elements of several, in order. -/
def combined (catalog : Catalog) (kind : NodeKind) (lists : List Node) : Node :=
  if kind.element?.any TypeRef.isToken then .combiningTokens (catalog.listLayout kind) lists
  else .combining (catalog.listLayout kind) lists

/-- A comma and a space, if the elements of a collection have a slot for a comma and its last one
leaves it open. -/
def seam (catalog : Catalog) (kind : NodeKind) (list : Node) : String :=
  if catalog.takesCommas kind && !list.endsWithComma then ", " else ""

end Catalog

namespace Builtin

/-- What stands behind a collection when another one follows. -/
lemma gapBehind_eq_seam {kind : NodeKind} (hkind : kind ∈ declarations.collectionKinds)
    {elements : List Node} (helements : elements ≠ []) :
    (declarations.listLayout kind).gapBehind (.list (declarations.listLayout kind) elements)
      = declarations.seam kind (.list (declarations.listLayout kind) elements) := by
  have hcomma : Element.textOf ((Token.ofKind comma).elements none) = ", " := by
    rw [elements_comma]
    decide
  obtain ⟨front, last, rfl⟩ := (List.eq_nil_or_concat' elements).resolve_left helements
  rw [ListLayout.gapBehind_list, ListLayout.gap, comma_eq_of_takesCommas kind hkind, Catalog.seam,
    Node.endsWithComma, Node.listed, List.getLast?_concat, Option.any_some]
  cases declarations.takesCommas kind <;> cases last.holds trailingCommaName <;> simp [hcomma]

/-- Tokens take no commas. -/
lemma takesCommas_eq_false {kind : NodeKind} (htoken : kind.element?.any TypeRef.isToken = true) :
    declarations.takesCommas kind = false := by
  rw [Bool.eq_false_iff]
  intro hcommas
  obtain ⟨element, _, helement, _⟩ := exists_element_of_takesCommas hcommas
  simp [helement, TypeRef.isToken] at htoken

section Combined

variable {kind : NodeKind} (hkind : kind ∈ declarations.collectionKinds)
  {lists : List Node} (hlists : ∀ list ∈ lists, declarations.IsValue kind.name list)
  (format : Format)

include hkind hlists

lemma source_combining_collections (hnode : kind.element?.any TypeRef.isToken = false) :
    (Node.combining (declarations.listLayout kind) lists).source format
      = joined (Node.source format) (declarations.seam kind) (lists.filter Node.hasElements) := by
  have hfull : ∀ node ∈ lists.filter Node.hasElements, ∃ elements,
      node = .list (declarations.listLayout kind) elements ∧ elements ≠ [] := by
    intro node hmem
    obtain ⟨hmem, hfull⟩ := List.mem_filter.mp hmem
    rcases elements_of_isValue hkind (hlists node hmem) with
      ⟨_, elements, _, rfl, _⟩ | ⟨element, _, helement, htoken, _⟩
    · exact ⟨elements, rfl, by simpa [Node.hasElements, Node.listed, Node.listedTokens] using hfull⟩
    · simp [helement, htoken] at hnode
  have hseam : ∀ node ∈ lists.filter Node.hasElements,
      (declarations.listLayout kind).gapBehind node = declarations.seam kind node := by
    intro node hmem
    obtain ⟨elements, rfl, helements⟩ := hfull node hmem
    exact gapBehind_eq_seam hkind helements
  rw [← Node.combining_filter, Node.source_combining _ format hfull, joined_congr _ hseam]

lemma source_combiningTokens_collections (htoken : kind.element?.any TypeRef.isToken = true) :
    (Node.combiningTokens (declarations.listLayout kind) lists).source format
      = joined (Node.source format) (declarations.seam kind) (lists.filter Node.hasElements) := by
  have hall : ∀ node ∈ lists.filter Node.hasElements, ∃ elements,
      node = .tokens (declarations.listLayout kind) elements := by
    intro node hmem
    rcases elements_of_isValue hkind (hlists node (List.mem_filter.mp hmem).1) with
      ⟨_, _, helement, _⟩ | ⟨_, elements, _, _, rfl⟩
    · simp [helement, TypeRef.isToken] at htoken
    · exact ⟨elements, rfl⟩
  have hseam : ∀ node ∈ lists.filter Node.hasElements, "" = declarations.seam kind node := by
    intro node _
    simp [Catalog.seam, takesCommas_eq_false htoken]
  rw [← Node.combiningTokens_filter, Node.source_combiningTokens _ format hall,
    joined_congr _ hseam]

end Combined

/-- **The text of a collection that is put together.**  For collections of any kind of the Swift
grammar it is the texts of those that have elements, one behind the other in order, with a comma and
a space between two of them exactly if the elements have a slot for a comma and the last one of the
first leaves it open. -/
theorem source_combined {kind : NodeKind} (hkind : kind ∈ declarations.collectionKinds)
    {lists : List Node} (hlists : ∀ list ∈ lists, declarations.IsValue kind.name list)
    (format : Format) :
    (declarations.combined kind lists).source format
      = joined (Node.source format) (declarations.seam kind) (lists.filter Node.hasElements) := by
  rw [Catalog.combined]
  cases htoken : kind.element?.any TypeRef.isToken with
  | true => exact source_combiningTokens_collections hkind hlists format htoken
  | false => exact source_combining_collections hkind hlists format htoken

/-- Lists of names of a `case` declaration: one that is left open, an empty one, one that ends in a
comma of its own, and one behind it. -/
def caseLists : List Node :=
  [[caseElement [] "red", caseElement [] "green"], [], [closedCase "blue"],
   [caseElement [.lineComment "// new", .newlines 1] "black"]].map
    (.list (declarations.listLayout enumCaseElementList))

theorem source_combined_caseLists :
    (∀ list ∈ caseLists, declarations.IsValue enumCaseElementList.name list)
      ∧ (declarations.combined enumCaseElementList caseLists).source {}
        = "red, green" ++ ", " ++ ("blue, " ++ "" ++ "// new\nblack") := by
  have hkind : enumCaseElementList ∈ declarations.collectionKinds := by decide +kernel
  have hlists : ∀ list ∈ caseLists, declarations.IsValue enumCaseElementList.name list := by
    rw [caseLists, List.forall_mem_map]
    intro elements hmem
    refine .list hkind rfl ?_
    revert elements
    simp only [List.forall_mem_cons, List.not_mem_nil, false_implies, implies_true, and_true,
      true_and]
    exact ⟨⟨isValue_caseElement _ _, isValue_caseElement _ _⟩, isValue_closedCase _,
      isValue_caseElement _ _⟩
  refine ⟨hlists, ?_⟩
  rw [source_combined hkind hlists {}]
  decide +kernel

end Builtin

end SyntaxForge
