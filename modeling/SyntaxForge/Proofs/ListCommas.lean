import SyntaxForge.Proofs.WrittenTokens

/-!
# Commas that are filled in

A list puts a comma behind every element but the last that has none of its own.  It puts it behind
the finished tree of the element, whose leading trivia has been taken off and put in front by then.
A comma that is set on the element itself is there before.

**`build_withCommas`** says that this makes no difference.  Two facts carry it: taking leading
trivia off never looks behind a token that is no trivia (`Tree.lead_push`), and the slot for the
comma is the last of its kind, so that setting it adds the comma behind everything else
(`Fields.elements_set_last`).
-/

namespace SyntaxForge

/-! ## A token behind a tree -/

namespace Element

/-- Taking leading trivia off does not look behind a token that is no trivia. -/
theorem splitAll_append_token {kind : Kind} (h : kind.isTrivia = false) (text : String)
    (back : List Element) (front : List Element) :
    splitAll (front ++ .token kind text :: back)
      = ((splitAll front).1, (splitAll front).2 ++ .token kind text :: back) := by
  induction front using listInduction with
  | nil => rw [List.nil_append, splitAll_cons_token h, splitAll_nil, List.nil_append]
  | trivia other piece rest ih => simp [ih]
  | token other piece rest hother _ => simp [splitAll_cons_token hother]
  | node other children rest _ ihrest =>
      -- the walk goes down into the node as before, and on behind it if the node has no text left
      rw [List.cons_append, splitAll_cons_node, splitAll_cons_node, ihrest]
      split <;> rfl

end Element

namespace Tree

variable {kind : Kind}

lemma split_push (h : kind.isTrivia = false) (tree : Tree) (text : String) (back : List Element) :
    (tree.push (.token kind text :: back)).split
      = (tree.split.1, tree.split.2.push (.token kind text :: back)) := by
  simp only [split, push, Element.splitAll_append_token h]

lemma withLeading_push (h : kind.isTrivia = false) (tree : Tree) (text : String)
    (back : List Element) (trivia : Trivia) :
    (tree.push (.token kind text :: back)).withLeading trivia
      = (tree.withLeading trivia).push (.token kind text :: back) := by
  rw [withLeading, split_push h]
  simp only [withLeading, push, List.append_assoc]

/-- **Trivia in front of a tree and a token behind it do not meet.** -/
theorem lead_push (h : kind.isTrivia = false) (tree : Tree) (text : String) (back : List Element)
    (own : Trivia) (supplied : Option Trivia) :
    (tree.push (.token kind text :: back)).lead own supplied
      = (tree.lead own supplied).push (.token kind text :: back) := by
  have hleading : (tree.push (.token kind text :: back)).leading = tree.leading := by
    rw [leading, split_push h, leading]
  cases supplied with
  | some supplied => rw [lead_some, lead_some, withLeading_push h, hleading]
  | none =>
      cases own with
      | nil => rw [lead_nil_none, lead_nil_none]
      | cons piece own => rw [lead_cons_none, lead_cons_none, withLeading_push h, hleading]

end Tree

/-! ## Fields one by one -/

namespace Content

/-- Whether there is any content. -/
def isPresent : Content → Bool
  | .none => false
  | .token _ | .node _ => true

/-- The content may stand in a slot. -/
def Fits (catalog : Catalog) (slot : Slot) : Content → Prop
  | .none => slot.isOptional = true
  | .token _ => slot.type.isToken = true
  | .node child => ∃ type, slot.type = .node type ∧ catalog.IsValue type child

/-- The elements that the content of a slot contributes to a tree. -/
def elements (slot : Slot) (format : Format) : Content → List Element
  | .none => []
  | .token leaf => leaf.elements (slot.lead format)
  | .node child => [(child.build (slot.format format) (slot.lead format)).toElement]

end Content

namespace Fields

variable {catalog : Catalog} {slot : Slot} {name : String}

lemma set_cons (content other : Content) (rest : Fields) :
    (cons slot content rest).set name other
      = if slot.name = name then cons slot other rest
        else cons slot content (rest.set name other) := by
  cases content <;> rw [cons, set] <;> rfl

lemma holds_cons (content : Content) (rest : Fields) :
    (cons slot content rest).holds name
      = ((content.isPresent && slot.name = name) || rest.holds name) := by
  cases content <;> simp [cons, holds, Content.isPresent]

lemma elements_cons (content : Content) (rest : Fields) (format : Format) :
    (cons slot content rest).elements format
      = content.elements slot format ++ rest.elements format := by
  cases content <;> simp [cons, elements, Content.elements]

lemma fills_cons {content : Content} {slots : List Slot} {rest : Fields}
    (hcontent : content.Fits catalog slot) (hrest : catalog.Fills slots rest) :
    catalog.Fills (slot :: slots) (cons slot content rest) := by
  cases content with
  | none => exact .empty hcontent hrest
  | token leaf => exact .token hcontent hrest
  | node node =>
      obtain ⟨type, htype, hnode⟩ := hcontent
      exact .node htype hnode hrest

/-- Induction over the slots of a kind and the fields that fill them, whatever their content. -/
theorem fillsInduction {motive : List Slot → Fields → Prop} (nil : motive [] .nil)
    (cons : ∀ (slot : Slot) (content : Content) (slots : List Slot) (rest : Fields),
      content.Fits catalog slot → catalog.Fills slots rest → motive slots rest →
      motive (slot :: slots) (cons slot content rest)) :
    ∀ {fields : Fields} {slots : List Slot}, catalog.Fills slots fields → motive slots fields
  | .nil, _, .nil => nil
  | .empty slot rest, _, .empty hslot hrest =>
      cons slot .none _ rest hslot hrest (fillsInduction nil cons hrest)
  | .token slot leaf rest, _, .token hslot hrest =>
      cons slot (.token leaf) _ rest hslot hrest (fillsInduction nil cons hrest)
  | .node slot child rest, _, .node htype hchild hrest =>
      cons slot (.node child) _ rest ⟨_, htype, hchild⟩ hrest (fillsInduction nil cons hrest)

/-- A slot that is set to a token holds something. -/
lemma holds_set_token {fields : Fields} {slots : List Slot} (leaf : Token)
    (hfills : catalog.Fills slots fields) (hname : name ∈ slots.map Slot.name) :
    (fields.set name (.token leaf)).holds name = true := by
  revert hname
  refine fillsInduction (motive := fun slots fields => name ∈ slots.map Slot.name →
    (fields.set name (.token leaf)).holds name = true) ?_ ?_ hfills
  · simp
  · intro slot content slots rest _ _ ih hname
    rw [set_cons]
    split
    · next hslot => simp [holds_cons, Content.isPresent, hslot]
    · next hslot =>
        have hrest : name ∈ slots.map Slot.name := by simpa [Ne.symm hslot] using hname
        rw [holds_cons, ih hrest, Bool.or_true]

/-- A slot for tokens may be set to one. -/
lemma fills_set_token {fields : Fields} {slots : List Slot} (leaf : Token)
    (hfills : catalog.Fills slots fields)
    (htype : ∀ slot ∈ slots, slot.name = name → slot.type.isToken = true) :
    catalog.Fills slots (fields.set name (.token leaf)) := by
  revert htype
  refine fillsInduction (motive := fun slots fields =>
    (∀ slot ∈ slots, slot.name = name → slot.type.isToken = true) →
      catalog.Fills slots (fields.set name (.token leaf))) ?_ ?_ hfills
  · exact fun _ => .nil
  · intro slot content slots rest hcontent hrest ih htype
    rw [set_cons]
    split
    · next hslot => exact fills_cons (htype slot List.mem_cons_self hslot) hrest
    · exact fills_cons hcontent (ih fun other hother => htype other (List.mem_cons_of_mem _ hother))

/-- **Setting the last slot adds its token behind everything else**, if the slot was empty and
supplies no trivia. -/
theorem elements_set_last {fields : Fields} {slots : List Slot} {last : Slot} {format : Format}
    (leaf : Token) (hfills : catalog.Fills slots fields) (hnodup : (slots.map Slot.name).Nodup)
    (hlast : slots.getLast? = some last) (hlead : last.lead format = none)
    (hholds : fields.holds last.name = false) :
    (fields.set last.name (.token leaf)).elements format
      = fields.elements format ++ leaf.elements none := by
  revert hnodup hlast hholds
  refine fillsInduction (motive := fun slots fields => (slots.map Slot.name).Nodup →
    slots.getLast? = some last → fields.holds last.name = false →
      (fields.set last.name (.token leaf)).elements format
        = fields.elements format ++ leaf.elements none) ?_ ?_ hfills
  · simp
  · intro slot content slots rest _ hrest ih hnodup hlast hholds
    rw [List.map_cons, List.nodup_cons] at hnodup
    rw [holds_cons, Bool.or_eq_false_iff] at hholds
    rw [set_cons]
    cases slots with
    | nil =>
        obtain rfl : slot = last := by simpa using hlast
        cases hrest
        have hnone : content.elements slot format = [] := by
          cases content with
          | none => rfl
          | token _ | node _ => simp [Content.isPresent] at hholds
        rw [if_pos rfl, elements_cons, elements_cons, hnone, Content.elements, hlead]
        simp [elements]
    | cons next slots =>
        rw [List.getLast?_cons_cons] at hlast
        have hne : slot.name ≠ last.name := by
          intro heq
          exact hnodup.1 (heq ▸ List.mem_map_of_mem (List.mem_of_getLast? hlast))
        rw [if_neg hne, elements_cons, elements_cons, ih hnodup.2 hlast hholds.2,
          List.append_assoc]

end Fields

/-! ## Lists with and without commas -/

/-- Whether the elements of a collection have a slot for the comma behind them. -/
def Catalog.takesCommas (catalog : Catalog) (kind : NodeKind) : Bool :=
  ((kind.element?.bind TypeRef.node?).bind catalog.kind?).any fun element =>
    element.slots.any (·.name = trailingCommaName)

/-- The elements of a list with a comma set on each but the last that has none. -/
def Node.withCommas : List Node → List Node
  | [] => []
  | node :: rest =>
    (if rest.isEmpty || node.holds trailingCommaName then node
      else node.set trailingCommaName (.token (.ofKind Builtin.comma))) :: withCommas rest

-- the comma is the token that its kind has by itself
example : Token.fixed (.token Builtin.comma) = .ok (.ofKind Builtin.comma) := rfl

namespace Node

@[simp] lemma isEmpty_withCommas (elements : List Node) :
    (withCommas elements).isEmpty = elements.isEmpty := by
  cases elements <;> rfl

/-- The last element stays as it is. -/
lemma getLast?_withCommas : ∀ elements : List Node,
    (withCommas elements).getLast? = elements.getLast?
  | [] => rfl
  | [node] => by simp [withCommas]
  | node :: next :: rest => by
      rw [withCommas, List.getLast?_cons_cons, ← getLast?_withCommas (next :: rest)]
      exact List.getLast?_cons_cons

end Node

namespace Builtin

/-- A list has a comma exactly if its elements have a slot for one. -/
lemma comma_eq_of_takesCommas : ∀ kind ∈ declarations.collectionKinds,
    (declarations.listLayout kind).comma
      = if declarations.takesCommas kind then some comma else none := by
  decide +kernel

/-- The slot for the comma behind an element comes last and supplies no trivia. -/
lemma exists_trailingComma {kind : NodeKind} (hkind : kind ∈ declarations.kinds)
    (hslot : trailingCommaName ∈ kind.slots.map Slot.name) :
    ∃ last, kind.slots.getLast? = some last ∧ last.name = trailingCommaName
      ∧ ∀ format, last.lead format = none := by
  have htable : ∀ kind ∈ declarations.kinds, trailingCommaName ∈ kind.slots.map Slot.name →
      kind.slots.getLast?.any fun last =>
        last.name = trailingCommaName && !last.onNewLine && !last.isSpaced := by
    decide
  obtain ⟨last, hlast, hplain⟩ := Option.any_eq_true _ _ |>.mp (htable kind hkind hslot)
  simp only [Bool.and_eq_true, Bool.not_eq_true', decide_eq_true_eq] at hplain
  obtain ⟨⟨hname, hline⟩, hspaced⟩ := hplain
  exact ⟨last, hlast, hname, fun format => by simp [Slot.lead, hline, hspaced]⟩

/-- A comma and the space behind it. -/
lemma elements_comma : (Token.ofKind comma).elements none
    = [.token (.token comma) ",", .token (.trivia .spaces) " "] := rfl

/-- What the values of a declared kind look like. -/
lemma isValue_cases {kind : NodeKind} (hkind : kind ∈ declarations.kinds) {node : Node}
    (h : declarations.IsValue kind.name node) :
    kind.isBase = true
      ∨ (kind.isConcrete = true ∧ ∃ own fields, node = .concrete kind.name own fields
        ∧ declarations.Fills kind.slots fields)
      ∨ (kind.isCollection = true
        ∧ ((∃ element elements, kind.element? = some (.node element)
            ∧ node = .list (declarations.listLayout kind) elements
            ∧ ∀ other ∈ elements, declarations.IsValue element other)
          ∨ ∃ element elements, kind.element? = some element ∧ element.isToken = true
            ∧ node = .tokens (declarations.listLayout kind) elements)) := by
  generalize hname : kind.name = type at h
  cases h with
  | @concrete found own fields hfound hfills =>
      obtain ⟨hmem, hconcrete⟩ := List.mem_filter.mp hfound
      obtain rfl := distinctNames.eq_of_name_eq hkind hmem hname
      exact Or.inr (Or.inl ⟨hconcrete, own, fields, rfl, hfills⟩)
  | @list found element elements hfound helement hall =>
      obtain ⟨hmem, hcollection⟩ := List.mem_filter.mp hfound
      obtain rfl := distinctNames.eq_of_name_eq hkind hmem hname
      exact Or.inr (Or.inr ⟨hcollection, Or.inl ⟨element, elements, helement, rfl, hall⟩⟩)
  | @tokens found element elements hfound helement htoken =>
      obtain ⟨hmem, hcollection⟩ := List.mem_filter.mp hfound
      obtain rfl := distinctNames.eq_of_name_eq hkind hmem hname
      exact Or.inr (Or.inr ⟨hcollection, Or.inr ⟨element, elements, helement, htoken, rfl⟩⟩)
  | base hbase hisBase _ _ _ _ _ =>
      obtain rfl := distinctNames.eq_of_name_eq hkind hbase hname
      exact Or.inl hisBase
  | root _ =>
      have hroot : root ∈ declarations.kinds := by decide
      obtain rfl := distinctNames.eq_of_name_eq hkind hroot hname
      exact Or.inl rfl

/-- A value of a concrete kind has fields that fill its slots. -/
lemma exists_fields_of_isValue {kind : NodeKind} (hkind : kind ∈ declarations.kinds)
    (hconcrete : kind.isConcrete = true) {node : Node}
    (h : declarations.IsValue kind.name node) :
    ∃ own fields, node = .concrete kind.name own fields
      ∧ declarations.Fills kind.slots fields := by
  rcases isValue_cases hkind h with hbase | ⟨_, hfields⟩ | ⟨hcollection, _⟩
  · simp [NodeKind.isConcrete_eq_false_of_isBase hbase] at hconcrete
  · exact hfields
  · simp [NodeKind.isConcrete_eq_false_of_isCollection hcollection] at hconcrete

/-- A value of a collection is a list of values, or of tokens. -/
lemma elements_of_isValue {kind : NodeKind} (hkind : kind ∈ declarations.collectionKinds)
    {node : Node} (h : declarations.IsValue kind.name node) :
    (∃ element elements, kind.element? = some (.node element)
        ∧ node = .list (declarations.listLayout kind) elements
        ∧ ∀ other ∈ elements, declarations.IsValue element other)
      ∨ ∃ element elements, kind.element? = some element ∧ element.isToken = true
        ∧ node = .tokens (declarations.listLayout kind) elements := by
  obtain ⟨hmem, hcollection⟩ := List.mem_filter.mp hkind
  rcases isValue_cases hmem h with hbase | ⟨hconcrete, _⟩ | ⟨_, helements⟩
  · simp [NodeKind.isBase_eq_false_of_isCollection hcollection] at hbase
  · simp [NodeKind.isConcrete_eq_false_of_isCollection hcollection] at hconcrete
  · exact helements

/-! ## A comma set on an element -/

section Element

variable {kind : NodeKind} (hkind : kind ∈ declarations.kinds)
  (hslot : trailingCommaName ∈ kind.slots.map Slot.name) {node : Node}
  (hnode : declarations.IsValue kind.name node)

include hkind hslot hnode

lemma exists_fields_of_trailingComma : kind ∈ declarations.concreteKinds
    ∧ ∃ own fields, node = .concrete kind.name own fields
      ∧ declarations.Fills kind.slots fields := by
  obtain ⟨slot, hmem, _⟩ := List.mem_map.mp hslot
  have hconcrete := NodeKind.isConcrete_of_mem_slots hmem
  exact ⟨List.mem_filter.mpr ⟨hkind, hconcrete⟩, exists_fields_of_isValue hkind hconcrete hnode⟩

/-- An element with a comma set is a value again. -/
lemma isValue_set_comma :
    declarations.IsValue kind.name (node.set trailingCommaName (.token (.ofKind comma))) := by
  obtain ⟨hconcrete, own, fields, rfl, hfills⟩ := exists_fields_of_trailingComma hkind hslot hnode
  refine .concrete hconcrete (Fields.fills_set_token _ hfills ?_)
  intro slot hmem hname
  have htoken := tokenOf?_trailingComma kind hkind slot hmem hname
  cases htype : slot.type with
  | node name => simp [htype, Catalog.tokenOf?] at htoken
  | token name => rfl
  | anyToken => rfl

/-- It holds the comma. -/
lemma holds_set_comma :
    (node.set trailingCommaName (.token (.ofKind comma))).holds trailingCommaName = true := by
  obtain ⟨_, own, fields, rfl, hfills⟩ := exists_fields_of_trailingComma hkind hslot hnode
  exact Fields.holds_set_token _ hfills hslot

/-- **A comma set on an element stands behind its tree.** -/
theorem build_set_comma (hholds : node.holds trailingCommaName = false) (format : Format)
    (supplied : Option Trivia) :
    (node.set trailingCommaName (.token (.ofKind comma))).build format supplied
      = (node.build format supplied).push ((Token.ofKind comma).elements none) := by
  obtain ⟨_, own, fields, rfl, hfills⟩ := exists_fields_of_trailingComma hkind hslot hnode
  obtain ⟨last, hlast, hname, hlead⟩ := exists_trailingComma hkind hslot
  have helements : (fields.set trailingCommaName (.token (.ofKind comma))).elements format
      = fields.elements format ++ (Token.ofKind comma).elements none := by
    rw [← hname] at hholds ⊢
    exact Fields.elements_set_last _ hfills (nodup_slot_names kind hkind) hlast (hlead format)
      hholds
  rw [Node.set, Node.build, Node.build, helements, elements_comma]
  exact Tree.lead_push rfl { kind := .node kind.name, children := fields.elements format } _ _ own
    supplied

end Element

/-! ## The whole list -/

/-- Setting the commas of a list makes no difference to its elements in the tree. -/
lemma listElements_withCommas {kind : NodeKind} (hkind : kind ∈ declarations.kinds)
    (hslot : trailingCommaName ∈ kind.slots.map Slot.name) {layout : ListLayout}
    (hlayout : layout.comma = some comma) (format : Format) :
    ∀ {elements : List Node}, (∀ node ∈ elements, declarations.IsValue kind.name node) →
      Node.listElements layout format (Node.withCommas elements)
        = Node.listElements layout format elements
  | [], _ => rfl
  | node :: rest, hall => by
      have hnode := hall node List.mem_cons_self
      rw [Node.withCommas, Node.listElements, Node.listElements, Node.isEmpty_withCommas,
        listElements_withCommas hkind hslot hlayout format
          fun other h => hall other (List.mem_cons_of_mem _ h)]
      cases hclosed : rest.isEmpty || node.holds trailingCommaName with
      | true => simp [hclosed]
      | false =>
          -- the comma is set, so that the list adds none
          have hholds : node.holds trailingCommaName = false := (Bool.or_eq_false_iff.mp hclosed).2
          simp only [Bool.false_eq_true, if_false, holds_set_comma hkind hslot hnode, Bool.or_true,
            if_true, build_set_comma hkind hslot hnode hholds, ListLayout.separated, hlayout]

lemma isValue_withCommas {kind : NodeKind} (hkind : kind ∈ declarations.kinds)
    (hslot : trailingCommaName ∈ kind.slots.map Slot.name) :
    ∀ {elements : List Node}, (∀ node ∈ elements, declarations.IsValue kind.name node) →
      ∀ node ∈ Node.withCommas elements, declarations.IsValue kind.name node
  | [], _ => by simp [Node.withCommas]
  | first :: rest, hall => by
      have hfirst := hall first List.mem_cons_self
      rw [Node.withCommas, List.forall_mem_cons]
      refine ⟨?_, isValue_withCommas hkind hslot fun other h =>
        hall other (List.mem_cons_of_mem _ h)⟩
      split
      · exact hfirst
      · exact isValue_set_comma hkind hslot hfirst

/-- Every element but the last has a comma in the end. -/
lemma holds_of_mem_dropLast_withCommas {kind : NodeKind} (hkind : kind ∈ declarations.kinds)
    (hslot : trailingCommaName ∈ kind.slots.map Slot.name) :
    ∀ {elements : List Node}, (∀ node ∈ elements, declarations.IsValue kind.name node) →
      ∀ node ∈ (Node.withCommas elements).dropLast, node.holds trailingCommaName = true
  | [], _ => by simp [Node.withCommas]
  | [_], _ => by simp [Node.withCommas]
  | first :: next :: rest, hall => by
      have hrest := holds_of_mem_dropLast_withCommas hkind hslot fun other h =>
        hall other (List.mem_cons_of_mem first h)
      rw [Node.withCommas, List.dropLast_cons_of_ne_nil (by simp [Node.withCommas]),
        List.forall_mem_cons]
      refine ⟨?_, hrest⟩
      split
      · next hclosed => simpa using hclosed
      · exact holds_set_comma hkind hslot (hall first List.mem_cons_self)

/-- The kind of the elements of a collection that takes commas. -/
lemma exists_element_of_takesCommas {kind : NodeKind} (h : declarations.takesCommas kind = true) :
    ∃ element ∈ declarations.kinds, kind.element? = some (.node element.name)
      ∧ trailingCommaName ∈ element.slots.map Slot.name := by
  obtain ⟨element, hfound, hslot⟩ := (Option.any_eq_true _ _).mp h
  obtain ⟨name, hname, hkind⟩ := Option.bind_eq_some_iff.mp hfound
  obtain ⟨type, htype, hnode⟩ := Option.bind_eq_some_iff.mp hname
  obtain ⟨hmem, rfl⟩ := Catalog.mem_and_name_of_kind? hkind
  refine ⟨element, hmem, ?_, by simpa using hslot⟩
  cases type with
  | node name => simpa [TypeRef.node?, htype] using hnode
  | token name => simp [TypeRef.node?] at hnode
  | anyToken => simp [TypeRef.node?] at hnode

/-- **Commas that are filled in are like commas that are set.**  A list of the Swift grammar whose
elements have a slot for the comma behind them is built into the same tree, under every format and
with any trivia supplied, as the list in which a comma has been set on each element but the last
that has none.  That list is a value of the same kind, its last element is the same, and every other
one has a comma. -/
theorem build_withCommas {kind : NodeKind} (hkind : kind ∈ declarations.collectionKinds)
    (hcommas : declarations.takesCommas kind = true) {elements : List Node}
    (hlist : declarations.IsValue kind.name (.list (declarations.listLayout kind) elements))
    (format : Format) (supplied : Option Trivia) :
    (Node.list (declarations.listLayout kind) (Node.withCommas elements)).build format supplied
        = (Node.list (declarations.listLayout kind) elements).build format supplied
      ∧ declarations.IsValue kind.name
        (.list (declarations.listLayout kind) (Node.withCommas elements))
      ∧ (Node.withCommas elements).getLast? = elements.getLast?
      ∧ ∀ node ∈ (Node.withCommas elements).dropLast, node.holds trailingCommaName = true := by
  obtain ⟨element, helement, htype, hslot⟩ := exists_element_of_takesCommas hcommas
  have hall : ∀ node ∈ elements, declarations.IsValue element.name node := by
    rcases elements_of_isValue hkind hlist with ⟨name, _, hname, heq, hall⟩ | ⟨_, _, _, _, heq⟩
    · obtain rfl : element.name = name := by simpa [htype] using hname
      cases heq
      exact hall
    · cases heq
  have hcomma := comma_eq_of_takesCommas kind hkind
  rw [if_pos hcommas] at hcomma
  refine ⟨?_, .list hkind htype (isValue_withCommas helement hslot hall),
    Node.getLast?_withCommas elements, holds_of_mem_dropLast_withCommas helement hslot hall⟩
  rw [Node.build, Node.build, listElements_withCommas helement hslot hcomma format hall]

/-- A name of a `case` declaration with a comma of its own. -/
def closedCase (text : String) : Node :=
  (caseElement [] text).set trailingCommaName (.token (.ofKind comma))

lemma isValue_closedCase (text : String) :
    declarations.IsValue enumCaseElement.name (closedCase text) :=
  have helement : enumCaseElement ∈ declarations.kinds := by decide
  have hslot : trailingCommaName ∈ enumCaseElement.slots.map Slot.name := by decide
  isValue_set_comma helement hslot (isValue_caseElement _ _)

/-- Three names of a `case` declaration: none at all behind a comment, one with a comma of its own,
and one without. -/
def threeCases : List Node :=
  [caseElement [.lineComment "// none", .newlines 1] "", closedCase "red", caseElement [] "green"]

theorem build_withCommas_threeCases :
    declarations.takesCommas enumCaseElementList = true
      ∧ (Node.list (declarations.listLayout enumCaseElementList)
          (Node.withCommas threeCases)).build {} (some [.newlines 1])
        = (Node.list (declarations.listLayout enumCaseElementList) threeCases).build {}
            (some [.newlines 1])
      ∧ threeCases.map (Node.holds trailingCommaName) = [false, true, false]
      ∧ (Node.withCommas threeCases).map (Node.holds trailingCommaName) = [true, true, false] := by
  have hkind : enumCaseElementList ∈ declarations.collectionKinds := by decide +kernel
  have hcommas : declarations.takesCommas enumCaseElementList = true := by decide +kernel
  have hlist : declarations.IsValue enumCaseElementList.name
      (.list (declarations.listLayout enumCaseElementList) threeCases) := by
    refine .list hkind rfl ?_
    simp only [threeCases, List.forall_mem_cons, List.not_mem_nil, false_implies, implies_true,
      and_true]
    exact ⟨isValue_caseElement _ _, isValue_closedCase _, isValue_caseElement _ _⟩
  exact ⟨hcommas, (build_withCommas hkind hcommas hlist {} (some [.newlines 1])).1, rfl, rfl⟩

end Builtin

end SyntaxForge
