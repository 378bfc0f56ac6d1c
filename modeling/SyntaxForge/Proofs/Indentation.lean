import SyntaxForge.Proofs.LineStarts

/-!
# Building one level deeper

A format reaches the text of a node only through line breaks: those in front of the elements of a
list of lines, and those in front of closing braces.  So building a node one level deeper moves
every line but the first to the right, and changes nothing else: **`text_build_indented`**.

What stands in the way is the spacing pass, which copies whitespace behind newline pieces and meets
different runs of pieces at different depths.  By `Aligned.leaves_lead` it has nothing to do, once
the tokens of every node are known to be `Aligned`.  Two facts about the Swift grammar give this:
only tokens are put on a new line or set off by a space, and in front of an indented slot there is
always a token, so that all line breaks a node starts with have the same depth.

A run of no newlines is a newline piece that has no newline in its text.  The pass goes by pieces
and indents behind it, which is why such a piece must not stand in front of a token
(`text_build_indented_ne`).
-/

namespace SyntaxForge

/-! ## Texts -/

namespace Text

/-- The text with more spaces at the start of every line but the first. -/
def indentLines (width : Nat) (text : List Char) : List Char :=
  text.flatMap fun c => if c = '\n' then c :: List.replicate width ' ' else [c]

@[simp] lemma indentLines_append (width : Nat) (front back : List Char) :
    indentLines width (front ++ back) = indentLines width front ++ indentLines width back := by
  simp [indentLines]

lemma indentLines_newline_cons (width : Nat) (rest : List Char) :
    indentLines width ('\n' :: rest)
      = '\n' :: (List.replicate width ' ' ++ indentLines width rest) := by
  simp [indentLines]

/-- A text of one line stays as it is. -/
lemma indentLines_of_not_mem (width : Nat) {text : List Char} (h : '\n' ∉ text) :
    indentLines width text = text := by
  induction text with
  | nil => rfl
  | cons c rest ih =>
      rw [List.mem_cons, not_or] at h
      rw [indentLines, List.flatMap_cons, if_neg (Ne.symm h.1), ← indentLines, ih h.2]
      rfl

end Text

namespace Leaf

/-- The text of some tokens. -/
def chars (leaves : List Leaf) : List Char :=
  leaves.flatMap fun leaf => leaf.text.toList

@[simp] lemma chars_cons (leaf : Leaf) (rest : List Leaf) :
    chars (leaf :: rest) = leaf.text.toList ++ chars rest := rfl

@[simp] lemma chars_append (front back : List Leaf) :
    chars (front ++ back) = chars front ++ chars back := by
  simp [chars]

@[simp] lemma chars_leaves (trivia : Trivia) : chars trivia.leaves = trivia.text.toList := by
  simp [chars, Trivia.leaves, Piece.leaf, Trivia.text, String.toList_join, List.flatMap_map]

end Leaf

lemma Tree.toList_text (tree : Tree) : tree.text.toList = Leaf.chars tree.leaves := by
  simp [text, Leaf.chars, String.toList_join, List.flatMap_map]

namespace Format

lemma toList_text_newLine (format : Format) :
    format.newLine.text.toList = '\n' :: List.replicate (format.depth * format.width) ' ' := by
  rw [newLine_eq]
  split
  · next h => simp [h, Trivia.text, Piece.text]
  · simp [Trivia.text, Piece.text]

/-- A line break one level deeper. -/
lemma toList_text_newLine_indented (format : Format) :
    format.indented.newLine.text.toList
      = Text.indentLines format.width format.newLine.text.toList := by
  have hspaces : '\n' ∉ List.replicate (format.depth * format.width) ' ' := by simp
  rw [toList_text_newLine, toList_text_newLine, Text.indentLines_newline_cons,
    Text.indentLines_of_not_mem _ hspaces, ← List.replicate_add, indented, Nat.succ_mul,
    Nat.add_comm]

end Format

/-! ## Tokens -/

namespace Token

/-- The token has a text, and all of it and of its trivia is on one line. -/
structure IsOneLine (token : Token) : Prop where
  isTrivia_kind : token.kind.isTrivia = false
  text_ne : token.text ≠ ""
  text : '\n' ∉ token.text.toList
  leading : '\n' ∉ token.leading.text.toList
  trailing : '\n' ∉ token.trailing.text.toList

/-- Moreover, there is no run of newlines in front of the token, not even one of none. -/
structure IsInline (token : Token) : Prop extends token.IsOneLine where
  isNewline_leading : ∀ piece ∈ token.leading, piece.isNewline = false

instance (token : Token) : Decidable token.IsOneLine :=
  decidable_of_iff
    (token.kind.isTrivia = false ∧ token.text ≠ "" ∧ '\n' ∉ token.text.toList
      ∧ '\n' ∉ token.leading.text.toList ∧ '\n' ∉ token.trailing.text.toList)
    ⟨fun ⟨hkind, hne, htext, hleading, htrailing⟩ => ⟨hkind, hne, htext, hleading, htrailing⟩,
      fun h => ⟨h.isTrivia_kind, h.text_ne, h.text, h.leading, h.trailing⟩⟩

instance (token : Token) : Decidable token.IsInline :=
  decidable_of_iff (token.IsOneLine ∧ ∀ piece ∈ token.leading, piece.isNewline = false)
    ⟨fun ⟨hline, hleading⟩ => ⟨hline, hleading⟩, fun h => ⟨h.toIsOneLine, h.isNewline_leading⟩⟩

lemma leavesOf_elements (token : Token) (supplied : Option Trivia) :
    Element.leavesOf (token.elements supplied)
      = (supplied.getD token.leading).leaves
        ++ { kind := token.kind, text := token.text } :: token.trailing.leaves := by
  simp [elements, Element.leavesOf_append, Element.leavesOf, Element.leaves]

/-- Some tokens one after the other, with their trivia. -/
def allLeaves (supplied : Option Trivia) (tokens : List Token) : List Leaf :=
  Element.leavesOf (tokens.flatMap fun token => token.elements supplied)

lemma allLeaves_cons (supplied : Option Trivia) (token : Token) (rest : List Token) :
    allLeaves supplied (token :: rest)
      = Element.leavesOf (token.elements supplied) ++ allLeaves supplied rest := by
  rw [allLeaves, List.flatMap_cons, Element.leavesOf_append, allLeaves]

end Token

/-- The ways to supply trivia: none, a space, or a line break. -/
inductive Opening : (Format → Option Trivia) → Prop where
  | none : Opening fun _ => none
  | space : Opening fun _ => some (Trivia.spaces 1)
  | newLine : Opening fun format => some format.newLine

lemma Slot.opening_lead (slot : Slot) : Opening slot.lead := by
  unfold Slot.lead
  cases slot.onNewLine with
  | true => exact .newLine
  | false =>
      cases slot.isSpaced with
      | true => exact .space
      | false => exact .none

lemma ListLayout.opening_lead (layout : ListLayout) : Opening layout.lead := by
  unfold ListLayout.lead
  cases layout.onNewLines with
  | true => exact .newLine
  | false => exact .none

namespace Opening

variable {lead : Format → Option Trivia} {token : Token}

/-- Whatever follows, a token is the first on its line. -/
lemma aligned_token_append (hlead : Opening lead) (htoken : token.IsInline) (format : Format)
    {rest : List Leaf} (hrest : ∀ leaf ∈ rest, leaf.IsSound) :
    Aligned format (Element.leavesOf (token.elements (lead format)) ++ rest) := by
  have hbehind : ∀ leaf ∈ token.trailing.leaves ++ rest, leaf.IsSound :=
    List.forall_mem_append.mpr ⟨Leaf.IsSound.of_mem_leaves, hrest⟩
  have hinline : ∀ leading : Trivia, (∀ piece ∈ leading, piece.isNewline = false) →
      Aligned format (leading.leaves
        ++ { kind := token.kind, text := token.text } :: (token.trailing.leaves ++ rest)) :=
    fun _ hleading => .token hleading htoken.isTrivia_kind htoken.text_ne hbehind
  rw [Token.leavesOf_elements, List.append_assoc, List.cons_append]
  cases hlead with
  | none => exact hinline _ htoken.isNewline_leading
  | space => exact hinline (Trivia.spaces 1) (by decide)
  | newLine => exact (hinline [] (by simp)).newLine

lemma aligned_tokens (hlead : Opening lead) {tokens : List Token}
    (htokens : ∀ token ∈ tokens, token.IsInline) (format : Format) :
    Aligned format (Token.allLeaves (lead format) tokens) := by
  induction tokens with
  | nil => exact .nil
  | cons token rest ih =>
      rw [List.forall_mem_cons] at htokens
      rw [Token.allLeaves_cons]
      exact hlead.aligned_token_append htokens.1 format (ih htokens.2).isSound

/-- One level deeper, only a line break in front changes. -/
lemma text_getD_indented (hlead : Opening lead) {trivia : Trivia}
    (htrivia : '\n' ∉ trivia.text.toList) (format : Format) :
    ((lead format.indented).getD trivia).text.toList
      = Text.indentLines format.width ((lead format).getD trivia).text.toList := by
  cases hlead with
  | none => exact (Text.indentLines_of_not_mem _ htrivia).symm
  | space =>
      have hspace : '\n' ∉ (Trivia.spaces 1).text.toList := by decide
      exact (Text.indentLines_of_not_mem _ hspace).symm
  | newLine => exact format.toList_text_newLine_indented

lemma chars_token_indented (hlead : Opening lead) (htoken : token.IsInline) (format : Format) :
    Leaf.chars (Element.leavesOf (token.elements (lead format.indented)))
      = Text.indentLines format.width
          (Leaf.chars (Element.leavesOf (token.elements (lead format)))) := by
  have htext := Text.indentLines_of_not_mem format.width htoken.text
  have htrailing := Text.indentLines_of_not_mem format.width htoken.trailing
  have hleading := hlead.text_getD_indented htoken.leading format
  simp only [Token.leavesOf_elements, Leaf.chars_append, Leaf.chars_cons, Leaf.chars_leaves,
    Text.indentLines_append, htext, htrailing, hleading]

lemma chars_tokens_indented (hlead : Opening lead) {tokens : List Token}
    (htokens : ∀ token ∈ tokens, token.IsInline) (format : Format) :
    Leaf.chars (Token.allLeaves (lead format.indented) tokens)
      = Text.indentLines format.width (Leaf.chars (Token.allLeaves (lead format) tokens)) := by
  induction tokens with
  | nil => rfl
  | cons token rest ih =>
      rw [List.forall_mem_cons] at htokens
      rw [Token.allLeaves_cons, Token.allLeaves_cons, Leaf.chars_append, Leaf.chars_append,
        Text.indentLines_append, hlead.chars_token_indented htokens.1, ih htokens.2]

end Opening

/-! ## Nodes -/

mutual

/-- No node sets trivia of its own. -/
def Node.isBare : Node → Bool
  | .concrete _ own fields => own.isEmpty && fields.isBare
  | .list _ elements => Node.areBare elements
  | .tokens _ _ => true
  | .upcast _ node => node.isBare

/-- No node in a slot sets trivia of its own. -/
def Fields.isBare : Fields → Bool
  | .nil => true
  | .empty _ rest | .token _ _ rest => rest.isBare
  | .node _ node rest => node.isBare && rest.isBare

/-- None of the nodes sets trivia of its own. -/
def Node.areBare : List Node → Bool
  | [] => true
  | node :: rest => node.isBare && Node.areBare rest

end

mutual

/-- The tokens of a node as they were given, with their trivia. -/
def Node.allTokens : Node → List Token
  | .concrete _ _ fields => fields.allTokens
  | .list _ elements => Node.allTokensOf elements
  | .tokens _ elements => elements
  | .upcast _ node => node.allTokens

/-- The tokens in the slots of a node. -/
def Fields.allTokens : Fields → List Token
  | .nil => []
  | .empty _ rest => rest.allTokens
  | .token _ token rest => token :: rest.allTokens
  | .node _ node rest => node.allTokens ++ rest.allTokens

/-- The tokens of some nodes. -/
def Node.allTokensOf : List Node → List Token
  | [] => []
  | node :: rest => node.allTokens ++ Node.allTokensOf rest

end

lemma Node.own_eq_nil_of_isBare : ∀ {node : Node}, node.isBare = true → node.own = []
  | .concrete _ own _, h => by
      rw [isBare, Bool.and_eq_true, List.isEmpty_iff] at h
      exact h.1
  | .list _ _, _ => rfl
  | .tokens _ _, _ => rfl
  | .upcast _ node, h => by
      rw [own]
      exact own_eq_nil_of_isBare h

/-- A bare node is its body, with what is supplied in front. -/
lemma Node.build_of_isBare {node : Node} (h : node.isBare = true) (format : Format)
    (supplied : Option Trivia) :
    node.build format supplied = (node.body format).lead [] supplied := by
  rw [build_eq_lead, own_eq_nil_of_isBare h]

/-- The slot supplies no trivia. -/
def Slot.isPlain (slot : Slot) : Bool :=
  !slot.onNewLine && !slot.isSpaced

lemma Slot.format_indented (slot : Slot) (format : Format) :
    slot.format format.indented = (slot.format format).indented := by
  unfold Slot.format
  split <;> rfl

lemma Slot.width_format (slot : Slot) (format : Format) :
    (slot.format format).width = format.width := by
  unfold Slot.format
  split <;> rfl

/-- A bare node in a slot that supplies nothing contributes its body. -/
lemma Fields.leavesOf_elements_node {slot : Slot} {node : Node} (hslot : slot.isPlain = true)
    (hbare : node.isBare = true) (format : Format) (rest : Fields) :
    Element.leavesOf ((Fields.node slot node rest).elements format)
      = (node.body (slot.format format)).leaves ++ Element.leavesOf (rest.elements format) := by
  have hlead : slot.lead format = none := by
    simp only [Slot.isPlain, Bool.and_eq_true, Bool.not_eq_true'] at hslot
    rw [Slot.lead, hslot.1, hslot.2]
    rfl
  rw [elements, hlead, Node.build_of_isBare hbare, Tree.lead_nil_none]
  rfl

/-! ## Lists -/

namespace ListLayout

/-- The tokens that a list puts behind an element. -/
def commas (layout : ListLayout) (isClosed : Bool) : List Token :=
  if isClosed then [] else layout.comma.toList.map Token.ofKind

lemma leaves_separated (layout : ListLayout) (isClosed : Bool) (tree : Tree) :
    (if isClosed then tree else layout.separated tree).leaves
      = tree.leaves ++ Token.allLeaves none (layout.commas isClosed) := by
  cases isClosed with
  | true => exact (List.append_nil _).symm
  | false =>
      rw [commas, separated]
      cases layout.comma with
      | none => exact (List.append_nil _).symm
      | some comma => simp [Tree.push, Tree.leaves, Token.allLeaves, Element.leavesOf_append]

/-- The line break in front of an element, if there is one. -/
lemma aligned_lead_append (layout : ListLayout) {format : Format} {leaves : List Leaf}
    (h : Aligned format leaves) :
    Aligned format (((layout.lead format).getD []).leaves ++ leaves) := by
  rw [lead]
  split
  · exact h.newLine
  · exact h

end ListLayout

/-- An element of a list contributes the line break in front, its body, and the comma behind. -/
lemma Node.leavesOf_listElements_cons {node : Node} (hbare : node.isBare = true)
    {format : Format} (haligned : Aligned format (node.body format).leaves) (layout : ListLayout)
    (rest : List Node) :
    Element.leavesOf (listElements layout format (node :: rest))
      = ((layout.lead format).getD []).leaves ++ (node.body format).leaves
        ++ Token.allLeaves none (layout.commas (rest.isEmpty || node.holds trailingCommaName))
        ++ Element.leavesOf (listElements layout format rest) := by
  have hlead : (node.build format (layout.lead format)).leaves
      = ((layout.lead format).getD []).leaves ++ (node.body format).leaves := by
    rw [build_of_isBare hbare, ListLayout.lead]
    split
    · exact haligned.leaves_lead
    · rfl
  rw [listElements, Element.leavesOf, ← hlead, ← layout.leaves_separated]
  rfl

/-! ## The Swift grammar -/

/-- No slot is indented unless a token stands in front of it. -/
def Slot.opensFlat : List Slot → Bool
  | [] => true
  | slot :: rest =>
    (slot.type.isToken && !slot.isOptional) || (!slot.isIndented && opensFlat rest)

namespace Builtin

lemma opensFlat_slots : ∀ kind ∈ declarations.kinds, Slot.opensFlat kind.slots = true := by
  decide +kernel

/-- Only tokens are put on a new line or set off by a space. -/
lemma isPlain_of_isToken_eq_false : ∀ kind ∈ declarations.kinds, ∀ slot ∈ kind.slots,
    slot.type.isToken = false → slot.isPlain = true := by
  decide +kernel

lemma comma_listLayout : ∀ kind ∈ declarations.collectionKinds,
    ∀ token ∈ (declarations.listLayout kind).comma, token = comma := by
  decide +kernel

lemma isInline_comma : (Token.ofKind comma).IsInline := by
  decide

lemma isInline_commas {kind : NodeKind} (hkind : kind ∈ declarations.collectionKinds)
    (isClosed : Bool) :
    ∀ token ∈ (declarations.listLayout kind).commas isClosed, token.IsInline := by
  intro token htoken
  cases isClosed with
  | true => simp [ListLayout.commas] at htoken
  | false =>
      obtain ⟨mark, hmark, rfl⟩ := List.mem_map.mp htoken
      rw [comma_listLayout kind hkind mark (Option.mem_toList.mp hmark)]
      exact isInline_comma

/-! ## Every value is aligned -/

mutual

/-- A value starts with line breaks of its own depth. -/
lemma aligned_body (format : Format) :
    ∀ {node : Node} {type : String}, declarations.IsValue type node → node.isBare = true →
      (∀ token ∈ node.allTokens, token.IsInline) → Aligned format (node.body format).leaves
  | .concrete _ _ fields, _, .concrete hkind hfills, hbare, htokens => by
      have hmem := List.mem_of_mem_filter hkind
      rw [Node.isBare, Bool.and_eq_true] at hbare
      exact (aligned_fields format hfills (isPlain_of_isToken_eq_false _ hmem) hbare.2 htokens).2
        (opensFlat_slots _ hmem)
  | .list _ elements, _, .list hkind _ hall, hbare, htokens =>
      aligned_listElements format hkind hall hbare htokens
  | .tokens _ _, _, .tokens _ _ _, _, htokens =>
      (ListLayout.opening_lead _).aligned_tokens htokens format
  | .upcast _ node, _, .base _ _ _ _ _ _ hnode, hbare, htokens => by
      rw [Node.body]
      exact aligned_body format hnode hbare htokens
  | .upcast _ node, _, .root hnode, hbare, htokens => by
      rw [Node.body]
      exact aligned_body format hnode hbare htokens

/-- So do its slots, unless it is an indented one that comes first. -/
lemma aligned_fields (format : Format) :
    ∀ {fields : Fields} {slots : List Slot}, declarations.Fills slots fields →
      (∀ slot ∈ slots, slot.type.isToken = false → slot.isPlain = true) →
      fields.isBare = true → (∀ token ∈ fields.allTokens, token.IsInline) →
      (∀ leaf ∈ Element.leavesOf (fields.elements format), leaf.IsSound)
        ∧ (Slot.opensFlat slots = true → Aligned format (Element.leavesOf (fields.elements format)))
  | .nil, _, .nil, _, _, _ => ⟨by simp [Fields.elements, Element.leavesOf], fun _ => .nil⟩
  | .empty slot rest, _, .empty hoptional hrest, hslots, hbare, htokens => by
      rw [List.forall_mem_cons] at hslots
      obtain ⟨hsound, haligned⟩ := aligned_fields format hrest hslots.2 hbare htokens
      refine ⟨hsound, fun hflat => haligned ?_⟩
      simp only [Slot.opensFlat, hoptional, Bool.not_true, Bool.and_false, Bool.false_or,
        Bool.and_eq_true] at hflat
      exact hflat.2
  | .token slot token rest, _, .token _ hrest, hslots, hbare, htokens => by
      rw [List.forall_mem_cons] at hslots
      rw [Fields.allTokens, List.forall_mem_cons] at htokens
      have hsound := (aligned_fields format hrest hslots.2 hbare htokens.2).1
      -- behind the token lines of any depth may follow
      have haligned := slot.opening_lead.aligned_token_append htokens.1 format hsound
      rw [Fields.elements, Element.leavesOf_append]
      exact ⟨haligned.isSound, fun _ => haligned⟩
  | .node slot node rest, _, .node htype hnode hrest, hslots, hbare, htokens => by
      rw [List.forall_mem_cons] at hslots
      rw [Fields.allTokens, List.forall_mem_append] at htokens
      rw [Fields.isBare, Bool.and_eq_true] at hbare
      obtain ⟨hsound, haligned⟩ := aligned_fields format hrest hslots.2 hbare.2 htokens.2
      have hbody := aligned_body (slot.format format) hnode hbare.1 htokens.1
      have htoken : slot.type.isToken = false := by rw [htype]; rfl
      rw [Fields.leavesOf_elements_node (hslots.1 htoken) hbare.1]
      refine ⟨List.forall_mem_append.mpr ⟨hbody.isSound, hsound⟩, fun hflat => ?_⟩
      -- the slot is not indented, as there is no token in front of it
      simp only [Slot.opensFlat, htoken, Bool.false_and, Bool.false_or, Bool.and_eq_true,
        Bool.not_eq_true'] at hflat
      rw [Slot.format, hflat.1] at hbody ⊢
      exact hbody.append (haligned hflat.2)

/-- And the elements of a list. -/
lemma aligned_listElements (format : Format) {kind : NodeKind} {element : String}
    (hkind : kind ∈ declarations.collectionKinds) :
    ∀ {elements : List Node}, (∀ node ∈ elements, declarations.IsValue element node) →
      Node.areBare elements = true → (∀ token ∈ Node.allTokensOf elements, token.IsInline) →
      Aligned format
        (Element.leavesOf (Node.listElements (declarations.listLayout kind) format elements))
  | [], _, _, _ => .nil
  | node :: rest, hall, hbare, htokens => by
      rw [List.forall_mem_cons] at hall
      rw [Node.allTokensOf, List.forall_mem_append] at htokens
      rw [Node.areBare, Bool.and_eq_true] at hbare
      have hbody := aligned_body format hall.1 hbare.1 htokens.1
      have hrest := aligned_listElements format hkind hall.2 hbare.2 htokens.2
      have hcommas := Opening.none.aligned_tokens
        (isInline_commas hkind (rest.isEmpty || node.holds trailingCommaName)) format
      rw [Node.leavesOf_listElements_cons hbare.1 hbody]
      exact ((ListLayout.aligned_lead_append _ hbody).append hcommas).append hrest

end

/-! ## One level deeper -/

mutual

/-- The text of a value moves to the right, line by line. -/
lemma chars_body_indented (format : Format) :
    ∀ {node : Node} {type : String}, declarations.IsValue type node → node.isBare = true →
      (∀ token ∈ node.allTokens, token.IsInline) →
      Leaf.chars (node.body format.indented).leaves
        = Text.indentLines format.width (Leaf.chars (node.body format).leaves)
  | .concrete _ _ fields, _, .concrete hkind hfills, hbare, htokens => by
      have hmem := List.mem_of_mem_filter hkind
      rw [Node.isBare, Bool.and_eq_true] at hbare
      exact chars_fields_indented format hfills (isPlain_of_isToken_eq_false _ hmem) hbare.2 htokens
  | .list _ elements, _, .list hkind _ hall, hbare, htokens =>
      chars_listElements_indented format hkind hall hbare htokens
  | .tokens _ _, _, .tokens _ _ _, _, htokens =>
      (ListLayout.opening_lead _).chars_tokens_indented htokens format
  | .upcast _ node, _, .base _ _ _ _ _ _ hnode, hbare, htokens => by
      rw [Node.body]
      exact chars_body_indented format hnode hbare htokens
  | .upcast _ node, _, .root hnode, hbare, htokens => by
      rw [Node.body]
      exact chars_body_indented format hnode hbare htokens

/-- So does that of its slots. -/
lemma chars_fields_indented (format : Format) :
    ∀ {fields : Fields} {slots : List Slot}, declarations.Fills slots fields →
      (∀ slot ∈ slots, slot.type.isToken = false → slot.isPlain = true) →
      fields.isBare = true → (∀ token ∈ fields.allTokens, token.IsInline) →
      Leaf.chars (Element.leavesOf (fields.elements format.indented))
        = Text.indentLines format.width (Leaf.chars (Element.leavesOf (fields.elements format)))
  | .nil, _, .nil, _, _, _ => rfl
  | .empty slot rest, _, .empty _ hrest, hslots, hbare, htokens => by
      rw [List.forall_mem_cons] at hslots
      rw [Fields.elements, Fields.elements]
      exact chars_fields_indented format hrest hslots.2 hbare htokens
  | .token slot token rest, _, .token _ hrest, hslots, hbare, htokens => by
      rw [List.forall_mem_cons] at hslots
      rw [Fields.allTokens, List.forall_mem_cons] at htokens
      have hrest := chars_fields_indented format hrest hslots.2 hbare htokens.2
      rw [Fields.elements, Fields.elements, Element.leavesOf_append, Element.leavesOf_append,
        Leaf.chars_append, Leaf.chars_append, Text.indentLines_append, hrest,
        slot.opening_lead.chars_token_indented htokens.1]
  | .node slot node rest, _, .node htype hnode hrest, hslots, hbare, htokens => by
      rw [List.forall_mem_cons] at hslots
      rw [Fields.allTokens, List.forall_mem_append] at htokens
      rw [Fields.isBare, Bool.and_eq_true] at hbare
      have hrest := chars_fields_indented format hrest hslots.2 hbare.2 htokens.2
      have hbody := chars_body_indented (slot.format format) hnode hbare.1 htokens.1
      have hplain := hslots.1 (by rw [htype]; rfl)
      have hleaves := Fields.leavesOf_elements_node hplain hbare.1
      rw [hleaves, hleaves, Leaf.chars_append, Leaf.chars_append, Text.indentLines_append, hrest,
        slot.format_indented, hbody, slot.width_format]

/-- And that of the elements of a list. -/
lemma chars_listElements_indented (format : Format) {kind : NodeKind} {element : String}
    (hkind : kind ∈ declarations.collectionKinds) :
    ∀ {elements : List Node}, (∀ node ∈ elements, declarations.IsValue element node) →
      Node.areBare elements = true → (∀ token ∈ Node.allTokensOf elements, token.IsInline) →
      Leaf.chars (Element.leavesOf
          (Node.listElements (declarations.listLayout kind) format.indented elements))
        = Text.indentLines format.width (Leaf.chars (Element.leavesOf
            (Node.listElements (declarations.listLayout kind) format elements)))
  | [], _, _, _ => rfl
  | node :: rest, hall, hbare, htokens => by
      rw [List.forall_mem_cons] at hall
      rw [Node.allTokensOf, List.forall_mem_append] at htokens
      rw [Node.areBare, Bool.and_eq_true] at hbare
      have haligned := fun format => aligned_body format hall.1 hbare.1 htokens.1
      have hbody := chars_body_indented format hall.1 hbare.1 htokens.1
      have hcommas := Opening.none.chars_tokens_indented
        (isInline_commas hkind (rest.isEmpty || node.holds trailingCommaName)) format
      have hnil : '\n' ∉ (Trivia.text []).toList := by decide
      have hlead := (declarations.listLayout kind).opening_lead.text_getD_indented hnil format
      have hrest := chars_listElements_indented format hkind hall.2 hbare.2 htokens.2
      rw [Node.leavesOf_listElements_cons hbare.1 (haligned _),
        Node.leavesOf_listElements_cons hbare.1 (haligned _)]
      simp only [Leaf.chars_append, Leaf.chars_leaves, Text.indentLines_append, hlead, hbody,
        hrest, ← hcommas]

end

/-- **Building one level deeper moves every line but the first to the right.**  For a value of the
Swift grammar in which no node sets trivia of its own, every token has a text, and there is no
newline in the tokens and their trivia nor a run of no newlines in front of one, the text one level
deeper is the text with as many spaces behind every newline as the format has to a level. -/
theorem text_build_indented {type : String} {node : Node} (hnode : declarations.IsValue type node)
    (hbare : node.isBare = true) (htokens : ∀ token ∈ node.allTokens, token.IsInline)
    (format : Format) :
    (node.build format.indented none).text.toList
      = Text.indentLines format.width (node.build format none).text.toList := by
  rw [Node.build_of_isBare hbare, Node.build_of_isBare hbare, Tree.lead_nil_none,
    Tree.lead_nil_none, Tree.toList_text, Tree.toList_text]
  exact chars_body_indented format hnode hbare htokens

/-- A `return` on a line of its own, with trivia in front. -/
def returnLine (leading : Trivia) : Node :=
  .make codeBlockItem
    [.node (.upcast rootName
      (.make returnStmt [.token { Token.ofKind returnKeyword with leading }]))]

/-- Lines of code. -/
def codeLines (lines : List Node) : Node :=
  .list (declarations.listLayout codeBlockItemList) lines

/-- Lines of code between braces, as a line. -/
def codeBlockLine (lines : List Node) : Node :=
  .make codeBlockItem
    [.node (.upcast rootName
      (.make codeBlock
        [.token (.ofKind leftBrace), .node (codeLines lines), .token (.ofKind rightBrace)]))]

lemma isValue_codeBlockItem {type : String} {node : Node} (h : declarations.IsValue type node) :
    declarations.IsValue "CodeBlockItem" (.make codeBlockItem [.node (.upcast rootName node)]) := by
  have hkind : codeBlockItem ∈ declarations.concreteKinds := by decide +kernel
  exact .concrete hkind (.node rfl (.root h) (.empty rfl .nil))

lemma isValue_returnLine (leading : Trivia) :
    declarations.IsValue "CodeBlockItem" (returnLine leading) := by
  have hkind : returnStmt ∈ declarations.concreteKinds := by decide +kernel
  exact isValue_codeBlockItem (.concrete hkind (.token rfl (.empty rfl .nil)))

lemma isValue_codeLines {lines : List Node}
    (h : ∀ line ∈ lines, declarations.IsValue "CodeBlockItem" line) :
    declarations.IsValue "CodeBlockItemList" (codeLines lines) := by
  have hkind : codeBlockItemList ∈ declarations.collectionKinds := by decide +kernel
  exact .list hkind rfl h

lemma isValue_codeBlockLine {lines : List Node}
    (h : ∀ line ∈ lines, declarations.IsValue "CodeBlockItem" line) :
    declarations.IsValue "CodeBlockItem" (codeBlockLine lines) := by
  have hkind : codeBlock ∈ declarations.concreteKinds := by decide +kernel
  exact isValue_codeBlockItem
    (.concrete hkind (.token rfl (.node rfl (isValue_codeLines h) (.token rfl .nil))))

/-- A block behind a `return`, with a comment in it. -/
def returnAndBlock : Node :=
  codeLines [returnLine [], codeBlockLine [returnLine [.lineComment "/* late */", .spaces 1]]]

theorem text_build_indented_returnAndBlock :
    declarations.IsValue "CodeBlockItemList" returnAndBlock ∧ returnAndBlock.isBare = true
      ∧ (∀ token ∈ returnAndBlock.allTokens, token.IsInline)
      ∧ (returnAndBlock.build ({ width := 2 } : Format).indented none).text
        = "\n  return \n   \x7b\n    /* late */ return \n  \x7d" := by
  have hvalue : declarations.IsValue "CodeBlockItemList" returnAndBlock := by
    refine isValue_codeLines (List.forall_mem_cons.mpr ⟨isValue_returnLine _, ?_⟩)
    exact List.forall_mem_singleton.mpr
      (isValue_codeBlockLine (List.forall_mem_singleton.mpr (isValue_returnLine _)))
  have hbare : returnAndBlock.isBare = true := rfl
  have htokens : ∀ token ∈ returnAndBlock.allTokens, token.IsInline := by decide +kernel
  have htext : (returnAndBlock.build ({ width := 2 } : Format) none).text
      = "\nreturn \n \x7b\n  /* late */ return \n\x7d" := by decide +kernel
  refine ⟨hvalue, hbare, htokens, String.toList_inj.mp ?_⟩
  rw [text_build_indented hvalue hbare htokens, htext]
  decide +kernel

/-- A comment behind a run of no newlines. -/
def commentBehindEmptyRun : Node :=
  codeLines [returnLine [.newlines 0, .lineComment "//x"]]

/-- **A run of no newlines counts as one.**  Its text is empty, but one level deeper the spacing
pass indents the comment behind it a second time. -/
theorem text_build_indented_ne :
    declarations.IsValue "CodeBlockItemList" commentBehindEmptyRun
      ∧ commentBehindEmptyRun.isBare = true
      ∧ (∀ token ∈ commentBehindEmptyRun.allTokens, token.IsOneLine)
      ∧ (commentBehindEmptyRun.build {} none).text = "\n//xreturn "
      ∧ (commentBehindEmptyRun.build ({} : Format).indented none).text.toList
        ≠ Text.indentLines ({} : Format).width
            (commentBehindEmptyRun.build {} none).text.toList := by
  refine ⟨?_, rfl, ?_, ?_, ?_⟩
  · exact isValue_codeLines (List.forall_mem_singleton.mpr (isValue_returnLine _))
  · decide +kernel
  · decide +kernel
  · decide +kernel

end Builtin

end SyntaxForge
