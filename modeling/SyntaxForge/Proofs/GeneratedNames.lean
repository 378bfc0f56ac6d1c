import SyntaxForge.Proofs.Ancestors
import SyntaxForge.Proofs.PlainNames

/-!
# Names in generated code

Generated code only spells words of its own and names that it puts together from those of kinds,
slots and tokens.  Where the latter are plain identifiers (`Grammar.HasPlainNames`), every name may
stand where it does: this is shown piece by piece, from the phrases that declarations share up to
protocols and structs.

* `exists_files_of_hasPlainNames`: **the files of a grammar with plain names are generated**, unless
  two kinds claim the same name.
-/

namespace SyntaxForge

open Code Identifier

/-- The names of kinds and slots, and of tokens with a fixed text, are plain identifiers. -/
structure Grammar.HasPlainNames (grammar : Grammar) : Prop where
  kinds : ∀ kind ∈ grammar.kinds, IsPlain kind.name
  slots : ∀ kind ∈ grammar.kinds, ∀ slot ∈ kind.slots, IsPlain slot.name
  tokens : ∀ token ∈ grammar.tokens, token.text.isSome = true → IsPlain token.name

namespace Generate

variable {declarations : Declarations} {grammar : Grammar} {kind : NodeKind} {name : String}
  {type base : SwiftType}

/-! ## Pieces of code -/

@[simp] lemma isValid_declared_of_mem_words {word : String} (h : word ∈ words) :
    (NameUse.declared word).IsValid :=
  NameUse.isValid_declared (isPlain_of_mem_words h)

@[simp] lemma isValid_operand_of_mem_words {word : String} (h : word ∈ words) :
    (NameUse.operand word).IsValid :=
  NameUse.isValid_operand (isPlain_of_mem_words h)

@[simp] lemma checkAll_ofText_of_mem_words {word : String} (h : word ∈ words) :
    NameUse.checkAll (TypeExpr.ofText word).names = .ok () :=
  checkAll_ofText (isPlain_of_mem_words h)

@[simp] lemma checkAll_selfExpr : NameUse.checkAll selfExpr.names = .ok () := by
  simp [selfExpr, Expr.names]

@[simp] lemma names_callEmpty (callee : Expr) : (callEmpty callee).names = callee.names := by
  simp [callEmpty, Expr.names, Arguments.names]

@[simp] lemma names_callWith (callee value : Expr) :
    (callWith callee value).names = value.names ++ callee.names := by
  simp [callWith, Expr.names, Arguments.names, Arguments.ofList]

@[simp] lemma names_orEmpty (value : Expr) : (orEmpty value).names = value.names := by
  simp [orEmpty, Expr.names]

@[simp] lemma names_mapped (base method : String) (body : Expr) :
    (mapped base method body).names = body.names ++ [.operand base, .declared method] := by
  simp [mapped, Expr.names]

@[simp] lemma checkAll_newLineTrivia : NameUse.checkAll newLineTrivia.names = .ok () := by
  simp [newLineTrivia, Expr.names]

lemma checkAll_callWithFormat (hname : IsPlain name) :
    NameUse.checkAll (callWithFormat name).names = .ok () := by
  have hoperand := NameUse.isValid_operand hname
  simp [callWithFormat, Expr.names, Arguments.names, Arguments.ofList, hoperand]

@[simp] lemma checkAll_formatParameters (isDefaulted : Bool) :
    NameUse.checkAll ((formatParameters isDefaulted).flatMap Parameter.names) = .ok () := by
  cases isDefaulted <;> simp [formatParameters, Parameter.names, TypeExpr.names, Expr.names]

lemma checkAll_returningFunction {returns : String} {value : Expr} (hname : IsPlain name)
    (hreturns : IsPlain returns) (hvalue : NameUse.checkAll value.names = .ok ()) :
    NameUse.checkAll (returningFunction name returns value).names = .ok () := by
  simp [returningFunction, Function.names, Statement.names, TypeExpr.names, hvalue,
    NameUse.isValid_declared hname, NameUse.isValid_declared hreturns]

lemma isPlain_rootType : IsPlain rootType.baseName :=
  isPlain_of_mem_words (by simp : "Syntax" ∈ words)

section Decls

variable {decl : Decl} (hname : IsPlain decl.name)
  (hinherits : ∀ type ∈ decl.inherits, NameUse.checkAll type.names = .ok ())
  (hrequirement : ∀ same ∈ decl.requirement,
    IsPlain same.parameter ∧ NameUse.checkAll same.type.names = .ok ())

include hname hinherits hrequirement

lemma checkAll_headNames : NameUse.checkAll decl.headNames = .ok () := by
  have hhead := NameUse.isValid_declared hname
  rw [Decl.headNames, NameUse.checkAll_append_iff, NameUse.checkAll_cons_iff,
    NameUse.checkAll_flatMap_iff, NameUse.checkAll_flatMap_iff]
  refine ⟨⟨hhead, hinherits⟩, fun same hsame => ?_⟩
  obtain ⟨hparameter, htype⟩ := hrequirement same (Option.mem_toList.mp hsame)
  exact NameUse.checkAll_cons_iff.mpr ⟨NameUse.isValid_declared hparameter, htype⟩

/-- A declaration is checked by its members, its name, and what it inherits from and requires. -/
lemma checkAll_decl (hmembers : ∀ member ∈ decl.members, NameUse.checkAll member.names = .ok ()) :
    NameUse.checkAll decl.names = .ok () := by
  rw [Decl.names, NameUse.checkAll_append_iff, NameUse.checkAll_flatMap_iff]
  exact ⟨hmembers, checkAll_headNames hname hinherits hrequirement⟩

end Decls

/-! ## Protocols -/

section Types

variable (htype : IsPlain type.baseName) (hmark : type.isOptional = false)

include htype hmark

/-- A function that builds a tree, or a list of trees. -/
lemma checkAll_buildsTree {function : Function} {isDefaulted : Bool} (hname : IsPlain function.name)
    (hparameters : function.parameters = formatParameters isDefaulted)
    (hreturns : function.returns = .named type.treeName
      ∨ function.returns = .array (.named type.treeName))
    (hbody : NameUse.checkAll ((function.body.getD []).flatMap Statement.names) = .ok ()) :
    NameUse.checkAll function.names = .ok () := by
  have htree := NameUse.isValid_declared (SwiftType.isPlain_treeName htype hmark)
  have hvalid := NameUse.isValid_declared hname
  rcases hreturns with hreturns | hreturns <;>
    simp [Function.names, hparameters, hreturns, hbody, TypeExpr.names, htree, hvalid]

lemma checkAll_listProtocol : NameUse.checkAll (listProtocol type).names = .ok () := by
  refine checkAll_decl (SwiftType.isPlain_listBuildable htype) ?_ (by simp [listProtocol]) ?_
  · rw [listProtocol]
    split
    · simp
    · rw [List.forall_mem_singleton]
      exact checkAll_ofText (SwiftType.isPlain_listBuildable isPlain_rootType)
  · rw [listProtocol, List.forall_mem_singleton]
    exact checkAll_buildsTree htype hmark ((SwiftType.isPlain_buildMethod htype).append
      (isPlain_of_mem_words (by simp))) rfl (Or.inr rfl) rfl

lemma checkAll_buildableProtocol : NameUse.checkAll (buildableProtocol type).names = .ok () := by
  refine checkAll_decl (SwiftType.isPlain_buildable htype hmark) ?_ (by simp [buildableProtocol]) ?_
  · rw [buildableProtocol, List.forall_mem_append, List.forall_mem_cons, List.forall_mem_singleton]
    refine ⟨⟨SwiftType.checkAll_expressibleAs htype,
      checkAll_ofText (SwiftType.isPlain_listBuildable htype)⟩, ?_⟩
    split
    · simp
    · simpa using SwiftType.checkAll_buildable isPlain_rootType
  · rw [buildableProtocol, List.forall_mem_singleton]
    exact checkAll_buildsTree htype hmark (SwiftType.isPlain_buildMethod htype) rfl (Or.inl rfl) rfl

omit hmark in
/-- A call that makes the tree of a base out of that of a type. -/
lemma checkAll_callTree (hbase : IsPlain base.baseName) (hbaseMark : base.isOptional = false) :
    NameUse.checkAll (callWith (.name base.treeName) (callWithFormat type.buildMethod)).names
      = .ok () := by
  have htree := NameUse.isValid_operand (SwiftType.isPlain_treeName hbase hbaseMark)
  simp [checkAll_callWithFormat (SwiftType.isPlain_buildMethod htype), Expr.names, htree]

lemma checkAll_buildableExtension :
    NameUse.checkAll (buildableExtension type).names = .ok () := by
  have hbuild := SwiftType.isPlain_buildMethod htype
  refine checkAll_decl (SwiftType.isPlain_buildable htype hmark) (by simp [buildableExtension])
    (by simp [buildableExtension]) ?_
  rw [buildableExtension, List.forall_mem_append, List.forall_mem_cons, List.forall_mem_singleton]
  refine ⟨⟨?_, ?_⟩, ?_⟩
  · exact checkAll_returningFunction (SwiftType.isPlain_createMethod htype)
      (SwiftType.isPlain_buildable htype hmark) checkAll_selfExpr
  · refine checkAll_buildsTree htype hmark (hbuild.append (isPlain_of_mem_words (by simp))) rfl
      (Or.inr rfl) ?_
    simpa [singletonBuild, Statement.names, Expr.names] using checkAll_callWithFormat hbuild
  · split
    · simp
    · rw [List.forall_mem_singleton]
      refine checkAll_buildsTree isPlain_rootType rfl
        (SwiftType.isPlain_buildMethod isPlain_rootType) rfl (Or.inl rfl) ?_
      simpa [rootBuild, Statement.names] using checkAll_callTree htype isPlain_rootType rfl

end Types

section Kinds

variable (h : Grammar.Accepts declarations grammar) (hplain : grammar.HasPlainNames)

include hplain in
lemma isPlain_ofKind (hkind : kind ∈ grammar.kinds) : IsPlain (SwiftType.ofKind kind).baseName := by
  rw [SwiftType.baseName_ofKind]
  exact hplain.kinds kind hkind

include hplain in
lemma checkAll_baseDecls (hkind : kind ∈ grammar.kinds) :
    NameUse.checkAll ((baseDecls kind).flatMap Decl.names) = .ok () := by
  have htype := isPlain_ofKind hplain hkind
  simp [baseDecls, checkAll_listProtocol htype rfl, checkAll_buildableProtocol htype rfl,
    checkAll_buildableExtension htype rfl]

include h hplain in
/-- What a kind converts to goes by a plain name, and so does the slot that is filled. -/
lemma isPlain_target (hkind : kind ∈ grammar.kinds) {conformance : Conformance}
    (hmem : conformance ∈ grammar.conformances kind.name) :
    IsPlain (SwiftType.ofName grammar conformance.target).baseName
      ∧ (SwiftType.ofName grammar conformance.target).isOptional = false
      ∧ ∀ slot, conformance.conversion = .wrap slot → IsPlain (Text.lowerCamel slot) := by
  obtain ⟨target, htarget, hname⟩ := h.exists_target hkind hmem
  rw [← hname, h.ofName_eq_ofKind htarget]
  refine ⟨isPlain_ofKind hplain htarget, rfl, fun slotName hwrap => ?_⟩
  -- the slot is one of the kind that is made
  obtain ⟨wrapper, hwrapper, _, slot, rfl, hslot, _⟩ :=
    h.exists_conversionSlot_of_wrap hkind hmem hwrap
  have hslotMem := (Catalog.conversionSlot?_cases hslot).1
  exact (hplain.slots wrapper (List.mem_of_mem_filter hwrapper) slot hslotMem).lowerCamel

include h hplain in
lemma checkAll_conversionFunction (hkind : kind ∈ grammar.kinds) {conformance : Conformance}
    (hmem : conformance ∈ grammar.conformances kind.name) :
    NameUse.checkAll (conversionFunction grammar kind conformance).names = .ok () := by
  obtain ⟨htarget, hmark, hslot⟩ := isPlain_target h hplain hkind hmem
  have hbuildable := SwiftType.isPlain_buildable htarget hmark
  refine checkAll_returningFunction (SwiftType.isPlain_createMethod htarget) hbuildable ?_
  cases hconversion : conformance.conversion with
  | upcast =>
      have hcreate := SwiftType.isPlain_createMethod (isPlain_ofKind hplain hkind)
      simpa [conversionValue, Expr.names] using NameUse.isValid_operand hcreate
  | wrap slot =>
      simp [conversionValue, Expr.names, Arguments.ofList, Arguments.names,
        NameUse.isValid_operand hbuildable, NameUse.isValid_declared (hslot slot hconversion)]

include h hplain in
lemma checkAll_expressibleDecls (hkind : kind ∈ grammar.kinds) :
    NameUse.checkAll ((expressibleDecls grammar kind).flatMap Decl.names) = .ok () := by
  have htype := isPlain_ofKind hplain hkind
  have hname := SwiftType.isPlain_expressibleAs htype rfl
  rw [NameUse.checkAll_flatMap_iff]
  intro decl hdecl
  rcases mem_expressibleDecls_iff.mp hdecl with rfl | ⟨_, rfl⟩
  · refine checkAll_decl hname ?_ (by simp [expressibleProtocol]) ?_
    · rw [expressibleProtocol, List.forall_mem_map, inheritedProtocols, List.forall_mem_append,
        List.forall_mem_map]
      refine ⟨fun conformance hmem => ?_, ?_⟩
      · exact SwiftType.checkAll_expressibleAs (isPlain_target h hplain hkind hmem).1
      split
      · simpa using SwiftType.checkAll_expressibleAs isPlain_rootType
      · simp
    · rw [expressibleProtocol, List.forall_mem_singleton]
      have hcreate := NameUse.isValid_declared (SwiftType.isPlain_createMethod htype)
      have hbuildable := NameUse.isValid_declared (SwiftType.isPlain_buildableBaseName htype)
      simp [Member.names, createRequirement, Function.names, TypeExpr.names, hcreate, hbuildable]
  · refine checkAll_decl hname (by simp [expressibleExtension]) (by simp [expressibleExtension]) ?_
    rw [expressibleExtension, List.forall_mem_map]
    exact fun conformance hmem => checkAll_conversionFunction h hplain hkind hmem

end Kinds

/-! ## Structs -/

lemma isPlain_tokenMember (hplain : grammar.HasPlainNames) {reference : TypeRef} {token : TokenKind}
    (htoken : grammar.fixedToken? reference = some token) :
    IsPlain (SlotView.tokenMember token) := by
  rw [Catalog.fixedToken?, Option.filter_eq_some_iff] at htoken
  obtain ⟨hfound, htext⟩ := htoken
  have hmem : token ∈ grammar.tokens := by
    cases reference with
    | token name => exact List.mem_of_find?_eq_some hfound
    | node name => simp [Catalog.tokenOf?] at hfound
    | anyToken => simp [Catalog.tokenOf?] at hfound
  have hname := (hplain.tokens token hmem htext).lowerCamel
  rw [SlotView.tokenMember]
  split
  · exact hname.append (isPlain_of_mem_words (by simp))
  all_goals exact hname

section Slots

variable {view : SlotView} (hlabel : IsPlain view.label) (hview : IsPlain view.type.baseName)

include hlabel in
lemma checkAll_member {name : String} (hname : IsPlain name) :
    NameUse.checkAll (view.member name).names = .ok () := by
  have hoperand := NameUse.isValid_operand hlabel
  have hdeclared := NameUse.isValid_declared hname
  cases hoptional : view.slot.isOptional <;>
    simp [SlotView.member, hoptional, Expr.names, hoperand, hdeclared]

include hlabel hview in
lemma checkAll_property : NameUse.checkAll view.property.names = .ok () := by
  simp [SlotView.property, Member.names, SwiftType.checkAll_buildable hview,
    NameUse.isValid_declared hlabel]

include hlabel hview in
lemma checkAll_assignment : NameUse.checkAll view.assignment.names = .ok () := by
  have hcreated : NameUse.checkAll view.created.names = .ok () := by
    rw [SlotView.created]
    split
    · exact checkAll_member hlabel (isPlain_of_mem_words (by simp))
    · simpa [Expr.names] using NameUse.isValid_operand hlabel
    all_goals
      rw [names_callEmpty]
      exact checkAll_member hlabel (SwiftType.isPlain_createMethod hview)
  simp [SlotView.assignment, Statement.names, hcreated, Expr.names, NameUse.isValid_declared hlabel]

include hlabel hview in
lemma checkAll_built : NameUse.checkAll view.built.names = .ok () := by
  have hoperand := NameUse.isValid_operand hlabel
  have hmember := checkAll_member hlabel
    (isPlain_of_mem_words (by simp : "withLeadingTrivia" ∈ words))
  have hbuild := checkAll_member hlabel (SwiftType.isPlain_buildMethod hview)
  rw [SlotView.built]
  -- a token is only given its trivia, everything else is built
  split
  · rw [SlotView.leadingTrivia]
    cases view.slot.onNewLine <;> cases view.slot.isSpaced <;>
      simp [Expr.names, hmember, hoperand]
  · cases view.slot.onNewLine <;> cases view.slot.isIndented <;>
      simp [Expr.names, Arguments.ofList, Arguments.names, hbuild]

include hlabel hview in
lemma checkAll_parameter (hplain : grammar.HasPlainNames) :
    NameUse.checkAll (view.parameter grammar).names = .ok () := by
  have hfallback : ∀ value ∈ (view.fallback grammar).toList,
      NameUse.checkAll value.names = .ok () := by
    intro value hvalue
    rw [Option.mem_toList, SlotView.fallback] at hvalue
    split at hvalue
    · obtain rfl := Option.some.inj hvalue
      rfl
    · obtain ⟨token, htoken, rfl⟩ := Option.map_eq_some_iff.mp hvalue
      have hname := isPlain_tokenMember hplain htoken
      simp [Expr.names, NameUse.isValid_declared hname]
  simp [SlotView.parameter, Parameter.names, SwiftType.checkAll_parameterName hview,
    NameUse.checkAll_flatMap_iff.mpr hfallback, NameUse.isValid_declared hlabel]

end Slots

@[simp] lemma checkAll_triviaProperty : NameUse.checkAll triviaProperty.names = .ok () := by
  simp [triviaProperty, Member.names]

@[simp] lemma checkAll_triviaParameter : NameUse.checkAll triviaParameter.names = .ok () := by
  simp [triviaParameter, Parameter.names, Expr.names]

@[simp] lemma checkAll_triviaAssignment : NameUse.checkAll triviaAssignment.names = .ok () := by
  simp [triviaAssignment, Statement.names, Expr.names]

lemma checkAll_arguments {arguments : List (Option String × Expr)}
    (h : ∀ argument ∈ arguments, NameUse.checkAll argument.2.names = .ok ()
      ∧ ∀ label ∈ argument.1, IsPlain label) :
    NameUse.checkAll (Arguments.ofList arguments).names = .ok () := by
  induction arguments with
  | nil => rfl
  | cons argument rest ih =>
      obtain ⟨label, value⟩ := argument
      obtain ⟨⟨hvalue, hlabel⟩, hrest⟩ := List.forall_mem_cons.mp h
      rw [Arguments.ofList, Arguments.names, NameUse.checkAll_append_iff,
        NameUse.checkAll_append_iff]
      refine ⟨⟨hvalue, ?_⟩, ih hrest⟩
      cases label with
      | none => rfl
      | some label => simpa using NameUse.isValid_declared (hlabel label rfl)

section Functions

variable {views : List SlotView} (htype : IsPlain type.baseName) (hmark : type.isOptional = false)
  (hbase : IsPlain base.baseName) (hbaseMark : base.isOptional = false)
  (hviews : ∀ view ∈ views, IsPlain view.label ∧ IsPlain view.type.baseName)

include htype hmark hviews in
lemma checkAll_buildFunction : NameUse.checkAll (buildFunction type views).names = .ok () := by
  have hmake := NameUse.isValid_declared
    ((isPlain_of_mem_words (by simp : "make" ∈ words)).append htype)
  have harguments : NameUse.checkAll
      (Arguments.ofList (views.map fun view => (some view.label, view.built))).names = .ok () := by
    refine checkAll_arguments (List.forall_mem_map.mpr fun view hview => ?_)
    obtain ⟨hlabel, hview⟩ := hviews view hview
    exact ⟨checkAll_built hlabel hview, by simpa using hlabel⟩
  refine checkAll_buildsTree htype hmark (SwiftType.isPlain_buildMethod htype) rfl (Or.inl rfl) ?_
  simp [buildFunction, Statement.names, Expr.names, harguments, hmake]

include htype hbase hbaseMark in
lemma checkAll_buildBaseFunction :
    NameUse.checkAll (buildBaseFunction type base).names = .ok () := by
  refine checkAll_buildsTree hbase hbaseMark (SwiftType.isPlain_buildMethod hbase) rfl
    (Or.inl rfl) ?_
  simpa [buildBaseFunction, Statement.names] using checkAll_callTree htype hbase hbaseMark

lemma checkAll_fixedRootCreate (buildable : String) :
    NameUse.checkAll (fixedRootCreate buildable).names = .ok () :=
  checkAll_returningFunction (SwiftType.isPlain_createMethod isPlain_rootType)
    (SwiftType.isPlain_buildable isPlain_rootType rfl) checkAll_selfExpr

include htype hmark hbase hbaseMark hviews in
lemma checkAll_nodeFunctions :
    NameUse.checkAll ((nodeFunctions type base views).flatMap Function.names) = .ok () := by
  rw [NameUse.checkAll_flatMap_iff, nodeFunctions, List.forall_mem_append, List.forall_mem_append,
    List.forall_mem_cons, List.forall_mem_cons, List.forall_mem_singleton,
    List.forall_mem_singleton]
  refine ⟨⟨⟨checkAll_buildFunction htype hmark hviews,
    checkAll_buildBaseFunction htype hbase hbaseMark, ?_⟩, ?_⟩, checkAll_fixedRootCreate _⟩
  · exact checkAll_returningFunction (SwiftType.isPlain_createMethod htype)
      (SwiftType.isPlain_buildable htype hmark) checkAll_selfExpr
  · split
    · simp
    · rw [List.forall_mem_singleton]
      exact checkAll_returningFunction (SwiftType.isPlain_createMethod hbase)
        (SwiftType.isPlain_buildable hbase hbaseMark) checkAll_selfExpr

end Functions

section Kinds

variable (h : Grammar.Accepts declarations grammar) (hplain : grammar.HasPlainNames)

include h hplain in
lemma isPlain_ofReference (hkind : kind ∈ grammar.kinds) {reference : TypeRef}
    (hmem : reference ∈ kind.references) :
    IsPlain (SwiftType.ofReference grammar reference).baseName := by
  cases reference with
  | token name => exact isPlain_of_mem_words (by simp : "Token" ∈ words)
  | anyToken => exact isPlain_of_mem_words (by simp : "Token" ∈ words)
  | node name =>
      have hresolves := h.resolves_of_mem hkind hmem
      obtain ⟨found, hfound⟩ := Option.isSome_iff_exists.mp hresolves
      obtain ⟨hfoundMem, rfl⟩ := Catalog.mem_and_name_of_kind? hfound
      rw [SwiftType.ofReference, h.ofName_eq_ofKind hfoundMem]
      exact isPlain_ofKind hplain hfoundMem

include h hplain in
lemma checkAll_nodeStructNames (hkind : kind ∈ grammar.concreteKinds) :
    NameUse.checkAll (nodeStructNames grammar kind) = .ok () := by
  have hmem := List.mem_of_mem_filter hkind
  have htype := isPlain_ofKind hplain hmem
  obtain ⟨base, hbase, _, _, hbaseType⟩ := exists_baseType h hkind
  have hbasePlain := isPlain_ofKind hplain hbase
  -- the label of a slot and the type it refers to are all that the code of the slot is made of
  have hviews : ∀ view ∈ slotViews grammar kind,
      IsPlain view.label ∧ IsPlain view.type.baseName := by
    rw [slotViews, List.forall_mem_map]
    intro slot hslot
    exact ⟨(hplain.slots kind hmem slot hslot).lowerCamel,
      isPlain_ofReference h hplain hmem (NodeKind.type_mem_references hslot)⟩
  have hhead : NameUse.checkAll (nodeStruct grammar kind).headNames = .ok () := by
    refine checkAll_headNames (hplain.kinds kind hmem) ?_ (by simp [nodeStruct])
    rw [nodeStruct, hbaseType, List.forall_mem_cons, List.forall_mem_singleton]
    exact ⟨SwiftType.checkAll_buildable hbasePlain, SwiftType.checkAll_expressibleAs htype⟩
  have hproperties : NameUse.checkAll ((triviaProperty
      :: (slotViews grammar kind).map SlotView.property).flatMap Member.names) = .ok () := by
    rw [NameUse.checkAll_flatMap_iff, List.forall_mem_cons, List.forall_mem_map]
    exact ⟨checkAll_triviaProperty,
      fun view hview => checkAll_property (hviews view hview).1 (hviews view hview).2⟩
  have hslots : NameUse.checkAll ((slotViews grammar kind).flatMap fun view =>
      (view.parameter grammar).names ++ view.assignment.names) = .ok () := by
    rw [NameUse.checkAll_flatMap_iff]
    intro view hview
    obtain ⟨hlabel, hview⟩ := hviews view hview
    exact NameUse.checkAll_append_iff.mpr
      ⟨checkAll_parameter hlabel hview hplain, checkAll_assignment hlabel hview⟩
  have hfunctions := checkAll_nodeFunctions htype rfl hbasePlain rfl hviews
  simp only [nodeStructNames, NameUse.checkAll_append_iff, hbaseType, hproperties, hslots,
    hfunctions, hhead, checkAll_triviaParameter, checkAll_triviaAssignment, and_self]

end Kinds

/-! ## Collections -/

section Collections

variable {element : SwiftType} (h : Grammar.Accepts declarations grammar)
  (hplain : grammar.HasPlainNames)

lemma isValid_closureArgument : (NameUse.operand "$0").IsValid := ⟨_, rfl⟩

lemma checkAll_elementsInitializer (kind : NodeKind) (helement : IsPlain element.baseName) :
    NameUse.checkAll ((elementsInitializer kind element).body.flatMap Statement.names) = .ok ()
      ∧ NameUse.checkAll ((elementsInitializer kind element).parameters.flatMap Parameter.names)
        = .ok () := by
  have hcreate := NameUse.isValid_declared (SwiftType.isPlain_createMethod helement)
  have hcreated : NameUse.checkAll (createdElements element).names = .ok () := by
    rw [createdElements]
    split
    · simp [Expr.names]
    · simp [Expr.names, isValid_closureArgument, hcreate]
  have hexpressible := SwiftType.checkAll_expressibleAs helement
  constructor
  · simp [elementsInitializer, Statement.names, Expr.names, hcreated]
  · simp [elementsInitializer, Parameter.names, TypeExpr.names, hexpressible]

lemma checkAll_combiningInitializer (htype : IsPlain type.baseName) :
    NameUse.checkAll (combiningInitializer kind type).names = .ok () := by
  have hcreate := NameUse.isValid_declared (SwiftType.isPlain_createMethod htype)
  simp [combiningInitializer, Initializer.names, Parameter.names, TypeExpr.names, Statement.names,
    Expr.names, SwiftType.checkAll_expressibleAs htype, isValid_closureArgument, hcreate]

lemma checkAll_literalInitializer (helement : IsPlain element.baseName) :
    NameUse.checkAll (literalInitializer element).names = .ok () := by
  simp [literalInitializer, Initializer.names, Parameter.names, Statement.names, Expr.names,
    SwiftType.checkAll_expressibleAs helement]

lemma checkAll_elementsProperty (helement : IsPlain element.baseName) :
    NameUse.checkAll (elementsProperty element).names = .ok () := by
  simp [elementsProperty, Member.names, TypeExpr.names, SwiftType.checkAll_buildable helement]

lemma checkAll_builtElements (helement : IsPlain element.baseName) :
    NameUse.checkAll (builtElements kind element).names = .ok () := by
  have hbuild := NameUse.isValid_declared (SwiftType.isPlain_buildMethod helement)
  rw [builtElements]
  split
  · simp [Expr.names]
  · cases kind.onNewLines <;>
      simp [Expr.names, Arguments.ofList, Arguments.names, isValid_closureArgument, hbuild]

lemma checkAll_collectionFunctions (htype : IsPlain (SwiftType.ofKind kind).baseName)
    (helement : IsPlain element.baseName) :
    NameUse.checkAll ((collectionFunctions kind element).flatMap Function.names) = .ok () := by
  have hmake := NameUse.isValid_declared
    ((isPlain_of_mem_words (by simp : "make" ∈ words)).append htype)
  rw [SwiftType.baseName_ofKind] at hmake
  rw [NameUse.checkAll_flatMap_iff, collectionFunctions, List.forall_mem_cons, List.forall_mem_cons,
    List.forall_mem_cons, List.forall_mem_singleton]
  refine ⟨?_, ?_, ?_, checkAll_fixedRootCreate _⟩
  · refine checkAll_buildsTree htype rfl (SwiftType.isPlain_buildMethod htype) rfl (Or.inl rfl) ?_
    simp [buildCollection, Statement.names, Expr.names, checkAll_builtElements helement, hmake]
  · refine checkAll_buildsTree isPlain_rootType rfl (SwiftType.isPlain_buildMethod isPlain_rootType)
      rfl (Or.inl rfl) ?_
    simpa [buildCollectionRoot, Statement.names] using checkAll_callTree htype isPlain_rootType rfl
  · exact checkAll_returningFunction (SwiftType.isPlain_createMethod htype)
      (SwiftType.isPlain_buildable htype rfl) checkAll_selfExpr

include hplain in
lemma checkAll_collectionStructNames (hkind : kind ∈ grammar.kinds)
    (helement : IsPlain element.baseName) :
    NameUse.checkAll (collectionStructNames kind element) = .ok () := by
  have htype := isPlain_ofKind hplain hkind
  have hhead : NameUse.checkAll (collectionStruct kind element).headNames = .ok () := by
    refine checkAll_headNames (hplain.kinds kind hkind) ?_ (by simp [collectionStruct])
    rw [collectionStruct, List.forall_mem_cons, List.forall_mem_cons, List.forall_mem_singleton]
    exact ⟨checkAll_ofText_of_mem_words (by simp), SwiftType.checkAll_buildable isPlain_rootType,
      SwiftType.checkAll_expressibleAs htype⟩
  obtain ⟨hbody, hparameters⟩ := checkAll_elementsInitializer kind helement
  simp only [collectionStructNames, NameUse.checkAll_append_iff, hbody, hparameters,
    checkAll_combiningInitializer htype, checkAll_literalInitializer helement,
    checkAll_elementsProperty helement, checkAll_collectionFunctions htype helement, hhead,
    and_self]

include hplain in
lemma checkAll_arrayExtension (hkind : kind ∈ grammar.kinds) (helement : IsPlain element.baseName) :
    NameUse.checkAll (arrayExtension kind element).names = .ok () := by
  have htype := isPlain_ofKind hplain hkind
  have hbuildable := SwiftType.isPlain_buildable htype rfl
  refine checkAll_decl (isPlain_of_mem_words (by simp : "Array" ∈ words)) ?_ ?_ ?_
  · rw [arrayExtension, List.forall_mem_singleton]
    exact SwiftType.checkAll_expressibleAs htype
  · rintro same ⟨⟩
    exact ⟨isPlain_of_mem_words (by simp : "Element" ∈ words),
      SwiftType.checkAll_expressibleAs helement⟩
  · rw [arrayExtension, List.forall_mem_singleton]
    refine checkAll_returningFunction (SwiftType.isPlain_createMethod htype) hbuildable ?_
    rw [names_callWith, NameUse.checkAll_append_iff]
    exact ⟨checkAll_selfExpr, by simpa [Expr.names] using NameUse.isValid_operand hbuildable⟩

include h hplain in
lemma checkAll_collectionDrafts (hkind : kind ∈ grammar.kinds) :
    NameUse.checkAll ((collectionDrafts grammar kind).flatMap Draft.names) = .ok () := by
  rw [NameUse.checkAll_flatMap_iff, collectionDrafts]
  split
  · simp
  · next reference hreference =>
      have helement := isPlain_ofReference h hplain hkind
        (NodeKind.element_mem_references hreference)
      rw [List.forall_mem_cons]
      refine ⟨checkAll_collectionStructNames hplain hkind helement, ?_⟩
      split
      · rw [List.forall_mem_singleton]
        exact checkAll_arrayExtension hplain hkind helement
      · simp

include h hplain in
/-- In every file, whether it is written or not, all names may stand where they do. -/
lemma checkAll_fileDrafts : ∀ file ∈ fileDrafts grammar,
    NameUse.checkAll (file.2.flatMap Draft.names) = .ok () := by
  -- one file after the other, and in each of them kind by kind
  simp only [fileDrafts, List.forall_mem_cons, List.not_mem_nil, false_implies, implies_true,
    and_true, List.flatMap_map]
  refine ⟨?_, ?_, ?_, ?_⟩
  · rw [baseProtocols, List.flatMap_assoc, NameUse.checkAll_flatMap_iff]
    intro kind hkind
    have hmem := (Grammar.mem_generatingKinds.mp (mem_protocolBases.mp hkind).1).1
    exact checkAll_baseDecls hplain hmem
  · rw [collectionStructs, List.flatMap_assoc, NameUse.checkAll_flatMap_iff]
    exact fun kind hkind => checkAll_collectionDrafts h hplain (List.mem_of_mem_filter hkind)
  · rw [nodeStructs, List.flatMap_map, NameUse.checkAll_flatMap_iff]
    exact fun kind hkind => checkAll_nodeStructNames h hplain hkind
  · rw [expressibleProtocols, List.flatMap_assoc, NameUse.checkAll_flatMap_iff]
    intro kind hkind
    exact checkAll_expressibleDecls h hplain (Grammar.mem_generatingKinds.mp hkind).1

include h hplain in
/-- **The files of a grammar with plain names are generated**, unless names collide. -/
theorem exists_files_of_hasPlainNames (hnames : grammar.checkNames = .ok ()) :
    ∃ sources, files grammar = .ok sources :=
  exists_files_iff.mpr ⟨hnames, checkAll_fileDrafts h hplain⟩

end Collections

end Generate

end SyntaxForge
