import SyntaxForge.Proofs.GeneratedFiles

/-!
# Types that generated code mentions

Generated code mentions types by name: in what a declaration inherits from, in what it requires,
and in the constants, parameters and results of its members.  Every kind has names of its own, but
the base of collections has no declarations that such a name could refer to.

* `Resolved`: a type whose name is declared, or is no name of a protocol of a base.
* `Grammar.ReservesCollectionBase`: the base of collections is a base and nothing else.
* `resolved_generatedDecls`: **if it is, all types of all declarations are resolved**.
-/

namespace SyntaxForge

namespace Code

/-! ## Mentioned and declared names -/

/-- The types that a member is declared with. -/
def Member.types : Member → List TypeExpr
  | .constant _ type => [type]
  | .function declared => declared.returns :: declared.parameters.map Parameter.type
  | .initializer declared => declared.parameters.map Parameter.type

/-- The types in a declaration: what it inherits from, what it requires, and those of its
members. -/
def Decl.types (decl : Decl) : List TypeExpr :=
  decl.inherits ++ decl.requirement.toList.map SameType.type ++ decl.members.flatMap Member.types

/-- Some declaration has a type of this name. -/
def Mentions (decls : List Decl) (name : String) : Prop :=
  ∃ decl ∈ decls, ∃ type ∈ decl.types, NameUse.declared name ∈ type.names

/-- Some protocol or struct has this name. -/
def Declares (decls : List Decl) (name : String) : Prop :=
  ∃ decl ∈ decls, decl.form ≠ .extend ∧ decl.name = name

instance (decls : List Decl) (name : String) : Decidable (Mentions decls name) :=
  inferInstanceAs
    (Decidable (∃ decl ∈ decls, ∃ type ∈ decl.types, NameUse.declared name ∈ type.names))

instance (decls : List Decl) (name : String) : Decidable (Declares decls name) :=
  inferInstanceAs (Decidable (∃ decl ∈ decls, decl.form ≠ .extend ∧ decl.name = name))

lemma mem_types_iff {decl : Decl} {type : TypeExpr} : type ∈ decl.types
    ↔ type ∈ decl.inherits ∨ (∃ same ∈ decl.requirement, same.type = type)
      ∨ ∃ member ∈ decl.members, type ∈ member.types := by
  simp [Decl.types]

end Code

/-- The base of collections is a base, which collections and other bases may derive from; no other
kind derives from it, refers to it, or converts to it. -/
structure Grammar.ReservesCollectionBase (grammar : Grammar) : Prop where
  isBase : ∀ kind ∈ grammar.kinds, kind.name = collectionBaseName → kind.isBase = true
  not_base : ∀ kind ∈ grammar.concreteKinds, kind.base ≠ some collectionBaseName
  not_reference : ∀ kind ∈ grammar.kinds, TypeRef.node collectionBaseName ∉ kind.references
  not_target : ∀ kind ∈ grammar.kinds, collectionBaseName ∉ grammar.targets kind.name

namespace Generate

open Code

variable {declarations : Declarations} {grammar : Grammar} {kind : NodeKind} {decl : Decl}
  {sources : List SourceFile}

/-! ## Declared names -/

lemma Owns.declares (howns : Owns grammar kind decl) :
    Declares (generatedDecls grammar) decl.name :=
  ⟨decl, howns.generated.1, howns.generated.2, rfl⟩

lemma declares_expressibleAs (hkind : kind ∈ grammar.generatingKinds) :
    Declares (generatedDecls grammar) (SwiftType.ofKind kind).expressibleAs :=
  (Owns.expressible hkind).declares

/-- A kind that is no base has a struct. -/
lemma declares_name (hkind : kind ∈ grammar.kinds) (hbase : kind.isBase = false) :
    Declares (generatedDecls grammar) kind.name := by
  obtain ⟨struct, howns, hname, _⟩ := exists_struct hkind hbase
  exact hname ▸ howns.declares

/-- What builds a kind is declared: its protocol if it is a base, else its struct. -/
lemma declares_buildable (h : Grammar.Accepts declarations grammar)
    (hkind : kind ∈ grammar.generatingKinds) :
    Declares (generatedDecls grammar) (SwiftType.ofKind kind).buildable := by
  cases hbase : kind.isBase with
  | true => exact (Owns.buildable (mem_protocolBases.mpr ⟨hkind, hbase⟩)).declares
  | false =>
      have hmem := (Grammar.mem_generatingKinds.mp hkind).1
      rw [h.buildable_eq_name hmem hbase]
      exact declares_name hmem hbase

/-! ## Names that protocols of bases do not have -/

/-- The name ends as the names of the protocols of bases do. -/
def EndsBuildable (name : String) : Prop := "Buildable".toList <:+ name.toList

instance : DecidablePred EndsBuildable := fun name =>
  inferInstanceAs (Decidable ("Buildable".toList <:+ name.toList))

lemma endsBuildable_append (name : String) : EndsBuildable (name ++ "Buildable") := by
  rw [EndsBuildable, String.toList_append]
  exact List.suffix_append _ _

lemma endsBuildable_append_list (name : String) : EndsBuildable (name ++ "ListBuildable") := by
  rw [EndsBuildable, String.toList_append]
  exact List.IsSuffix.trans (by decide) (List.suffix_append _ _)

/-- The name of a tree is no such name. -/
lemma not_endsBuildable_treeName (kind : NodeKind) :
    ¬ EndsBuildable (SwiftType.ofKind kind).treeName := by
  have htree : (SwiftType.ofKind kind).treeName = "Syntax"
      ∨ (SwiftType.ofKind kind).treeName = kind.name ++ "Syntax" := by
    rw [SwiftType.treeName, SwiftType.mark_ofKind, SwiftType.ofKind]
    cases kind.isRoot <;> cases kind.isBase <;> simp
  rcases htree with heq | heq
  · rw [heq]
    decide
  · rw [heq, EndsBuildable, String.toList_append]
    rintro ⟨front, hfront⟩
    -- the two words end in different letters
    have hlast := congrArg List.getLast? hfront
    simp at hlast

/-! ## Resolved types -/

/-- The names in a type are declared, or are no names of protocols of bases. -/
def Resolved (grammar : Grammar) (type : TypeExpr) : Prop :=
  ∀ name, NameUse.declared name ∈ type.names →
    Declares (generatedDecls grammar) name ∨ ¬ EndsBuildable name

lemma resolved_named {name : String}
    (hname : Declares (generatedDecls grammar) name ∨ ¬ EndsBuildable name) :
    Resolved grammar (.named name) := by
  intro other hother
  simp only [TypeExpr.names, List.mem_singleton, NameUse.declared.injEq] at hother
  rwa [hother]

lemma resolved_ofText {name : String} (hmark : '?' ∉ name.toList) (isOptional : Bool)
    (hname : Declares (generatedDecls grammar) name ∨ ¬ EndsBuildable name) :
    Resolved grammar (.ofText (name ++ if isOptional then "?" else "")) := by
  rw [Resolved, TypeExpr.names_ofText_append, TypeExpr.names_ofText hmark]
  exact resolved_named hname

lemma resolved_treeName (grammar : Grammar) (kind : NodeKind) :
    Resolved grammar (.named (SwiftType.ofKind kind).treeName) :=
  resolved_named (Or.inr (not_endsBuildable_treeName kind))

/-- A type that is a token, or a kind that generates types. -/
def Stands (grammar : Grammar) (type : SwiftType) : Prop :=
  type.isToken = true
    ∨ ∃ kind ∈ grammar.generatingKinds, type = (SwiftType.ofKind kind).optional type.isOptional

section Stands

variable (h : Grammar.Accepts declarations grammar) (hfiles : files grammar = .ok sources)
  {type : SwiftType}

lemma buildable_of_isToken (htoken : type.isToken = true) :
    type.buildable = "TokenSyntax" ++ if type.isOptional then "?" else "" := by
  rw [SwiftType.isToken] at htoken
  rw [SwiftType.buildable, SwiftType.buildableBaseName, SwiftType.mark]
  cases hflavor : type.flavor <;> simp [hflavor] at htoken ⊢

lemma resolved_tokenText (grammar : Grammar) {name : String}
    (hname : name = "TokenSyntax" ∨ name = "IdentifierToken") (isOptional : Bool) :
    Resolved grammar (.ofText (name ++ if isOptional then "?" else "")) := by
  rcases hname with rfl | rfl
  · exact resolved_ofText (by decide) isOptional (Or.inr (by decide))
  · exact resolved_ofText (by decide) isOptional (Or.inr (by decide))

include h hfiles in
lemma Stands.resolved_buildable (hstands : Stands grammar type) :
    Resolved grammar (.ofText type.buildable) := by
  rcases hstands with htoken | ⟨kind, hkind, htype⟩
  · rw [buildable_of_isToken htoken]
    exact resolved_tokenText grammar (Or.inl rfl) _
  · -- a question mark in the name would stand in what the kind is expressible as, too
    have hmark : '?' ∉ (SwiftType.ofKind kind).buildableBaseName.toList := by
      intro hmem
      refine not_mem_of_files hfiles hkind ?_
      rw [SwiftType.expressibleAs_ofKind, String.toList_append]
      exact List.mem_append_right _ hmem
    have hdeclares := declares_buildable h hkind
    rw [SwiftType.buildable_ofKind] at hdeclares
    rw [htype]
    exact resolved_ofText hmark type.isOptional (Or.inl hdeclares)

include hfiles in
lemma Stands.resolved_expressibleAs (hstands : Stands grammar type) :
    Resolved grammar (.ofText type.expressibleAs) := by
  rcases hstands with htoken | ⟨kind, hkind, htype⟩
  · rw [SwiftType.expressibleAs, if_pos htoken, buildable_of_isToken htoken]
    exact resolved_tokenText grammar (Or.inl rfl) _
  · rw [htype, SwiftType.expressibleAs_optional]
    exact resolved_ofText (not_mem_of_files hfiles hkind) type.isOptional
      (Or.inl (declares_expressibleAs hkind))

include hfiles in
lemma Stands.resolved_parameterName (hstands : Stands grammar type) :
    Resolved grammar (.ofText type.parameterName) := by
  rw [SwiftType.parameterName]
  cases hflavor : type.flavor with
  | token isIdentifier =>
      cases isIdentifier with
      | true => exact resolved_tokenText grammar (Or.inr rfl) _
      | false => exact hstands.resolved_expressibleAs hfiles
  | root => exact hstands.resolved_expressibleAs hfiles
  | base => exact hstands.resolved_expressibleAs hfiles
  | node => exact hstands.resolved_expressibleAs hfiles

end Stands

/-! ## Resolved declarations -/

section Members

variable {function : Function}

lemma resolved_formatParameters (grammar : Grammar) (isDefaulted : Bool) :
    ∀ type ∈ (formatParameters isDefaulted).map Parameter.type, Resolved grammar type := by
  simp only [formatParameters, List.map_cons, List.map_nil, List.forall_mem_cons, List.not_mem_nil,
    false_implies, implies_true, and_true]
  have htrivia : Resolved grammar (.named "Trivia") := resolved_named (Or.inr (by decide))
  exact ⟨resolved_named (Or.inr (by decide)), htrivia⟩

lemma resolved_function (hreturns : Resolved grammar function.returns)
    (hparameters : ∀ type ∈ function.parameters.map Parameter.type, Resolved grammar type) :
    ∀ type ∈ (Member.function function).types, Resolved grammar type := by
  rw [Member.types, List.forall_mem_cons]
  exact ⟨hreturns, hparameters⟩

/-- A function that returns a value of a type whose name is declared. -/
lemma resolved_returning {name : String} (hparameters : function.parameters = [])
    (hreturns : function.returns = .named name)
    (hname : Declares (generatedDecls grammar) name ∨ ¬ EndsBuildable name) :
    ∀ type ∈ (Member.function function).types, Resolved grammar type := by
  refine resolved_function (hreturns ▸ resolved_named hname) ?_
  rw [hparameters]
  exact List.forall_mem_nil _

/-- A function that builds trees. -/
lemma resolved_building {isDefaulted : Bool}
    (hreturns : function.returns = .named (SwiftType.ofKind kind).treeName
      ∨ function.returns = .array (.named (SwiftType.ofKind kind).treeName))
    (hparameters : function.parameters = formatParameters isDefaulted) :
    ∀ type ∈ (Member.function function).types, Resolved grammar type := by
  refine resolved_function ?_ (hparameters ▸ resolved_formatParameters grammar isDefaulted)
  rcases hreturns with hreturns | hreturns
  · rw [hreturns]
    exact resolved_treeName grammar kind
  · rw [hreturns]
    exact resolved_treeName grammar kind

/-- A declaration is resolved if what it inherits from, what it requires and its members are. -/
lemma resolved_decl (hinherits : ∀ type ∈ decl.inherits, Resolved grammar type)
    (hrequirement : ∀ same ∈ decl.requirement, Resolved grammar same.type)
    (hmembers : ∀ member ∈ decl.members, ∀ type ∈ member.types, Resolved grammar type) :
    ∀ type ∈ decl.types, Resolved grammar type := by
  intro type htype
  rcases mem_types_iff.mp htype with htype | ⟨same, hsame, rfl⟩ | ⟨member, hmember, htype⟩
  · exact hinherits type htype
  · exact hrequirement same hsame
  · exact hmembers member hmember type htype

end Members

section Reserved

variable (h : Grammar.Accepts declarations grammar) (hfiles : files grammar = .ok sources)
  (hreserves : grammar.ReservesCollectionBase)

lemma stands_ofKind (hkind : kind ∈ grammar.generatingKinds) : Stands grammar (.ofKind kind) :=
  Or.inr ⟨kind, hkind, rfl⟩

include h in
lemma stands_rootType : Stands grammar rootType := by
  obtain ⟨root, hroot, _, htype⟩ := exists_root_mem_protocolBases h
  rw [← htype]
  exact stands_ofKind (mem_protocolBases.mp hroot).1

include hreserves in
lemma mem_generatingKinds_of_reserves (hkind : kind ∈ grammar.kinds) (hbase : kind.isBase = false) :
    kind ∈ grammar.generatingKinds := by
  refine Grammar.mem_generatingKinds.mpr ⟨hkind, fun hname => ?_⟩
  rw [hreserves.isBase kind hkind hname] at hbase
  exact Bool.noConfusion hbase

include h hreserves in
/-- What a kind refers to is a token, or a kind that generates types. -/
lemma stands_ofReference (hkind : kind ∈ grammar.kinds) {reference : TypeRef}
    (hmem : reference ∈ kind.references) (isOptional : Bool) :
    Stands grammar ((SwiftType.ofReference grammar reference).optional isOptional) := by
  cases reference with
  | token name => exact Or.inl rfl
  | anyToken => exact Or.inl rfl
  | node name =>
      have hresolves := h.resolves_of_mem hkind hmem
      obtain ⟨found, hfound⟩ := Option.isSome_iff_exists.mp hresolves
      obtain ⟨hfoundMem, rfl⟩ := Catalog.mem_and_name_of_kind? hfound
      refine Or.inr ⟨found, Grammar.mem_generatingKinds.mpr ⟨hfoundMem, fun hname => ?_⟩, ?_⟩
      · exact hreserves.not_reference kind hkind (hname ▸ hmem)
      · rw [SwiftType.ofReference, h.ofName_eq_ofKind hfoundMem]
        rfl

include h hreserves in
/-- What a kind converts to generates types. -/
lemma exists_generating_target (hkind : kind ∈ grammar.kinds) {conformance : Conformance}
    (hmem : conformance ∈ grammar.conformances kind.name) :
    ∃ target ∈ grammar.generatingKinds,
      SwiftType.ofName grammar conformance.target = SwiftType.ofKind target := by
  obtain ⟨target, htarget, hname⟩ := h.exists_target hkind hmem
  refine ⟨target, Grammar.mem_generatingKinds.mpr ⟨htarget, fun hcollection => ?_⟩, ?_⟩
  · refine hreserves.not_target kind hkind ?_
    rw [← hcollection, hname]
    exact List.mem_map_of_mem hmem
  · rw [← hname, h.ofName_eq_ofKind htarget]

include hfiles in
lemma resolved_listBuildable (hkind : kind ∈ protocolBases grammar) :
    Resolved grammar (.ofText (SwiftType.ofKind kind).listBuildable) := by
  obtain ⟨hgenerating, hbase⟩ := mem_protocolBases.mp hkind
  have hmark := not_mem_of_files hfiles hgenerating
  rw [SwiftType.expressibleAs_ofKind, SwiftType.buildableBaseName_of_isBase hbase] at hmark
  have hmark' : '?' ∉ (SwiftType.ofKind kind).listBuildable.toList := by
    rw [SwiftType.listBuildable_ofKind]
    simpa using hmark
  simpa using resolved_ofText hmark' false (Or.inl (Owns.list hkind).declares)

include h hfiles in
lemma resolved_baseDecls (hkind : kind ∈ protocolBases grammar) (hdecl : decl ∈ baseDecls kind) :
    ∀ type ∈ decl.types, Resolved grammar type := by
  obtain ⟨root, hroot, _, htype⟩ := exists_root_mem_protocolBases h
  have hkindStands := stands_ofKind (mem_protocolBases.mp hkind).1
  have hrootStands := stands_rootType h
  rcases mem_baseDecls_iff.mp hdecl with rfl | rfl | rfl
  · refine resolved_decl ?_ (by simp [listProtocol]) ?_
    · rw [listProtocol, ← htype]
      split
      · simp
      · simpa using resolved_listBuildable hfiles hroot
    · simpa [listProtocol] using resolved_building (Or.inr rfl) rfl
  · refine resolved_decl ?_ (by simp [buildableProtocol]) ?_
    · rw [buildableProtocol, List.forall_mem_append, List.forall_mem_cons,
      List.forall_mem_singleton]
      refine ⟨⟨hkindStands.resolved_expressibleAs hfiles, resolved_listBuildable hfiles hkind⟩, ?_⟩
      split
      · simp
      · simpa using hrootStands.resolved_buildable h hfiles
    · simpa [buildableProtocol] using resolved_building (Or.inl rfl) rfl
  · refine resolved_decl (by simp [buildableExtension]) (by simp [buildableExtension]) ?_
    rw [buildableExtension, List.forall_mem_append, List.forall_mem_cons,
      List.forall_mem_singleton]
    refine ⟨⟨resolved_returning rfl rfl (Or.inl (Owns.buildable hkind).declares),
      resolved_building (Or.inr rfl) rfl⟩, ?_⟩
    split
    · simp
    · simpa using resolved_building (by rw [rootBuild, htype]; exact Or.inl rfl) rfl

include h hfiles hreserves in
lemma resolved_expressibleDecls (hkind : kind ∈ grammar.generatingKinds)
    (hdecl : decl ∈ expressibleDecls grammar kind) :
    ∀ type ∈ decl.types, Resolved grammar type := by
  have hmem := (Grammar.mem_generatingKinds.mp hkind).1
  rcases mem_expressibleDecls_iff.mp hdecl with rfl | ⟨_, rfl⟩
  · refine resolved_decl ?_ (by simp [expressibleProtocol]) ?_
    · rw [expressibleProtocol, List.forall_mem_map, inheritedProtocols, List.forall_mem_append,
        List.forall_mem_map]
      refine ⟨fun conformance hconformance => ?_, ?_⟩
      · obtain ⟨target, htarget, htype⟩ := exists_generating_target h hreserves hmem hconformance
        rw [htype]
        exact (stands_ofKind htarget).resolved_expressibleAs hfiles
      split
      · simpa using (stands_rootType h).resolved_expressibleAs hfiles
      · simp
    · simpa [expressibleProtocol] using
        resolved_returning rfl rfl (Or.inl (declares_buildable h hkind))
  · refine resolved_decl (by simp [expressibleExtension]) (by simp [expressibleExtension]) ?_
    rw [expressibleExtension, List.forall_mem_map]
    intro conformance hconformance
    obtain ⟨target, htarget, htype⟩ := exists_generating_target h hreserves hmem hconformance
    exact resolved_returning rfl (by rw [conversionFunction, htype]; rfl)
      (Or.inl (declares_buildable h htarget))

include h in
lemma resolved_fixedRootCreate (buildable : String) :
    ∀ type ∈ (Member.function (fixedRootCreate buildable)).types, Resolved grammar type := by
  obtain ⟨root, hroot, _, htype⟩ := exists_root_mem_protocolBases h
  exact resolved_returning rfl rfl (Or.inl (htype ▸ (Owns.buildable hroot).declares))

include h in
lemma resolved_nodeFunctions {base : NodeKind} (hkind : kind ∈ grammar.generatingKinds)
    (hbase : base ∈ protocolBases grammar) (views : List SlotView) :
    ∀ function ∈ nodeFunctions (.ofKind kind) (.ofKind base) views,
      ∀ type ∈ (Member.function function).types, Resolved grammar type := by
  rw [nodeFunctions, List.forall_mem_append, List.forall_mem_append, List.forall_mem_cons,
    List.forall_mem_cons, List.forall_mem_singleton, List.forall_mem_singleton]
  refine ⟨⟨⟨resolved_building (Or.inl rfl) rfl, resolved_building (Or.inl rfl) rfl,
    resolved_returning rfl rfl (Or.inl (declares_buildable h hkind))⟩, ?_⟩,
    resolved_fixedRootCreate h _⟩
  split
  · exact List.forall_mem_nil _
  · rw [List.forall_mem_singleton]
    exact resolved_returning rfl rfl (Or.inl (Owns.buildable hbase).declares)

include h hfiles hreserves in
lemma resolved_nodeStruct (hkind : kind ∈ grammar.concreteKinds) :
    ∀ type ∈ (nodeStruct grammar kind).types, Resolved grammar type := by
  obtain ⟨hmem, hconcrete⟩ := List.mem_filter.mp hkind
  have hgenerating := mem_generatingKinds_of_reserves hreserves hmem
    (NodeKind.isBase_eq_false_of_isConcrete hconcrete)
  -- the base, the slots and the kind itself all stand for types that are declared
  obtain ⟨base, hbase, _, htype⟩ := exists_base_of_isConcrete h hkind
    fun hname => absurd hname (hreserves.not_base kind hkind)
  have hviews : ∀ view ∈ slotViews grammar kind, Stands grammar view.type := by
    rw [slotViews, List.forall_mem_map]
    intro slot hslot
    exact stands_ofReference h hreserves hmem (NodeKind.type_mem_references hslot) slot.isOptional
  have htrivia : Resolved grammar (.ofText "Trivia") := by
    simpa using resolved_ofText (by decide) false (Or.inr (by decide))
  refine resolved_decl ?_ (by simp [nodeStruct]) ?_
  · rw [nodeStruct, htype, List.forall_mem_cons, List.forall_mem_singleton]
    exact ⟨(stands_ofKind (mem_protocolBases.mp hbase).1).resolved_buildable h hfiles,
      (stands_ofKind hgenerating).resolved_expressibleAs hfiles⟩
  · rw [nodeStruct, List.forall_mem_append, List.forall_mem_cons, List.forall_mem_cons,
      List.forall_mem_map, List.forall_mem_map]
    refine ⟨⟨by simpa [triviaProperty, Member.types] using htrivia, ?_⟩, ?_, ?_⟩
    · intro view hview
      simpa [SlotView.property, Member.types] using (hviews view hview).resolved_buildable h hfiles
    · rw [memberwiseInitializer, Member.types, List.map_cons, List.forall_mem_cons, List.map_map,
        List.forall_mem_map]
      exact ⟨htrivia, fun view hview => (hviews view hview).resolved_parameterName hfiles⟩
    · rw [htype]
      exact resolved_nodeFunctions h hgenerating hbase (slotViews grammar kind)

include h hfiles hreserves in
lemma resolved_collectionStruct (hkind : kind ∈ grammar.collectionKinds) {element : SwiftType}
    (helement : Stands grammar element) :
    ∀ type ∈ (collectionStruct kind element).types, Resolved grammar type := by
  obtain ⟨hmem, hcollection⟩ := List.mem_filter.mp hkind
  have hgenerating := mem_generatingKinds_of_reserves hreserves hmem
    (NodeKind.isBase_eq_false_of_isCollection hcollection)
  have hkindStands := stands_ofKind hgenerating
  refine resolved_decl ?_ (by simp [collectionStruct]) ?_
  · rw [collectionStruct, List.forall_mem_cons, List.forall_mem_cons, List.forall_mem_singleton]
    exact ⟨by simpa using resolved_ofText (by decide) false (Or.inr (by decide)),
      (stands_rootType h).resolved_buildable h hfiles, hkindStands.resolved_expressibleAs hfiles⟩
  · have hexpressible := helement.resolved_expressibleAs hfiles
    rw [collectionStruct, List.forall_mem_append, List.forall_mem_map]
    constructor
    · simp only [List.forall_mem_cons, elementsProperty, elementsInitializer, combiningInitializer,
        literalInitializer, Member.types, List.map_cons, List.map_nil]
      exact ⟨⟨helement.resolved_buildable h hfiles, List.forall_mem_nil _⟩,
        ⟨hexpressible, List.forall_mem_nil _⟩,
        ⟨hkindStands.resolved_expressibleAs hfiles, List.forall_mem_nil _⟩,
        ⟨hexpressible, List.forall_mem_nil _⟩, List.forall_mem_nil _⟩
    · obtain ⟨root, _, _, htype⟩ := exists_root_mem_protocolBases h
      rw [collectionFunctions, List.forall_mem_cons, List.forall_mem_cons, List.forall_mem_cons,
        List.forall_mem_singleton]
      refine ⟨resolved_building (Or.inl rfl) rfl, ?_,
        resolved_returning rfl rfl (Or.inl (declares_buildable h hgenerating)),
        resolved_fixedRootCreate h _⟩
      exact resolved_building (by rw [buildCollectionRoot, htype]; exact Or.inl rfl) rfl

include h hfiles hreserves in
lemma resolved_arrayExtension (hkind : kind ∈ grammar.collectionKinds) {element : SwiftType}
    (helement : Stands grammar element) :
    ∀ type ∈ (arrayExtension kind element).types, Resolved grammar type := by
  obtain ⟨hmem, hcollection⟩ := List.mem_filter.mp hkind
  have hgenerating := mem_generatingKinds_of_reserves hreserves hmem
    (NodeKind.isBase_eq_false_of_isCollection hcollection)
  refine resolved_decl ?_ ?_ ?_
  · rw [arrayExtension, List.forall_mem_singleton]
    exact (stands_ofKind hgenerating).resolved_expressibleAs hfiles
  · rintro same ⟨⟩
    exact helement.resolved_expressibleAs hfiles
  · rw [arrayExtension, List.forall_mem_singleton]
    exact resolved_returning rfl rfl (Or.inl (declares_buildable h hgenerating))

include h hfiles hreserves in
/-- **Every declaration is resolved.** -/
theorem resolved_generatedDecls (hdecl : decl ∈ generatedDecls grammar) :
    ∀ type ∈ decl.types, Resolved grammar type := by
  rcases mem_generatedDecls_iff.mp hdecl with hdecl | hdecl | hdecl
  · rcases mem_protocolDecls_iff.mp hdecl with ⟨base, hbase, hdecl⟩ | ⟨kind, hkind, hdecl⟩
    · exact resolved_baseDecls h hfiles hbase hdecl
    · exact resolved_expressibleDecls h hfiles hreserves hkind hdecl
  · obtain ⟨kind, hkind, reference, hreference, hdecl⟩ := mem_collectionStructs_iff.mp hdecl
    have helement : Stands grammar (.ofReference grammar reference) :=
      stands_ofReference h hreserves (List.mem_of_mem_filter hkind)
        (NodeKind.element_mem_references hreference) _
    rcases hdecl with rfl | ⟨_, rfl⟩
    · exact resolved_collectionStruct h hfiles hreserves hkind helement
    · exact resolved_arrayExtension h hfiles hreserves hkind helement
  · obtain ⟨kind, hkind, rfl⟩ := mem_nodeStructs_iff.mp hdecl
    exact resolved_nodeStruct h hfiles hreserves hkind

end Reserved

end Generate

end SyntaxForge
