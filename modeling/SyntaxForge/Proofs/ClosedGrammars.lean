import SyntaxForge.Grammar.Builtin
import SyntaxForge.Proofs.GeneratedNames
import SyntaxForge.Proofs.MentionedTypes

/-!
# Grammars whose mentioned names are declared

Every name of a kind that generated code mentions should be declared there (`Grammar.IsClosed`).

* `closed_of_reserves`: it is if the grammar reserves the base of collections.
* `reserves_or_shares_of_closed`: **otherwise it is not**, unless some other kind happens to go by
  the name that is mentioned: whatever else stands in a grammar for the base of collections makes
  the code mention it.
-/

namespace SyntaxForge

namespace Grammar

open Code Generate

/-- The names that code has for the kinds of a grammar. -/
def IsTypeName (grammar : Grammar) (name : String) : Prop :=
  ∃ kind ∈ grammar.kinds, name = kind.name ++ "Buildable" ∨ name = kind.name ++ "ListBuildable"
    ∨ name = (SwiftType.ofKind kind).expressibleAs ∨ kind.isBase = false ∧ name = kind.name

/-- Every name of a kind that is mentioned is declared. -/
def IsClosed (grammar : Grammar) : Prop :=
  ∀ name, grammar.IsTypeName name → Mentions (generatedDecls grammar) name →
    Declares (generatedDecls grammar) name

/-- A kind that generates types goes by a name of the base of collections. -/
def SharesCollectionBase (grammar : Grammar) : Prop :=
  ∃ kind ∈ grammar.kinds, kind.name = collectionBaseName
    ∧ ∃ other ∈ grammar.generatingKinds, ∃ name ∈ (SwiftType.ofKind kind).claimedNames,
      name ∈ (SwiftType.ofKind other).claimedNames

end Grammar

namespace Generate

open Code

variable {declarations : Declarations} {grammar : Grammar} {kind : NodeKind} {decl : Decl}
  {sources : List SourceFile}

section Closed

variable (h : Grammar.Accepts declarations grammar) (hfiles : files grammar = .ok sources)

include h hfiles in
lemma declares_of_endsBuildable (hreserves : grammar.ReservesCollectionBase) {name : String}
    (hmentions : Mentions (generatedDecls grammar) name) (hends : EndsBuildable name) :
    Declares (generatedDecls grammar) name := by
  obtain ⟨decl, hdecl, type, htype, hname⟩ := hmentions
  have hresolved := resolved_generatedDecls h hfiles hreserves hdecl type htype name hname
  exact hresolved.resolve_right (not_not_intro hends)

include h hfiles in
theorem closed_of_reserves (hreserves : grammar.ReservesCollectionBase) : grammar.IsClosed := by
  rintro name ⟨kind, hkind, hname⟩ hmentions
  have hends := declares_of_endsBuildable h hfiles hreserves hmentions
  rcases hname with rfl | rfl | rfl | ⟨hbase, rfl⟩
  · exact hends (endsBuildable_append _)
  · exact hends (endsBuildable_append_list _)
  · by_cases hcollection : kind.name = collectionBaseName
    · refine hends ?_
      rw [SwiftType.expressibleAs_ofKind,
        SwiftType.buildableBaseName_of_isBase (hreserves.isBase kind hkind hcollection),
        ← String.append_assoc]
      exact endsBuildable_append _
    · exact declares_expressibleAs (Grammar.mem_generatingKinds.mpr ⟨hkind, hcollection⟩)
  · exact declares_name hkind hbase

include h in
lemma exists_claim_of_declares {name : String}
    (hdeclares : Declares (generatedDecls grammar) name) (hname : name ≠ collectionBaseName) :
    ∃ kind ∈ grammar.generatingKinds, name ∈ (SwiftType.ofKind kind).claimedNames := by
  obtain ⟨decl, hdecl, hform, rfl⟩ := hdeclares
  obtain ⟨kind, howns⟩ := exists_owner hdecl hform
  exact ⟨kind, (howns.name_cases h).resolve_right hname⟩

include h hfiles in
/-- What would build a collection is mentioned only if some kind has this name. -/
lemma not_mentions_collectionBuildable (hreserves : grammar.ReservesCollectionBase)
    (hname : ∀ kind ∈ grammar.kinds, kind.name ≠ collectionBaseName ++ "Buildable") :
    ¬ Mentions (generatedDecls grammar) (collectionBaseName ++ "Buildable") := by
  intro hmentions
  have hdeclares := declares_of_endsBuildable h hfiles hreserves hmentions (endsBuildable_append _)
  obtain ⟨kind, hkind, hclaimed⟩ := exists_claim_of_declares h hdeclares (by decide)
  obtain ⟨hmem, hcollection⟩ := Grammar.mem_generatingKinds.mp hkind
  simp only [SwiftType.claimedNames, List.mem_cons, List.not_mem_nil, or_false] at hclaimed
  rcases hclaimed with heq | heq | heq
  · rw [SwiftType.buildable_ofKind] at heq
    cases hbase : kind.isBase with
    | true =>
        rw [SwiftType.buildableBaseName_of_isBase hbase, String.append_left_inj] at heq
        exact hcollection heq.symm
    | false =>
        rw [h.buildableBaseName_eq_name hmem hbase] at heq
        exact hname kind hmem heq.symm
  · exact SwiftType.expressibleAs_ne (by decide) kind heq.symm
  · rw [SwiftType.listBuildable_ofKind] at heq
    exact Grammar.append_ne_of_not_suffix (by decide) heq.symm

end Closed

/-! Where the base of collections is more than a base, it is mentioned. -/

section Mentioned

variable (h : Grammar.Accepts declarations grammar) {collection : NodeKind}
  (hcollection : collection ∈ grammar.kinds) (hname : collection.name = collectionBaseName)

include hname in
lemma buildableBaseName_of_collectionBase :
    (SwiftType.ofKind collection).buildableBaseName = "SyntaxCollection"
      ∨ (SwiftType.ofKind collection).buildableBaseName = "SyntaxCollectionBuildable" := by
  rw [SwiftType.buildableBaseName, SwiftType.ofKind, hname]
  cases collection.isRoot <;> cases collection.isBase <;> decide

include hname in
lemma names_of_collectionBase (isOptional : Bool) :
    (TypeExpr.ofText (SwiftType.ofKind collection).buildable).names
        = [.declared (SwiftType.ofKind collection).buildable]
      ∧ (TypeExpr.ofText ((SwiftType.ofKind collection).optional isOptional).expressibleAs).names
        = [.declared (SwiftType.ofKind collection).expressibleAs] := by
  rw [SwiftType.expressibleAs_optional, TypeExpr.names_ofText_append,
    SwiftType.expressibleAs_ofKind, SwiftType.buildable_ofKind]
  rcases buildableBaseName_of_collectionBase hname with heq | heq
  · rw [heq]
    exact ⟨TypeExpr.names_ofText (by decide), TypeExpr.names_ofText (by decide)⟩
  · rw [heq]
    exact ⟨TypeExpr.names_ofText (by decide), TypeExpr.names_ofText (by decide)⟩

lemma mentions_of_names {type : TypeExpr} {name : String} (hdecl : decl ∈ generatedDecls grammar)
    (htype : type ∈ decl.types) (hnames : type.names = [.declared name]) :
    Mentions (generatedDecls grammar) name :=
  ⟨decl, hdecl, type, htype, hnames ▸ List.mem_singleton_self _⟩

include hcollection hname in
lemma mentions_of_not_isBase (hbase : collection.isBase = false) :
    Mentions (generatedDecls grammar) (SwiftType.ofKind collection).expressibleAs := by
  obtain ⟨struct, howns, _, hinherits⟩ := exists_struct hcollection hbase
  exact mentions_of_names howns.generated.1 (mem_types_iff.mpr (Or.inl hinherits))
    (names_of_collectionBase hname false).2

include h hcollection hname in
lemma mentions_of_base (hkind : kind ∈ grammar.concreteKinds)
    (hbase : kind.base = some collectionBaseName) :
    Mentions (generatedDecls grammar) (SwiftType.ofKind collection).buildable := by
  have htype : baseType grammar kind = SwiftType.ofKind collection := by
    rw [baseType, hbase, Option.getD_some, ← hname, h.ofName_eq_ofKind hcollection]
  refine mentions_of_names (Owns.node hkind).generated.1 (mem_types_iff.mpr (Or.inl ?_))
    (names_of_collectionBase hname false).1
  rw [nodeStruct, htype]
  exact List.mem_cons_self

lemma mem_types_nodeStruct {slot : Slot} (hslot : slot ∈ kind.slots) :
    (slotParameter grammar slot).type ∈ (nodeStruct grammar kind).types := by
  have hparameter : slotParameter grammar slot ∈ (structInitializer grammar kind).parameters := by
    rw [parameters_structInitializer]
    exact List.mem_cons_of_mem _ (List.mem_map_of_mem hslot)
  exact mem_types_iff.mpr (Or.inr (Or.inr ⟨_, initializer_mem_nodeStruct_iff.mpr rfl,
    List.mem_map_of_mem hparameter⟩))

lemma mem_types_collectionStruct (kind : NodeKind) (element : SwiftType) :
    .ofText element.expressibleAs ∈ (collectionStruct kind element).types := by
  have hmember : .initializer (literalInitializer element)
      ∈ (collectionStruct kind element).members := by
    simp [collectionStruct]
  exact mem_types_iff.mpr (Or.inr (Or.inr ⟨_, hmember, List.mem_singleton_self _⟩))

include h hcollection hname in
lemma mentions_of_reference (hkind : kind ∈ grammar.kinds)
    (hreference : TypeRef.node collectionBaseName ∈ kind.references) :
    Mentions (generatedDecls grammar) (SwiftType.ofKind collection).expressibleAs := by
  have htype : SwiftType.ofReference grammar (.node collectionBaseName)
      = SwiftType.ofKind collection := by
    rw [SwiftType.ofReference, ← hname, h.ofName_eq_ofKind hcollection]
  cases hshape : kind.shape with
  | base => simp [NodeKind.references, hshape] at hreference
  | concrete slots =>
      have hconcrete : kind ∈ grammar.concreteKinds :=
        List.mem_filter.mpr ⟨hkind, by simp [NodeKind.isConcrete, hshape]⟩
      obtain ⟨slot, hslot, hslotType⟩ : ∃ slot ∈ kind.slots,
          slot.type = .node collectionBaseName := by
        simpa [NodeKind.references, NodeKind.slots, hshape] using hreference
      refine mentions_of_names (Owns.node hconcrete).generated.1 (mem_types_nodeStruct hslot) ?_
      rw [slotParameter, SlotView.parameter, SlotView.ofSlot, hslotType, htype,
        SwiftType.parameterName_optional]
      exact (names_of_collectionBase hname slot.isOptional).2
  | collection element onNewLines =>
      have hmem : kind ∈ grammar.collectionKinds :=
        List.mem_filter.mpr ⟨hkind, by simp [NodeKind.isCollection, hshape]⟩
      have helement : kind.element? = some (.node collectionBaseName) := by
        simpa [NodeKind.references, NodeKind.element?, hshape, eq_comm] using hreference
      refine mentions_of_names (Owns.collection hmem helement).generated.1
        (mem_types_collectionStruct kind _) ?_
      rw [htype]
      exact (names_of_collectionBase hname false).2

include h hcollection hname in
lemma mentions_of_target (hkind : kind ∈ grammar.kinds)
    (htarget : collectionBaseName ∈ grammar.targets kind.name) :
    Mentions (generatedDecls grammar) (SwiftType.ofKind collection).expressibleAs := by
  have hgenerating : kind ∈ grammar.generatingKinds :=
    Grammar.mem_generatingKinds.mpr ⟨hkind, (h.not_root_of_conforms htarget).2⟩
  obtain ⟨conformance, hconformance, htargetName⟩ := List.mem_map.mp htarget
  refine mentions_of_names (Owns.expressible hgenerating).generated.1
    (mem_types_iff.mpr (Or.inl (List.mem_map_of_mem (List.mem_append_left _ ?_))))
    (names_of_collectionBase hname false).2
  refine List.mem_map.mpr ⟨conformance, hconformance, ?_⟩
  rw [htargetName, ← hname, h.ofName_eq_ofKind hcollection]
  rfl

include h hcollection hname in
/-- What is mentioned of the base of collections is declared by another kind, if at all. -/
lemma shares_of_mentions (hclosed : grammar.IsClosed) {name : String}
    (hclaimed : name = (SwiftType.ofKind collection).expressibleAs
      ∨ collection.isBase = true ∧ name = (SwiftType.ofKind collection).buildable)
    (hmentions : Mentions (generatedDecls grammar) name) : grammar.SharesCollectionBase := by
  have htypeName : grammar.IsTypeName name := by
    refine ⟨collection, hcollection, ?_⟩
    rcases hclaimed with rfl | ⟨hbase, rfl⟩
    · exact Or.inr (Or.inr (Or.inl rfl))
    · rw [SwiftType.buildable_ofKind, SwiftType.buildableBaseName_of_isBase hbase]
      exact Or.inl rfl
  have hne : name ≠ collectionBaseName := by
    rcases hclaimed with rfl | ⟨hbase, rfl⟩
    · rw [SwiftType.expressibleAs_ofKind]
      rcases buildableBaseName_of_collectionBase hname with heq | heq <;> rw [heq] <;> decide
    · rw [SwiftType.buildable_ofKind, SwiftType.buildableBaseName_of_isBase hbase, hname]
      decide
  obtain ⟨other, hother, hmem⟩ := exists_claim_of_declares h (hclosed name htypeName hmentions) hne
  refine ⟨collection, hcollection, hname, other, hother, name, ?_, hmem⟩
  rcases hclaimed with rfl | ⟨_, rfl⟩ <;> simp [SwiftType.claimedNames]

include h in
theorem reserves_or_shares_of_closed (hclosed : grammar.IsClosed) :
    grammar.ReservesCollectionBase ∨ grammar.SharesCollectionBase := by
  -- whatever is not reserved is mentioned, and what is mentioned is shared
  by_cases hshares : grammar.SharesCollectionBase
  · exact Or.inr hshares
  · refine Or.inl ⟨?_, ?_, ?_, ?_⟩
    · intro kind hkind hname
      by_contra hbase
      refine hshares (shares_of_mentions h hkind hname hclosed (Or.inl rfl) ?_)
      exact mentions_of_not_isBase hkind hname (by simpa using hbase)
    · intro kind hkind hbase
      obtain ⟨collection, hcollection, hname, hisBase⟩ :=
        h.exists_base (List.mem_of_mem_filter hkind) hbase
      refine hshares (shares_of_mentions h hcollection hname hclosed (Or.inr ⟨hisBase, rfl⟩) ?_)
      exact mentions_of_base h hcollection hname hkind hbase
    · intro kind hkind hreference
      have hresolves := h.resolves_of_mem hkind hreference
      obtain ⟨collection, hfound⟩ := Option.isSome_iff_exists.mp hresolves
      obtain ⟨hcollection, hname⟩ := Catalog.mem_and_name_of_kind? hfound
      refine hshares (shares_of_mentions h hcollection hname hclosed (Or.inl rfl) ?_)
      exact mentions_of_reference h hcollection hname hkind hreference
    · intro kind hkind htarget
      obtain ⟨collection, hcollection, hname⟩ := List.mem_map.mp (h.targets_subset _ _ htarget)
      refine hshares (shares_of_mentions h hcollection hname hclosed (Or.inl rfl) ?_)
      exact mentions_of_target h hcollection hname hkind htarget

end Mentioned

/-- **Which grammars have every mentioned name of a kind declared**: those that reserve the base of
collections, and no others unless a name of that base happens to be declared by another kind. -/
theorem mentions_declared (h : Grammar.ofDeclarations declarations = .ok grammar)
    (hfiles : files grammar = .ok sources) :
    (grammar.ReservesCollectionBase → grammar.IsClosed
        ∧ ((∀ kind ∈ grammar.kinds, kind.name ≠ "SyntaxCollectionBuildable") →
          ¬ Mentions (generatedDecls grammar) "SyntaxCollectionBuildable"))
      ∧ (grammar.IsClosed → grammar.ReservesCollectionBase ∨ grammar.SharesCollectionBase) := by
  have haccepts := Grammar.accepts_of_ofDeclarations h
  refine ⟨fun hreserves => ⟨closed_of_reserves haccepts hfiles hreserves, ?_⟩,
    reserves_or_shares_of_closed haccepts⟩
  exact not_mentions_collectionBuildable haccepts hfiles hreserves

/-! A block that derives from the base of collections: as a collection it may, as a concrete kind it
mentions a protocol that is not there. -/

/-- A grammar with one kind that may derive from the base of collections. -/
def blockDeclarations (block : NodeKind) : Declarations where
  tokens := []
  kinds := [Builtin.root, Builtin.collectionBase, block]
  expressibleAs := []

/-- The grammar with its conformances. -/
def blockGrammar (block : NodeKind) : Grammar where
  toCatalog := (blockDeclarations block).toCatalog
  conformanceTable := [("Syntax", []), ("SyntaxCollection", []), ("Block", [])]

/-- The block as a collection of tokens. -/
def blockList : NodeKind := Builtin.list "Block" .anyToken

/-- The block as a concrete kind. -/
def blockNode : NodeKind := Builtin.node "Block" collectionBaseName []

theorem mentions_declared_blockList : (blockGrammar blockList).IsClosed := by
  have haccepted : Grammar.ofDeclarations (blockDeclarations blockList)
      = .ok (blockGrammar blockList) := by decide
  have hplain : (blockGrammar blockList).HasPlainNames :=
    ⟨by decide, by decide, by decide⟩
  obtain ⟨sources, hfiles⟩ := exists_files_of_hasPlainNames
    (Grammar.accepts_of_ofDeclarations haccepted) hplain (by decide)
  have hreserves : (blockGrammar blockList).ReservesCollectionBase :=
    ⟨by decide, by decide, by decide, by decide⟩
  exact ((mentions_declared haccepted hfiles).1 hreserves).1

theorem mentions_undeclared_blockNode :
    Grammar.ofDeclarations (blockDeclarations blockNode) = .ok (blockGrammar blockNode)
      ∧ (∃ sources, files (blockGrammar blockNode) = .ok sources)
      ∧ (blockGrammar blockNode).IsTypeName "SyntaxCollectionBuildable"
      ∧ Mentions (generatedDecls (blockGrammar blockNode)) "SyntaxCollectionBuildable"
      ∧ ¬ Declares (generatedDecls (blockGrammar blockNode)) "SyntaxCollectionBuildable" := by
  have haccepted : Grammar.ofDeclarations (blockDeclarations blockNode)
      = .ok (blockGrammar blockNode) := by decide
  have haccepts := Grammar.accepts_of_ofDeclarations haccepted
  have hplain : (blockGrammar blockNode).HasPlainNames :=
    ⟨by decide, by decide, by decide⟩
  refine ⟨haccepted, exists_files_of_hasPlainNames haccepts hplain (by decide), ?_, ?_,
    fun hdeclares => ?_⟩
  · exact ⟨Builtin.collectionBase, by decide, Or.inl rfl⟩
  · exact mentions_of_base haccepts (by decide : Builtin.collectionBase ∈ _) rfl
      (by decide : blockNode ∈ _) rfl
  · have hunclaimed : ∀ kind ∈ (blockGrammar blockNode).generatingKinds,
        "SyntaxCollectionBuildable" ∉ (SwiftType.ofKind kind).claimedNames := by decide
    obtain ⟨kind, hkind, hclaimed⟩ := exists_claim_of_declares haccepts hdeclares (by decide)
    exact hunclaimed kind hkind hclaimed

end Generate

end SyntaxForge
