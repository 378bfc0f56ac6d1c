import SyntaxForge.Proofs.ArrayExtensions
import SyntaxForge.Proofs.FileText

/-!
# Documentation stays out of code

The documentation of a kind is written above the struct that is generated for it, behind three
slashes.  No other part of the generated code depends on it.  To say so, all documentation is taken
out of a grammar, and what is computed from a grammar is followed step by step, from lookups to the
declarations of the generated files.

* `Grammar.undocumented_eq`: conformances do not depend on documentation.
* `Generate.fileDecls_undocumented`: without it, all that is generated is the same but for the
  comments of structs.
* **`Generate.files_differ_in_docs`**: if the documentation of every kind keeps to lines of
  documentation, nothing of it is left without these lines.  Otherwise something is.

The slashes are written once, in front of the first line.  A documentation of two lines has the
second one in the code: **`Generate.documentation_becomes_code`**.
-/

namespace SyntaxForge

/-! ## Grammars without documentation -/

/-- The kind without its documentation. -/
def NodeKind.undocumented (kind : NodeKind) : NodeKind := { kind with doc := "" }

/-- The catalog without documentation. -/
def Catalog.undocumented (catalog : Catalog) : Catalog :=
  { catalog with kinds := catalog.kinds.map NodeKind.undocumented }

/-- The declarations without documentation. -/
def Declarations.undocumented (declarations : Declarations) : Declarations :=
  { declarations with toCatalog := declarations.toCatalog.undocumented }

/-- The grammar without documentation. -/
def Grammar.undocumented (grammar : Grammar) : Grammar :=
  { grammar with toCatalog := grammar.toCatalog.undocumented }

/-- Every line that the documentation of the kind takes up behind its slashes is one of
documentation. -/
def NodeKind.IsCommented (kind : NodeKind) : Prop :=
  ∀ line ∈ Text.lines ("/// " ++ kind.doc ++ "\n").toList, Text.isDocLine line = true

instance : DecidablePred NodeKind.IsCommented := fun kind =>
  inferInstanceAs (Decidable (∀ line ∈ Text.lines ("/// " ++ kind.doc ++ "\n").toList,
    Text.isDocLine line = true))

namespace Catalog

lemma filter_kinds_undocumented (catalog : Catalog) {p : NodeKind → Bool}
    (hp : ∀ kind, p kind.undocumented = p kind) :
    catalog.undocumented.kinds.filter p = (catalog.kinds.filter p).map NodeKind.undocumented := by
  have hcomp : p ∘ NodeKind.undocumented = p := funext hp
  rw [undocumented, List.filter_map, hcomp]

lemma kind?_undocumented (catalog : Catalog) (name : String) :
    catalog.undocumented.kind? name = (catalog.kind? name).map NodeKind.undocumented := by
  rw [kind?, undocumented, List.find?_map]
  rfl

lemma concreteKinds_undocumented (catalog : Catalog) :
    catalog.undocumented.concreteKinds = catalog.concreteKinds.map NodeKind.undocumented :=
  catalog.filter_kinds_undocumented fun _ => rfl

lemma chainWithin_undocumented (catalog : Catalog) (bound : Nat) (kind : NodeKind) :
    catalog.undocumented.chainWithin bound kind.undocumented
      = (catalog.chainWithin bound kind).map NodeKind.undocumented := by
  induction bound generalizing kind with
  | zero => rfl
  | succ bound ih =>
      have hbase : kind.undocumented.base.bind catalog.undocumented.kind?
          = (kind.base.bind catalog.kind?).map NodeKind.undocumented := by
        cases hbase : kind.base with
        | none => simp [NodeKind.undocumented, hbase]
        | some base => simp [NodeKind.undocumented, hbase, kind?_undocumented]
      rw [chainWithin, chainWithin, hbase, List.map_cons]
      cases kind.base.bind catalog.kind? with
      | none => rfl
      | some base => exact congrArg _ (ih base)

lemma isSubkind_undocumented (catalog : Catalog) (name ancestor : String) :
    catalog.undocumented.isSubkind name ancestor = catalog.isSubkind name ancestor := by
  have hlength : catalog.undocumented.kinds.length = catalog.kinds.length := List.length_map ..
  rw [isSubkind, isSubkind, kind?_undocumented]
  cases catalog.kind? name with
  | none => rfl
  | some kind =>
      simp only [Option.map_some, chain, hlength, chainWithin_undocumented, List.any_map]
      rfl

lemma conversionSlot?_undocumented (catalog : Catalog) (target : NodeKind) (source : String) :
    catalog.undocumented.conversionSlot? target.undocumented source
      = catalog.conversionSlot? target source := by
  have hslots : target.undocumented.slots = target.slots := rfl
  have hfixed : catalog.undocumented.isFixedToken = catalog.isFixedToken := rfl
  simp only [conversionSlot?, hslots, hfixed, isSubkind_undocumented]

lemma listedConformance_undocumented (catalog : Catalog) (kind : NodeKind) (target : String) :
    catalog.undocumented.listedConformance kind.undocumented target
      = catalog.listedConformance kind target := by
  have hname : kind.undocumented.name = kind.name := rfl
  rw [listedConformance, listedConformance, kind?_undocumented, hname]
  cases catalog.kind? target with
  | none => rfl
  | some targetKind =>
      simp only [Option.map_some, isSubkind_undocumented, conversionSlot?_undocumented]

lemma wrapperConformance?_undocumented (catalog : Catalog) (kind target : NodeKind) :
    catalog.undocumented.wrapperConformance? kind.undocumented target.undocumented
      = catalog.wrapperConformance? kind target := by
  have hname (kind : NodeKind) : kind.undocumented.name = kind.name := rfl
  have hbase : target.undocumented.base = target.base := rfl
  simp only [wrapperConformance?, hname, hbase, conversionSlot?_undocumented]

/-- **Documentation plays no part in conformances.** -/
lemma directConformances_undocumented (catalog : Catalog) (table : List (String × List String))
    (kind : NodeKind) :
    catalog.undocumented.directConformances table kind.undocumented
      = catalog.directConformances table kind := by
  have hname : kind.undocumented.name = kind.name := rfl
  have hroot : kind.undocumented.isRoot = kind.isRoot := rfl
  have hbase : baseConformance? kind.undocumented = baseConformance? kind := rfl
  have hlisted : catalog.undocumented.listedConformance kind.undocumented
      = catalog.listedConformance kind := funext (catalog.listedConformance_undocumented kind)
  have hwrappers : catalog.undocumented.concreteKinds.filterMap
        (catalog.undocumented.wrapperConformance? kind.undocumented)
      = catalog.concreteKinds.filterMap (catalog.wrapperConformance? kind) := by
    rw [concreteKinds_undocumented, List.filterMap_map]
    exact congrArg (List.filterMap · _) (funext (catalog.wrapperConformance?_undocumented kind))
  rw [directConformances, directConformances, hname, hroot, hbase, hlisted, hwrappers]

end Catalog

namespace Grammar

variable {declarations declarations' : Declarations} {grammar grammar' : Grammar}

lemma conformances_undocumented (grammar : Grammar) (name : String) :
    grammar.undocumented.conformances name = grammar.conformances name := rfl

/-- The table of a grammar can be read off the declarations without documentation. -/
lemma map_conformanceTable (h : Tabulates declarations grammar) :
    (grammar.conformanceTable.map fun entry =>
        (entry.1, (.ok entry.2 : Except GrammarError (List Conformance))))
      = declarations.undocumented.kinds.map fun kind =>
        (kind.name, declarations.undocumented.directConformances
          declarations.undocumented.expressibleAs kind) := by
  have hkinds : declarations.undocumented.kinds
      = declarations.kinds.map NodeKind.undocumented := rfl
  rw [hkinds, ← List.forall₂_eq_eq_eq, List.forall₂_map_left_iff, List.forall₂_map_right_iff,
    List.forall₂_map_right_iff]
  have htable := h.table
  rw [h.catalog_eq] at htable
  refine htable.flip.imp ?_
  rintro entry kind ⟨hname, hconformances⟩
  rw [hname, ← hconformances]
  exact congrArg _ (declarations.directConformances_undocumented _ kind).symm

/-- Declarations that differ in documentation only make grammars that do so. -/
lemma undocumented_eq (h : Tabulates declarations grammar) (h' : Tabulates declarations' grammar')
    (hsame : declarations.undocumented = declarations'.undocumented) :
    grammar.undocumented = grammar'.undocumented := by
  have hcatalog : grammar.toCatalog.undocumented = grammar'.toCatalog.undocumented := by
    rw [h.catalog_eq, h'.catalog_eq]
    exact congrArg Declarations.toCatalog hsame
  have htable : grammar.conformanceTable = grammar'.conformanceTable := by
    have hmap := map_conformanceTable h
    rw [hsame, ← map_conformanceTable h'] at hmap
    refine List.map_injective_iff.mpr ?_ hmap
    rintro ⟨name, conformances⟩ ⟨name', conformances'⟩ heq
    simpa using heq
  rw [undocumented, undocumented, hcatalog, htable]

end Grammar

/-! ## Generated declarations -/

namespace SwiftType

lemma ofKind_undocumented (kind : NodeKind) : ofKind kind.undocumented = ofKind kind := rfl

lemma ofName_undocumented (grammar : Grammar) (name : String) :
    ofName grammar.undocumented name = ofName grammar name := by
  have hfound : grammar.undocumented.kind? name
      = (grammar.kind? name).map NodeKind.undocumented := grammar.kind?_undocumented name
  rw [ofName, ofName, hfound]
  cases grammar.kind? name with
  | none => rfl
  | some kind => rfl

lemma ofReference_undocumented (grammar : Grammar) (reference : TypeRef) :
    ofReference grammar.undocumented reference = ofReference grammar reference := by
  cases reference with
  | node name => exact ofName_undocumented grammar name
  | token name => rfl
  | anyToken => rfl

end SwiftType

namespace Generate

open Code

lemma slotViews_undocumented (grammar : Grammar) (kind : NodeKind) :
    slotViews grammar.undocumented kind.undocumented = slotViews grammar kind := by
  have hview : SlotView.ofSlot grammar.undocumented = SlotView.ofSlot grammar := by
    funext slot
    rw [SlotView.ofSlot, SwiftType.ofReference_undocumented, ← SlotView.ofSlot]
  rw [slotViews, hview]
  rfl

/-- The struct of a concrete kind loses its comment. -/
lemma nodeStruct_undocumented (grammar : Grammar) (kind : NodeKind) :
    nodeStruct grammar.undocumented kind.undocumented
      = (nodeStruct grammar kind).undocumented := by
  have hbase : baseType grammar.undocumented kind.undocumented = baseType grammar kind :=
    SwiftType.ofName_undocumented grammar _
  rw [nodeStruct, slotViews_undocumented, hbase]
  rfl

lemma decls_nodeStructs_undocumented (grammar : Grammar) :
    (nodeStructs grammar.undocumented).map Draft.decl
      = ((nodeStructs grammar).map Draft.decl).map Decl.undocumented := by
  have hkinds : grammar.undocumented.concreteKinds
      = grammar.concreteKinds.map NodeKind.undocumented := grammar.concreteKinds_undocumented
  rw [nodeStructs, nodeStructs, hkinds, List.map_map, List.map_map, List.map_map, List.map_map]
  exact List.map_congr_left fun kind _ => nodeStruct_undocumented grammar kind

lemma firstOfElement_undocumented (seen : List TypeRef) (kinds : List NodeKind) :
    firstOfElement seen (kinds.map NodeKind.undocumented)
      = (firstOfElement seen kinds).map NodeKind.undocumented := by
  induction kinds generalizing seen with
  | nil => rfl
  | cons kind rest ih =>
      have helement : kind.undocumented.element? = kind.element? := rfl
      rw [List.map_cons, firstOfElement, firstOfElement, helement]
      cases kind.element? with
      | none => exact ih seen
      | some element =>
          simp only
          split
          · exact ih seen
          · exact congrArg _ (ih (element :: seen))

lemma arrayCollections_undocumented (grammar : Grammar) :
    arrayCollections grammar.undocumented
      = (arrayCollections grammar).map NodeKind.undocumented := by
  have hkinds : grammar.undocumented.collectionKinds
      = grammar.collectionKinds.map NodeKind.undocumented :=
    grammar.filter_kinds_undocumented fun _ => rfl
  rw [arrayCollections, hkinds, List.filter_map, firstOfElement_undocumented]
  rfl

/-- Kinds of a grammar can be told apart without their documentation. -/
lemma undocumented_mem_map_iff {grammar : Grammar} (hdistinct : grammar.DistinctNames)
    {kind : NodeKind} (hkind : kind ∈ grammar.kinds) {kinds : List NodeKind}
    (hkinds : kinds ⊆ grammar.kinds) :
    kind.undocumented ∈ kinds.map NodeKind.undocumented ↔ kind ∈ kinds := by
  constructor
  · intro hmem
    obtain ⟨other, hother, heq⟩ := List.mem_map.mp hmem
    have hname : other.undocumented.name = kind.undocumented.name := congrArg NodeKind.name heq
    rwa [← hdistinct.eq_of_name_eq (hkinds hother) hkind hname]
  · exact List.mem_map_of_mem

/-- The struct of a collection loses its comment. -/
lemma decls_collectionDrafts_undocumented {grammar : Grammar} (hdistinct : grammar.DistinctNames)
    {kind : NodeKind} (hkind : kind ∈ grammar.kinds) :
    (collectionDrafts grammar.undocumented kind.undocumented).map Draft.decl
      = ((collectionDrafts grammar kind).map Draft.decl).map Decl.undocumented := by
  have helement : kind.undocumented.element? = kind.element? := rfl
  have hsubset : arrayCollections grammar ⊆ grammar.kinds := fun _ hother =>
    (mem_arrayCollections hother).1
  rw [collectionDrafts, collectionDrafts, helement, arrayCollections_undocumented]
  cases kind.element? with
  | none => rfl
  | some reference =>
      simp only [undocumented_mem_map_iff hdistinct hkind hsubset,
        SwiftType.ofReference_undocumented]
      split
      · rfl
      · rfl

lemma decls_collectionStructs_undocumented {grammar : Grammar}
    (hdistinct : grammar.DistinctNames) :
    (collectionStructs grammar.undocumented).map Draft.decl
      = ((collectionStructs grammar).map Draft.decl).map Decl.undocumented := by
  have hkinds : grammar.undocumented.collectionKinds
      = grammar.collectionKinds.map NodeKind.undocumented :=
    grammar.filter_kinds_undocumented fun _ => rfl
  rw [collectionStructs, collectionStructs, hkinds, List.flatMap_map, List.map_flatMap,
    List.map_flatMap, List.map_flatMap]
  refine List.flatMap_congr ?_
  intro kind hkind
  exact decls_collectionDrafts_undocumented hdistinct (List.mem_filter.mp hkind).1

/-- The bases are sorted by name. -/
lemma sortedBases_undocumented (grammar : Grammar) :
    grammar.undocumented.sortedBases = grammar.sortedBases.map NodeKind.undocumented := by
  have hkinds : grammar.undocumented.kinds.filter NodeKind.isBase
      = (grammar.kinds.filter NodeKind.isBase).map NodeKind.undocumented :=
    grammar.filter_kinds_undocumented fun _ => rfl
  rw [Catalog.sortedBases, hkinds, Catalog.sortedBases]
  exact (List.map_mergeSort (f := NodeKind.undocumented) fun _ _ _ _ => rfl).symm

lemma baseProtocols_undocumented (grammar : Grammar) :
    baseProtocols grammar.undocumented = baseProtocols grammar := by
  rw [baseProtocols, protocolBases, sortedBases_undocumented, List.filter_map, List.flatMap_map]
  rfl

lemma expressibleDecls_undocumented (grammar : Grammar) (kind : NodeKind) :
    expressibleDecls grammar.undocumented kind.undocumented = expressibleDecls grammar kind := by
  have hname : kind.undocumented.name = kind.name := rfl
  have hbase : kind.undocumented.base = kind.base := rfl
  have hfunction : conversionFunction grammar.undocumented kind.undocumented
      = conversionFunction grammar kind := by
    funext conformance
    rw [conversionFunction, SwiftType.ofName_undocumented, ← conversionFunction]
    rfl
  simp only [expressibleDecls, expressibleProtocol, expressibleExtension, inheritedProtocols,
    Grammar.conformances_undocumented, SwiftType.ofKind_undocumented,
    SwiftType.ofName_undocumented, hname, hbase, hfunction]

lemma expressibleProtocols_undocumented (grammar : Grammar) :
    expressibleProtocols grammar.undocumented = expressibleProtocols grammar := by
  have hkinds : grammar.undocumented.generatingKinds
      = grammar.generatingKinds.map NodeKind.undocumented :=
    grammar.filter_kinds_undocumented fun _ => rfl
  rw [expressibleProtocols, hkinds, List.flatMap_map]
  exact List.flatMap_congr fun kind _ => expressibleDecls_undocumented grammar kind

/-! ## Generated files -/

/-- The declarations of each file, by the name of the file. -/
def fileDecls (grammar : Grammar) : List (String × List Decl) :=
  (fileDrafts grammar).map fun file => (file.1, file.2.map Draft.decl)

/-- The file without its lines of documentation. -/
def SourceFile.withoutDocs (file : SourceFile) : SourceFile :=
  { file with text := Text.withoutDocs file.text }

variable {declarations declarations' : Declarations} {grammar grammar' : Grammar}
  {sources sources' : List SourceFile} {kind : NodeKind} {decl : Decl}

/-- Protocols and their defaults have no comments of their own. -/
lemma docs_of_mem_protocolDecls (hdecl : decl ∈ protocolDecls grammar) : decl.docs = [] := by
  rcases mem_protocolDecls_iff.mp hdecl with ⟨base, _, hdecl⟩ | ⟨kind, _, hdecl⟩
  · rcases mem_baseDecls_iff.mp hdecl with rfl | rfl | rfl
    · rfl
    · rfl
    · rfl
  · rcases mem_expressibleDecls_iff.mp hdecl with rfl | ⟨_, rfl⟩
    · rfl
    · rfl

lemma map_undocumented_of_subset {decls : List Decl} (hdecls : decls ⊆ protocolDecls grammar) :
    decls.map Decl.undocumented = decls := by
  refine (List.map_congr_left ?_).trans (List.map_id decls)
  intro decl hdecl
  have hdocs := docs_of_mem_protocolDecls (hdecls hdecl)
  rw [Decl.undocumented, ← hdocs]
  rfl

/-- **The files of a grammar without documentation declare the same without comments.** -/
lemma fileDecls_undocumented (hdistinct : grammar.DistinctNames) :
    fileDecls grammar.undocumented
      = (fileDecls grammar).map fun file => (file.1, file.2.map Decl.undocumented) := by
  have hdrafts (decls : List Decl) :
      (decls.map fun decl => ({ decl } : Draft)).map Draft.decl = decls := by
    rw [List.map_map]
    exact List.map_id decls
  have hbases : (baseProtocols grammar).map Decl.undocumented = baseProtocols grammar :=
    map_undocumented_of_subset (List.subset_append_left ..)
  have hexpressible : (expressibleProtocols grammar).map Decl.undocumented
      = expressibleProtocols grammar :=
    map_undocumented_of_subset (List.subset_append_right ..)
  simp only [fileDecls, fileDrafts, List.map_cons, List.map_nil, hdrafts,
    baseProtocols_undocumented, expressibleProtocols_undocumented, decls_nodeStructs_undocumented,
    decls_collectionStructs_undocumented hdistinct, hbases, hexpressible]

/-- The files hold the declarations. -/
lemma sources_eq (hfiles : files grammar = .ok sources) :
    sources = (fileDecls grammar).map fun file => { name := file.1, text := fileText file.2 } := by
  simp only [files, bind_eq_ok_iff, pure_eq_ok_iff] at hfiles
  obtain ⟨_, -, _, -, rfl⟩ := hfiles
  rw [fileDecls, List.map_map]
  rfl

/-- The files of a grammar, without the comments of declarations and other documentation. -/
def bareFiles (grammar : Grammar) : List SourceFile :=
  (fileDecls grammar).map fun file => { name := file.1, text := bareFile file.2 }

/-- Grammars that differ in documentation only have the same files but for comments. -/
lemma bareFiles_eq (hdistinct : grammar.DistinctNames) (hdistinct' : grammar'.DistinctNames)
    (hsame : grammar.undocumented = grammar'.undocumented) :
    bareFiles grammar = bareFiles grammar' := by
  have hbare {grammar : Grammar} (hdistinct : grammar.DistinctNames) :
      bareFiles grammar.undocumented = bareFiles grammar := by
    rw [bareFiles, fileDecls_undocumented hdistinct, List.map_map]
    simp only [Function.comp_def, bareFile_undocumented, bareFiles]
  rw [← hbare hdistinct, hsame, hbare hdistinct']

/-- Nothing is left of the comments exactly if all of them are comments to the end. -/
lemma withoutDocs_eq_bareFiles_iff (hfiles : files grammar = .ok sources) :
    sources.map SourceFile.withoutDocs = bareFiles grammar
      ↔ ∀ decl ∈ generatedDecls grammar, decl.IsCommented := by
  have hdecls : generatedDecls grammar = (fileDecls grammar).flatMap Prod.snd := by
    rw [fileDecls, List.flatMap_map]
    rfl
  rw [sources_eq hfiles, bareFiles, List.map_map, List.map_inj_left, hdecls]
  simp only [Function.comp_apply, SourceFile.withoutDocs, SourceFile.mk.injEq, true_and,
    withoutDocs_fileText_eq_bareFile_iff, List.mem_flatMap]
  constructor
  · rintro hcommented decl ⟨file, hfile, hdecl⟩
    exact hcommented file hfile decl hdecl
  · intro hcommented file hfile decl hdecl
    exact hcommented decl ⟨file, hfile, hdecl⟩

/-- Structs have the comments of their kinds, and nothing else is documented. -/
lemma docs_cases (hdecl : decl ∈ generatedDecls grammar) :
    decl.docs = []
      ∨ ∃ kind ∈ grammar.kinds, kind.isBase = false ∧ decl.docs = kindDocs kind := by
  rcases mem_generatedDecls_iff.mp hdecl with hdecl | hdecl | hdecl
  · exact Or.inl (docs_of_mem_protocolDecls hdecl)
  · obtain ⟨kind, hkind, reference, -, rfl | ⟨-, rfl⟩⟩ := mem_collectionStructs_iff.mp hdecl
    · obtain ⟨hmem, hcollection⟩ := List.mem_filter.mp hkind
      exact Or.inr ⟨kind, hmem, NodeKind.isBase_eq_false_of_isCollection hcollection, rfl⟩
    · exact Or.inl rfl
  · obtain ⟨kind, hkind, rfl⟩ := mem_nodeStructs_iff.mp hdecl
    obtain ⟨hmem, hconcrete⟩ := List.mem_filter.mp hkind
    exact Or.inr ⟨kind, hmem, NodeKind.isBase_eq_false_of_isConcrete hconcrete, rfl⟩

/-- Every kind that is no base has its comment on some struct. -/
lemma exists_documented (hkind : kind ∈ grammar.kinds) (hbase : kind.isBase = false) :
    ∃ decl ∈ generatedDecls grammar, decl.docs = kindDocs kind := by
  cases hshape : kind.shape with
  | base => simp [NodeKind.isBase, hshape] at hbase
  | concrete slots =>
      have hconcrete : kind ∈ grammar.concreteKinds :=
        List.mem_filter.mpr ⟨hkind, by simp [NodeKind.isConcrete, hshape]⟩
      exact ⟨_, (Owns.node hconcrete).generated.1, rfl⟩
  | collection element onNewLines =>
      have hcollection : kind ∈ grammar.collectionKinds :=
        List.mem_filter.mpr ⟨hkind, by simp [NodeKind.isCollection, hshape]⟩
      have helement : kind.element? = some element := by simp [NodeKind.element?, hshape]
      exact ⟨_, (Owns.collection hcollection helement).generated.1, rfl⟩

/-- The comment that is made of the documentation of a kind. -/
lemma isCommented_iff_of_docs (hdocs : decl.docs = kindDocs kind) :
    decl.IsCommented ↔ kind.IsCommented := by
  rw [Decl.IsCommented, hdocs, kindDocs]
  split
  · next hempty =>
      have hdoc : kind.doc = "" := by simpa using hempty
      have hblank : kind.IsCommented := by
        rw [NodeKind.IsCommented, hdoc]
        decide
      simpa using hblank
  · simp [NodeKind.IsCommented]

/-- The comments of a grammar are those of its kinds. -/
lemma isCommented_iff : (∀ decl ∈ generatedDecls grammar, decl.IsCommented)
    ↔ ∀ kind ∈ grammar.kinds, kind.isBase = false → kind.IsCommented := by
  constructor
  · intro hcommented kind hkind hbase
    obtain ⟨decl, hdecl, hdocs⟩ := exists_documented hkind hbase
    exact (isCommented_iff_of_docs hdocs).mp (hcommented decl hdecl)
  · intro hcommented decl hdecl
    rcases docs_cases hdecl with hdocs | ⟨kind, hkind, hbase, hdocs⟩
    · rw [Decl.IsCommented, hdocs]
      simp
    · exact (isCommented_iff_of_docs hdocs).mpr (hcommented kind hkind hbase)

/-- Beside a grammar whose comments leave nothing behind, the files of another one are the same
without their lines of documentation exactly if its comments leave nothing behind either. -/
lemma map_withoutDocs_eq_iff (hdistinct : grammar.DistinctNames)
    (hdistinct' : grammar'.DistinctNames) (hsame : grammar.undocumented = grammar'.undocumented)
    (hfiles : files grammar = .ok sources) (hfiles' : files grammar' = .ok sources')
    (hcommented' : ∀ kind ∈ grammar'.kinds, kind.isBase = false → kind.IsCommented) :
    sources.map SourceFile.withoutDocs = sources'.map SourceFile.withoutDocs
      ↔ ∀ kind ∈ grammar.kinds, kind.isBase = false → kind.IsCommented := by
  rw [← isCommented_iff, ← withoutDocs_eq_bareFiles_iff hfiles'] at hcommented'
  rw [hcommented', ← bareFiles_eq hdistinct hdistinct' hsame, withoutDocs_eq_bareFiles_iff hfiles,
    isCommented_iff]

/-- **Documentation stays out of code, if it is written in comments to its last line.**  Two
accepted grammars that differ in documentation only generate files of the same names, and
corresponding files are equal without their lines of documentation, if every line that the
documentation of a kind takes up is such a line.  If this holds for one of the grammars and not for
the other, some files are different. -/
theorem files_differ_in_docs (h : Grammar.ofDeclarations declarations = .ok grammar)
    (h' : Grammar.ofDeclarations declarations' = .ok grammar')
    (hsame : declarations.undocumented = declarations'.undocumented)
    (hfiles : files grammar = .ok sources) (hfiles' : files grammar' = .ok sources')
    (hcommented' : ∀ kind ∈ declarations'.kinds, kind.isBase = false → kind.IsCommented) :
    sources.map SourceFile.withoutDocs = sources'.map SourceFile.withoutDocs
      ↔ ∀ kind ∈ declarations.kinds, kind.isBase = false → kind.IsCommented := by
  have haccepts := Grammar.accepts_of_ofDeclarations h
  have haccepts' := Grammar.accepts_of_ofDeclarations h'
  have hgrammars := Grammar.undocumented_eq haccepts.toTabulates haccepts'.toTabulates hsame
  rw [← haccepts'.catalog_eq] at hcommented'
  rw [← haccepts.catalog_eq]
  exact map_withoutDocs_eq_iff haccepts.distinctNames haccepts'.distinctNames hgrammars hfiles
    hfiles' hcommented'

/-! Documentation of one line takes up a line of documentation, whatever stands in it.  The second
line of a longer one does not. -/

/-- A grammar with a single kind of nodes. -/
def documentedDeclarations (doc : String) : Declarations where
  tokens := []
  kinds := [Builtin.root, Builtin.node "Block" rootName [] doc]
  expressibleAs := []

/-- The grammar with its conformances. -/
def documentedGrammar (doc : String) : Grammar where
  toCatalog := (documentedDeclarations doc).toCatalog
  conformanceTable := [("Syntax", []), ("Block", [])]

lemma exists_files_documented {doc : String}
    (h : Grammar.ofDeclarations (documentedDeclarations doc) = .ok (documentedGrammar doc)) :
    ∃ sources, files (documentedGrammar doc) = .ok sources := by
  have hplain : (documentedGrammar doc).HasPlainNames := by
    refine ⟨?_, ?_, ?_⟩
    · have hroot : Identifier.IsPlain rootName := by decide
      have hblock : Identifier.IsPlain "Block" := by decide
      exact List.forall_mem_cons.mpr ⟨hroot, List.forall_mem_singleton.mpr hblock⟩
    · simp [documentedGrammar, documentedDeclarations, Builtin.root, Builtin.node, NodeKind.slots]
    · simp [documentedGrammar, documentedDeclarations]
  exact exists_files_of_hasPlainNames (Grammar.accepts_of_ofDeclarations h) hplain rfl

theorem files_differ_in_docs_blocks :
    ∃ sources sources', files (documentedGrammar "A block.") = .ok sources
      ∧ files (documentedGrammar "let x = 1") = .ok sources'
      ∧ sources.map SourceFile.withoutDocs = sources'.map SourceFile.withoutDocs := by
  have haccepted : Grammar.ofDeclarations (documentedDeclarations "A block.")
      = .ok (documentedGrammar "A block.") := by decide +kernel
  have haccepted' : Grammar.ofDeclarations (documentedDeclarations "let x = 1")
      = .ok (documentedGrammar "let x = 1") := by decide +kernel
  obtain ⟨sources, hfiles⟩ := exists_files_documented haccepted
  obtain ⟨sources', hfiles'⟩ := exists_files_documented haccepted'
  refine ⟨sources, sources', hfiles, hfiles', ?_⟩
  exact (files_differ_in_docs haccepted haccepted' rfl hfiles hfiles' (by decide)).mpr (by decide)

/-- **The second line of a documentation becomes a line of code.** -/
theorem documentation_becomes_code :
    Grammar.ofDeclarations (documentedDeclarations "A block.\nlet x = 1")
        = .ok (documentedGrammar "A block.\nlet x = 1")
      ∧ Grammar.ofDeclarations (documentedDeclarations "A block.")
        = .ok (documentedGrammar "A block.")
      ∧ (documentedDeclarations "A block.\nlet x = 1").undocumented
        = (documentedDeclarations "A block.").undocumented
      ∧ ∃ sources sources', files (documentedGrammar "A block.\nlet x = 1") = .ok sources
        ∧ files (documentedGrammar "A block.") = .ok sources'
        ∧ sources.map SourceFile.withoutDocs ≠ sources'.map SourceFile.withoutDocs := by
  have haccepted : Grammar.ofDeclarations (documentedDeclarations "A block.\nlet x = 1")
      = .ok (documentedGrammar "A block.\nlet x = 1") := by decide +kernel
  have haccepted' : Grammar.ofDeclarations (documentedDeclarations "A block.")
      = .ok (documentedGrammar "A block.") := by decide +kernel
  obtain ⟨sources, hfiles⟩ := exists_files_documented haccepted
  obtain ⟨sources', hfiles'⟩ := exists_files_documented haccepted'
  refine ⟨haccepted, haccepted', rfl, sources, sources', hfiles, hfiles', ?_⟩
  intro hsame
  have hcommented := (map_withoutDocs_eq_iff
    (Grammar.accepts_of_ofDeclarations haccepted).distinctNames
    (Grammar.accepts_of_ofDeclarations haccepted').distinctNames rfl hfiles hfiles'
    (by decide)).mp hsame
  exact absurd hcommented (by decide)

end Generate

end SyntaxForge
