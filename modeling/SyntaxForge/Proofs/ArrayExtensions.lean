import SyntaxForge.Proofs.DeclaredNames
import SyntaxForge.Proofs.ProtocolOrder
import SyntaxForge.Proofs.Upcasts

/-!
# Arrays that stand in for collections

A plain array stands in for the first collection of each element type, among those without
conformances of their own.

**Elements.**  The choice is made by the types as the grammar refers to them, while an extension is
for a type as it is written in code, where all tokens are of one type.  `arrayElements_nodup_iff`
says **which grammars have two extensions for the same arrays**.

**Requirements.**  The extension has one function, which is enough as long as the protocol of the
collection inherits from no other.  `lacks_arrayExtension_iff` says **which functions an array
lacks**: the one that turns it into a value of the root, where the collection derives from the root.
-/

namespace SyntaxForge

open Relation

namespace Code

/-- Whether the declaration extends arrays. -/
def Decl.isArrayExtension (decl : Decl) : Bool := decl.form = .extend && decl.name = "Array"

/-- The types that the elements of extended arrays are required to be, as they are written. -/
def arrayElements (decls : List Decl) : List String :=
  (decls.filter Decl.isArrayExtension).filterMap fun decl =>
    decl.requirement.map fun same => same.type.text

/-- A protocol that the declaration adopts requires the function, and neither the declaration nor an
extension of such a protocol has it. -/
def Lacks (decls : List Decl) (decl : Decl) (function : String) : Prop :=
  (∃ protocol, Adopts decls decl protocol ∧ Requires decls protocol function)
    ∧ function ∉ decl.functionNames
    ∧ ∀ protocol, Adopts decls decl protocol → ¬ Implements decls protocol function

end Code

namespace Generate

open Code

variable {declarations : Declarations} {grammar : Grammar} {kind other : NodeKind}
  {sources : List SourceFile}

/-! ## The chosen collections -/

lemma mem_of_mem_firstOfElement : ∀ {seen : List TypeRef} {kinds : List NodeKind},
    kind ∈ firstOfElement seen kinds →
      kind ∈ kinds ∧ ∃ reference, kind.element? = some reference ∧ reference ∉ seen
  | seen, [], h => by simp [firstOfElement] at h
  | seen, first :: rest, h => by
      rw [firstOfElement] at h
      split at h
      · next element helement =>
          split at h
          · have hrest := mem_of_mem_firstOfElement h
            exact ⟨List.mem_cons_of_mem _ hrest.1, hrest.2⟩
          · next hseen =>
              rcases List.mem_cons.mp h with rfl | h
              · exact ⟨List.mem_cons_self, element, helement, hseen⟩
              · obtain ⟨hmem, reference, hreference, hnot⟩ := mem_of_mem_firstOfElement h
                exact ⟨List.mem_cons_of_mem _ hmem, reference, hreference,
                  fun hold => hnot (List.mem_cons_of_mem _ hold)⟩
      · have hrest := mem_of_mem_firstOfElement h
        exact ⟨List.mem_cons_of_mem _ hrest.1, hrest.2⟩

/-- No two chosen collections have the same elements. -/
lemma nodup_elements_firstOfElement : ∀ (seen : List TypeRef) (kinds : List NodeKind),
    ((firstOfElement seen kinds).map NodeKind.element?).Nodup
  | seen, [] => by simp [firstOfElement]
  | seen, first :: rest => by
      rw [firstOfElement]
      split
      · next element helement =>
          split
          · exact nodup_elements_firstOfElement seen rest
          · rw [List.map_cons, List.nodup_cons]
            refine ⟨?_, nodup_elements_firstOfElement _ rest⟩
            intro hmem
            obtain ⟨kind, hkind, hsame⟩ := List.mem_map.mp hmem
            obtain ⟨-, reference, hreference, hnot⟩ := mem_of_mem_firstOfElement hkind
            rw [hreference, helement, Option.some.injEq] at hsame
            simp [hsame] at hnot
      · exact nodup_elements_firstOfElement seen rest

/-- A chosen collection has no conformances. -/
lemma mem_arrayCollections (hkind : kind ∈ arrayCollections grammar) :
    kind ∈ grammar.kinds ∧ kind.isCollection = true ∧ grammar.conformances kind.name = []
      ∧ ∃ reference, kind.element? = some reference := by
  obtain ⟨hmem, reference, hreference, -⟩ := mem_of_mem_firstOfElement hkind
  simp only [Catalog.collectionKinds, List.mem_filter, List.isEmpty_iff] at hmem
  exact ⟨hmem.1.1, hmem.1.2, hmem.2, reference, hreference⟩

lemma nodup_arrayCollections (grammar : Grammar) : (arrayCollections grammar).Nodup :=
  (nodup_elements_firstOfElement [] _).of_map

/-! ## Elements -/

/-- The type of elements of a collection as it is written. -/
def writtenElement? (grammar : Grammar) (kind : NodeKind) : Option String :=
  kind.element?.map fun reference => (SwiftType.ofReference grammar reference).expressibleAs

/-- A base of collections, and a kind with values that is named as what would build that base. -/
def Namesakes (base node : NodeKind) : Prop :=
  base.isBase = true ∧ base.name = collectionBaseName
    ∧ node.isBase = false ∧ node.name = collectionBaseName ++ "Buildable"

/-- Two references that code has one type for: tokens are all of one type, and the name of what
would build the base of collections is free for another kind. -/
def WrittenAlike (grammar : Grammar) (first second : TypeRef) : Prop :=
  first.isToken = true ∧ second.isToken = true
    ∨ ∃ base ∈ grammar.kinds, ∃ node ∈ grammar.kinds, Namesakes base node
      ∧ first = .node base.name ∧ second = .node node.name

instance (base node : NodeKind) : Decidable (Namesakes base node) :=
  inferInstanceAs (Decidable (_ ∧ _))

instance (first second : TypeRef) : Decidable (WrittenAlike grammar first second) :=
  inferInstanceAs (Decidable (_ ∨ _))

/-- The extensions are those of the chosen collections. -/
lemma arrayElements_perm (hdistinct : grammar.DistinctNames) :
    (arrayElements ((collectionStructs grammar).map Draft.decl)).Perm
      ((arrayCollections grammar).filterMap (writtenElement? grammar)) := by
  have hdrafts : ∀ kind, arrayElements ((collectionDrafts grammar kind).map Draft.decl)
      = if kind ∈ arrayCollections grammar then (writtenElement? grammar kind).toList else [] := by
    intro kind
    rw [collectionDrafts, writtenElement?]
    cases kind.element? with
    | none => simp [arrayElements]
    | some reference =>
        by_cases harray : kind ∈ arrayCollections grammar <;>
          simp [harray, arrayElements, Decl.isArrayExtension, collectionStruct, arrayExtension]
  have hfile : arrayElements ((collectionStructs grammar).map Draft.decl)
      = (grammar.collectionKinds.filter fun kind => kind ∈ arrayCollections grammar).filterMap
        (writtenElement? grammar) := by
    rw [List.filterMap_eq_flatMap_toList, flatMap_filter]
    simp only [decide_eq_true_iff, ← hdrafts]
    simp only [arrayElements, collectionStructs, List.map_flatMap, List.filter_flatMap,
      List.filterMap_flatMap]
  -- a chosen collection is one of those that the file goes through
  have hchosen : (grammar.collectionKinds.filter fun kind => kind ∈ arrayCollections grammar).Perm
      (arrayCollections grammar) := by
    refine (List.perm_ext_iff_of_nodup ((hdistinct.of_map.filter _).filter _)
      (nodup_arrayCollections grammar)).mpr fun kind => ?_
    simp only [List.mem_filter, decide_eq_true_iff, and_iff_right_iff_imp]
    intro hkind
    obtain ⟨hmem, hcollection, -⟩ := mem_arrayCollections hkind
    exact ⟨hmem, hcollection⟩
  rw [hfile]
  exact hchosen.filterMap _

section Elements

variable (h : Grammar.Accepts declarations grammar) (hnames : grammar.checkNames = .ok ())

lemma expressibleAs_of_isToken {reference : TypeRef} (htoken : reference.isToken = true) :
    (SwiftType.ofReference grammar reference).expressibleAs = "TokenSyntax" := by
  cases reference with
  | node name => simp [TypeRef.isToken] at htoken
  | token name => rfl
  | anyToken => rfl

include h in
lemma Namesakes.expressibleAs_eq (hnamesakes : Namesakes kind other)
    (hother : other ∈ grammar.kinds) :
    (SwiftType.ofKind kind).expressibleAs = (SwiftType.ofKind other).expressibleAs := by
  obtain ⟨hbase, hname, hotherBase, hotherName⟩ := hnamesakes
  rw [SwiftType.expressibleAs_ofKind, SwiftType.expressibleAs_ofKind,
    SwiftType.buildableBaseName_of_isBase hbase, h.buildableBaseName_eq_name hother hotherBase,
    hname, hotherName]

include h in
lemma namesakes_of_expressibleAs_eq (hkind : kind ∈ grammar.kinds) (hother : other ∈ grammar.kinds)
    (hne : kind ≠ other) (hbase : kind.isBase = true) (hname : kind.name = collectionBaseName)
    (heq : (SwiftType.ofKind kind).expressibleAs = (SwiftType.ofKind other).expressibleAs) :
    Namesakes kind other := by
  rw [SwiftType.expressibleAs_ofKind, SwiftType.expressibleAs_ofKind, String.append_right_inj,
    SwiftType.buildableBaseName_of_isBase hbase, hname] at heq
  cases hotherBase : other.isBase with
  | true =>
      rw [SwiftType.buildableBaseName_of_isBase hotherBase, String.append_left_inj] at heq
      exact absurd (h.distinctNames.eq_of_name_eq hkind hother (hname.trans heq)) hne
  | false =>
      rw [h.buildableBaseName_eq_name hother hotherBase] at heq
      exact ⟨hbase, hname, hotherBase, heq.symm⟩

include h hnames in
/-- Names tell kinds apart, as far as they are checked. -/
lemma expressibleAs_eq_iff_namesakes (hkind : kind ∈ grammar.kinds)
    (hother : other ∈ grammar.kinds) (hne : kind ≠ other) :
    (SwiftType.ofKind kind).expressibleAs = (SwiftType.ofKind other).expressibleAs
      ↔ Namesakes kind other ∨ Namesakes other kind := by
  constructor
  · intro heq
    by_cases hexpressible : kind.name = collectionBaseName ∧ kind.isBase = true
    · exact Or.inl
        (namesakes_of_expressibleAs_eq h hkind hother hne hexpressible.2 hexpressible.1 heq)
    · by_cases hexpressible' : other.name = collectionBaseName ∧ other.isBase = true
      · exact Or.inr (namesakes_of_expressibleAs_eq h hother hkind hne.symm hexpressible'.2
          hexpressible'.1 heq.symm)
      · refine absurd (Grammar.eq_of_expressibleAs_eq h hnames ⟨hkind, ?_⟩ ⟨hother, ?_⟩ heq) hne
        · simpa using hexpressible
        · simpa using hexpressible'
  · rintro (hnamesakes | hnamesakes)
    · exact hnamesakes.expressibleAs_eq h hother
    · exact (hnamesakes.expressibleAs_eq h hkind).symm

include h in
/-- A reference that resolves is to a token or to a kind. -/
lemma token_or_kind {reference : TypeRef} (hresolves : grammar.resolves reference = true) :
    reference.isToken = true ∨ ∃ kind ∈ grammar.kinds, reference = .node kind.name
      ∧ SwiftType.ofReference grammar reference = SwiftType.ofKind kind := by
  cases reference with
  | node name =>
      obtain ⟨kind, hfound⟩ := Option.isSome_iff_exists.mp hresolves
      obtain ⟨hkind, rfl⟩ := Catalog.mem_and_name_of_kind? hfound
      exact Or.inr ⟨kind, hkind, rfl, h.ofName_eq_ofKind hkind⟩
  | token name => exact Or.inl rfl
  | anyToken => exact Or.inl rfl

include h in
lemma writtenAlike_node_iff (hkind : kind ∈ grammar.kinds) (hother : other ∈ grammar.kinds) :
    WrittenAlike grammar (.node kind.name) (.node other.name) ↔ Namesakes kind other := by
  constructor
  · rintro (⟨htoken, -⟩ | ⟨base, hbase, node, hnode, hnamesakes, hname, hname'⟩)
    · simp [TypeRef.isToken] at htoken
    · rw [TypeRef.node.injEq] at hname hname'
      rwa [h.distinctNames.eq_of_name_eq hkind hbase hname,
        h.distinctNames.eq_of_name_eq hother hnode hname']
  · intro hnamesakes
    exact Or.inr ⟨kind, hkind, other, hother, hnamesakes, rfl, rfl⟩

include h hnames in
/-- **Different references that are written alike.** -/
lemma expressibleAs_eq_iff {first second : TypeRef} (hfirst : grammar.resolves first = true)
    (hsecond : grammar.resolves second = true) (hne : first ≠ second) :
    (SwiftType.ofReference grammar first).expressibleAs
        = (SwiftType.ofReference grammar second).expressibleAs
      ↔ WrittenAlike grammar first second ∨ WrittenAlike grammar second first := by
  have hmixed : ∀ {token node : TypeRef} {kind : NodeKind}, token.isToken = true →
      node = .node kind.name → ¬ (WrittenAlike grammar token node ∨ WrittenAlike grammar node token)
      := by
    rintro token node kind htoken rfl
    cases token <;> simp [WrittenAlike, TypeRef.isToken] at htoken ⊢
  rcases token_or_kind h hfirst, token_or_kind h hsecond with
    ⟨htoken | ⟨kind, hkind, hname, htype⟩, htoken' | ⟨other, hother, hname', htype'⟩⟩
  · refine iff_of_true ?_ (Or.inl (Or.inl ⟨htoken, htoken'⟩))
    rw [expressibleAs_of_isToken htoken, expressibleAs_of_isToken htoken']
  · refine iff_of_false ?_ (hmixed htoken hname')
    rw [expressibleAs_of_isToken htoken, htype']
    exact (SwiftType.expressibleAs_ne (by decide) other).symm
  · refine iff_of_false ?_ (Or.symm.mt (hmixed htoken' hname))
    rw [expressibleAs_of_isToken htoken', htype]
    exact SwiftType.expressibleAs_ne (by decide) kind
  · have hdifferent : kind ≠ other := by
      rintro rfl
      exact hne (hname.trans hname'.symm)
    rw [htype, htype', expressibleAs_eq_iff_namesakes h hnames hkind hother hdifferent, hname,
      hname', writtenAlike_node_iff h hkind hother, writtenAlike_node_iff h hother hkind]

end Elements

/-- **Which grammars have two extensions for the same arrays**: those in which two of the chosen
collections have elements that are written alike. -/
theorem arrayElements_nodup_iff (h : Grammar.ofDeclarations declarations = .ok grammar)
    (hfiles : files grammar = .ok sources) :
    (arrayElements ((collectionStructs grammar).map Draft.decl)).Nodup
      ↔ ∀ kind ∈ arrayCollections grammar, ∀ other ∈ arrayCollections grammar, kind ≠ other →
        ∀ first ∈ kind.element?, ∀ second ∈ other.element?,
          ¬ WrittenAlike grammar first second := by
  have haccepts := Grammar.accepts_of_ofDeclarations h
  have hnames := checkNames_of_files hfiles
  have hiff : ∀ kind ∈ arrayCollections grammar, ∀ other ∈ arrayCollections grammar,
      kind ≠ other → ∀ first ∈ kind.element?, ∀ second ∈ other.element?,
      ((SwiftType.ofReference grammar first).expressibleAs
          = (SwiftType.ofReference grammar second).expressibleAs
        ↔ WrittenAlike grammar first second ∨ WrittenAlike grammar second first) := by
    intro kind hkind other hother hne first hfirst second hsecond
    have hresolves := haccepts.resolves_of_mem (mem_arrayCollections hkind).1
      (NodeKind.element_mem_references hfirst)
    have hresolves' := haccepts.resolves_of_mem (mem_arrayCollections hother).1
      (NodeKind.element_mem_references hsecond)
    refine expressibleAs_eq_iff haccepts hnames hresolves hresolves' ?_
    rintro rfl
    exact hne (List.inj_on_of_nodup_map (nodup_elements_firstOfElement [] _) hkind hother
      (hfirst.trans hsecond.symm))
  rw [(arrayElements_perm haccepts.distinctNames).nodup_iff,
    nodup_filterMap_iff (nodup_arrayCollections grammar)]
  constructor
  · intro hdifferent kind hkind other hother hne first hfirst second hsecond halike
    refine hdifferent kind hkind other hother hne _ (by rw [writtenElement?, hfirst]; rfl) ?_
    rw [writtenElement?, hsecond, Option.map_some]
    exact congrArg some
      ((hiff kind hkind other hother hne first hfirst second hsecond).mpr (Or.inl halike)).symm
  · intro hdifferent kind hkind other hother hne text htext htext'
    obtain ⟨first, hfirst, rfl⟩ := Option.map_eq_some_iff.mp htext
    obtain ⟨second, hsecond, heq⟩ := Option.map_eq_some_iff.mp htext'
    rcases (hiff kind hkind other hother hne first hfirst second hsecond).mp heq.symm with
      halike | halike
    · exact hdifferent kind hkind other hother hne first hfirst second hsecond halike
    · exact hdifferent other hother kind hkind hne.symm second hsecond first hfirst halike

/-! Collections of lists differ from collections of tokens, and of two collections of tokens the
first one is chosen.  A collection of identifiers is one of tokens as well, and is chosen, too. -/

/-- A grammar with these collections. -/
def listDeclarations (lists : List NodeKind) : Declarations where
  tokens := [Builtin.identifier]
  kinds := Builtin.root :: Builtin.collectionBase :: lists
  expressibleAs := []

/-- The grammar with its conformances. -/
def listGrammar (lists : List NodeKind) : Grammar where
  toCatalog := (listDeclarations lists).toCatalog
  conformanceTable :=
    ("Syntax", []) :: ("SyntaxCollection", []) :: lists.map fun kind => (kind.name, [])

/-- Collections of tokens, and one of such collections. -/
def tokenLists : List NodeKind :=
  [Builtin.tokenList, Builtin.nonEmptyTokenList, Builtin.list "TokenLists" (.node "TokenList")]

/-- Collections of tokens and of identifiers. -/
def nameLists : List NodeKind :=
  [Builtin.tokenList, Builtin.list "NameList" (.token "Identifier")]

theorem arrayElements_nodup_tokenLists :
    (arrayElements ((collectionStructs (listGrammar tokenLists)).map Draft.decl)).Nodup := by
  have haccepted : Grammar.ofDeclarations (listDeclarations tokenLists)
      = .ok (listGrammar tokenLists) := by decide
  obtain ⟨sources, hfiles⟩ := exists_files_of_hasPlainNames
    (Grammar.accepts_of_ofDeclarations haccepted) ⟨by decide, by decide, by decide⟩ (by decide)
  exact (arrayElements_nodup_iff haccepted hfiles).mpr (by decide)

theorem arrayElements_not_nodup_nameLists :
    Grammar.ofDeclarations (listDeclarations nameLists) = .ok (listGrammar nameLists)
      ∧ (∃ sources, files (listGrammar nameLists) = .ok sources)
      ∧ ¬ (arrayElements ((collectionStructs (listGrammar nameLists)).map Draft.decl)).Nodup := by
  have haccepted : Grammar.ofDeclarations (listDeclarations nameLists)
      = .ok (listGrammar nameLists) := by decide
  refine ⟨haccepted, ?_, by decide⟩
  exact exists_files_of_hasPlainNames (Grammar.accepts_of_ofDeclarations haccepted)
    ⟨by decide, by decide, by decide⟩ (by decide)

/-! ## Requirements -/

lemma isExpressible_of_mem_arrayCollections (hkind : kind ∈ arrayCollections grammar) :
    grammar.IsExpressible kind := by
  obtain ⟨hmem, hcollection, -⟩ := mem_arrayCollections hkind
  exact ⟨hmem, fun _ => NodeKind.isBase_eq_false_of_isCollection hcollection⟩

@[simp] lemma parents_arrayExtension (kind : NodeKind) (element : SwiftType) :
    (arrayExtension kind element).parents = [(SwiftType.ofKind kind).expressibleAs] := by
  simp [Decl.parents, arrayExtension]

@[simp] lemma functionNames_arrayExtension (kind : NodeKind) (element : SwiftType) :
    (arrayExtension kind element).functionNames = [(SwiftType.ofKind kind).createMethod] := rfl

/-- An extension is of a protocol, or of the arrays that stand in for one of the chosen
collections. -/
lemma extension_cases {decl : Decl} (hdecl : decl ∈ generatedDecls grammar)
    (hform : decl.form = .extend) :
    decl ∈ protocolDecls grammar
      ∨ ∃ kind ∈ arrayCollections grammar, ∃ element, decl = arrayExtension kind element := by
  rcases mem_generatedDecls_iff.mp hdecl with hdecl | hdecl | hdecl
  · exact Or.inl hdecl
  · obtain ⟨kind, _, reference, _, rfl | ⟨hkind, rfl⟩⟩ := mem_collectionStructs_iff.mp hdecl
    · simp [collectionStruct] at hform
    · exact Or.inr ⟨kind, hkind, _, rfl⟩
  · obtain ⟨kind, _, rfl⟩ := mem_nodeStructs_iff.mp hdecl
    simp [nodeStruct] at hform

/-- An array stands in for every chosen collection. -/
lemma arrayExtension_mem_generatedDecls (hkind : kind ∈ arrayCollections grammar)
    {reference : TypeRef} (helement : kind.element? = some reference) :
    arrayExtension kind (.ofReference grammar reference) ∈ generatedDecls grammar := by
  obtain ⟨hmem, hcollection, -⟩ := mem_arrayCollections hkind
  refine mem_generatedDecls_iff.mpr (Or.inr (Or.inl (mem_collectionStructs_iff.mpr ?_)))
  exact ⟨kind, List.mem_filter.mpr ⟨hmem, hcollection⟩, reference, helement, Or.inr ⟨hkind, rfl⟩⟩

section Requirements

variable {protocol function : String} (h : Grammar.Accepts declarations grammar)
  (hnames : grammar.checkNames = .ok ())

include h hnames in
/-- What a kind is expressible as requires the function that turns a value into the kind. -/
lemma requires_expressibleAs_iff (hkind : grammar.IsExpressible kind) :
    Requires (generatedDecls grammar) (SwiftType.ofKind kind).expressibleAs function
      ↔ kind ∈ grammar.generatingKinds ∧ function = (SwiftType.ofKind kind).createMethod := by
  constructor
  · rintro ⟨decl, hdecl, hform, hname, hmem⟩
    obtain ⟨hgenerating, hdecl⟩ := decl_of_name_expressibleAs h hnames hkind
      (mem_protocolDecls_of_form hdecl hform) hname
    rcases mem_expressibleDecls_iff.mp hdecl with rfl | ⟨_, rfl⟩
    · exact ⟨hgenerating, List.mem_singleton.mp hmem⟩
    · simp [expressibleExtension] at hform
  · rintro ⟨hgenerating, rfl⟩
    exact ⟨_, (Owns.expressible hgenerating).generated.1, rfl, rfl, List.mem_singleton_self _⟩

include h hnames in
/-- **What an array adopts**: the protocol of its collection, and that of the root where the
collection derives from the root. -/
lemma adopts_arrayExtension_iff (hkind : kind ∈ arrayCollections grammar) (element : SwiftType) :
    Adopts (generatedDecls grammar) (arrayExtension kind element) protocol
      ↔ protocol = (SwiftType.ofKind kind).expressibleAs
        ∨ protocol = rootType.expressibleAs ∧ kind.base = some rootName
          ∧ kind.name ≠ collectionBaseName := by
  obtain ⟨hmem, -, hconformances, -⟩ := mem_arrayCollections hkind
  obtain ⟨root, hroot, hrootName, htype⟩ := exists_root_mem_protocolBases h
  have hstep : ∀ {parent : String},
      Inherits (protocolDecls grammar) (SwiftType.ofKind kind).expressibleAs parent
        ↔ parent = rootType.expressibleAs ∧ kind.base = some rootName
          ∧ kind.name ≠ collectionBaseName := by
    intro parent
    rw [inherits_expressibleAs_iff h hnames (isExpressible_of_mem_arrayCollections hkind),
      Grammar.mem_generatingKinds, inheritedProtocols, hconformances]
    by_cases hbase : kind.base = some rootName <;> simp [hbase, hmem, and_comm]
  have hend : ∀ parent, ¬ Inherits (protocolDecls grammar) rootType.expressibleAs parent := by
    rw [← htype]
    exact not_inherits_expressibleAs_root h hnames (isExpressible_of_mem_protocolBases hroot)
      hrootName
  rw [adopts_generatedDecls, Adopts, parents_arrayExtension]
  simp only [List.mem_singleton, exists_eq_left]
  constructor
  · intro hinherits
    rcases ReflTransGen.cases_head hinherits with heq | ⟨parent, hparent, hinherits⟩
    · exact Or.inl heq.symm
    · obtain ⟨rfl, hbase⟩ := hstep.mp hparent
      rcases ReflTransGen.cases_head hinherits with rfl | ⟨_, hparent, _⟩
      · exact Or.inr ⟨rfl, hbase⟩
      · exact absurd hparent (hend _)
  · rintro (rfl | hbase)
    · exact .refl
    · exact .single (hstep.mpr hbase)

include h hnames in
/-- What a kind without conformances is expressible as has no defaults. -/
lemma not_implements_expressibleAs (hkind : grammar.IsExpressible kind)
    (hconformances : grammar.conformances kind.name = []) :
    ¬ Implements (generatedDecls grammar) (SwiftType.ofKind kind).expressibleAs function := by
  rintro ⟨decl, hdecl, hform, hname, hmem⟩
  rcases extension_cases hdecl hform with hdecl | ⟨other, _, element, rfl⟩
  · obtain ⟨-, conformance, hconformance, -⟩ :=
      (implements_expressibleAs_iff h hnames hkind).mp ⟨decl, hdecl, hform, hname, hmem⟩
    simp [hconformances] at hconformance
  · have hne : (SwiftType.ofKind kind).expressibleAs ≠ "Array" :=
      SwiftType.expressibleAs_ne (by decide) kind
    exact hne hname.symm

include h hnames in
/-- **Which functions an array lacks.** -/
lemma lacks_arrayExtension_iff (hkind : kind ∈ arrayCollections grammar) (element : SwiftType) :
    Lacks (generatedDecls grammar) (arrayExtension kind element) function
      ↔ function = rootType.createMethod ∧ kind.base = some rootName
        ∧ kind.name ≠ collectionBaseName := by
  obtain ⟨-, hcollection, hconformances, -⟩ := mem_arrayCollections hkind
  obtain ⟨root, hroot, hrootName, htype⟩ := exists_root_mem_protocolBases h
  have hexpressible := isExpressible_of_mem_arrayCollections hkind
  have hrootExpressible := isExpressible_of_mem_protocolBases hroot
  simp only [Lacks, adopts_arrayExtension_iff h hnames hkind, functionNames_arrayExtension,
    List.mem_singleton]
  constructor
  · rintro ⟨⟨_, rfl | ⟨rfl, hbase⟩, hrequires⟩, hown, -⟩
    · rw [requires_expressibleAs_iff h hnames hexpressible] at hrequires
      exact absurd hrequires.2 hown
    · rw [← htype, requires_expressibleAs_iff h hnames hrootExpressible, htype] at hrequires
      exact ⟨hrequires.2, hbase⟩
  · rintro ⟨rfl, hbase⟩
    rw [← htype]
    refine ⟨⟨_, Or.inr ⟨rfl, hbase⟩, ?_⟩, ?_, ?_⟩
    · rw [requires_expressibleAs_iff h hnames hrootExpressible]
      exact ⟨(mem_protocolBases.mp hroot).1, rfl⟩
    · rw [SwiftType.createMethod_inj]
      intro heq
      obtain rfl := Grammar.eq_of_buildableBaseName_eq h hnames hrootExpressible hexpressible heq
      have hnotBase := NodeKind.isBase_eq_false_of_isCollection hcollection
      simp [(mem_protocolBases.mp hroot).2] at hnotBase
    · rintro _ (rfl | ⟨rfl, -⟩)
      · exact not_implements_expressibleAs h hnames hexpressible hconformances
      · refine not_implements_expressibleAs h hnames hrootExpressible ?_
        refine List.eq_nil_iff_forall_not_mem.mpr fun conformance hmem => ?_
        exact (h.not_root_of_conforms (Grammar.conforms_of_mem hmem)).1 hrootName

end Requirements

/-- **What the extensions of arrays lack.**  An extension of arrays stands for a collection, and has
what the protocol of the collection requires, unless the collection derives from the root. -/
theorem arrays_lack_iff (h : Grammar.ofDeclarations declarations = .ok grammar)
    (hfiles : files grammar = .ok sources) {decl : Decl} (hdecl : decl ∈ generatedDecls grammar)
    (harray : decl.isArrayExtension = true) :
    ∃ kind ∈ arrayCollections grammar, decl.parents = [(SwiftType.ofKind kind).expressibleAs]
      ∧ ∀ function, Lacks (generatedDecls grammar) decl function
        ↔ function = "createSyntaxBuildable" ∧ kind.base = some rootName
          ∧ kind.name ≠ collectionBaseName := by
  obtain ⟨hform, hname⟩ : decl.form = .extend ∧ decl.name = "Array" := by
    simpa [Decl.isArrayExtension] using harray
  rcases extension_cases hdecl hform with hdecl | ⟨kind, hkind, element, rfl⟩
  · exact absurd hname (undeclared_of_not_affix (by decide) (by decide) decl hdecl)
  · refine ⟨kind, hkind, parents_arrayExtension kind element, fun function => ?_⟩
    exact lacks_arrayExtension_iff (Grammar.accepts_of_ofDeclarations h)
      (checkNames_of_files hfiles) hkind element

/-! A collection of tokens derives from the base of collections.  One that derives from the root
needs a function that no array has. -/

/-- A collection that derives from the root. -/
def rootList : NodeKind := { Builtin.tokenList with base := some rootName }

/-- The extension of the arrays of tokens. -/
def tokenArrays (kind : NodeKind) : Decl :=
  arrayExtension kind (.ofReference (listGrammar [kind]) .anyToken)

theorem arrays_lack_nothing_tokenList :
    tokenArrays Builtin.tokenList ∈ generatedDecls (listGrammar [Builtin.tokenList])
      ∧ ∀ function, ¬ Lacks (generatedDecls (listGrammar [Builtin.tokenList]))
        (tokenArrays Builtin.tokenList) function := by
  have haccepted : Grammar.ofDeclarations (listDeclarations [Builtin.tokenList])
      = .ok (listGrammar [Builtin.tokenList]) := by decide
  obtain ⟨sources, hfiles⟩ := exists_files_of_hasPlainNames
    (Grammar.accepts_of_ofDeclarations haccepted) ⟨by decide, by decide, by decide⟩ (by decide)
  have hdecl : tokenArrays Builtin.tokenList ∈ generatedDecls (listGrammar [Builtin.tokenList]) :=
    arrayExtension_mem_generatedDecls (by decide) rfl
  obtain ⟨kind, hkind, -, hlacks⟩ := arrays_lack_iff haccepted hfiles hdecl rfl
  refine ⟨hdecl, fun function hlack => ?_⟩
  have hbase : ∀ kind ∈ arrayCollections (listGrammar [Builtin.tokenList]),
      kind.base ≠ some rootName := by decide
  exact hbase kind hkind ((hlacks function).mp hlack).2.1

theorem arrays_lack_rootList :
    Grammar.ofDeclarations (listDeclarations [rootList]) = .ok (listGrammar [rootList])
      ∧ (∃ sources, files (listGrammar [rootList]) = .ok sources)
      ∧ tokenArrays rootList ∈ generatedDecls (listGrammar [rootList])
      ∧ (tokenArrays rootList).isArrayExtension = true
      ∧ Lacks (generatedDecls (listGrammar [rootList])) (tokenArrays rootList)
        "createSyntaxBuildable" := by
  have haccepted : Grammar.ofDeclarations (listDeclarations [rootList])
      = .ok (listGrammar [rootList]) := by decide
  have haccepts := Grammar.accepts_of_ofDeclarations haccepted
  have harray : rootList ∈ arrayCollections (listGrammar [rootList]) := by decide
  refine ⟨haccepted, ?_, arrayExtension_mem_generatedDecls harray rfl, rfl, ?_⟩
  · exact exists_files_of_hasPlainNames haccepts ⟨by decide, by decide, by decide⟩ (by decide)
  · exact (lacks_arrayExtension_iff haccepts (by decide) harray _).mpr (by decide)

end Generate

end SyntaxForge
