import SyntaxForge.Grammar.Builtin
import SyntaxForge.Proofs.Protocols

/-!
# One witness for every requirement

The struct of a kind adopts the protocols of everything that the kind reaches, each of which
requires a function that turns the struct into something else.  Several of these protocols may
implement such a function by default.  What decides between them is which of them inherits from
the others: a default is shadowed by that of a protocol further down.

* `IsDefault`: a default that is not shadowed.
* `Supported`: what a struct adopts and declares, said in terms of the conformances of a kind.
* `existsUnique_default`: **a struct declares what is required of it, or there is exactly one
  default that is not shadowed**.  The default is in the protocol of the nearest source of the
  conformance (`existsUnique_nearest`).
-/

namespace SyntaxForge.Generate

open Relation Code

/-- The structs that are generated for a grammar. -/
def structDecls (grammar : Grammar) : List Decl :=
  ((collectionStructs grammar ++ nodeStructs grammar).map Draft.decl).filter (·.form = .struct)

/-- The protocol is adopted and implements the function, and no other such protocol inherits from
it. -/
structure IsDefault (decls : List Decl) (struct : Decl) (function protocol : String) : Prop where
  adopted : Adopts decls struct protocol
  implemented : Implements decls protocol function
  unshadowed : ∀ other, Adopts decls struct other → Implements decls other function →
    other ≠ protocol → ¬ ReflTransGen (Inherits decls) other protocol

/-- The struct adopts the protocols of what `source` reaches and of a base of it, and declares the
functions that turn it into the two and into the root. -/
structure Supported (grammar : Grammar) (struct : Decl) (source base : NodeKind) : Prop where
  source_mem : source ∈ grammar.generatingKinds
  base_mem : base ∈ protocolBases grammar
  above : ReflTransGen grammar.Conforms source.name base.name ∨ base.name = rootName
  parents : ∀ parent ∈ struct.parents, Undeclared grammar parent
    ∨ Backed grammar base.name parent ∨ Reached grammar source.name parent
  adopts : Adopts (protocolDecls grammar) struct (SwiftType.ofKind source).expressibleAs
  declares : ∀ kind ∈ grammar.kinds, kind = source ∨ kind = base ∨ kind.name = rootName →
    (SwiftType.ofKind kind).createMethod ∈ struct.functionNames

variable {declarations : Declarations} {grammar : Grammar} {struct : Decl}
  {source base kind : NodeKind}

/-! ## What a supported struct adopts -/

section Supported

variable (h : Grammar.Accepts declarations grammar) (hnames : grammar.checkNames = .ok ())
  (hlisted : ∀ entry ∈ declarations.expressibleAs, collectionBaseName ∉ entry.2)

include h in
/-- What a base reaches is reached from below. -/
lemma Supported.reached_of_base (hs : Supported grammar struct source base) {protocol : String}
    (hreached : Reached grammar base.name protocol) : Reached grammar source.name protocol := by
  obtain ⟨kind, hkind, hreach, rfl⟩ := hreached
  refine ⟨kind, hkind, ?_, rfl⟩
  rcases hreach with hreach | hroot
  · rcases hs.above with habove | hbase
    · exact Or.inl (habove.trans hreach)
    · exact Or.inr (eq_of_reflTransGen_root h (hbase ▸ hreach))
  · exact Or.inr hroot

include h hnames hlisted in
/-- Everything that is adopted is undeclared, or builds the base or the root, or is what a kind that
the source reaches is expressible as. -/
lemma Supported.cases_of_adopts (hs : Supported grammar struct source base) {protocol : String}
    (hadopts : Adopts (protocolDecls grammar) struct protocol) :
    Undeclared grammar protocol ∨ Backed grammar base.name protocol
      ∨ Reached grammar source.name protocol := by
  obtain ⟨parent, hparent, hinherits⟩ := hadopts
  induction hinherits with
  | refl => exact hs.parents parent hparent
  | tail _ hstep ih =>
      rcases ih with hundeclared | hbacked | hreached
      · obtain ⟨decl, hdecl, _, hname, _⟩ := hstep
        exact absurd hname (hundeclared decl hdecl)
      · rcases hbacked.of_inherits h hnames hstep with hbacked | hreached
        · exact Or.inr (Or.inl hbacked)
        · exact Or.inr (Or.inr (hs.reached_of_base h hreached))
      · exact Or.inr (Or.inr (hreached.of_inherits h hnames hlisted hstep))

include h hnames in
lemma Supported.adopts_of_reflTransGen (hs : Supported grammar struct source base)
    (hkind : grammar.IsExpressible kind)
    (hreach : ReflTransGen grammar.Conforms source.name kind.name) :
    Adopts (protocolDecls grammar) struct (SwiftType.ofKind kind).expressibleAs := by
  obtain ⟨parent, hparent, hinherits⟩ := hs.adopts
  exact ⟨parent, hparent, hinherits.trans (reflTransGen_inherits_of_conforms h hnames
    (Grammar.isExpressible_of_mem_generatingKinds hs.source_mem) hkind hreach)⟩

/-! ## Defaults -/

include h hnames hlisted in
/-- What a kind is expressible as implements the functions of its conformances. -/
lemma implements_createMethod_iff (hsource : grammar.IsExpressible source)
    (hkind : grammar.IsExpressible kind) :
    Implements (protocolDecls grammar) (SwiftType.ofKind source).expressibleAs
      (SwiftType.ofKind kind).createMethod ↔ grammar.Conforms source.name kind.name := by
  rw [implements_expressibleAs_iff h hnames hsource]
  constructor
  · rintro ⟨_, conformance, hmem, heq⟩
    have hedge := Grammar.conforms_of_mem hmem
    obtain ⟨target, htarget, hname⟩ := exists_isExpressible_of_conforms h hlisted hedge
    rw [← hname, h.ofName_eq_ofKind htarget.1, SwiftType.createMethod_inj] at heq
    obtain rfl := Grammar.eq_of_buildableBaseName_eq h hnames htarget hkind heq
    exact hname ▸ hedge
  · intro hedge
    refine ⟨Grammar.mem_generatingKinds.mpr ⟨hsource.1, (h.not_root_of_conforms hedge).2⟩, ?_⟩
    obtain ⟨conformance, hmem, heq⟩ := List.mem_map.mp hedge
    exact ⟨conformance, hmem, by rw [heq, h.ofName_eq_ofKind hkind.1]⟩

include h hnames hlisted in
/-- **The defaults of a function are in the protocols of the sources of the conformance.** -/
lemma Supported.adopts_and_implements_iff (hs : Supported grammar struct source base)
    (hkind : grammar.IsExpressible kind) (hbase : kind ≠ base) (hroot : kind.name ≠ rootName)
    (protocol : String) :
    Adopts (protocolDecls grammar) struct protocol
        ∧ Implements (protocolDecls grammar) protocol (SwiftType.ofKind kind).createMethod
      ↔ ∃ provider, grammar.IsExpressible provider
        ∧ ReflTransGen grammar.Conforms source.name provider.name
        ∧ grammar.Conforms provider.name kind.name
        ∧ protocol = (SwiftType.ofKind provider).expressibleAs := by
  constructor
  · rintro ⟨hadopts, himplements⟩
    rcases hs.cases_of_adopts h hnames hlisted hadopts with hundeclared | hbacked | hreached
    · obtain ⟨decl, hdecl, _, hname, _⟩ := himplements
      exact absurd hname (hundeclared decl hdecl)
    · -- what builds a base turns it into that base only
      exfalso
      obtain ⟨other, hother, hname, rfl | rfl⟩ := hbacked
      · have heq := eq_of_implements_buildable h hnames hother himplements
          (isCreate_createMethod _)
        rw [SwiftType.createMethod_inj] at heq
        obtain rfl := Grammar.eq_of_buildableBaseName_eq h hnames hkind
          (isExpressible_of_mem_protocolBases hother) heq
        refine hname.elim (fun hname => hbase ?_) hroot
        exact h.distinctNames.eq_of_name_eq hkind.1
          (Grammar.mem_generatingKinds.mp (mem_protocolBases.mp hs.base_mem).1).1 hname
      · exact not_implements_listBuildable h hnames hother himplements
    · obtain ⟨provider, hprovider, hreach, rfl⟩ := hreached
      have hedge := (implements_createMethod_iff h hnames hlisted hprovider hkind).mp himplements
      refine ⟨provider, hprovider, hreach.resolve_right ?_, hedge, rfl⟩
      exact (h.not_root_of_conforms hedge).1
  · rintro ⟨provider, hprovider, hreach, hedge, rfl⟩
    exact ⟨hs.adopts_of_reflTransGen h hnames hprovider hreach,
      (implements_createMethod_iff h hnames hlisted hprovider hkind).mpr hedge⟩

include h in
/-- The source of a conformance generates types. -/
lemma exists_generating_of_conforms {provider target : String}
    (hedge : grammar.Conforms provider target) :
    ∃ kind ∈ grammar.generatingKinds, kind.name = provider := by
  obtain ⟨kind, hkind, rfl⟩ := h.exists_kind_of_conforms hedge
  exact ⟨kind, Grammar.mem_generatingKinds.mpr ⟨hkind, (h.not_root_of_conforms hedge).2⟩, rfl⟩

include h hnames hlisted in
/-- **An unshadowed default is in the protocol of a nearest source of the conformance.** -/
lemma Supported.isDefault_iff (hs : Supported grammar struct source base)
    (hkind : grammar.IsExpressible kind) (hbase : kind ≠ base) (hroot : kind.name ≠ rootName)
    {protocol : String} :
    IsDefault (protocolDecls grammar) struct (SwiftType.ofKind kind).createMethod protocol
      ↔ ∃ provider, grammar.IsExpressible provider
        ∧ IsNearest grammar.Conforms source.name kind.name provider.name
        ∧ protocol = (SwiftType.ofKind provider).expressibleAs := by
  have hiff := hs.adopts_and_implements_iff h hnames hlisted hkind hbase hroot
  constructor
  · rintro ⟨hadopts, himplements, hunshadowed⟩
    obtain ⟨provider, hprovider, hreach, hedge, rfl⟩ := (hiff _).mp ⟨hadopts, himplements⟩
    refine ⟨provider, hprovider, ⟨hreach, hedge, ?_⟩, rfl⟩
    intro other hother hedge' hbelow
    obtain ⟨otherKind, hgenerating, rfl⟩ := exists_generating_of_conforms h hedge'
    have hexpressible := Grammar.isExpressible_of_mem_generatingKinds hgenerating
    obtain ⟨hadopts', himplements'⟩ := (hiff _).mpr ⟨otherKind, hexpressible, hother, hedge', rfl⟩
    refine hunshadowed _ hadopts' himplements' ?_
      (reflTransGen_inherits_of_conforms h hnames hexpressible hprovider hbelow.to_reflTransGen)
    intro heq
    obtain rfl := Grammar.eq_of_expressibleAs_eq h hnames hexpressible hprovider heq
    exact h.acyclic_conforms _ hbelow
  · rintro ⟨provider, hprovider, hnearest, rfl⟩
    obtain ⟨hadopts, himplements⟩ := (hiff _).mpr
      ⟨provider, hprovider, hnearest.reached, hnearest.edge, rfl⟩
    refine ⟨hadopts, himplements, ?_⟩
    intro other hadopts' himplements' hne hinherits
    obtain ⟨otherKind, hexpressible, hreach, hedge, rfl⟩ := (hiff _).mp ⟨hadopts', himplements'⟩
    -- a protocol that inherits from that of the provider belongs to a kind that reaches it
    have hreached : Reached grammar otherKind.name (SwiftType.ofKind otherKind).expressibleAs :=
      ⟨otherKind, hexpressible, Or.inl .refl, rfl⟩
    obtain ⟨found, hfound, hbelow, heq⟩ :=
      hreached.of_reflTransGen_inherits h hnames hlisted hinherits
    obtain rfl := Grammar.eq_of_expressibleAs_eq h hnames hprovider hfound heq
    have hbelow := hbelow.resolve_right (h.not_root_of_conforms hnearest.edge).1
    rcases reflTransGen_iff_eq_or_transGen.mp hbelow with heq | hbelow
    · exact hne (by rw [h.distinctNames.eq_of_name_eq hexpressible.1 hprovider.1 heq.symm])
    · exact hnearest.unshadowed _ hreach hedge hbelow

include h hnames hlisted in
/-- What is required of a supported struct is a function that turns it into something its source
reaches. -/
lemma Supported.exists_of_requires (hs : Supported grammar struct source base)
    {protocol function : String} (hadopts : Adopts (protocolDecls grammar) struct protocol)
    (hrequires : Requires (protocolDecls grammar) protocol function)
    (hcreate : IsCreate function) :
    ∃ kind, grammar.IsExpressible kind ∧ function = (SwiftType.ofKind kind).createMethod
      ∧ (ReflTransGen grammar.Conforms source.name kind.name ∨ kind.name = rootName) := by
  obtain ⟨kind, hkind, rfl, rfl⟩ := eq_of_requires hrequires hcreate
  have hexpressible := Grammar.isExpressible_of_mem_generatingKinds hkind
  refine ⟨kind, hexpressible, rfl, ?_⟩
  rcases hs.cases_of_adopts h hnames hlisted hadopts with hundeclared | hbacked | hreached
  · obtain ⟨decl, hdecl, _, hname, _⟩ := hrequires
    exact absurd hname (hundeclared decl hdecl)
  · exfalso
    obtain ⟨other, hother, _, hname⟩ := hbacked
    rw [mem_protocolBases] at hother
    obtain ⟨hbuildable, hlist⟩ :=
      Grammar.expressibleAs_ne_of_isBase h hnames hexpressible hother.1 hother.2
    rw [SwiftType.buildable_ofKind] at hname
    exact hname.elim hbuildable hlist
  · obtain ⟨found, hfound, hreach, heq⟩ := hreached
    rwa [Grammar.eq_of_expressibleAs_eq h hnames hexpressible hfound heq]

include h hnames hlisted in
/-- **A supported struct declares what is required of it, or has exactly one default for it.** -/
theorem Supported.declares_or_existsUnique (hs : Supported grammar struct source base)
    {protocol function : String} (hadopts : Adopts (protocolDecls grammar) struct protocol)
    (hrequires : Requires (protocolDecls grammar) protocol function)
    (hcreate : IsCreate function) :
    function ∈ struct.functionNames
      ∨ ∃! default, IsDefault (protocolDecls grammar) struct function default := by
  obtain ⟨kind, hkind, rfl, hreach⟩ := hs.exists_of_requires h hnames hlisted hadopts hrequires
    hcreate
  by_cases hown : kind = source ∨ kind = base ∨ kind.name = rootName
  · exact Or.inl (hs.declares kind hkind.1 hown)
  · obtain ⟨hsource, hbase, hroot⟩ := not_or.mp hown |>.imp_right not_or.mp
    have hbelow : TransGen grammar.Conforms source.name kind.name := by
      rcases reflTransGen_iff_eq_or_transGen.mp (hreach.resolve_right hroot) with heq | hbelow
      · exact absurd (h.distinctNames.eq_of_name_eq hkind.1
          (Grammar.mem_generatingKinds.mp hs.source_mem).1 heq) hsource
      · exact hbelow
    obtain ⟨name, hnearest, hunique⟩ :=
      existsUnique_nearest h.wellFounded_conforms h.unambiguous_conforms hbelow
    obtain ⟨provider, hprovider, rfl⟩ := exists_generating_of_conforms h hnearest.edge
    have hprovider := Grammar.isExpressible_of_mem_generatingKinds hprovider
    simp only [hs.isDefault_iff h hnames hlisted hkind hbase hroot]
    refine Or.inr ⟨_, ⟨provider, hprovider, hnearest, rfl⟩, ?_⟩
    rintro _ ⟨other, hother, hnearest', rfl⟩
    rw [h.distinctNames.eq_of_name_eq hother.1 hprovider.1 (hunique _ hnearest')]

end Supported

/-! ## The generated structs -/

/-- A struct is that of a collection or of a concrete kind. -/
lemma struct_cases (hstruct : struct ∈ structDecls grammar) :
    (∃ kind ∈ grammar.collectionKinds, ∃ element, struct = collectionStruct kind element)
      ∨ ∃ kind ∈ grammar.concreteKinds, struct = nodeStruct grammar kind := by
  obtain ⟨hmem, hform⟩ := List.mem_filter.mp hstruct
  rw [List.map_append, List.mem_append, List.mem_map, List.mem_map] at hmem
  rcases hmem with ⟨draft, hdraft, rfl⟩ | ⟨draft, hdraft, rfl⟩
  · obtain ⟨kind, hkind, hdraft⟩ := List.mem_flatMap.mp hdraft
    refine Or.inl ⟨kind, hkind, ?_⟩
    rw [collectionDrafts] at hdraft
    split at hdraft
    · simp at hdraft
    · rcases List.mem_cons.mp hdraft with rfl | hdraft
      · exact ⟨_, rfl⟩
      · split at hdraft
        · rw [List.mem_singleton.mp hdraft] at hform
          simp [arrayExtension] at hform
        · simp at hdraft
  · obtain ⟨kind, hkind, rfl⟩ := List.mem_map.mp hdraft
    exact Or.inr ⟨kind, hkind, rfl⟩

lemma parents_nodeStruct (grammar : Grammar) (kind : NodeKind) : (nodeStruct grammar kind).parents
    = [(baseType grammar kind).buildable, (SwiftType.ofKind kind).expressibleAs] := by
  simp [Decl.parents, nodeStruct]

lemma parents_collectionStruct (kind : NodeKind) (element : SwiftType) :
    (collectionStruct kind element).parents = ["ExpressibleByArrayLiteral", rootType.buildable,
      (SwiftType.ofKind kind).expressibleAs] := by
  simp [Decl.parents, collectionStruct]

/-- The functions at the end of the members of a declaration are among its functions. -/
lemma mem_functionNames_of_members {members : List Member} {functions : List Function}
    (hmembers : struct.members = members ++ functions.map Member.function) {name : String}
    (hname : name ∈ functions.map Function.name) : name ∈ struct.functionNames := by
  obtain ⟨function, hfunction, rfl⟩ := List.mem_map.mp hname
  rw [Decl.functionNames, hmembers]
  exact List.mem_filterMap.mpr
    ⟨.function function, List.mem_append_right _ (List.mem_map_of_mem hfunction), rfl⟩

/-- The struct of a concrete kind turns itself into the kind, its base and the root. -/
lemma mem_functionNames_nodeStruct (grammar : Grammar) (kind : NodeKind) {name : String}
    (hname : name = (SwiftType.ofKind kind).createMethod
      ∨ (baseType grammar kind).isRoot = false ∧ name = (baseType grammar kind).createMethod
      ∨ name = rootType.createMethod) :
    name ∈ (nodeStruct grammar kind).functionNames := by
  have hmembers : (nodeStruct grammar kind).members
      = (triviaProperty :: (slotViews grammar kind).map SlotView.property
          ++ [.initializer (memberwiseInitializer grammar kind (slotViews grammar kind))])
        ++ (nodeFunctions (.ofKind kind) (baseType grammar kind) (slotViews grammar kind)).map
          Member.function := by
    simp [nodeStruct]
  refine mem_functionNames_of_members hmembers ?_
  rcases hname with rfl | ⟨hbase, rfl⟩ | rfl
  · simp [nodeFunctions, createFunction, returningFunction]
  · simp [nodeFunctions, fixedCreate, returningFunction, hbase]
  · simp [nodeFunctions, fixedRootCreate, fixedCreate, returningFunction]

/-- The struct of a collection turns itself into the kind and the root. -/
lemma mem_functionNames_collectionStruct (kind : NodeKind) (element : SwiftType) {name : String}
    (hname : name = (SwiftType.ofKind kind).createMethod ∨ name = rootType.createMethod) :
    name ∈ (collectionStruct kind element).functionNames := by
  have hmembers : (collectionStruct kind element).members
      = [elementsProperty element, .initializer (elementsInitializer kind element),
          .initializer (combiningInitializer kind (.ofKind kind)),
          .initializer (literalInitializer element)]
        ++ (collectionFunctions kind element).map Member.function := rfl
  refine mem_functionNames_of_members hmembers ?_
  rcases hname with rfl | rfl
  · simp [collectionFunctions, createFunction, returningFunction]
  · simp [collectionFunctions, fixedRootCreate, fixedCreate, returningFunction]

section Structs

variable (h : Grammar.Accepts declarations grammar) (hnames : grammar.checkNames = .ok ())

include h hnames in
/-- The base of collections has no protocol of its own. -/
lemma undeclared_expressibleAs (hkind : grammar.IsExpressible kind)
    (hname : kind.name = collectionBaseName) :
    Undeclared grammar (SwiftType.ofKind kind).expressibleAs := by
  intro decl hdecl hdeclName
  have hgenerating := (decl_of_name_expressibleAs h hnames hkind hdecl hdeclName).1
  exact (Grammar.mem_generatingKinds.mp hgenerating).2 hname

/-- Every protocol is for what builds something, or for what something is expressible as. -/
lemma undeclared_of_not_affix {name : String} (hstart : ¬ "ExpressibleAs".toList <+: name.toList)
    (hend : ¬ "Buildable".toList <:+ name.toList) : Undeclared grammar name := by
  intro decl hdecl hname
  rcases mem_protocolDecls_iff.mp hdecl with ⟨base, hbase, hdecl⟩ | ⟨kind, _, hdecl⟩
  · have hbase := (mem_protocolBases.mp hbase).2
    have hlist : ¬ "ListBuildable".toList <:+ name.toList :=
      fun hlist => hend ((by decide : "Buildable".toList <:+ "ListBuildable".toList).trans hlist)
    have hne : (SwiftType.ofKind base).buildable ≠ name := by
      rw [SwiftType.buildable_ofKind, SwiftType.buildableBaseName_of_isBase hbase]
      exact Grammar.append_ne_of_not_suffix hend
    rcases mem_baseDecls_iff.mp hdecl with rfl | rfl | rfl
    · exact Grammar.append_ne_of_not_suffix hlist hname
    · exact hne hname
    · exact hne hname
  · rcases mem_expressibleDecls_iff.mp hdecl with rfl | ⟨_, rfl⟩
    · exact SwiftType.expressibleAs_ne hstart kind hname
    · exact SwiftType.expressibleAs_ne hstart kind hname

/-- The protocol of array literals is not a generated one. -/
lemma undeclared_arrayLiteral : Undeclared grammar "ExpressibleByArrayLiteral" :=
  undeclared_of_not_affix (by decide) (by decide)

include h in
/-- A concrete kind derives from a base. -/
lemma exists_baseType (hkind : kind ∈ grammar.concreteKinds) :
    ∃ base ∈ grammar.kinds, base.isBase = true ∧ kind.base = some base.name
      ∧ baseType grammar kind = SwiftType.ofKind base := by
  obtain ⟨hmem, hconcrete⟩ := List.mem_filter.mp hkind
  have hroot : kind.isRoot ≠ true := by
    intro hroot
    have hbase := h.isBase_of_isRoot hmem hroot
    rw [NodeKind.isBase_eq_false_of_isConcrete hconcrete] at hbase
    exact Bool.noConfusion hbase
  obtain ⟨name, hname⟩ := Option.isSome_iff_exists.mp
    (by simpa [NodeKind.isRoot, Option.isSome_iff_ne_none] using hroot : kind.base.isSome = true)
  obtain ⟨base, hbase, rfl, hisBase⟩ := h.exists_base hmem hname
  refine ⟨base, hbase, hisBase, hname, ?_⟩
  rw [baseType, hname, Option.getD_some, h.ofName_eq_ofKind hbase]

include h in
/-- A concrete kind has a base with protocols, unless it derives from the base of collections. -/
lemma exists_base_of_isConcrete (hkind : kind ∈ grammar.concreteKinds)
    (hcollection : kind.base = some collectionBaseName → kind.isCollection = true) :
    ∃ base ∈ protocolBases grammar, kind.base = some base.name
      ∧ baseType grammar kind = SwiftType.ofKind base := by
  obtain ⟨base, hbase, hisBase, hname, htype⟩ := exists_baseType h hkind
  have hne : base.name ≠ collectionBaseName := by
    intro heq
    have hfalse := NodeKind.isConcrete_eq_false_of_isCollection (hcollection (heq ▸ hname))
    rw [(List.mem_filter.mp hkind).2] at hfalse
    exact Bool.noConfusion hfalse
  exact ⟨base, mem_protocolBases.mpr ⟨Grammar.mem_generatingKinds.mpr ⟨hbase, hne⟩, hisBase⟩,
    hname, htype⟩

include h in
/-- The struct of a concrete kind declares what turns it into itself, its base and the root. -/
lemma declares_nodeStruct (htype : baseType grammar kind = SwiftType.ofKind base)
    {target : NodeKind} (htarget : target ∈ grammar.kinds)
    (hcase : target = kind ∨ target = base ∨ target.name = rootName) :
    (SwiftType.ofKind target).createMethod ∈ (nodeStruct grammar kind).functionNames := by
  have hroot : ∀ {other : NodeKind}, other ∈ grammar.kinds → other.name = rootName →
      (SwiftType.ofKind other).createMethod ∈ (nodeStruct grammar kind).functionNames := by
    intro other hother hname
    rw [h.ofKind_root hother hname]
    exact mem_functionNames_nodeStruct grammar kind (Or.inr (Or.inr rfl))
  rcases hcase with rfl | rfl | hname
  · exact mem_functionNames_nodeStruct grammar target (Or.inl rfl)
  · cases hisRoot : target.isRoot with
    | true => exact hroot htarget ((h.isRoot_iff htarget).mp hisRoot)
    | false =>
        refine mem_functionNames_nodeStruct grammar kind (Or.inr (Or.inl ?_))
        rw [htype, SwiftType.isRoot_ofKind]
        exact ⟨hisRoot, rfl⟩
  · exact hroot htarget hname

include h hnames in
/-- The struct of a concrete kind is supported by the kind, or by its base if the kind is named as
the base of collections and has no protocol of its own. -/
lemma exists_supported_nodeStruct (hkind : kind ∈ grammar.concreteKinds)
    (hcollection : kind.base = some collectionBaseName → kind.isCollection = true) :
    ∃ source base, Supported grammar (nodeStruct grammar kind) source base := by
  obtain ⟨base, hbase, hname, htype⟩ := exists_base_of_isConcrete h hkind hcollection
  obtain ⟨hmem, hconcrete⟩ := List.mem_filter.mp hkind
  have hexpressible : grammar.IsExpressible kind :=
    ⟨hmem, fun _ => NodeKind.isBase_eq_false_of_isConcrete hconcrete⟩
  have hbacked : Backed grammar base.name (SwiftType.ofKind base).buildable :=
    ⟨base, hbase, Or.inl rfl, Or.inl rfl⟩
  have hbaseNe := (Grammar.mem_generatingKinds.mp (mem_protocolBases.mp hbase).1).2
  by_cases hcollectionName : kind.name = collectionBaseName
  · refine ⟨base, base, (mem_protocolBases.mp hbase).1, hbase, Or.inl .refl, ?_, ?_, ?_⟩
    · intro parent hparent
      rw [parents_nodeStruct, htype] at hparent
      simp only [List.mem_cons, List.not_mem_nil, or_false] at hparent
      rcases hparent with rfl | rfl
      · exact Or.inr (Or.inl hbacked)
      · exact Or.inl (undeclared_expressibleAs h hnames hexpressible hcollectionName)
    · refine ⟨(SwiftType.ofKind base).buildable, ?_, .single ?_⟩
      · simp [parents_nodeStruct, htype]
      · rw [inherits_buildable_iff h hnames hbase, parents_buildableProtocol]
        exact List.mem_append_left _ List.mem_cons_self
    · intro target htarget hcase
      exact declares_nodeStruct h htype htarget (Or.inr (by tauto))
  · refine ⟨kind, base, Grammar.mem_generatingKinds.mpr ⟨hmem, hcollectionName⟩, hbase, ?_, ?_, ?_,
      fun _ htarget hcase => declares_nodeStruct h htype htarget hcase⟩
    · by_cases hroot : base.name = rootName
      · exact Or.inr hroot
      · exact Or.inl (.single (h.conforms_base hmem hcollectionName hname hroot hbaseNe))
    · intro parent hparent
      rw [parents_nodeStruct, htype] at hparent
      simp only [List.mem_cons, List.not_mem_nil, or_false] at hparent
      rcases hparent with rfl | rfl
      · exact Or.inr (Or.inl hbacked)
      · exact Or.inr (Or.inr ⟨kind, hexpressible, Or.inl .refl, rfl⟩)
    · exact ⟨_, by simp [parents_nodeStruct], .refl⟩

include h hnames in
/-- The struct of a collection is supported by the kind, or by the root if the kind is named as the
base of collections. -/
lemma exists_supported_collectionStruct (hkind : kind ∈ grammar.collectionKinds)
    (element : SwiftType) :
    ∃ source base, Supported grammar (collectionStruct kind element) source base := by
  obtain ⟨root, hroot, hrootName, htype⟩ := exists_root_mem_protocolBases h
  obtain ⟨hmem, hcollection⟩ := List.mem_filter.mp hkind
  have hexpressible : grammar.IsExpressible kind :=
    ⟨hmem, fun _ => NodeKind.isBase_eq_false_of_isCollection hcollection⟩
  have hbacked : Backed grammar root.name rootType.buildable :=
    ⟨root, hroot, Or.inl rfl, Or.inl (by rw [htype])⟩
  have hdeclares : ∀ target ∈ grammar.kinds, target.name = rootName →
      (SwiftType.ofKind target).createMethod ∈ (collectionStruct kind element).functionNames := by
    intro target htarget hname
    rw [h.ofKind_root htarget hname]
    exact mem_functionNames_collectionStruct kind element (Or.inr rfl)
  by_cases hcollectionName : kind.name = collectionBaseName
  · refine ⟨root, root, (mem_protocolBases.mp hroot).1, hroot, Or.inl .refl, ?_, ?_, ?_⟩
    · intro parent hparent
      rw [parents_collectionStruct] at hparent
      simp only [List.mem_cons, List.not_mem_nil, or_false] at hparent
      rcases hparent with rfl | rfl | rfl
      · exact Or.inl undeclared_arrayLiteral
      · exact Or.inr (Or.inl hbacked)
      · exact Or.inl (undeclared_expressibleAs h hnames hexpressible hcollectionName)
    · refine ⟨(SwiftType.ofKind root).buildable, ?_, .single ?_⟩
      · simp [parents_collectionStruct, htype]
      · rw [inherits_buildable_iff h hnames hroot, parents_buildableProtocol]
        exact List.mem_append_left _ List.mem_cons_self
    · rintro target htarget (rfl | rfl | hname)
      · exact hdeclares _ htarget hrootName
      · exact hdeclares _ htarget hrootName
      · exact hdeclares _ htarget hname
  · refine ⟨kind, root, Grammar.mem_generatingKinds.mpr ⟨hmem, hcollectionName⟩, hroot,
      Or.inr hrootName, ?_, ?_, ?_⟩
    · intro parent hparent
      rw [parents_collectionStruct] at hparent
      simp only [List.mem_cons, List.not_mem_nil, or_false] at hparent
      rcases hparent with rfl | rfl | rfl
      · exact Or.inl undeclared_arrayLiteral
      · exact Or.inr (Or.inl hbacked)
      · exact Or.inr (Or.inr ⟨kind, hexpressible, Or.inl .refl, rfl⟩)
    · exact ⟨_, by simp [parents_collectionStruct], .refl⟩
    · rintro target htarget (rfl | rfl | hname)
      · exact mem_functionNames_collectionStruct _ element (Or.inl rfl)
      · exact hdeclares _ htarget hrootName
      · exact hdeclares _ htarget hname

end Structs

/-- **A struct declares what is required of it, or there is exactly one default that is not
shadowed.**  The grammar is accepted and its names are distinct; only collections derive from the
base of collections, and nothing is listed as expressible as it. -/
theorem existsUnique_default (h : Grammar.ofDeclarations declarations = .ok grammar)
    (hnames : grammar.checkNames = .ok ())
    (hcollection : ∀ kind ∈ declarations.kinds, kind.base = some collectionBaseName →
      kind.isCollection = true)
    (hlisted : ∀ entry ∈ declarations.expressibleAs, collectionBaseName ∉ entry.2)
    (hstruct : struct ∈ structDecls grammar) {protocol function : String}
    (hadopts : Adopts (protocolDecls grammar) struct protocol)
    (hrequires : Requires (protocolDecls grammar) protocol function)
    (hcreate : IsCreate function) :
    function ∈ struct.functionNames
      ∨ ∃! default, IsDefault (protocolDecls grammar) struct function default := by
  have haccepts := Grammar.accepts_of_ofDeclarations h
  have hsupported : ∃ source base, Supported grammar struct source base := by
    rcases struct_cases hstruct with ⟨kind, hkind, element, rfl⟩ | ⟨kind, hkind, rfl⟩
    · exact exists_supported_collectionStruct haccepts hnames hkind element
    · refine exists_supported_nodeStruct haccepts hnames hkind (hcollection kind ?_)
      rw [← haccepts.catalog_eq]
      exact List.mem_of_mem_filter hkind
  obtain ⟨source, base, hs⟩ := hsupported
  exact hs.declares_or_existsUnique haccepts hnames hlisted hadopts hrequires hcreate

/-! A leaf is listed as expressible as an item, and so is every expression because an item wraps
one.  The default of the leaf shadows that of expressions. -/

/-- The leaf. -/
def leafKind : NodeKind := Builtin.node "Leaf" "Expr" []

/-- The item that wraps an expression. -/
def itemKind : NodeKind := Builtin.node "Item" rootName [Builtin.child "Content" "Expr"]

/-- A grammar in which a leaf is expressible as an item in two ways. -/
def leafDeclarations : Declarations where
  tokens := []
  kinds := [Builtin.root, Builtin.exprBase, leafKind, itemKind]
  expressibleAs := [("Leaf", ["Item"])]

/-- The grammar with its conformances. -/
def leafGrammar : Grammar where
  toCatalog := leafDeclarations.toCatalog
  conformanceTable :=
    [("Syntax", []), ("Expr", [⟨"Item", .wrap "Content"⟩]),
     ("Leaf", [⟨"Expr", .upcast⟩, ⟨"Item", .wrap "Content"⟩]), ("Item", [])]

theorem existsUnique_default_leaf :
    ∃! default, IsDefault (protocolDecls leafGrammar) (nodeStruct leafGrammar leafKind)
      "createItem" default := by
  have haccepted : Grammar.ofDeclarations leafDeclarations = .ok leafGrammar := by decide +kernel
  have hdecl : ∀ kind ∈ leafGrammar.generatingKinds,
      expressibleProtocol leafGrammar kind ∈ protocolDecls leafGrammar := fun kind hkind =>
    mem_protocolDecls_iff.mpr (Or.inr ⟨kind, hkind, mem_expressibleDecls_iff.mpr (Or.inl rfl)⟩)
  have hadopts : Adopts (protocolDecls leafGrammar) (nodeStruct leafGrammar leafKind)
      "ExpressibleAsItem" :=
    ⟨"ExpressibleAsLeaf", by decide +kernel,
      .single ⟨_, hdecl leafKind (by decide +kernel), rfl, by decide +kernel, by decide +kernel⟩⟩
  have hrequires : Requires (protocolDecls leafGrammar) "ExpressibleAsItem" "createItem" :=
    ⟨_, hdecl itemKind (by decide +kernel), rfl, by decide +kernel, by decide +kernel⟩
  have hstruct : nodeStruct leafGrammar leafKind ∈ structDecls leafGrammar := by
    refine List.mem_filter.mpr ⟨List.mem_map.mpr ⟨_, List.mem_append_right _ (List.mem_map_of_mem
      (by decide +kernel : leafKind ∈ leafGrammar.concreteKinds)), rfl⟩, rfl⟩
  exact (existsUnique_default haccepted (by decide +kernel) (by decide +kernel) (by decide +kernel)
    hstruct hadopts hrequires (by decide +kernel)).resolve_left (by decide +kernel)

end SyntaxForge.Generate
