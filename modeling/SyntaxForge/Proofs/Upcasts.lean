import SyntaxForge.Proofs.GeneratedNames

/-!
# What an upcast returns

The default for an upcast turns a value into the kind it stands for, and returns the result as a
value of the target.  This takes that what builds the kind conforms to what builds the target, which
is up to the clauses that declarations inherit by.

* `ReturnsDeclared`: a function that returns a value of the type it declares.
* `NodeKind.InheritsFrom`: **the kinds and targets for which the clauses say so**.  A concrete kind
  inherits from its base only, and everything else from the root only.
* `upcast_returns`: the default for an upcast returns a value of its declared type exactly then.
-/

namespace SyntaxForge

open Relation

namespace Code

/-- The type is the target, or a protocol or struct that conforms to it. -/
def IsSubtype (decls : List Decl) (type target : String) : Prop :=
  type = target ∨ ∃ decl ∈ decls, decl.form ≠ .extend ∧ decl.name = type ∧ Adopts decls decl target

/-- An extension of a protocol has this function. -/
def Extends (decls : List Decl) (protocol : String) (function : Function) : Prop :=
  ∃ decl ∈ decls, decl.form = .extend ∧ decl.name = protocol
    ∧ Member.function function ∈ decl.members

/-- A protocol requires a function that gives a value of this type. -/
def Gives (decls : List Decl) (protocol name type : String) : Prop :=
  ∃ decl ∈ decls, decl.form = .protocol ∧ decl.name = protocol
    ∧ ∃ function, Member.function function ∈ decl.members
      ∧ function.name = name ∧ function.returns = .named type

/-- A function in an extension of a protocol returns what a function that the protocol requires
gives, and that is a value of the type it declares. -/
def ReturnsDeclared (decls : List Decl) (protocol : String) (function : Function) : Prop :=
  ∃ callee type target, function.body = some [.ret (.call (.name callee) .nil)]
    ∧ function.returns = .named target ∧ Gives decls protocol callee type
    ∧ IsSubtype decls type target

end Code

namespace NodeKind

/-- What builds the kind conforms to what builds the target: by the clause of its struct, which
names its base, or because everything conforms to what builds the root.  The exception is a struct
whose clause names the base of collections, for which there is nothing to conform to. -/
def InheritsFrom (kind : NodeKind) (target : String) : Prop :=
  kind.isConcrete = true ∧ kind.base = some target
    ∨ target = rootName ∧ ¬ (kind.isConcrete = true ∧ kind.base = some collectionBaseName)

instance (kind : NodeKind) (target : String) : Decidable (kind.InheritsFrom target) :=
  inferInstanceAs (Decidable (_ ∨ _))

end NodeKind

namespace Generate

open Code

variable {declarations : Declarations} {grammar : Grammar} {kind target : NodeKind} {decl : Decl}
  {sources : List SourceFile}

lemma adopts_generatedDecls {protocol : String} :
    Adopts (generatedDecls grammar) decl protocol
      ↔ Adopts (protocolDecls grammar) decl protocol := by
  rw [Adopts, Adopts, inherits_generatedDecls]

/-- The default for a conformance is in the extension of what the kind is expressible as. -/
lemma extends_conversionFunction (hkind : kind ∈ grammar.generatingKinds)
    {conformance : Conformance} (hmem : conformance ∈ grammar.conformances kind.name) :
    Extends (generatedDecls grammar) (SwiftType.ofKind kind).expressibleAs
      (conversionFunction grammar kind conformance) := by
  refine ⟨expressibleExtension grammar kind, ?_, rfl, rfl, List.mem_map_of_mem hmem⟩
  exact mem_generatedDecls_iff.mpr (Or.inl (mem_protocolDecls_iff.mpr (Or.inr ⟨kind, hkind,
    mem_expressibleDecls_iff.mpr (Or.inr ⟨List.ne_nil_of_mem hmem, rfl⟩)⟩)))

section Clauses

variable (h : Grammar.Accepts declarations grammar) (hnames : grammar.checkNames = .ok ())
  (hlisted : ∀ entry ∈ declarations.expressibleAs, collectionBaseName ∉ entry.2)

include h in
lemma eq_of_buildable_eq {base other : NodeKind} (hbase : base.isBase = true)
    (hmem : base ∈ grammar.kinds) (hother : other.isBase = true) (hmem' : other ∈ grammar.kinds)
    (heq : (SwiftType.ofKind base).buildable = (SwiftType.ofKind other).buildable) :
    base = other := by
  rw [SwiftType.buildable_ofKind, SwiftType.buildable_ofKind,
    SwiftType.buildableBaseName_of_isBase hbase, SwiftType.buildableBaseName_of_isBase hother,
    String.append_left_inj] at heq
  exact h.distinctNames.eq_of_name_eq hmem hmem' heq

lemma buildable_eq_root_iff (hkind : kind ∈ protocolBases grammar) :
    (SwiftType.ofKind kind).buildable = rootType.buildable ↔ kind.name = rootName := by
  have hroot : rootType.buildable = rootName ++ "Buildable" := by decide
  rw [SwiftType.buildable_ofKind, hroot,
    SwiftType.buildableBaseName_of_isBase (mem_protocolBases.mp hkind).2, String.append_left_inj]

include h hnames in
lemma inherits_rootBuildable (hkind : kind ∈ protocolBases grammar) :
    ReflTransGen (Inherits (protocolDecls grammar)) (SwiftType.ofKind kind).buildable
      rootType.buildable := by
  have hmem := (Grammar.mem_generatingKinds.mp (mem_protocolBases.mp hkind).1).1
  cases hroot : kind.isRoot with
  | true => rw [h.ofKind_root hmem ((h.isRoot_iff hmem).mp hroot)]
  | false =>
      refine .single ((inherits_buildable_iff h hnames hkind).mpr ?_)
      rw [parents_buildableProtocol, SwiftType.isRoot_ofKind, hroot]
      simp

include h hnames in
lemma buildable_ne_expressibleAs (htarget : target ∈ protocolBases grammar)
    (hkind : grammar.IsExpressible kind) :
    (SwiftType.ofKind target).buildable ≠ (SwiftType.ofKind kind).expressibleAs := by
  obtain ⟨hgenerating, hbase⟩ := mem_protocolBases.mp htarget
  rw [SwiftType.buildable_ofKind]
  exact (Grammar.expressibleAs_ne_of_isBase h hnames hkind hgenerating hbase).1.symm

include h hnames in
lemma buildable_ne_listBuildable (htarget : target ∈ protocolBases grammar)
    (hkind : kind ∈ protocolBases grammar) :
    (SwiftType.ofKind target).buildable ≠ (SwiftType.ofKind kind).listBuildable := by
  obtain ⟨hgenerating, hbase⟩ := mem_protocolBases.mp htarget
  rw [SwiftType.buildable_ofKind]
  exact Grammar.buildableBaseName_ne_listBuildable h hnames hgenerating hbase
    (mem_protocolBases.mp hkind).1

include h hnames in
/-- What builds a base inherits from what builds no other base than the root. -/
lemma eq_root_of_mem_buildableProtocol {base : NodeKind} (hbase : base ∈ protocolBases grammar)
    (htarget : target ∈ protocolBases grammar)
    (hparent : (SwiftType.ofKind target).buildable ∈ (buildableProtocol (.ofKind base)).parents) :
    target.name = rootName := by
  rw [parents_buildableProtocol] at hparent
  rcases List.mem_append.mp hparent with hparent | hparent
  · simp only [List.mem_cons, List.not_mem_nil, or_false] at hparent
    rcases hparent with heq | heq
    · exact absurd heq (buildable_ne_expressibleAs h hnames htarget
        (isExpressible_of_mem_protocolBases hbase))
    · exact absurd heq (buildable_ne_listBuildable h hnames htarget hbase)
  · split at hparent
    · simp at hparent
    · exact (buildable_eq_root_iff htarget).mp (List.mem_singleton.mp hparent)

include h hnames hlisted in
/-- Only what builds a base inherits from what builds a base, and that is the root. -/
lemma inherits_buildable_cases (htarget : target ∈ protocolBases grammar) {protocol : String}
    (hinherits : Inherits (protocolDecls grammar) protocol (SwiftType.ofKind target).buildable) :
    target.name = rootName ∧ ∃ base ∈ protocolBases grammar,
      protocol = (SwiftType.ofKind base).buildable := by
  obtain ⟨root, hroot, _, htype⟩ := exists_root_mem_protocolBases h
  obtain ⟨decl, hdecl, hform, rfl, hparent⟩ := hinherits
  rcases mem_protocolDecls_iff.mp hdecl with ⟨base, hbase, hdecl⟩ | ⟨kind, hkind, hdecl⟩
  · rcases mem_baseDecls_iff.mp hdecl with rfl | rfl | rfl
    · rw [parents_listProtocol] at hparent
      split at hparent
      · simp at hparent
      · rw [← htype, List.mem_singleton] at hparent
        exact absurd hparent (buildable_ne_listBuildable h hnames htarget hroot)
    · exact ⟨eq_root_of_mem_buildableProtocol h hnames hbase htarget hparent, base, hbase, rfl⟩
    · simp [buildableExtension] at hform
  · exfalso
    rcases mem_expressibleDecls_iff.mp hdecl with rfl | ⟨_, rfl⟩
    · rw [parents_expressibleProtocol] at hparent
      rcases List.mem_append.mp hparent with hparent | hparent
      · obtain ⟨conformance, hmem, heq⟩ := List.mem_map.mp hparent
        obtain ⟨other, hother, hname⟩ :=
          exists_isExpressible_of_conforms h hlisted (Grammar.conforms_of_mem hmem)
        rw [← hname, h.ofName_eq_ofKind hother.1] at heq
        exact buildable_ne_expressibleAs h hnames htarget hother heq.symm
      · split at hparent
        · rw [← htype, List.mem_singleton] at hparent
          exact buildable_ne_expressibleAs h hnames htarget
            (isExpressible_of_mem_protocolBases hroot) hparent
        · simp at hparent
    · simp [expressibleExtension] at hform

include h hnames hlisted in
/-- What leads to what builds a base is that itself, or builds another base if it is the root. -/
lemma exists_base_of_inherits (htarget : target ∈ protocolBases grammar) {protocol : String}
    (hinherits : ReflTransGen (Inherits (protocolDecls grammar)) protocol
      (SwiftType.ofKind target).buildable) :
    ∃ base ∈ protocolBases grammar, protocol = (SwiftType.ofKind base).buildable
      ∧ (base = target ∨ target.name = rootName) := by
  induction hinherits using ReflTransGen.head_induction_on with
  | refl => exact ⟨target, htarget, rfl, Or.inl rfl⟩
  | head hstep _ ih =>
      obtain ⟨base, hbase, rfl, hcase⟩ := ih
      obtain ⟨hroot, lower, hlower, rfl⟩ := inherits_buildable_cases h hnames hlisted hbase hstep
      refine ⟨lower, hlower, rfl, Or.inr ?_⟩
      rcases hcase with rfl | hroot'
      · exact hroot
      · exact hroot'

/-! ## Both directions -/

include h in
/-- An upcast is to a base, which has protocols unless it is that of collections. -/
lemma exists_target_of_upcast (hkind : kind ∈ grammar.kinds) {conformance : Conformance}
    (hmem : conformance ∈ grammar.conformances kind.name)
    (hupcast : conformance.conversion = .upcast) (hname : conformance.target ≠ collectionBaseName) :
    ∃ target ∈ protocolBases grammar, target.name = conformance.target ∧ target ≠ kind := by
  have hne : ∀ {target : NodeKind}, target.name = conformance.target → target ≠ kind := by
    rintro target htarget rfl
    have hloop := Grammar.conforms_of_mem hmem
    rw [← htarget] at hloop
    exact h.acyclic_conforms target.name (.single hloop)
  obtain ⟨target, htarget, htargetName, hbase⟩ : ∃ target ∈ grammar.kinds,
      target.name = conformance.target ∧ target.isBase = true := by
    rcases h.upcast_cases hkind hmem hupcast with hbase | ⟨hsubkind, _⟩
    · exact h.exists_base hkind hbase
    · obtain ⟨target, htarget, htargetName, hcase⟩ := h.exists_of_isSubkind hkind hsubkind
      exact ⟨target, htarget, htargetName, hcase.resolve_left (hne htargetName)⟩
  exact ⟨target, mem_protocolBases.mpr
    ⟨Grammar.mem_generatingKinds.mpr ⟨htarget, htargetName ▸ hname⟩, hbase⟩, htargetName,
    hne htargetName⟩

include h hnames in
/-- A kind other than the root conforms to what builds the root, unless it is a concrete kind that
derives from the base of collections. -/
lemma isSubtype_root (hkind : kind ∈ grammar.generatingKinds) (hroot : kind.isRoot = false)
    (hbase : kind.isConcrete = true → kind.base ≠ some collectionBaseName) :
    IsSubtype (generatedDecls grammar) (SwiftType.ofKind kind).buildable rootType.buildable := by
  have hmem := (Grammar.mem_generatingKinds.mp hkind).1
  refine Or.inr ?_
  simp only [adopts_generatedDecls]
  cases hshape : kind.shape with
  | base =>
      have hprotocol : kind ∈ protocolBases grammar :=
        mem_protocolBases.mpr ⟨hkind, by simp [NodeKind.isBase, hshape]⟩
      have howns := Owns.buildable hprotocol
      refine ⟨_, howns.generated.1, howns.generated.2, rfl, rootType.buildable, ?_, .refl⟩
      simp [parents_buildableProtocol, SwiftType.isRoot_ofKind, hroot]
  | concrete slots =>
      have hconcrete : kind.isConcrete = true := by simp [NodeKind.isConcrete, hshape]
      have hnode : kind ∈ grammar.concreteKinds := List.mem_filter.mpr ⟨hmem, hconcrete⟩
      obtain ⟨base, hprotocol, _, htype⟩ := exists_base_of_isConcrete h hnode
        fun hname => absurd hname (hbase hconcrete)
      have howns := Owns.node hnode
      refine ⟨_, howns.generated.1, howns.generated.2, ?_, _, ?_,
        inherits_rootBuildable h hnames hprotocol⟩
      · exact (h.buildable_eq_name hmem (NodeKind.isBase_eq_false_of_isConcrete hconcrete)).symm
      · simp [parents_nodeStruct, htype]
  | collection element onNewLines =>
      have hcollection : kind.isCollection = true := by simp [NodeKind.isCollection, hshape]
      have howns := Owns.collection
        (List.mem_filter.mpr ⟨hmem, hcollection⟩ : kind ∈ grammar.collectionKinds)
        (by simp [NodeKind.element?, hshape] : kind.element? = some element)
      refine ⟨_, howns.generated.1, howns.generated.2, ?_, rootType.buildable, ?_, .refl⟩
      · exact (h.buildable_eq_name hmem
          (NodeKind.isBase_eq_false_of_isCollection hcollection)).symm
      · simp [parents_collectionStruct]

include h hnames in
lemma isSubtype_of_inheritsFrom (hkind : kind ∈ grammar.generatingKinds)
    (hroot : kind.isRoot = false) (htarget : target ∈ protocolBases grammar)
    (hinherited : kind.InheritsFrom target.name) :
    IsSubtype (generatedDecls grammar) (SwiftType.ofKind kind).buildable
      (SwiftType.ofKind target).buildable := by
  rcases hinherited with ⟨hconcrete, hbase⟩ | ⟨htargetName, hnot⟩
  · have hmem := (Grammar.mem_generatingKinds.mp hkind).1
    have htargetMem := (Grammar.mem_generatingKinds.mp (mem_protocolBases.mp htarget).1).1
    have howns := Owns.node (List.mem_filter.mpr ⟨hmem, hconcrete⟩ : kind ∈ grammar.concreteKinds)
    refine Or.inr ⟨_, howns.generated.1, howns.generated.2, ?_, _, ?_, .refl⟩
    · exact (h.buildable_eq_name hmem (NodeKind.isBase_eq_false_of_isConcrete hconcrete)).symm
    · rw [parents_nodeStruct, baseType, hbase, Option.getD_some, h.ofName_eq_ofKind htargetMem]
      exact List.mem_cons_self
  · rw [(buildable_eq_root_iff htarget).mpr htargetName]
    exact isSubtype_root h hnames hkind hroot fun hconcrete hbase => hnot ⟨hconcrete, hbase⟩

include h hnames hlisted in
lemma inheritsFrom_of_isSubtype (hkind : kind ∈ grammar.generatingKinds)
    (htarget : target ∈ protocolBases grammar) (hne : target ≠ kind)
    (hsubtype : IsSubtype (generatedDecls grammar) (SwiftType.ofKind kind).buildable
      (SwiftType.ofKind target).buildable) :
    kind.InheritsFrom target.name := by
  have hexpressible := Grammar.isExpressible_of_mem_generatingKinds hkind
  rcases hsubtype with heq | ⟨decl, hdecl, hform, hname, hadopts⟩
  · rw [SwiftType.buildable_ofKind, SwiftType.buildable_ofKind] at heq
    exact absurd (Grammar.eq_of_buildableBaseName_eq h hnames hexpressible
      (isExpressible_of_mem_protocolBases htarget) heq).symm hne
  obtain ⟨parent, hparent, hinherits⟩ := adopts_generatedDecls.mp hadopts
  obtain ⟨base, hbase, rfl, hcase⟩ := exists_base_of_inherits h hnames hlisted htarget hinherits
  have howns := owner_of_name h hnames hkind hdecl hform
    (hname ▸ List.mem_cons_self : decl.name ∈ (SwiftType.ofKind kind).claimedNames)
  -- the root is reached by the clause of a base or of a collection, as is nothing else
  have htargetRoot : base.name = rootName → target.name = rootName := by
    intro hroot
    rcases hcase with rfl | htargetRoot
    · exact hroot
    · exact htargetRoot
  cases howns with
  | list hprotocol =>
      exact absurd hname.symm (buildable_ne_listBuildable h hnames hprotocol hprotocol)
  | buildable hprotocol =>
      have hroot := eq_root_of_mem_buildableProtocol h hnames hprotocol hbase hparent
      refine Or.inr ⟨htargetRoot hroot, ?_⟩
      rw [NodeKind.isConcrete_eq_false_of_isBase (mem_protocolBases.mp hprotocol).2]
      simp
  | expressible _ =>
      rw [SwiftType.buildable_ofKind] at hname
      exact absurd hname (SwiftType.expressibleAs_ne_buildableBaseName kind)
  | node hnode =>
      obtain ⟨own, hown, hisBase, hownName, htype⟩ := exists_baseType h hnode
      obtain ⟨hgenerating, hbaseBase⟩ := mem_protocolBases.mp hbase
      rw [parents_nodeStruct, htype] at hparent
      simp only [List.mem_cons, List.not_mem_nil, or_false] at hparent
      obtain rfl := eq_of_buildable_eq h hbaseBase (Grammar.mem_generatingKinds.mp hgenerating).1
        hisBase hown
        (hparent.resolve_right (buildable_ne_expressibleAs h hnames hbase hexpressible))
      rcases hcase with rfl | hroot
      · exact Or.inl ⟨(List.mem_filter.mp hnode).2, hownName⟩
      · refine Or.inr ⟨hroot, fun hcollection => ?_⟩
        rw [hownName, Option.some.injEq] at hcollection
        exact (Grammar.mem_generatingKinds.mp hgenerating).2 hcollection.2
  | collection hcollection _ =>
      have hroot : base.name = rootName := by
        rw [parents_collectionStruct] at hparent
        simp only [List.mem_cons, List.not_mem_nil, or_false] at hparent
        rcases hparent with heq | heq | heq
        · rw [SwiftType.buildable_ofKind,
            SwiftType.buildableBaseName_of_isBase (mem_protocolBases.mp hbase).2] at heq
          exact absurd heq (Grammar.append_ne_of_not_suffix (by decide))
        · exact (buildable_eq_root_iff hbase).mp heq
        · exact absurd heq (buildable_ne_expressibleAs h hnames hbase hexpressible)
      refine Or.inr ⟨htargetRoot hroot, ?_⟩
      rw [NodeKind.isConcrete_eq_false_of_isCollection (List.mem_filter.mp hcollection).2]
      simp

include h hnames in
/-- Turning a value into its own kind gives what builds the kind. -/
lemma gives_createMethod_iff (hkind : kind ∈ grammar.generatingKinds) {type : String} :
    Gives (generatedDecls grammar) (SwiftType.ofKind kind).expressibleAs
        (SwiftType.ofKind kind).createMethod type
      ↔ type = (SwiftType.ofKind kind).buildable := by
  constructor
  · rintro ⟨decl, hdecl, hform, hname, function, hmember, _, hreturns⟩
    have hdecl := (decl_of_name_expressibleAs h hnames
      (Grammar.isExpressible_of_mem_generatingKinds hkind)
      (mem_protocolDecls_of_form hdecl hform) hname).2
    rcases mem_expressibleDecls_iff.mp hdecl with rfl | ⟨_, rfl⟩
    · obtain rfl : function = createRequirement (.ofKind kind) := by
        simpa [expressibleProtocol] using hmember
      simpa [createRequirement, eq_comm] using hreturns
    · simp [expressibleExtension] at hform
  · rintro rfl
    exact ⟨_, (Owns.expressible hkind).generated.1, rfl, rfl, _, List.mem_singleton_self _, rfl,
      rfl⟩

include h hnames in
lemma returnsDeclared_iff (hkind : kind ∈ grammar.generatingKinds) {conformance : Conformance}
    (hupcast : conformance.conversion = .upcast) :
    ReturnsDeclared (generatedDecls grammar) (SwiftType.ofKind kind).expressibleAs
        (conversionFunction grammar kind conformance)
      ↔ IsSubtype (generatedDecls grammar) (SwiftType.ofKind kind).buildable
        (SwiftType.ofName grammar conformance.target).buildable := by
  have hbody : (conversionFunction grammar kind conformance).body
      = some [.ret (.call (.name (SwiftType.ofKind kind).createMethod) .nil)] := by
    rw [conversionFunction, hupcast]
    rfl
  constructor
  · rintro ⟨callee, type, target, hcallee, hreturns, hgives, hsubtype⟩
    rw [hbody] at hcallee
    obtain rfl : (SwiftType.ofKind kind).createMethod = callee := by simpa using hcallee
    obtain rfl := (gives_createMethod_iff h hnames hkind).mp hgives
    obtain rfl : (SwiftType.ofName grammar conformance.target).buildable = target := by
      simpa [conversionFunction, returningFunction] using hreturns
    exact hsubtype
  · intro hsubtype
    exact ⟨_, _, _, hbody, rfl, (gives_createMethod_iff h hnames hkind).mpr rfl, hsubtype⟩

end Clauses

/-- **What the default for an upcast returns.**  The default is there; it returns a value of its
declared type if what builds the kind inherits from what builds the target, and, where nothing is
listed as expressible as the base of collections, only then. -/
theorem upcast_returns (h : Grammar.ofDeclarations declarations = .ok grammar)
    (hfiles : files grammar = .ok sources) (hkind : kind ∈ grammar.kinds)
    {conformance : Conformance} (hmem : conformance ∈ grammar.conformances kind.name)
    (hupcast : conformance.conversion = .upcast)
    (hname : conformance.target ≠ collectionBaseName) :
    Extends (generatedDecls grammar) (SwiftType.ofKind kind).expressibleAs
        (conversionFunction grammar kind conformance)
      ∧ (kind.InheritsFrom conformance.target →
        ReturnsDeclared (generatedDecls grammar) (SwiftType.ofKind kind).expressibleAs
          (conversionFunction grammar kind conformance))
      ∧ ((∀ entry ∈ declarations.expressibleAs, collectionBaseName ∉ entry.2) →
        ReturnsDeclared (generatedDecls grammar) (SwiftType.ofKind kind).expressibleAs
          (conversionFunction grammar kind conformance) →
        kind.InheritsFrom conformance.target) := by
  have haccepts := Grammar.accepts_of_ofDeclarations h
  have hnames := checkNames_of_files hfiles
  obtain ⟨hnotRoot, hnotCollection⟩ :=
    haccepts.not_root_of_conforms (Grammar.conforms_of_mem hmem)
  have hroot := (haccepts.isRoot_eq_false_iff hkind).mpr hnotRoot
  have hgenerating := Grammar.mem_generatingKinds.mpr ⟨hkind, hnotCollection⟩
  obtain ⟨target, htarget, htargetName, hne⟩ :=
    exists_target_of_upcast haccepts hkind hmem hupcast hname
  have htargetMem := (Grammar.mem_generatingKinds.mp (mem_protocolBases.mp htarget).1).1
  rw [returnsDeclared_iff haccepts hnames hgenerating hupcast, ← htargetName,
    haccepts.ofName_eq_ofKind htargetMem]
  refine ⟨extends_conversionFunction hgenerating hmem, ?_, ?_⟩
  · exact isSubtype_of_inheritsFrom haccepts hnames hgenerating hroot htarget
  · exact fun hlisted => inheritsFrom_of_isSubtype haccepts hnames hlisted hgenerating htarget hne

/-! A number is a literal, and literals are a base of expressions.  The struct of numbers inherits
from what builds literals, but what builds literals does not inherit from what builds
expressions. -/

/-- A base of some of the expressions. -/
def literalBase : NodeKind := Builtin.base "Literal" "Expr"

/-- A kind below it. -/
def numberKind : NodeKind := Builtin.node "Number" "Literal" []

/-- A grammar with a base below another one. -/
def literalDeclarations : Declarations where
  tokens := []
  kinds := [Builtin.root, Builtin.exprBase, literalBase, numberKind]
  expressibleAs := []

/-- The grammar with its conformances. -/
def literalGrammar : Grammar where
  toCatalog := literalDeclarations.toCatalog
  conformanceTable :=
    [("Syntax", []), ("Expr", []), ("Literal", [⟨"Expr", .upcast⟩]),
     ("Number", [⟨"Literal", .upcast⟩])]

lemma ofDeclarations_literal :
    Grammar.ofDeclarations literalDeclarations = .ok literalGrammar := by decide

lemma exists_files_literal : ∃ sources, files literalGrammar = .ok sources := by
  have hplain : literalGrammar.HasPlainNames :=
    ⟨by decide, by decide, by decide⟩
  exact exists_files_of_hasPlainNames (Grammar.accepts_of_ofDeclarations ofDeclarations_literal)
    hplain (by decide)

theorem upcast_returns_number :
    ReturnsDeclared (generatedDecls literalGrammar) "ExpressibleAsNumber"
      (conversionFunction literalGrammar numberKind ⟨"Literal", .upcast⟩) := by
  obtain ⟨sources, hfiles⟩ := exists_files_literal
  exact (upcast_returns ofDeclarations_literal hfiles (by decide : numberKind ∈ _)
    (by decide) rfl (by decide)).2.1 (by decide)

theorem not_returnsDeclared_literal :
    Grammar.ofDeclarations literalDeclarations = .ok literalGrammar
      ∧ (∃ sources, files literalGrammar = .ok sources)
      ∧ ⟨"Expr", .upcast⟩ ∈ literalGrammar.conformances "Literal"
      ∧ ¬ ReturnsDeclared (generatedDecls literalGrammar) "ExpressibleAsLiteralBuildable"
        (conversionFunction literalGrammar literalBase ⟨"Expr", .upcast⟩)
      ∧ ¬ IsSubtype (generatedDecls literalGrammar) "LiteralBuildable" "ExprBuildable" := by
  have haccepts := Grammar.accepts_of_ofDeclarations ofDeclarations_literal
  have hnames : literalGrammar.checkNames = .ok () := by decide
  have hkind : literalBase ∈ literalGrammar.generatingKinds := by decide
  have htarget : Builtin.exprBase ∈ protocolBases literalGrammar :=
    mem_protocolBases.mpr (by decide)
  have hnot : ¬ IsSubtype (generatedDecls literalGrammar) "LiteralBuildable" "ExprBuildable" := by
    intro hsubtype
    have hinherited : literalBase.InheritsFrom "Expr" :=
      inheritsFrom_of_isSubtype haccepts hnames (by decide) hkind htarget (by decide)
        hsubtype
    revert hinherited
    decide
  refine ⟨ofDeclarations_literal, exists_files_literal, by decide, ?_, hnot⟩
  intro hreturns
  exact hnot ((returnsDeclared_iff haccepts hnames hkind rfl).mp hreturns)

end Generate

end SyntaxForge
