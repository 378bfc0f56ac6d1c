import SyntaxForge.Generate.Files
import SyntaxForge.Proofs.ConformanceGraph
import SyntaxForge.Proofs.Naming

/-!
# The protocols that are generated for a grammar

Declarations inherit from protocols by name.  The first part says what this means for any list of
declarations: what a protocol inherits from (`Inherits`), requires (`Requires`), and implements by
an extension (`Implements`), and which protocols a declaration `Adopts`.

The second part reads these relations off the protocols of a grammar.  As names tell the kinds they
belong to, **the protocols of what kinds are expressible as inherit from each other along the
conformances**, and the protocols of a base add nothing but those of the root:

* `inherits_expressibleAs_iff`, `implements_expressibleAs_iff`: what a kind is expressible as;
* `Reached.of_inherits`, `Backed.of_inherits`: the steps that a chain of protocols can take.
-/

namespace SyntaxForge

open Relation

namespace Code

/-! ## Types as they are written -/

namespace TypeExpr

/-- A type as it is written. -/
def text : TypeExpr → String
  | named name => name
  | optional wrapped => wrapped.text ++ "?"
  | array element => "[" ++ element.text ++ "]"

lemma text_ofReversed (chars : List Char) :
    (ofReversed chars).text = String.ofList chars.reverse := by
  fun_induction ofReversed chars with
  | case1 rest ih => rw [text, ih, List.reverse_cons, String.ofList_append]
  | case2 => rfl

/-- A type that is read from a text is written as that text. -/
@[simp] lemma text_ofText (text : String) : (ofText text).text = text := by
  rw [ofText, text_ofReversed, List.reverse_reverse, String.ofList_toList]

end TypeExpr

/-! ## Protocols by name -/

/-- The name of a member, if it is a function. -/
def Member.functionName? : Member → Option String
  | .function declared => some declared.name
  | .constant _ _ | .initializer _ => none

namespace Decl

/-- The names that a declaration inherits from. -/
def parents (decl : Decl) : List String := decl.inherits.map TypeExpr.text

/-- The names of the functions in a declaration. -/
def functionNames (decl : Decl) : List String := decl.members.filterMap Member.functionName?

end Decl

/-- A protocol inherits from another directly. -/
def Inherits (decls : List Decl) (protocol parent : String) : Prop :=
  ∃ decl ∈ decls, decl.form = .protocol ∧ decl.name = protocol ∧ parent ∈ decl.parents

/-- A protocol requires a function. -/
def Requires (decls : List Decl) (protocol function : String) : Prop :=
  ∃ decl ∈ decls, decl.form = .protocol ∧ decl.name = protocol ∧ function ∈ decl.functionNames

/-- An extension of a protocol implements a function. -/
def Implements (decls : List Decl) (protocol function : String) : Prop :=
  ∃ decl ∈ decls, decl.form = .extend ∧ decl.name = protocol ∧ function ∈ decl.functionNames

/-- A declaration inherits from a protocol, directly or through other protocols. -/
def Adopts (decls : List Decl) (decl : Decl) (protocol : String) : Prop :=
  ∃ parent ∈ decl.parents, ReflTransGen (Inherits decls) parent protocol

end Code

namespace Generate

open Code

/-- The protocols of a grammar and their extensions. -/
def protocolDecls (grammar : Grammar) : List Decl :=
  baseProtocols grammar ++ expressibleProtocols grammar

variable {declarations : Declarations} {grammar : Grammar} {kind : NodeKind} {decl : Decl}

lemma mem_protocolBases :
    kind ∈ protocolBases grammar ↔ kind ∈ grammar.generatingKinds ∧ kind.isBase = true := by
  rw [protocolBases, Catalog.sortedBases, List.mem_filter, List.mem_mergeSort, List.mem_filter,
    Grammar.mem_generatingKinds, decide_eq_true_iff]
  tauto

lemma isExpressible_of_mem_protocolBases (hkind : kind ∈ protocolBases grammar) :
    grammar.IsExpressible kind :=
  Grammar.isExpressible_of_mem_generatingKinds (mem_protocolBases.mp hkind).1

/-- The declarations of a base, or of what a kind is expressible as. -/
lemma mem_protocolDecls_iff : decl ∈ protocolDecls grammar
    ↔ (∃ base ∈ protocolBases grammar, decl ∈ baseDecls base)
      ∨ ∃ kind ∈ grammar.generatingKinds, decl ∈ expressibleDecls grammar kind := by
  rw [protocolDecls, List.mem_append, baseProtocols, expressibleProtocols, List.mem_flatMap,
    List.mem_flatMap]

lemma mem_expressibleDecls_iff : decl ∈ expressibleDecls grammar kind
    ↔ decl = expressibleProtocol grammar kind
      ∨ grammar.conformances kind.name ≠ [] ∧ decl = expressibleExtension grammar kind := by
  rw [expressibleDecls, List.mem_cons]
  cases grammar.conformances kind.name <;> simp

lemma mem_baseDecls_iff : decl ∈ baseDecls kind ↔ decl = listProtocol (.ofKind kind)
    ∨ decl = buildableProtocol (.ofKind kind) ∨ decl = buildableExtension (.ofKind kind) := by
  simp [baseDecls]

/-! ## Declarations by their names

A name that belongs to a kind is declared by the declarations of that kind only. -/

section Names

variable (h : Grammar.Accepts declarations grammar) (hnames : grammar.checkNames = .ok ())
include h hnames

lemma decl_of_name_expressibleAs (hkind : grammar.IsExpressible kind)
    (hdecl : decl ∈ protocolDecls grammar)
    (hname : decl.name = (SwiftType.ofKind kind).expressibleAs) :
    kind ∈ grammar.generatingKinds ∧ decl ∈ expressibleDecls grammar kind := by
  rcases mem_protocolDecls_iff.mp hdecl with ⟨base, hbase, hdecl⟩ | ⟨other, hother, hdecl⟩
  · exfalso
    rw [mem_protocolBases] at hbase
    obtain ⟨hbuildable, hlist⟩ :=
      Grammar.expressibleAs_ne_of_isBase h hnames hkind hbase.1 hbase.2
    rw [mem_baseDecls_iff] at hdecl
    rcases hdecl with rfl | rfl | rfl
    · exact hlist hname.symm
    · exact hbuildable (hname.symm.trans (SwiftType.buildable_ofKind base))
    · exact hbuildable (hname.symm.trans (SwiftType.buildable_ofKind base))
  · have hname' : decl.name = (SwiftType.ofKind other).expressibleAs := by
      rcases mem_expressibleDecls_iff.mp hdecl with rfl | ⟨_, rfl⟩ <;> rfl
    obtain rfl := Grammar.eq_of_expressibleAs_eq h hnames
      (Grammar.isExpressible_of_mem_generatingKinds hother) hkind (hname'.symm.trans hname)
    exact ⟨hother, hdecl⟩

lemma decl_of_name_buildable (hkind : kind ∈ protocolBases grammar)
    (hdecl : decl ∈ protocolDecls grammar) (hname : decl.name = (SwiftType.ofKind kind).buildable) :
    decl = buildableProtocol (.ofKind kind) ∨ decl = buildableExtension (.ofKind kind) := by
  rw [mem_protocolBases] at hkind
  rcases mem_protocolDecls_iff.mp hdecl with ⟨base, hbase, hdecl⟩ | ⟨other, hother, hdecl⟩
  · rw [mem_protocolBases] at hbase
    rw [SwiftType.buildable_ofKind] at hname
    have heq : (SwiftType.ofKind base).buildable = (SwiftType.ofKind kind).buildableBaseName →
        base = kind := by
      rw [SwiftType.buildable_ofKind]
      exact Grammar.eq_of_buildableBaseName_eq h hnames
        (Grammar.isExpressible_of_mem_generatingKinds hbase.1)
        (Grammar.isExpressible_of_mem_generatingKinds hkind.1)
    rw [mem_baseDecls_iff] at hdecl
    rcases hdecl with rfl | rfl | rfl
    · exact absurd hname.symm
        (Grammar.buildableBaseName_ne_listBuildable h hnames hkind.1 hkind.2 hbase.1)
    · exact Or.inl (by rw [heq hname])
    · exact Or.inr (by rw [heq hname])
  · exfalso
    obtain ⟨hbuildable, _⟩ := Grammar.expressibleAs_ne_of_isBase h hnames
      (Grammar.isExpressible_of_mem_generatingKinds hother) hkind.1 hkind.2
    rw [SwiftType.buildable_ofKind] at hname
    rcases mem_expressibleDecls_iff.mp hdecl with rfl | ⟨_, rfl⟩
    · exact hbuildable hname
    · exact hbuildable hname

lemma decl_of_name_listBuildable (hkind : kind ∈ protocolBases grammar)
    (hdecl : decl ∈ protocolDecls grammar)
    (hname : decl.name = (SwiftType.ofKind kind).listBuildable) :
    decl = listProtocol (.ofKind kind) := by
  rw [mem_protocolBases] at hkind
  rcases mem_protocolDecls_iff.mp hdecl with ⟨base, hbase, hdecl⟩ | ⟨other, hother, hdecl⟩
  · rw [mem_protocolBases] at hbase
    have hne := Grammar.buildableBaseName_ne_listBuildable h hnames hbase.1 hbase.2 hkind.1
    rw [← SwiftType.buildable_ofKind] at hne
    rw [mem_baseDecls_iff] at hdecl
    rcases hdecl with rfl | rfl | rfl
    · have hclaimed : (SwiftType.ofKind kind).listBuildable
          ∈ (SwiftType.ofKind base).claimedNames := by
        simp [SwiftType.claimedNames, ← hname, listProtocol]
      rw [Grammar.eq_of_mem_claimedNames h hnames hbase.1 hkind.1 hclaimed
        (by simp [SwiftType.claimedNames])]
    · exact absurd hname hne
    · exact absurd hname hne
  · exfalso
    obtain ⟨_, hlist⟩ := Grammar.expressibleAs_ne_of_isBase h hnames
      (Grammar.isExpressible_of_mem_generatingKinds hother) hkind.1 hkind.2
    rcases mem_expressibleDecls_iff.mp hdecl with rfl | ⟨_, rfl⟩
    · exact hlist hname
    · exact hlist hname

end Names

/-! ## What the declarations say -/

/-- The name of a function that turns a value into something else. -/
def IsCreate (name : String) : Prop := "create".toList <+: name.toList

instance : DecidablePred IsCreate := fun name =>
  inferInstanceAs (Decidable ("create".toList <+: name.toList))

lemma isCreate_createMethod (type : SwiftType) : IsCreate type.createMethod := by
  rw [IsCreate, SwiftType.createMethod, String.toList_append]
  exact List.prefix_append _ _

lemma not_isCreate_build (name : String) : ¬ IsCreate ("build" ++ name) := by
  rw [IsCreate, String.toList_append]
  simp

@[simp] lemma parents_expressibleProtocol (grammar : Grammar) (kind : NodeKind) :
    (expressibleProtocol grammar kind).parents = inheritedProtocols grammar kind := by
  simp [Decl.parents, expressibleProtocol, Function.comp_def]

@[simp] lemma functionNames_expressibleExtension (grammar : Grammar) (kind : NodeKind) :
    (expressibleExtension grammar kind).functionNames
      = (grammar.conformances kind.name).map fun conformance =>
        (SwiftType.ofName grammar conformance.target).createMethod := by
  rw [Decl.functionNames, expressibleExtension, List.filterMap_map, ← List.filterMap_eq_map]
  rfl

@[simp] lemma parents_listProtocol (type : SwiftType) : (listProtocol type).parents
    = if type.isRoot then [] else [rootType.listBuildable] := by
  rw [Decl.parents, listProtocol]
  cases type.isRoot <;> simp

@[simp] lemma parents_buildableProtocol (type : SwiftType) : (buildableProtocol type).parents
    = [type.expressibleAs, type.listBuildable]
      ++ if type.isRoot then [] else [rootType.buildable] := by
  rw [Decl.parents, buildableProtocol]
  cases type.isRoot <;> simp

/-- The only function of the extension of a base that turns it into something is the one that turns
it into itself. -/
lemma eq_createMethod_of_mem_buildableExtension {type : SwiftType} {function : String}
    (hmem : function ∈ (buildableExtension type).functionNames) (hcreate : IsCreate function) :
    function = type.createMethod := by
  have hcases : function = type.createMethod ∨ function = "build" ++ (type.baseName ++ "List")
      ∨ function = "build" ++ rootType.baseName := by
    rw [Decl.functionNames, buildableExtension] at hmem
    cases hroot : type.isRoot <;>
      simp [hroot, Member.functionName?, selfCreate, returningFunction, singletonBuild, rootBuild,
        SwiftType.buildMethod, String.append_assoc] at hmem
    · exact hmem
    · exact hmem.imp_right Or.inl
  rcases hcases with heq | rfl | rfl
  · exact heq
  · exact absurd hcreate (not_isCreate_build _)
  · exact absurd hcreate (not_isCreate_build _)

/-- Only what a kind is expressible as requires functions that turn a value into something else. -/
lemma eq_of_requires {protocol function : String}
    (hrequires : Requires (protocolDecls grammar) protocol function) (hcreate : IsCreate function) :
    ∃ kind ∈ grammar.generatingKinds, protocol = (SwiftType.ofKind kind).expressibleAs
      ∧ function = (SwiftType.ofKind kind).createMethod := by
  obtain ⟨decl, hdecl, hform, rfl, hmem⟩ := hrequires
  rcases mem_protocolDecls_iff.mp hdecl with ⟨base, hbase, hdecl⟩ | ⟨kind, hkind, hdecl⟩
  · exfalso
    rcases mem_baseDecls_iff.mp hdecl with rfl | rfl | rfl
    · rw [List.mem_singleton.mp hmem] at hcreate
      exact not_isCreate_build _ (by simpa [listRequirement, SwiftType.buildMethod,
        String.append_assoc] using hcreate)
    · rw [List.mem_singleton.mp hmem] at hcreate
      exact not_isCreate_build _ hcreate
    · simp [buildableExtension] at hform
  · rcases mem_expressibleDecls_iff.mp hdecl with rfl | ⟨_, rfl⟩
    · exact ⟨kind, hkind, rfl, List.mem_singleton.mp hmem⟩
    · simp [expressibleExtension] at hform

section Relations

variable (h : Grammar.Accepts declarations grammar) (hnames : grammar.checkNames = .ok ())
include h hnames

/-- What a kind is expressible as inherits from what its targets are expressible as. -/
lemma inherits_expressibleAs_iff (hkind : grammar.IsExpressible kind) {parent : String} :
    Inherits (protocolDecls grammar) (SwiftType.ofKind kind).expressibleAs parent
      ↔ kind ∈ grammar.generatingKinds ∧ parent ∈ inheritedProtocols grammar kind := by
  constructor
  · rintro ⟨decl, hdecl, hform, hname, hparent⟩
    obtain ⟨hgenerating, hdecl⟩ := decl_of_name_expressibleAs h hnames hkind hdecl hname
    rcases mem_expressibleDecls_iff.mp hdecl with rfl | ⟨_, rfl⟩
    · exact ⟨hgenerating, parents_expressibleProtocol grammar kind ▸ hparent⟩
    · simp [expressibleExtension] at hform
  · rintro ⟨hgenerating, hparent⟩
    refine ⟨expressibleProtocol grammar kind, ?_, rfl, rfl, ?_⟩
    · exact mem_protocolDecls_iff.mpr
        (Or.inr ⟨kind, hgenerating, mem_expressibleDecls_iff.mpr (Or.inl rfl)⟩)
    · rwa [parents_expressibleProtocol]

/-- The extension of what a kind is expressible as has a function for every conformance. -/
lemma implements_expressibleAs_iff (hkind : grammar.IsExpressible kind) {function : String} :
    Implements (protocolDecls grammar) (SwiftType.ofKind kind).expressibleAs function
      ↔ kind ∈ grammar.generatingKinds ∧ ∃ conformance ∈ grammar.conformances kind.name,
        (SwiftType.ofName grammar conformance.target).createMethod = function := by
  constructor
  · rintro ⟨decl, hdecl, hform, hname, hmem⟩
    obtain ⟨hgenerating, hdecl⟩ := decl_of_name_expressibleAs h hnames hkind hdecl hname
    rcases mem_expressibleDecls_iff.mp hdecl with rfl | ⟨_, rfl⟩
    · simp [expressibleProtocol] at hform
    · rw [functionNames_expressibleExtension, List.mem_map] at hmem
      exact ⟨hgenerating, hmem⟩
  · rintro ⟨hgenerating, hmem⟩
    refine ⟨expressibleExtension grammar kind, ?_, rfl, rfl, ?_⟩
    · obtain ⟨conformance, hmem, _⟩ := hmem
      exact mem_protocolDecls_iff.mpr (Or.inr ⟨kind, hgenerating,
        mem_expressibleDecls_iff.mpr (Or.inr ⟨List.ne_nil_of_mem hmem, rfl⟩)⟩)
    · rwa [functionNames_expressibleExtension, List.mem_map]

/-- What builds a base inherits from what the base is expressible as, and from what builds lists of
it or the root. -/
lemma inherits_buildable_iff (hkind : kind ∈ protocolBases grammar) {parent : String} :
    Inherits (protocolDecls grammar) (SwiftType.ofKind kind).buildable parent
      ↔ parent ∈ (buildableProtocol (.ofKind kind)).parents := by
  constructor
  · rintro ⟨decl, hdecl, hform, hname, hparent⟩
    rcases decl_of_name_buildable h hnames hkind hdecl hname with rfl | rfl
    · exact hparent
    · simp [buildableExtension] at hform
  · intro hparent
    exact ⟨_, mem_protocolDecls_iff.mpr
      (Or.inl ⟨kind, hkind, mem_baseDecls_iff.mpr (Or.inr (Or.inl rfl))⟩), rfl, rfl, hparent⟩

lemma eq_of_inherits_listBuildable (hkind : kind ∈ protocolBases grammar) {parent : String}
    (hparent : Inherits (protocolDecls grammar) (SwiftType.ofKind kind).listBuildable parent) :
    parent = rootType.listBuildable := by
  obtain ⟨decl, hdecl, _, hname, hparent⟩ := hparent
  rw [decl_of_name_listBuildable h hnames hkind hdecl hname, parents_listProtocol] at hparent
  split at hparent
  · simp at hparent
  · exact List.mem_singleton.mp hparent

/-- What builds a base turns it into itself only. -/
lemma eq_of_implements_buildable (hkind : kind ∈ protocolBases grammar) {function : String}
    (himplements : Implements (protocolDecls grammar) (SwiftType.ofKind kind).buildable function)
    (hcreate : IsCreate function) : function = (SwiftType.ofKind kind).createMethod := by
  obtain ⟨decl, hdecl, hform, hname, hmem⟩ := himplements
  rcases decl_of_name_buildable h hnames hkind hdecl hname with rfl | rfl
  · simp [buildableProtocol] at hform
  · exact eq_createMethod_of_mem_buildableExtension hmem hcreate

lemma not_implements_listBuildable (hkind : kind ∈ protocolBases grammar) {function : String} :
    ¬ Implements (protocolDecls grammar) (SwiftType.ofKind kind).listBuildable function := by
  rintro ⟨decl, hdecl, hform, hname, _⟩
  rw [decl_of_name_listBuildable h hnames hkind hdecl hname] at hform
  simp [listProtocol] at hform

end Relations

/-! ## Chains of protocols -/

/-- No protocol of this name is declared. -/
def Undeclared (grammar : Grammar) (protocol : String) : Prop :=
  ∀ decl ∈ protocolDecls grammar, decl.name ≠ protocol

/-- The protocol is what the root is expressible as, or a kind that `source` reaches. -/
def Reached (grammar : Grammar) (source protocol : String) : Prop :=
  ∃ kind, grammar.IsExpressible kind
    ∧ (ReflTransGen grammar.Conforms source kind.name ∨ kind.name = rootName)
    ∧ protocol = (SwiftType.ofKind kind).expressibleAs

/-- The protocol builds the base or the root, or lists of them. -/
def Backed (grammar : Grammar) (base protocol : String) : Prop :=
  ∃ kind ∈ protocolBases grammar, (kind.name = base ∨ kind.name = rootName)
    ∧ (protocol = (SwiftType.ofKind kind).buildable
      ∨ protocol = (SwiftType.ofKind kind).listBuildable)

section Chains

variable (h : Grammar.Accepts declarations grammar) (hnames : grammar.checkNames = .ok ())
  (hlisted : ∀ entry ∈ declarations.expressibleAs, collectionBaseName ∉ entry.2)

include h in
/-- The root has a protocol. -/
lemma exists_root_mem_protocolBases :
    ∃ root ∈ protocolBases grammar, root.name = rootName ∧ SwiftType.ofKind root = rootType := by
  obtain ⟨root, hroot, hname, _, hbase⟩ := h.exists_root
  refine ⟨root, mem_protocolBases.mpr ⟨Grammar.mem_generatingKinds.mpr ⟨hroot, ?_⟩, hbase⟩, hname,
    h.ofKind_root hroot hname⟩
  rw [hname]
  decide

include h in
/-- The root reaches nothing. -/
lemma eq_of_reflTransGen_root {target : String}
    (hreach : ReflTransGen grammar.Conforms rootName target) : target = rootName := by
  rcases ReflTransGen.cases_head hreach with heq | ⟨_, hedge, _⟩
  · exact heq.symm
  · exact absurd rfl (h.not_root_of_conforms hedge).1

include h hlisted in
/-- A target is the base of collections only if it wraps values. -/
lemma exists_isExpressible_of_conforms {source target : String}
    (hedge : grammar.Conforms source target) :
    ∃ kind, grammar.IsExpressible kind ∧ kind.name = target := by
  obtain ⟨kind, hkind, rfl⟩ := List.mem_map.mp (h.targets_subset _ _ hedge)
  exact ⟨kind, ⟨hkind, fun hname => h.isBase_eq_false_of_conforms hlisted hkind hname hedge⟩, rfl⟩

include h hnames hlisted in
/-- From what a kind is expressible as, the protocols lead along its conformances. -/
lemma Reached.of_inherits {source protocol parent : String}
    (hreached : Reached grammar source protocol)
    (hparent : Inherits (protocolDecls grammar) protocol parent) :
    Reached grammar source parent := by
  obtain ⟨kind, hkind, hreach, rfl⟩ := hreached
  obtain ⟨hgenerating, hparent⟩ := (inherits_expressibleAs_iff h hnames hkind).mp hparent
  rcases List.mem_append.mp hparent with hparent | hparent
  · obtain ⟨conformance, hmem, rfl⟩ := List.mem_map.mp hparent
    have hedge := Grammar.conforms_of_mem hmem
    obtain ⟨target, htarget, hname⟩ := exists_isExpressible_of_conforms h hlisted hedge
    rcases hreach with hreach | hroot
    · refine ⟨target, htarget, Or.inl (hreach.tail (hname ▸ hedge)), ?_⟩
      rw [← hname, h.ofName_eq_ofKind htarget.1]
    · exact absurd hroot (h.not_root_of_conforms hedge).1
  · obtain ⟨root, hroot, hname, htype⟩ := exists_root_mem_protocolBases h
    split at hparent
    · rw [List.mem_singleton.mp hparent, ← htype]
      exact ⟨root, isExpressible_of_mem_protocolBases hroot, Or.inr hname, rfl⟩
    · simp at hparent

include h hnames hlisted in
lemma Reached.of_reflTransGen_inherits {source protocol ancestor : String}
    (hreached : Reached grammar source protocol)
    (hinherits : ReflTransGen (Inherits (protocolDecls grammar)) protocol ancestor) :
    Reached grammar source ancestor := by
  induction hinherits with
  | refl => exact hreached
  | tail _ hstep ih => exact ih.of_inherits h hnames hlisted hstep

include h hnames in
/-- From what builds a base, the protocols lead to what builds the root, and to what the base is
expressible as. -/
lemma Backed.of_inherits {base protocol parent : String} (hbacked : Backed grammar base protocol)
    (hparent : Inherits (protocolDecls grammar) protocol parent) :
    Backed grammar base parent ∨ Reached grammar base parent := by
  obtain ⟨kind, hkind, hbase, hprotocol⟩ := hbacked
  obtain ⟨root, hroot, hname, htype⟩ := exists_root_mem_protocolBases h
  rcases hprotocol with rfl | rfl
  · rw [inherits_buildable_iff h hnames hkind, parents_buildableProtocol] at hparent
    rcases List.mem_append.mp hparent with hparent | hparent
    · simp only [List.mem_cons, List.not_mem_nil, or_false] at hparent
      rcases hparent with rfl | rfl
      · refine Or.inr ⟨kind, isExpressible_of_mem_protocolBases hkind, ?_, rfl⟩
        rcases hbase with rfl | hroot
        · exact Or.inl .refl
        · exact Or.inr hroot
      · exact Or.inl ⟨kind, hkind, hbase, Or.inr rfl⟩
    · split at hparent
      · simp at hparent
      · rw [List.mem_singleton.mp hparent, ← htype]
        exact Or.inl ⟨root, hroot, Or.inr hname, Or.inl rfl⟩
  · rw [eq_of_inherits_listBuildable h hnames hkind hparent, ← htype]
    exact Or.inl ⟨root, hroot, Or.inr hname, Or.inr rfl⟩

include h hnames in
/-- Conformances are followed by the protocols of what kinds are expressible as. -/
lemma reflTransGen_inherits_of_conforms {source : NodeKind} (hsource : grammar.IsExpressible source)
    {target : NodeKind} (htarget : grammar.IsExpressible target)
    (hreach : ReflTransGen grammar.Conforms source.name target.name) :
    ReflTransGen (Inherits (protocolDecls grammar)) (SwiftType.ofKind source).expressibleAs
      (SwiftType.ofKind target).expressibleAs := by
  generalize hname : target.name = name at hreach
  induction hreach generalizing target with
  | refl => rw [h.distinctNames.eq_of_name_eq htarget.1 hsource.1 hname]
  | @tail middle _ _ hedge ih =>
      obtain ⟨kind, hkind, rfl⟩ := h.exists_kind_of_conforms hedge
      have hgenerating : kind ∈ grammar.generatingKinds :=
        Grammar.mem_generatingKinds.mpr ⟨hkind, (h.not_root_of_conforms hedge).2⟩
      have hexpressible := Grammar.isExpressible_of_mem_generatingKinds hgenerating
      refine (ih hexpressible rfl).tail ?_
      rw [inherits_expressibleAs_iff h hnames hexpressible]
      refine ⟨hgenerating, List.mem_append_left _ ?_⟩
      obtain ⟨conformance, hmem, heq⟩ := List.mem_map.mp hedge
      refine List.mem_map.mpr ⟨conformance, hmem, ?_⟩
      rw [heq, ← hname, h.ofName_eq_ofKind htarget.1]

end Chains

end Generate

end SyntaxForge
