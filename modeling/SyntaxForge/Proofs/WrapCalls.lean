import SyntaxForge.Proofs.ProtocolOrder
import SyntaxForge.Proofs.Upcasts

/-!
# What a wrap calls

The default for a wrap makes a struct of the target and passes the value itself for one of the
slots.  That slot is the only one without a value of its own, so that the call has the arguments
which the initializer asks for.  Whether the value may be passed is up to the protocols.

* `takesOnly_iff`: **the initializer of the target takes the slot of the wrap and needs no other**.
* `wrap_fits`: the call fits exactly if the slot is for the root, or for something that the kind
  conforms to.  This is so for every wrap where the base of collections derives from the root, but
  a collection conforms to nothing above the base of collections by itself.
-/

namespace SyntaxForge

open Relation

namespace Code

/-- The parameter has the label, and all others have a value of their own. -/
def TakesOnly (parameters : List Parameter) (label : String) (parameter : Parameter) : Prop :=
  parameter.label = .name label ∧ ∃ front back, parameters = front ++ parameter :: back
    ∧ ∀ other ∈ front ++ back, other.fallback.isSome = true

/-- A function in an extension of a protocol makes one of the structs out of the value itself, by a
call that an initializer of the struct takes, with a parameter of a type that the protocol leads
to. -/
def CallFits (decls structs : List Decl) (protocol : String) (function : Function) : Prop :=
  ∃ type label, function.body
      = some [.ret (.call (.name type) (.ofList [(some label, .name "self")]))]
    ∧ ∃ struct ∈ structs, struct.form = .struct ∧ struct.name = type
      ∧ ∃ initializer parameter, Member.initializer initializer ∈ struct.members
        ∧ TakesOnly initializer.parameters label parameter
        ∧ ReflTransGen (Inherits decls) protocol parameter.type.text

end Code

namespace Generate

open Code

variable {declarations : Declarations} {grammar : Grammar} {kind target : NodeKind} {slot : Slot}
  {sources : List SourceFile}

/-! ## Arguments -/

lemma fallback_slotParameter (grammar : Grammar) (slot : Slot) :
    (slotParameter grammar slot).fallback.isSome
      = (slot.isOptional || grammar.isFixedToken slot.type) := by
  by_cases hoptional : slot.isOptional = true <;>
    simp [slotParameter, SlotView.parameter, SlotView.fallback, SlotView.ofSlot,
      Catalog.isFixedToken, hoptional]

/-- **The initializer of the target takes the slot of the wrap and needs no other.** -/
theorem takesOnly_iff {source : String} {parameter : Parameter}
    (hlabels : (target.slots.map fun slot => Text.lowerCamel slot.name).Nodup)
    (hslot : grammar.conversionSlot? target source = some slot) :
    TakesOnly (structInitializer grammar target).parameters (Text.lowerCamel slot.name) parameter
      ↔ parameter = slotParameter grammar slot := by
  obtain ⟨hmem, hrequired, ⟨type, htype, _⟩, hothers⟩ := Catalog.conversionSlot?_cases hslot
  rw [TakesOnly, parameters_structInitializer]
  constructor
  · rintro ⟨_, front, back, hsplit, hfallback⟩
    -- the parameter of the slot has no value of its own, so that it is the one that is passed
    have hnone : (slotParameter grammar slot).fallback.isSome = false := by
      rw [fallback_slotParameter, hrequired, htype]
      rfl
    have hown : slotParameter grammar slot ∈ front ++ parameter :: back :=
      hsplit ▸ List.mem_cons_of_mem _ (List.mem_map_of_mem hmem)
    by_contra hne
    have hother : slotParameter grammar slot ∈ front ++ back := by
      simpa [Ne.symm hne] using hown
    rw [hfallback _ hother] at hnone
    exact Bool.noConfusion hnone
  · rintro rfl
    obtain ⟨front, back, hsplit⟩ := List.append_of_mem hmem
    refine ⟨rfl, triviaParameter :: front.map (slotParameter grammar),
      back.map (slotParameter grammar), by simp [hsplit], ?_⟩
    rw [hsplit, List.map_append, List.map_cons, List.nodup_middle, ← List.map_append,
      List.nodup_cons] at hlabels
    rw [List.cons_append, ← List.map_append, List.forall_mem_cons, List.forall_mem_map]
    refine ⟨rfl, fun other hother => ?_⟩
    have hname : other.name ≠ slot.name := by
      intro hname
      exact hlabels.1 (List.mem_map.mpr ⟨other, hother, by rw [hname]⟩)
    rw [fallback_slotParameter, Bool.or_eq_true]
    refine hothers other ?_ hname
    rw [hsplit]
    exact List.mem_append.mpr ((List.mem_append.mp hother).imp_right (List.mem_cons_of_mem _))

/-- The call in the default for a conformance fits an initializer of the structs that are generated
for concrete kinds. -/
def WrapFits (grammar : Grammar) (kind : NodeKind) (conformance : Conformance) : Prop :=
  CallFits (generatedDecls grammar) ((nodeStructs grammar).map Draft.decl)
    (SwiftType.ofKind kind).expressibleAs (conversionFunction grammar kind conformance)

section Calls

variable (h : Grammar.Accepts declarations grammar)

include h in
lemma text_slotParameter {type : NodeKind} (htype : type ∈ grammar.kinds)
    (hslot : slot.type = .node type.name) (hrequired : slot.isOptional = false) :
    (slotParameter grammar slot).type.text = (SwiftType.ofKind type).expressibleAs := by
  rw [slotParameter, SlotView.parameter, TypeExpr.text_ofText, SlotView.ofSlot, hslot, hrequired,
    SwiftType.ofReference, h.ofName_eq_ofKind htype, SwiftType.parameterName_optional,
    SwiftType.expressibleAs_optional]
  simp

include h in
/-- The call of a wrap is taken by the initializer of the struct that is called. -/
lemma wrapFits_iff {source : String} {conformance : Conformance}
    (hlabels : (target.slots.map fun slot => Text.lowerCamel slot.name).Nodup)
    (hslot : grammar.conversionSlot? target source = some slot)
    (htarget : target ∈ grammar.concreteKinds) (hname : target.name = conformance.target)
    (hwrap : conformance.conversion = .wrap slot.name) :
    WrapFits grammar kind conformance
      ↔ ReflTransGen (Inherits (protocolDecls grammar)) (SwiftType.ofKind kind).expressibleAs
        (slotParameter grammar slot).type.text := by
  obtain ⟨hmem, hconcrete⟩ := List.mem_filter.mp htarget
  have hbody : (conversionFunction grammar kind conformance).body
      = some [.ret (.call (.name target.name)
        (.ofList [(some (Text.lowerCamel slot.name), .name "self")]))] := by
    rw [← h.buildable_eq_name hmem (NodeKind.isBase_eq_false_of_isConcrete hconcrete),
      ← h.ofName_eq_ofKind hmem, hname, conversionFunction, hwrap]
    rfl
  rw [WrapFits, CallFits, inherits_generatedDecls]
  constructor
  · rintro ⟨type, label, hcall, struct, hstruct, _, rfl, initializer, parameter, hmember, htakes,
      hinherits⟩
    obtain ⟨hstructName, rfl⟩ : struct.name = target.name ∧ Text.lowerCamel slot.name = label := by
      simpa [hbody, Arguments.ofList, eq_comm] using hcall
    obtain ⟨other, hother, rfl⟩ := mem_nodeStructs_iff.mp hstruct
    obtain rfl := h.distinctNames.eq_of_name_eq (List.mem_of_mem_filter hother) hmem hstructName
    obtain rfl := initializer_mem_nodeStruct_iff.mp hmember
    rwa [(takesOnly_iff hlabels hslot).mp htakes] at hinherits
  · intro hinherits
    exact ⟨_, _, hbody, nodeStruct grammar target, mem_nodeStructs_iff.mpr ⟨target, htarget, rfl⟩,
      rfl, rfl, structInitializer grammar target, slotParameter grammar slot,
      initializer_mem_nodeStruct_iff.mpr rfl, (takesOnly_iff hlabels hslot).mpr rfl, hinherits⟩

end Calls

/-! ## Protocols -/

section Protocols

variable (h : Grammar.Accepts declarations grammar) (hnames : grammar.checkNames = .ok ())
  (hcollection : ∀ kind ∈ grammar.kinds, kind.base = some collectionBaseName →
    kind.isCollection = true)
  (hlisted : ∀ entry ∈ declarations.expressibleAs, collectionBaseName ∉ entry.2)

include h hnames hcollection in
/-- What a kind that is no collection is expressible as leads to what the root is expressible as. -/
lemma inherits_root_of_not_isCollection (hkind : kind ∈ grammar.generatingKinds)
    (hnot : kind.isCollection = false) :
    ReflTransGen (Inherits (protocolDecls grammar)) (SwiftType.ofKind kind).expressibleAs
      rootType.expressibleAs := by
  -- the chain of bases ends at the root, and the conformances follow it
  generalize hname : kind.name = name
  induction name using h.wellFounded_conforms.induction generalizing kind with
  | _ name ih =>
      obtain ⟨hmem, hkindName⟩ := Grammar.mem_generatingKinds.mp hkind
      have hexpressible := Grammar.isExpressible_of_mem_generatingKinds hkind
      cases hbase : kind.base with
      | none =>
          have hroot : kind.isRoot = true := by simp [NodeKind.isRoot, hbase]
          rw [h.ofKind_root hmem ((h.isRoot_iff hmem).mp hroot)]
      | some base =>
          by_cases hbaseRoot : base = rootName
          · refine .single ((inherits_expressibleAs_iff h hnames hexpressible).mpr ⟨hkind, ?_⟩)
            refine List.mem_append_right _ ?_
            rw [if_pos (hbase.trans (congrArg some hbaseRoot))]
            exact List.mem_singleton_self _
          · have hbaseName : base ≠ collectionBaseName := by
              rintro rfl
              rw [hcollection kind hmem hbase] at hnot
              exact Bool.noConfusion hnot
            obtain ⟨baseKind, hbaseMem, rfl, hisBase⟩ := h.exists_base hmem hbase
            have hbaseGenerating := Grammar.mem_generatingKinds.mpr ⟨hbaseMem, hbaseName⟩
            have hedge := h.conforms_base hmem hkindName hbase hbaseRoot hbaseName
            have hbaseNot : baseKind.isCollection = false := by
              by_contra hisCollection
              rw [NodeKind.isBase_eq_false_of_isCollection (by simpa using hisCollection)]
                at hisBase
              exact Bool.noConfusion hisBase
            refine .trans ?_ (ih baseKind.name (hname ▸ hedge) hbaseGenerating hbaseNot rfl)
            exact reflTransGen_inherits_of_conforms h hnames hexpressible
              (Grammar.isExpressible_of_mem_generatingKinds hbaseGenerating) (.single hedge)

include h hnames hcollection hlisted in
/-- The protocol of a kind leads to that of the root if the kind conforms to a concrete kind, and to
that of another kind if it conforms to it. -/
lemma inherits_slotType_iff (hkind : kind ∈ grammar.generatingKinds)
    (htarget : target ∈ grammar.concreteKinds) (hedge : grammar.Conforms kind.name target.name)
    {type : NodeKind} (htype : type ∈ grammar.generatingKinds)
    (hgenerating : type.name = rootName → target ∈ grammar.generatingKinds) :
    ReflTransGen (Inherits (protocolDecls grammar)) (SwiftType.ofKind kind).expressibleAs
        (SwiftType.ofKind type).expressibleAs
      ↔ type.name = rootName ∨ ReflTransGen grammar.Conforms kind.name type.name := by
  have hkindExpressible := Grammar.isExpressible_of_mem_generatingKinds hkind
  have htypeExpressible := Grammar.isExpressible_of_mem_generatingKinds htype
  by_cases hroot : type.name = rootName
  · refine iff_of_true ?_ (Or.inl hroot)
    have htargetNot : target.isCollection = false := by
      by_contra hisCollection
      have hconcrete := NodeKind.isConcrete_eq_false_of_isCollection (by simpa using hisCollection)
      rw [(List.mem_filter.mp htarget).2] at hconcrete
      exact Bool.noConfusion hconcrete
    rw [h.ofKind_root htypeExpressible.1 hroot]
    refine .trans ?_ (inherits_root_of_not_isCollection h hnames hcollection (hgenerating hroot)
      htargetNot)
    exact reflTransGen_inherits_of_conforms h hnames hkindExpressible
      (Grammar.isExpressible_of_mem_generatingKinds (hgenerating hroot)) (.single hedge)
  · rw [reflTransGen_inherits_iff h hnames hlisted hkindExpressible htypeExpressible hroot]
    exact (or_iff_right hroot).symm

include h hnames hcollection hlisted in
/-- The call fits if the slot is for the root, or for something that the kind conforms to. -/
lemma wrapFits_iff_conforms {conformance : Conformance} {type : NodeKind}
    (hlabels : (target.slots.map fun slot => Text.lowerCamel slot.name).Nodup)
    (hkind : kind ∈ grammar.generatingKinds)
    (hmem : conformance ∈ grammar.conformances kind.name)
    (hwrap : conformance.conversion = .wrap slot.name) (htarget : target ∈ grammar.concreteKinds)
    (hname : target.name = conformance.target)
    (hslot : grammar.conversionSlot? target kind.name = some slot)
    (hsource : conformance.target ∈ Catalog.listedTargets declarations.expressibleAs kind.name
      ∨ slot.type = .node kind.name)
    (htype : type ∈ grammar.generatingKinds) (hslotType : slot.type = .node type.name) :
    WrapFits grammar kind conformance
      ↔ type.name = rootName ∨ ReflTransGen grammar.Conforms kind.name type.name := by
  have hedge := Grammar.conforms_of_mem hmem
  have hrequired := (Catalog.conversionSlot?_cases hslot).2.1
  -- a wrapper that is not listed has no slot for the root, even if it is named as the base of
  -- collections
  have htargetGenerating : type.name = rootName → target ∈ grammar.generatingKinds := by
    intro hroot
    refine Grammar.mem_generatingKinds.mpr ⟨List.mem_of_mem_filter htarget, fun heq => ?_⟩
    rcases hsource with htable | hown
    · obtain ⟨entry, hentry, htable⟩ := List.mem_flatMap.mp htable
      rw [← hname, heq] at htable
      exact hlisted entry (List.mem_of_mem_filter hentry) htable
    · rw [hslotType, TypeRef.node.injEq, hroot] at hown
      exact (h.not_root_of_conforms hedge).1 hown.symm
  rw [wrapFits_iff h hlabels hslot htarget hname hwrap,
    text_slotParameter h (Grammar.mem_generatingKinds.mp htype).1 hslotType hrequired,
    inherits_slotType_iff h hnames hcollection hlisted hkind htarget (hname ▸ hedge) htype
      htargetGenerating]

end Protocols

/-- **When the call of a wrap fits.**  Labels are distinct, only collections derive from the base of
collections, and neither a slot nor the list names it. -/
theorem wrap_fits (h : Grammar.ofDeclarations declarations = .ok grammar)
    (hfiles : files grammar = .ok sources)
    (hlabels : ∀ kind ∈ declarations.kinds,
      (kind.slots.map fun slot => Text.lowerCamel slot.name).Nodup)
    (hcollection : ∀ kind ∈ declarations.kinds, kind.base = some collectionBaseName →
      kind.isCollection = true)
    (hslots : ∀ kind ∈ declarations.kinds, ∀ slot ∈ kind.slots,
      slot.type ≠ .node collectionBaseName)
    (hlisted : ∀ entry ∈ declarations.expressibleAs, collectionBaseName ∉ entry.2)
    (hkind : kind ∈ grammar.kinds) {conformance : Conformance}
    (hmem : conformance ∈ grammar.conformances kind.name) {name : String}
    (hwrap : conformance.conversion = .wrap name) :
    Extends (generatedDecls grammar) (SwiftType.ofKind kind).expressibleAs
        (conversionFunction grammar kind conformance)
      ∧ ∃ target ∈ grammar.concreteKinds, target.name = conformance.target
        ∧ ∃ slot ∈ target.slots, slot.name = name
          ∧ TakesOnly (structInitializer grammar target).parameters (Text.lowerCamel name)
            (slotParameter grammar slot)
          ∧ ∃ type, slot.type = .node type
            ∧ (WrapFits grammar kind conformance
              ↔ type = rootName ∨ ReflTransGen grammar.Conforms kind.name type)
            ∧ ((∀ kind ∈ grammar.kinds, kind.name = collectionBaseName →
              kind.base = some rootName) → WrapFits grammar kind conformance) := by
  have haccepts := Grammar.accepts_of_ofDeclarations h
  have hnames := checkNames_of_files hfiles
  rw [← haccepts.catalog_eq] at hlabels hcollection hslots
  have hedge := Grammar.conforms_of_mem hmem
  have hgenerating := Grammar.mem_generatingKinds.mpr
    ⟨hkind, (haccepts.not_root_of_conforms hedge).2⟩
  refine ⟨extends_conversionFunction hgenerating hmem, ?_⟩
  obtain ⟨target, htarget, htargetName, slot, rfl, hslot, hsource⟩ :=
    haccepts.exists_conversionSlot_of_wrap hkind hmem hwrap
  have htargetLabels := hlabels target (List.mem_of_mem_filter htarget)
  obtain ⟨hslotMem, _, ⟨_, htype, hsubkind⟩, _⟩ := Catalog.conversionSlot?_cases hslot
  obtain ⟨type, htypeMem, rfl, _⟩ := haccepts.exists_of_isSubkind hkind hsubkind
  have htypeName : type.name ≠ collectionBaseName := by
    intro heq
    exact hslots target (List.mem_of_mem_filter htarget) slot hslotMem (heq ▸ htype)
  have hiff := wrapFits_iff_conforms haccepts hnames hcollection hlisted htargetLabels hgenerating
    hmem hwrap htarget htargetName hslot hsource
    (Grammar.mem_generatingKinds.mpr ⟨htypeMem, htypeName⟩) htype
  refine ⟨target, htarget, htargetName, slot, hslotMem, rfl,
    (takesOnly_iff htargetLabels hslot).mpr rfl, type.name, htype, hiff, fun hroot => ?_⟩
  rw [hiff]
  rcases haccepts.subkind_cases hroot hkind hsubkind with
    hsame | hroot | hname | ⟨_, base, _, hbase, hreach⟩
  · exact Or.inr (hsame ▸ .refl)
  · exact Or.inl hroot
  · exact absurd hname htypeName
  · exact Or.inr (.head hbase hreach)

/-! An entry has a group as its content, and wraps every group.  Names are groups only through the
base of collections; they are listed as expressible as entries, but cannot be passed. -/

/-- A base above the base of collections. -/
def groupBase : NodeKind := Builtin.base "Group" rootName

/-- A collection. -/
def namesKind : NodeKind := Builtin.list "Names" .anyToken

/-- A concrete kind with a slot for groups. -/
def entryKind : NodeKind := Builtin.node "Entry" rootName [Builtin.child "Content" "Group"]

/-- A grammar in which collections are groups. -/
def groupDeclarations : Declarations where
  tokens := []
  kinds :=
    [Builtin.root, groupBase, Builtin.base collectionBaseName "Group", namesKind, entryKind]
  expressibleAs := [("Names", ["Entry"])]

/-- The grammar with its conformances. -/
def groupGrammar : Grammar where
  toCatalog := groupDeclarations.toCatalog
  conformanceTable :=
    [("Syntax", []), ("Group", [⟨"Entry", .wrap "Content"⟩]), ("SyntaxCollection", []),
     ("Names", [⟨"Entry", .wrap "Content"⟩]), ("Entry", [])]

lemma ofDeclarations_group :
    Grammar.ofDeclarations groupDeclarations = .ok groupGrammar := by decide

lemma exists_files_group : ∃ sources, files groupGrammar = .ok sources := by
  have hplain : groupGrammar.HasPlainNames :=
    ⟨by decide, by decide, by decide⟩
  exact exists_files_of_hasPlainNames (Grammar.accepts_of_ofDeclarations ofDeclarations_group)
    hplain (by decide)

theorem wrap_fits_group : WrapFits groupGrammar groupBase ⟨"Entry", .wrap "Content"⟩ := by
  obtain ⟨sources, hfiles⟩ := exists_files_group
  obtain ⟨_, target, htarget, _, slot, hslot, _, _, type, htype, hfits, _⟩ :=
    wrap_fits ofDeclarations_group hfiles (by decide) (by decide)
      (by decide) (by decide) (by decide : groupBase ∈ _)
      (by decide : ⟨"Entry", .wrap "Content"⟩ ∈ _) rfl
  have hgroup : ∀ target ∈ groupGrammar.concreteKinds, ∀ slot ∈ target.slots,
      slot.type = .node "Group" := by decide
  rw [hgroup target htarget slot hslot, TypeRef.node.injEq] at htype
  exact hfits.mpr (Or.inr (htype ▸ .refl))

theorem not_wrapFits_names :
    Grammar.ofDeclarations groupDeclarations = .ok groupGrammar
      ∧ (∃ sources, files groupGrammar = .ok sources)
      ∧ (∀ kind ∈ groupDeclarations.kinds,
        (kind.slots.map fun slot => Text.lowerCamel slot.name).Nodup)
      ∧ (∀ kind ∈ groupDeclarations.kinds, kind.base = some collectionBaseName →
        kind.isCollection = true)
      ∧ (∀ kind ∈ groupDeclarations.kinds, ∀ slot ∈ kind.slots,
        slot.type ≠ .node collectionBaseName)
      ∧ (∀ entry ∈ groupDeclarations.expressibleAs,
        entry.1 ≠ collectionBaseName ∧ collectionBaseName ∉ entry.2)
      ∧ ⟨"Entry", .wrap "Content"⟩ ∈ groupGrammar.conformances "Names"
      ∧ ¬ WrapFits groupGrammar namesKind ⟨"Entry", .wrap "Content"⟩ := by
  refine ⟨ofDeclarations_group, exists_files_group, by decide, by decide,
    by decide, by decide, by decide, fun hfits => ?_⟩
  have haccepts := Grammar.accepts_of_ofDeclarations ofDeclarations_group
  have hslot : groupGrammar.conversionSlot? entryKind "Names"
      = some (Builtin.child "Content" "Group") := by decide
  have hgroup := (wrapFits_iff_conforms haccepts (by decide) (by decide)
    (by decide) (by decide) (by decide : namesKind ∈ _) (by decide)
    rfl (by decide) rfl hslot (Or.inl (by decide))
    (by decide : groupBase ∈ _) rfl).mp hfits
  rcases hgroup with hroot | hreach
  · revert hroot
    decide
  · rw [reflTransGen_iff_eq_or_transGen, ← haccepts.mem_reachable_iff] at hreach
    revert hreach
    decide

end Generate

end SyntaxForge
