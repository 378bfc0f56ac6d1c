import SyntaxForge.Proofs.Witnesses

/-!
# What the generated files declare

`generatedDecls` are the declarations of all files of a grammar.  A declaration in them stands for
one kind (`exists_owner`), and **a name that a kind claims is declared by that kind only**
(`owner_of_name`).  Structs are no protocols, so that chains of protocols are those of
`protocolDecls` (`inherits_generatedDecls`).

That files are generated at all says two things about names: no two kinds claim the same one
(`checkNames_of_files`), and every one of them is an identifier (`not_mem_of_files`).
-/

namespace SyntaxForge

open Relation

/-! ## Identifiers and types -/

namespace Identifier

lemma isPart_of_isStart {c : Char} (h : isStart c = true) : isPart c = true := by
  rw [isStart, Bool.or_eq_true] at h
  rw [isPart, Bool.or_eq_true, Text.isAlphanumeric, Bool.or_eq_true]
  exact h.imp_right Or.inl

/-- An identifier consists of parts, apart from the backticks around it. -/
lemma isPart_of_mem {c : Char} (hc : c ≠ '\x60') {text : List Char}
    (h : isIdentifier text = true) (hmem : c ∈ text) : isPart c = true := by
  fun_induction isIdentifier text with
  | case1 text inner hinner ih =>
      obtain ⟨tail, hstart, hend⟩ := Option.bind_eq_some_iff.mp hinner
      rw [Text.stripStart?_eq_some_iff.mp hstart, Text.stripEnd?_eq_some_iff.mp hend] at hmem
      exact ih h (by simpa [hc] using hmem)
  | case2 text _ =>
      cases text with
      | nil => simp at hmem
      | cons first rest =>
          rw [isPlain, Bool.and_eq_true, List.all_eq_true] at h
          rcases List.mem_cons.mp hmem with rfl | hmem
          · exact isPart_of_isStart h.1
          · exact h.2 c hmem

end Identifier

namespace Code.TypeExpr

/-- A text without question marks is the name of the type it spells. -/
lemma names_ofText {text : String} (h : '?' ∉ text.toList) :
    (ofText text).names = [.declared text] := by
  have hnamed : ∀ chars : List Char, '?' ∉ chars →
      ofReversed chars = .named (String.ofList chars.reverse) := by
    intro chars hchars
    rw [ofReversed]
    rintro rest rfl
    simp at hchars
  rw [ofText, hnamed _ (by simpa using h), List.reverse_reverse, String.ofList_toList]
  rfl

/-- A question mark at the end makes no other name. -/
lemma names_ofText_append (text : String) (isOptional : Bool) :
    (ofText (text ++ if isOptional then "?" else "")).names = (ofText text).names := by
  cases isOptional with
  | false => simp
  | true =>
      rw [if_pos rfl, ofText, String.toList_append, List.reverse_append]
      rfl

end Code.TypeExpr

namespace Generate

open Code

variable {declarations : Declarations} {grammar : Grammar} {kind : NodeKind} {decl : Decl}
  {sources : List SourceFile}

/-- The declarations of all generated files. -/
def generatedDecls (grammar : Grammar) : List Decl :=
  (fileDrafts grammar).flatMap fun file => file.2.map Draft.decl

/-! ## Generation succeeds -/

/-- Files are generated if no names collide and all of them may stand where they do. -/
lemma exists_files_iff : (∃ sources, files grammar = .ok sources)
    ↔ grammar.checkNames = .ok ()
      ∧ ∀ file ∈ fileDrafts grammar, NameUse.checkAll (file.2.flatMap Draft.names) = .ok () := by
  simp only [files, bind_eq_ok_iff, pure_eq_ok_iff, mapError_eq_ok_iff]
  constructor
  · rintro ⟨_, ⟨⟩, hnames, ⟨⟩, huses, _⟩
    exact ⟨hnames, fun file hfile => mapError_eq_ok_iff.mp (forM_eq_ok_iff.mp huses file hfile)⟩
  · rintro ⟨hnames, huses⟩
    exact ⟨_, (), hnames, (),
      forM_eq_ok_iff.mpr fun file hfile => mapError_eq_ok_iff.mpr (huses file hfile), rfl⟩

lemma checkNames_of_files (hfiles : files grammar = .ok sources) :
    grammar.checkNames = .ok () :=
  (exists_files_iff.mp ⟨sources, hfiles⟩).1

/-- A name that is declared in a generated file is an identifier. -/
lemma isIdentifier_of_files (hfiles : files grammar = .ok sources)
    {file : String × List Draft} (hfile : file ∈ fileDrafts grammar) {draft : Draft}
    (hdraft : draft ∈ file.2) {text : String} (huse : .declared text ∈ draft.names) :
    Identifier.isIdentifier text.toList = true := by
  have huses := (exists_files_iff.mp ⟨sources, hfiles⟩).2 file hfile
  rw [NameUse.checkAll, forM_eq_ok_iff] at huses
  have htoken := huses _ (List.mem_flatMap.mpr ⟨draft, hdraft, huse⟩)
  rw [bind_eq_ok_iff] at htoken
  obtain ⟨token, htoken, _⟩ := htoken
  rw [NameUse.token, Token.identifier] at htoken
  split at htoken
  · assumption
  · simp at htoken

/-- No name of a kind holds a question mark. -/
lemma not_mem_of_files (hfiles : files grammar = .ok sources)
    (hkind : kind ∈ grammar.generatingKinds) :
    '?' ∉ (SwiftType.ofKind kind).expressibleAs.toList := by
  have hfile : ("ExpressibleAsProtocols.swift",
      (expressibleProtocols grammar).map fun decl => ({ decl } : Draft)) ∈ fileDrafts grammar := by
    simp [fileDrafts]
  have hdecl : expressibleProtocol grammar kind ∈ expressibleProtocols grammar :=
    List.mem_flatMap.mpr ⟨kind, hkind, mem_expressibleDecls_iff.mpr (Or.inl rfl)⟩
  have hidentifier := isIdentifier_of_files hfiles hfile (List.mem_map_of_mem hdecl)
    (List.mem_append_right _ List.mem_cons_self)
  intro hmem
  have hpart := Identifier.isPart_of_mem (by decide) hidentifier hmem
  revert hpart
  decide

/-! ## Declarations by kinds -/

lemma mem_generatedDecls_iff : decl ∈ generatedDecls grammar
    ↔ decl ∈ protocolDecls grammar
      ∨ decl ∈ (collectionStructs grammar).map Draft.decl
      ∨ decl ∈ (nodeStructs grammar).map Draft.decl := by
  simp only [generatedDecls, fileDrafts, List.flatMap_cons, List.flatMap_nil, List.map_map,
    List.append_nil, List.mem_append, protocolDecls]
  simp only [Function.comp_def, List.map_id']
  tauto

lemma mem_collectionStructs_iff : decl ∈ (collectionStructs grammar).map Draft.decl
    ↔ ∃ kind ∈ grammar.collectionKinds, ∃ reference, kind.element? = some reference
      ∧ (decl = collectionStruct kind (.ofReference grammar reference)
        ∨ kind ∈ arrayCollections grammar
          ∧ decl = arrayExtension kind (.ofReference grammar reference)) := by
  simp only [collectionStructs, List.map_flatMap, List.mem_flatMap]
  refine exists_congr fun kind => and_congr_right fun _ => ?_
  rw [collectionDrafts]
  cases kind.element? with
  | none => simp
  | some reference =>
      by_cases harray : kind ∈ arrayCollections grammar <;> simp [harray]

lemma mem_nodeStructs_iff : decl ∈ (nodeStructs grammar).map Draft.decl
    ↔ ∃ kind ∈ grammar.concreteKinds, decl = nodeStruct grammar kind := by
  simp only [nodeStructs, List.map_map, List.mem_map, Function.comp_apply, eq_comm]

/-- The initializer of the struct of a concrete kind. -/
def structInitializer (grammar : Grammar) (kind : NodeKind) : Initializer :=
  memberwiseInitializer grammar kind (slotViews grammar kind)

/-- The parameter of a slot. -/
def slotParameter (grammar : Grammar) (slot : Slot) : Parameter :=
  (SlotView.ofSlot grammar slot).parameter grammar

lemma initializer_mem_nodeStruct_iff {initializer : Initializer} :
    Member.initializer initializer ∈ (nodeStruct grammar kind).members
      ↔ initializer = structInitializer grammar kind := by
  simp [nodeStruct, triviaProperty, SlotView.property, structInitializer]

lemma parameters_structInitializer (grammar : Grammar) (kind : NodeKind) :
    (structInitializer grammar kind).parameters
      = triviaParameter :: kind.slots.map (slotParameter grammar) := by
  simp [structInitializer, memberwiseInitializer, slotViews, slotParameter, Function.comp_def]

/-- The protocols and structs of a kind. -/
inductive Owns (grammar : Grammar) (kind : NodeKind) : Decl → Prop
  | list (hkind : kind ∈ protocolBases grammar) : Owns grammar kind (listProtocol (.ofKind kind))
  | buildable (hkind : kind ∈ protocolBases grammar) :
      Owns grammar kind (buildableProtocol (.ofKind kind))
  | expressible (hkind : kind ∈ grammar.generatingKinds) :
      Owns grammar kind (expressibleProtocol grammar kind)
  | node (hkind : kind ∈ grammar.concreteKinds) : Owns grammar kind (nodeStruct grammar kind)
  | collection {reference : TypeRef} (hkind : kind ∈ grammar.collectionKinds)
      (helement : kind.element? = some reference) :
      Owns grammar kind (collectionStruct kind (.ofReference grammar reference))

/-- Every protocol and every struct belongs to a kind. -/
lemma exists_owner (hdecl : decl ∈ generatedDecls grammar) (hform : decl.form ≠ .extend) :
    ∃ kind, Owns grammar kind decl := by
  rcases mem_generatedDecls_iff.mp hdecl with hdecl | hdecl | hdecl
  · rcases mem_protocolDecls_iff.mp hdecl with ⟨base, hbase, hdecl⟩ | ⟨kind, hkind, hdecl⟩
    · rcases mem_baseDecls_iff.mp hdecl with rfl | rfl | rfl
      · exact ⟨base, .list hbase⟩
      · exact ⟨base, .buildable hbase⟩
      · exact absurd rfl hform
    · rcases mem_expressibleDecls_iff.mp hdecl with rfl | ⟨_, rfl⟩
      · exact ⟨kind, .expressible hkind⟩
      · exact absurd rfl hform
  · obtain ⟨kind, hkind, reference, helement, rfl | ⟨_, rfl⟩⟩ := mem_collectionStructs_iff.mp hdecl
    · exact ⟨kind, .collection hkind helement⟩
    · exact absurd rfl hform
  · obtain ⟨kind, hkind, rfl⟩ := mem_nodeStructs_iff.mp hdecl
    exact ⟨kind, .node hkind⟩

namespace Owns

/-- What belongs to a kind is generated, and declares a name. -/
lemma generated (howns : Owns grammar kind decl) :
    decl ∈ generatedDecls grammar ∧ decl.form ≠ .extend := by
  rw [mem_generatedDecls_iff]
  cases howns with
  | list hkind =>
      exact ⟨Or.inl (mem_protocolDecls_iff.mpr
        (Or.inl ⟨kind, hkind, mem_baseDecls_iff.mpr (Or.inl rfl)⟩)), nofun⟩
  | buildable hkind =>
      exact ⟨Or.inl (mem_protocolDecls_iff.mpr
        (Or.inl ⟨kind, hkind, mem_baseDecls_iff.mpr (Or.inr (Or.inl rfl))⟩)), nofun⟩
  | expressible hkind =>
      exact ⟨Or.inl (mem_protocolDecls_iff.mpr
        (Or.inr ⟨kind, hkind, mem_expressibleDecls_iff.mpr (Or.inl rfl)⟩)), nofun⟩
  | node hkind => exact ⟨Or.inr (Or.inr (mem_nodeStructs_iff.mpr ⟨kind, hkind, rfl⟩)), nofun⟩
  | collection hkind helement =>
      exact ⟨Or.inr (Or.inl (mem_collectionStructs_iff.mpr
        ⟨kind, hkind, _, helement, Or.inl rfl⟩)), nofun⟩

/-- A declaration goes by a name that its kind claims; the struct of a base of collections with
values of its own goes by a name that nothing else claims. -/
lemma name_cases (h : Grammar.Accepts declarations grammar) (howns : Owns grammar kind decl) :
    kind ∈ grammar.generatingKinds ∧ decl.name ∈ (SwiftType.ofKind kind).claimedNames
      ∨ decl.name = collectionBaseName := by
  have hstruct : kind ∈ grammar.kinds → kind.isBase = false → decl.name = kind.name →
      kind ∈ grammar.generatingKinds ∧ decl.name ∈ (SwiftType.ofKind kind).claimedNames
        ∨ decl.name = collectionBaseName := by
    intro hkind hbase hname
    by_cases hcollection : kind.name = collectionBaseName
    · exact Or.inr (hname.trans hcollection)
    · refine Or.inl ⟨Grammar.mem_generatingKinds.mpr ⟨hkind, hcollection⟩, ?_⟩
      rw [hname, ← h.buildable_eq_name hkind hbase]
      exact List.mem_cons_self
  cases howns with
  | list hkind =>
      exact Or.inl ⟨(mem_protocolBases.mp hkind).1,
        by simp [listProtocol, SwiftType.claimedNames]⟩
  | buildable hkind =>
      exact Or.inl ⟨(mem_protocolBases.mp hkind).1,
        by simp [buildableProtocol, SwiftType.claimedNames]⟩
  | expressible hkind =>
      exact Or.inl ⟨hkind, by simp [expressibleProtocol, SwiftType.claimedNames]⟩
  | node hkind =>
      obtain ⟨hmem, hconcrete⟩ := List.mem_filter.mp hkind
      exact hstruct hmem (NodeKind.isBase_eq_false_of_isConcrete hconcrete) rfl
  | collection hkind _ =>
      obtain ⟨hmem, hcollection⟩ := List.mem_filter.mp hkind
      exact hstruct hmem (NodeKind.isBase_eq_false_of_isCollection hcollection) rfl

end Owns

/-- A kind that is no base has a struct, which adopts what the kind is expressible as. -/
lemma exists_struct (hkind : kind ∈ grammar.kinds) (hbase : kind.isBase = false) :
    ∃ struct, Owns grammar kind struct ∧ struct.name = kind.name
      ∧ TypeExpr.ofText (SwiftType.ofKind kind).expressibleAs ∈ struct.inherits := by
  cases hshape : kind.shape with
  | base => simp [NodeKind.isBase, hshape] at hbase
  | concrete slots =>
      have hconcrete : kind ∈ grammar.concreteKinds :=
        List.mem_filter.mpr ⟨hkind, by simp [NodeKind.isConcrete, hshape]⟩
      exact ⟨_, .node hconcrete, rfl, by simp [nodeStruct]⟩
  | collection element onNewLines =>
      have hcollection : kind ∈ grammar.collectionKinds :=
        List.mem_filter.mpr ⟨hkind, by simp [NodeKind.isCollection, hshape]⟩
      have helement : kind.element? = some element := by simp [NodeKind.element?, hshape]
      exact ⟨_, .collection hcollection helement, rfl, by simp [collectionStruct]⟩

/-- No kind that generates types claims the name of the base of collections. -/
lemma collectionBaseName_not_mem_claimedNames (h : Grammar.Accepts declarations grammar)
    (hkind : kind ∈ grammar.generatingKinds) :
    collectionBaseName ∉ (SwiftType.ofKind kind).claimedNames := by
  simp only [SwiftType.claimedNames, List.mem_cons, List.not_mem_nil, or_false, not_or]
  refine ⟨?_, ?_, ?_⟩
  · rw [SwiftType.buildable_ofKind]
    exact (Grammar.buildableBaseName_ne_collectionBaseName h hkind).symm
  · exact (SwiftType.expressibleAs_ne (by decide) kind).symm
  · rw [SwiftType.listBuildable_ofKind]
    exact (Grammar.append_ne_of_not_suffix (by decide)).symm

/-- **A name that a kind claims is declared by that kind only.** -/
theorem owner_of_name (h : Grammar.Accepts declarations grammar)
    (hnames : grammar.checkNames = .ok ()) (hkind : kind ∈ grammar.generatingKinds)
    (hdecl : decl ∈ generatedDecls grammar) (hform : decl.form ≠ .extend)
    (hname : decl.name ∈ (SwiftType.ofKind kind).claimedNames) : Owns grammar kind decl := by
  obtain ⟨owner, howns⟩ := exists_owner hdecl hform
  rcases howns.name_cases h with ⟨howner, hclaimed⟩ | hcollection
  · rwa [Grammar.eq_of_mem_claimedNames h hnames hkind howner hname hclaimed]
  · exact absurd (hcollection ▸ hname) (collectionBaseName_not_mem_claimedNames h hkind)

lemma mem_protocolDecls_of_form (hdecl : decl ∈ generatedDecls grammar)
    (hform : decl.form = .protocol) : decl ∈ protocolDecls grammar := by
  refine (mem_generatedDecls_iff.mp hdecl).resolve_right ?_
  rintro (hdecl | hdecl)
  · obtain ⟨kind, _, reference, _, rfl | ⟨_, rfl⟩⟩ := mem_collectionStructs_iff.mp hdecl
    · simp [collectionStruct] at hform
    · simp [arrayExtension] at hform
  · obtain ⟨kind, _, rfl⟩ := mem_nodeStructs_iff.mp hdecl
    simp [nodeStruct] at hform

/-- Structs add nothing to what protocols inherit. -/
lemma inherits_generatedDecls (grammar : Grammar) :
    Inherits (generatedDecls grammar) = Inherits (protocolDecls grammar) := by
  funext protocol parent
  refine propext ⟨?_, ?_⟩
  · rintro ⟨decl, hdecl, hform, hprotocol⟩
    exact ⟨decl, mem_protocolDecls_of_form hdecl hform, hform, hprotocol⟩
  · rintro ⟨decl, hdecl, hprotocol⟩
    exact ⟨decl, mem_generatedDecls_iff.mpr (Or.inl hdecl), hprotocol⟩

end Generate

end SyntaxForge
