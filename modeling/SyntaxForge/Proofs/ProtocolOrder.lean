import SyntaxForge.Proofs.Witnesses

/-!
# The order of the protocols

Protocols inherit from each other in layers: what builds a base is above what the base is
expressible as and what builds lists of it, and both end at the root.  Inside the layer of what
kinds are expressible as, the order is that of the conformances.

* `wellFounded_inherits`: **every chain of protocols ends**, as the conformances do.
* `inherits_order`: there is no cycle of protocols, and **what a kind is expressible as inherits
  from what the kinds it reaches are expressible as, and from no other**.
-/

namespace SyntaxForge.Generate

open Relation Code

variable {declarations : Declarations} {grammar : Grammar} {kind target : NodeKind}

section Ending

variable (h : Grammar.Accepts declarations grammar) (hnames : grammar.checkNames = .ok ())
  (hlisted : ∀ entry ∈ declarations.expressibleAs, collectionBaseName ∉ entry.2)

include h hnames in
/-- What the root is expressible as inherits from nothing. -/
lemma not_inherits_expressibleAs_root {root : NodeKind} (hroot : grammar.IsExpressible root)
    (hname : root.name = rootName) (parent : String) :
    ¬ Inherits (protocolDecls grammar) (SwiftType.ofKind root).expressibleAs parent := by
  intro hparent
  obtain ⟨_, hparent⟩ := (inherits_expressibleAs_iff h hnames hroot).mp hparent
  rcases List.mem_append.mp hparent with hparent | hparent
  · obtain ⟨conformance, hmem, _⟩ := List.mem_map.mp hparent
    exact (h.not_root_of_conforms (Grammar.conforms_of_mem hmem)).1 hname
  · have hbase : root.base = none := by
      simpa [NodeKind.isRoot] using (h.isRoot_iff hroot.1).mpr hname
    simp [hbase] at hparent

include h hnames hlisted in
/-- The chains from what a kind is expressible as follow its conformances. -/
lemma acc_expressibleAs (hkind : grammar.IsExpressible kind) :
    Acc (fun parent protocol => Inherits (protocolDecls grammar) protocol parent)
      (SwiftType.ofKind kind).expressibleAs := by
  -- along the conformances, which have no infinite chain; the root adds one step at most
  generalize hname : kind.name = name
  induction name using h.wellFounded_conforms.induction generalizing kind with
  | _ name ih =>
      refine Acc.intro _ fun parent hparent => ?_
      obtain ⟨_, hparent⟩ := (inherits_expressibleAs_iff h hnames hkind).mp hparent
      rcases List.mem_append.mp hparent with hparent | hparent
      · obtain ⟨conformance, hmem, rfl⟩ := List.mem_map.mp hparent
        have hedge := Grammar.conforms_of_mem hmem
        obtain ⟨target, htarget, htargetName⟩ := exists_isExpressible_of_conforms h hlisted hedge
        rw [← htargetName, h.ofName_eq_ofKind htarget.1]
        exact ih _ (hname ▸ hedge) htarget htargetName
      · obtain ⟨root, hroot, hrootName, htype⟩ := exists_root_mem_protocolBases h
        split at hparent
        · rw [List.mem_singleton.mp hparent, ← htype]
          refine Acc.intro _ fun other hother => absurd hother ?_
          exact not_inherits_expressibleAs_root h hnames
            (isExpressible_of_mem_protocolBases hroot) hrootName other
        · simp at hparent

include h hnames in
/-- What builds lists of a base inherits from what builds lists of the root, which inherits from
nothing. -/
lemma acc_listBuildable (hkind : kind ∈ protocolBases grammar) :
    Acc (fun parent protocol => Inherits (protocolDecls grammar) protocol parent)
      (SwiftType.ofKind kind).listBuildable := by
  obtain ⟨root, hroot, _, htype⟩ := exists_root_mem_protocolBases h
  refine Acc.intro _ fun parent hparent => ?_
  rw [eq_of_inherits_listBuildable h hnames hkind hparent, ← htype]
  refine Acc.intro _ ?_
  rintro other ⟨decl, hdecl, _, hname, hother⟩
  rw [decl_of_name_listBuildable h hnames hroot hdecl hname, htype, parents_listProtocol] at hother
  simp [rootType, SwiftType.isRoot] at hother

include h hnames hlisted in
/-- What builds a base inherits from what ends, and from what builds the root. -/
lemma acc_buildable (hkind : kind ∈ protocolBases grammar) :
    Acc (fun parent protocol => Inherits (protocolDecls grammar) protocol parent)
      (SwiftType.ofKind kind).buildable := by
  have hown : ∀ {base : NodeKind} {parent : String}, base ∈ protocolBases grammar →
      parent ∈ [(SwiftType.ofKind base).expressibleAs, (SwiftType.ofKind base).listBuildable] →
      Acc (fun parent protocol => Inherits (protocolDecls grammar) protocol parent) parent := by
    intro base parent hbase hparent
    simp only [List.mem_cons, List.not_mem_nil, or_false] at hparent
    rcases hparent with rfl | rfl
    · exact acc_expressibleAs h hnames hlisted (isExpressible_of_mem_protocolBases hbase)
    · exact acc_listBuildable h hnames hbase
  obtain ⟨root, hroot, _, htype⟩ := exists_root_mem_protocolBases h
  refine Acc.intro _ fun parent hparent => ?_
  rw [inherits_buildable_iff h hnames hkind, parents_buildableProtocol] at hparent
  rcases List.mem_append.mp hparent with hparent | hparent
  · exact hown hkind hparent
  · split at hparent
    · simp at hparent
    · rw [List.mem_singleton.mp hparent, ← htype]
      refine Acc.intro _ fun other hother => ?_
      rw [inherits_buildable_iff h hnames hroot, parents_buildableProtocol] at hother
      refine hown hroot ((List.mem_append.mp hother).resolve_right ?_)
      simp [htype, rootType, SwiftType.isRoot]

include h hnames hlisted in
/-- **Every chain of protocols ends.** -/
theorem wellFounded_inherits :
    WellFounded fun parent protocol => Inherits (protocolDecls grammar) protocol parent := by
  refine ⟨fun protocol => Acc.intro _ fun parent hparent => ?_⟩
  obtain ⟨decl, hdecl, hform, rfl, _⟩ := id hparent
  rcases mem_protocolDecls_iff.mp hdecl with ⟨base, hbase, hdecl⟩ | ⟨kind, hkind, hdecl⟩
  · rcases mem_baseDecls_iff.mp hdecl with rfl | rfl | rfl
    · exact (acc_listBuildable h hnames hbase).inv hparent
    · exact (acc_buildable h hnames hlisted hbase).inv hparent
    · simp [buildableExtension] at hform
  · rcases mem_expressibleDecls_iff.mp hdecl with rfl | ⟨_, rfl⟩
    · exact (acc_expressibleAs h hnames hlisted
        (Grammar.isExpressible_of_mem_generatingKinds hkind)).inv hparent
    · simp [expressibleExtension] at hform

include h hnames hlisted in
/-- What a kind is expressible as inherits from what another one is expressible as, other than the
root, along the conformances. -/
lemma reflTransGen_inherits_iff (hkind : grammar.IsExpressible kind)
    (htarget : grammar.IsExpressible target) (hroot : target.name ≠ rootName) :
    ReflTransGen (Inherits (protocolDecls grammar)) (SwiftType.ofKind kind).expressibleAs
        (SwiftType.ofKind target).expressibleAs
      ↔ ReflTransGen grammar.Conforms kind.name target.name := by
  constructor
  · intro hinherits
    have hstart : Reached grammar kind.name (SwiftType.ofKind kind).expressibleAs :=
      ⟨kind, hkind, Or.inl .refl, rfl⟩
    obtain ⟨found, hfound, hreach, heq⟩ :=
      hstart.of_reflTransGen_inherits h hnames hlisted hinherits
    obtain rfl := Grammar.eq_of_expressibleAs_eq h hnames htarget hfound heq
    exact hreach.resolve_right hroot
  · exact reflTransGen_inherits_of_conforms h hnames hkind htarget

end Ending

/-- **The order of the protocols.**  The grammar is accepted, its names are distinct, and nothing is
listed as expressible as the base of collections. -/
theorem inherits_order (h : Grammar.ofDeclarations declarations = .ok grammar)
    (hnames : grammar.checkNames = .ok ())
    (hlisted : ∀ entry ∈ declarations.expressibleAs, collectionBaseName ∉ entry.2) :
    (∀ protocol, ¬ TransGen (Inherits (protocolDecls grammar)) protocol protocol)
      ∧ ∀ kind ∈ grammar.kinds, ∀ target ∈ grammar.kinds,
        kind.name ≠ rootName → kind.name ≠ collectionBaseName →
        target.name ≠ rootName → target.name ≠ collectionBaseName →
        (ReflTransGen (Inherits (protocolDecls grammar)) (SwiftType.ofKind kind).expressibleAs
            (SwiftType.ofKind target).expressibleAs
          ↔ target = kind ∨ target.name ∈ (grammar.reachable kind.name).map Prod.fst) := by
  have haccepts := Grammar.accepts_of_ofDeclarations h
  refine ⟨fun protocol hcycle => ?_, ?_⟩
  · have hwell := wellFounded_inherits haccepts hnames hlisted
    exact hwell.transGen.irrefl.irrefl protocol (transGen_swap.mpr hcycle)
  · intro kind hkind target htarget _ hkindName htargetRoot htargetName
    have hexpressible : ∀ {other : NodeKind}, other ∈ grammar.kinds →
        other.name ≠ collectionBaseName → grammar.IsExpressible other := fun hmem hname =>
      Grammar.isExpressible_of_mem_generatingKinds (Grammar.mem_generatingKinds.mpr ⟨hmem, hname⟩)
    have hsame : target.name = kind.name ↔ target = kind :=
      ⟨haccepts.distinctNames.eq_of_name_eq htarget hkind, fun heq => heq ▸ rfl⟩
    rw [reflTransGen_inherits_iff haccepts hnames hlisted (hexpressible hkind hkindName)
      (hexpressible htarget htargetName) htargetRoot, haccepts.mem_reachable_iff,
      reflTransGen_iff_eq_or_transGen, hsame]

/-- In the grammar of leaves and items, expressions are items, and items are no leaves. -/
theorem inherits_order_leaf :
    ReflTransGen (Inherits (protocolDecls leafGrammar)) "ExpressibleAsExprBuildable"
        "ExpressibleAsItem"
      ∧ ¬ ReflTransGen (Inherits (protocolDecls leafGrammar)) "ExpressibleAsItem"
        "ExpressibleAsLeaf" := by
  have haccepted : Grammar.ofDeclarations leafDeclarations = .ok leafGrammar := by decide
  have horder := (inherits_order haccepted (by decide) (by decide)).2
  refine ⟨(horder Builtin.exprBase (by decide) itemKind (by decide)
    (by decide) (by decide) (by decide) (by decide)).mpr
    (by decide), fun hinherits => ?_⟩
  exact absurd ((horder itemKind (by decide) leafKind (by decide)
    (by decide) (by decide) (by decide) (by decide)).mp hinherits)
    (by decide)

end SyntaxForge.Generate
