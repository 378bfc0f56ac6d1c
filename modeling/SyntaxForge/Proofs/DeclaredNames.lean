import SyntaxForge.Proofs.GeneratedNames

/-!
# Distinct names

`Grammar.checkNames` goes through the names that the kinds claim and stops at the first that another
kind has claimed before.  What is declared in the generated files are these names, some of them
under conditions that each file has for itself, and the struct of a base of collections with values
of its own.

* `collision_of_firstCollision`: **a collision that is reported is between two kinds that both claim
  the name**, and `checkNames_eq_ok_iff`: there is one whenever two kinds share a name.
* `declaredNames_perm`: the declared names, sorted by the kinds they belong to.
* `nodup_declaredNames`: **no name is declared twice** in the files of a grammar.
-/

namespace SyntaxForge

namespace Grammar

/-! ## Collisions -/

/-- A collision is a claim on a name that another kind has claimed before. -/
lemma collision_of_firstCollision {collision : NameCollision} :
    ∀ {claims claimed : List (String × String)}, firstCollision claimed claims = some collision →
      (collision.name, collision.kind) ∈ claims ∧ collision.other ≠ collision.kind
        ∧ ((collision.name, collision.other) ∈ claimed
          ∨ (collision.name, collision.other) ∈ claims)
  | [], _, h => by simp [firstCollision] at h
  | (name, kind) :: rest, claimed, h => by
      -- a name stays with the kind that claimed it first
      rw [firstCollision] at h
      split at h
      · next other hlookup =>
          split at h
          · have hrest := collision_of_firstCollision h
            simp only [List.mem_cons]
            tauto
          · next hne =>
              simp only [Option.some.injEq] at h
              subst h
              obtain ⟨front, back, rfl, -⟩ := List.lookup_eq_some_iff.mp hlookup
              simp [hne]
      · have hrest := collision_of_firstCollision h
        simp only [List.mem_cons] at hrest ⊢
        tauto

variable {declarations : Declarations} {grammar : Grammar} {kind : NodeKind}

/-- A claim is made by a kind that generates types. -/
lemma exists_of_mem_nameClaims {claim : String × String} (h : claim ∈ grammar.nameClaims) :
    ∃ kind ∈ grammar.generatingKinds, kind.name = claim.2
      ∧ claim.1 ∈ (SwiftType.ofKind kind).claimedNames := by
  simp only [nameClaims, List.mem_flatMap, List.mem_map] at h
  obtain ⟨kind, hkind, name, hname, rfl⟩ := h
  exact ⟨kind, hkind, rfl, hname⟩

/-- Two kinds claim the name. -/
def Collides (grammar : Grammar) (kind other : NodeKind) (name : String) : Prop :=
  kind ∈ grammar.generatingKinds ∧ other ∈ grammar.generatingKinds ∧ kind ≠ other
    ∧ name ∈ (SwiftType.ofKind kind).claimedNames ∧ name ∈ (SwiftType.ofKind other).claimedNames

/-- **A collision that is reported is one.** -/
lemma collides_of_checkNames {collision : NameCollision}
    (h : grammar.checkNames = .error collision) :
    ∃ kind other, kind.name = collision.kind ∧ other.name = collision.other
      ∧ grammar.Collides kind other collision.name := by
  rw [checkNames] at h
  split at h
  · next hfound =>
      simp only [Except.error.injEq] at h
      subst h
      obtain ⟨hclaim, hne, hother⟩ := collision_of_firstCollision hfound
      obtain ⟨kind, hkind, hname, hmem⟩ := exists_of_mem_nameClaims hclaim
      obtain ⟨other, hgenerating, hotherName, hotherMem⟩ :=
        exists_of_mem_nameClaims (hother.resolve_left (by simp))
      refine ⟨kind, other, hname, hotherName, hkind, hgenerating, ?_, hmem, hotherMem⟩
      rintro rfl
      exact hne (hotherName.symm.trans hname)
  · simp at h

/-- Names are accepted if no two kinds share one. -/
lemma checkNames_eq_ok_iff (h : Accepts declarations grammar) :
    grammar.checkNames = .ok () ↔ ∀ kind other name, ¬ grammar.Collides kind other name := by
  constructor
  · rintro hnames kind other name ⟨hkind, hother, hne, hmem, hmem'⟩
    exact hne (eq_of_mem_claimedNames h hnames hkind hother hmem hmem')
  · intro hnone
    cases hnames : grammar.checkNames with
    | ok => rfl
    | error collision =>
        obtain ⟨kind, other, -, -, hcollides⟩ := collides_of_checkNames hnames
        exact absurd hcollides (hnone kind other _)

end Grammar

namespace Code

/-- The names of the protocols and structs among declarations. -/
def declaredNames (decls : List Decl) : List String :=
  (decls.filter fun decl => decl.form ≠ .extend).map Decl.name

lemma declaredNames_append (front back : List Decl) :
    declaredNames (front ++ back) = declaredNames front ++ declaredNames back := by
  simp [declaredNames]

lemma declaredNames_flatMap {α : Type} (list : List α) (decls : α → List Decl) :
    declaredNames (list.flatMap decls) = list.flatMap fun a => declaredNames (decls a) := by
  simp [declaredNames, List.filter_flatMap, List.map_flatMap]

end Code

namespace Generate

open Code

variable {declarations : Declarations} {grammar : Grammar} {kind : NodeKind}

/-! ## Names by kinds -/

/-- The names of the protocols and structs of a kind, file by file. -/
def ownNames (kind : NodeKind) : List String :=
  let type := SwiftType.ofKind kind
  (if kind.name ≠ collectionBaseName && kind.isBase then [type.listBuildable, type.buildable]
    else [])
    ++ ((if kind.isCollection then [kind.name] else [])
      ++ ((if kind.isConcrete then [kind.name] else [])
        ++ if kind.name ≠ collectionBaseName then [type.expressibleAs] else []))

/-- The first file has an order of its own. -/
lemma declaredNames_baseProtocols_perm (grammar : Grammar) :
    (declaredNames (baseProtocols grammar)).Perm (grammar.kinds.flatMap fun kind =>
      if kind.name ≠ collectionBaseName && kind.isBase then
        [(SwiftType.ofKind kind).listBuildable, (SwiftType.ofKind kind).buildable]
      else []) := by
  have hdecls : ∀ kind, declaredNames (baseDecls kind)
      = [(SwiftType.ofKind kind).listBuildable, (SwiftType.ofKind kind).buildable] := by
    intro kind
    simp [declaredNames, baseDecls, listProtocol, buildableProtocol, buildableExtension]
  have hsorted := (List.mergeSort_perm (grammar.kinds.filter NodeKind.isBase)
    fun a b => a.name ≤ b.name).filter fun kind => decide (kind.name ≠ collectionBaseName)
  rw [List.filter_filter] at hsorted
  rw [baseProtocols, declaredNames_flatMap, ← flatMap_filter]
  simp only [hdecls]
  exact hsorted.flatMap_right _

lemma declaredNames_collectionStructs (grammar : Grammar) :
    declaredNames ((collectionStructs grammar).map Draft.decl)
      = grammar.kinds.flatMap fun kind => if kind.isCollection then [kind.name] else [] := by
  rw [collectionStructs, List.map_flatMap, declaredNames_flatMap, ← flatMap_filter]
  refine List.flatMap_congr fun kind hkind => ?_
  have hcollection := (List.mem_filter.mp hkind).2
  cases hshape : kind.shape with
  | base => simp [NodeKind.isCollection, hshape] at hcollection
  | concrete slots => simp [NodeKind.isCollection, hshape] at hcollection
  | collection element onNewLines =>
      simp only [collectionDrafts, NodeKind.element?, hshape]
      split <;> simp [declaredNames, collectionStruct, arrayExtension]

lemma declaredNames_nodeStructs (grammar : Grammar) :
    declaredNames ((nodeStructs grammar).map Draft.decl)
      = grammar.kinds.flatMap fun kind => if kind.isConcrete then [kind.name] else [] := by
  rw [← flatMap_filter, nodeStructs, ← List.map_eq_flatMap]
  simp [declaredNames, nodeStruct, Catalog.concreteKinds, List.filter_map, Function.comp_def]

lemma declaredNames_expressibleProtocols (grammar : Grammar) :
    declaredNames (expressibleProtocols grammar)
      = grammar.kinds.flatMap fun kind => if kind.name ≠ collectionBaseName then
        [(SwiftType.ofKind kind).expressibleAs] else [] := by
  have hdecls : ∀ kind, declaredNames (expressibleDecls grammar kind)
      = [(SwiftType.ofKind kind).expressibleAs] := by
    intro kind
    rw [expressibleDecls]
    split <;> simp [declaredNames, expressibleProtocol, expressibleExtension]
  rw [expressibleProtocols, declaredNames_flatMap, Grammar.generatingKinds, flatMap_filter]
  simp [hdecls]

/-- **The declared names, by the kinds they belong to.** -/
theorem declaredNames_perm (grammar : Grammar) :
    (declaredNames (generatedDecls grammar)).Perm (grammar.kinds.flatMap ownNames) := by
  have hfiles : declaredNames (generatedDecls grammar)
      = declaredNames (baseProtocols grammar)
        ++ (declaredNames ((collectionStructs grammar).map Draft.decl)
          ++ (declaredNames ((nodeStructs grammar).map Draft.decl)
            ++ declaredNames (expressibleProtocols grammar))) := by
    simp [generatedDecls, fileDrafts, declaredNames_append, Function.comp_def]
  rw [hfiles, declaredNames_collectionStructs, declaredNames_nodeStructs,
    declaredNames_expressibleProtocols]
  refine ((declaredNames_baseProtocols_perm grammar).append ?_).trans
    (List.flatMap_append_perm _ _ _)
  refine (List.Perm.append_left _ ?_).trans (List.flatMap_append_perm _ _ _)
  exact List.flatMap_append_perm _ _ _

/-! ## No name twice -/

lemma ownNames_of_isBase (hbase : kind.isBase = true) : ownNames kind
    = if kind.name = collectionBaseName then [] else
      [(SwiftType.ofKind kind).listBuildable, (SwiftType.ofKind kind).buildable,
        (SwiftType.ofKind kind).expressibleAs] := by
  cases hshape : kind.shape with
  | base =>
      by_cases hname : kind.name = collectionBaseName <;>
        simp [ownNames, NodeKind.isBase, NodeKind.isCollection, NodeKind.isConcrete, hshape, hname]
  | concrete slots => simp [NodeKind.isBase, hshape] at hbase
  | collection element onNewLines => simp [NodeKind.isBase, hshape] at hbase

lemma ownNames_of_not_isBase (hbase : kind.isBase = false) : ownNames kind
    = kind.name :: if kind.name = collectionBaseName then [] else
      [(SwiftType.ofKind kind).expressibleAs] := by
  by_cases hname : kind.name = collectionBaseName <;>
    cases hshape : kind.shape <;>
      simp [ownNames, NodeKind.isBase, NodeKind.isCollection, NodeKind.isConcrete, hshape, hname]
        at hbase ⊢

section Distinct

variable (h : Grammar.Accepts declarations grammar) (hkind : kind ∈ grammar.kinds)

include h hkind in
/-- What a kind declares it also claims, apart from the struct of a base of collections with values
of its own. -/
lemma claims_of_mem_ownNames {name : String} (hname : name ∈ ownNames kind) :
    kind ∈ grammar.generatingKinds ∧ name ∈ (SwiftType.ofKind kind).claimedNames
      ∨ kind.name = collectionBaseName ∧ name = collectionBaseName := by
  by_cases hcollection : kind.name = collectionBaseName
  · right
    cases hbase : kind.isBase with
    | true => simp [ownNames_of_isBase hbase, hcollection] at hname
    | false => simpa [ownNames_of_not_isBase hbase, hcollection] using hname
  · refine Or.inl ⟨Grammar.mem_generatingKinds.mpr ⟨hkind, hcollection⟩, ?_⟩
    cases hbase : kind.isBase with
    | true =>
        rw [ownNames_of_isBase hbase, if_neg hcollection] at hname
        simp only [SwiftType.claimedNames, List.mem_cons, List.not_mem_nil, or_false] at hname ⊢
        tauto
    | false =>
        rw [ownNames_of_not_isBase hbase, if_neg hcollection, ← h.buildable_eq_name hkind hbase]
          at hname
        simp only [SwiftType.claimedNames, List.mem_cons, List.not_mem_nil, or_false] at hname ⊢
        tauto

include h hkind in
lemma nodup_ownNames : (ownNames kind).Nodup := by
  have hlonger := SwiftType.expressibleAs_ne_buildableBaseName kind
  cases hbase : kind.isBase with
  | true =>
      have hlist := SwiftType.buildableBaseName_ne_listBuildable hbase
      have hexpressible := SwiftType.expressibleAs_ne_listBuildable hbase
      rw [ownNames_of_isBase hbase]
      split
      · exact List.nodup_nil
      · simp [hlist.symm, hexpressible.symm, hlonger.symm]
  | false =>
      rw [h.buildableBaseName_eq_name hkind hbase] at hlonger
      rw [ownNames_of_not_isBase hbase]
      split
      · exact List.nodup_singleton _
      · simp [hlonger.symm]

end Distinct

/-- **No name is declared twice.** -/
theorem nodup_declaredNames (h : Grammar.Accepts declarations grammar)
    (hnames : grammar.checkNames = .ok ()) : (declaredNames (generatedDecls grammar)).Nodup := by
  rw [(declaredNames_perm grammar).nodup_iff, List.nodup_flatMap]
  refine ⟨fun kind hkind => nodup_ownNames h hkind, ?_⟩
  refine h.distinctNames.of_map.pairwise_of_forall_ne fun kind hkind other hother hne => ?_
  intro name hname hname'
  rcases claims_of_mem_ownNames h hkind hname, claims_of_mem_ownNames h hother hname' with
    ⟨⟨hgenerating, hclaimed⟩ | ⟨hcollection, rfl⟩, ⟨hgenerating', hclaimed'⟩ | ⟨hcollection', hsame⟩⟩
  · exact hne (Grammar.eq_of_mem_claimedNames h hnames hgenerating hgenerating' hclaimed hclaimed')
  · exact collectionBaseName_not_mem_claimedNames h hgenerating (hsame ▸ hclaimed)
  · exact collectionBaseName_not_mem_claimedNames h hgenerating' hclaimed'
  · exact hne (h.distinctNames.eq_of_name_eq hkind hother (hcollection.trans hcollection'.symm))

/-- **When names are accepted, and what this is good for.**  Names are accepted if no two kinds share
one; otherwise a collision is reported, and it is one.  In generated files no name is declared
twice. -/
theorem names_distinct (h : Grammar.ofDeclarations declarations = .ok grammar) :
    (grammar.checkNames = .ok () ↔ ∀ kind other name, ¬ grammar.Collides kind other name)
      ∧ (∀ collision, grammar.checkNames = .error collision →
        ∃ kind other, kind.name = collision.kind ∧ other.name = collision.other
          ∧ grammar.Collides kind other collision.name)
      ∧ ∀ sources, files grammar = .ok sources →
        (declaredNames (generatedDecls grammar)).Nodup := by
  have haccepts := Grammar.accepts_of_ofDeclarations h
  refine ⟨Grammar.checkNames_eq_ok_iff haccepts, ?_, ?_⟩
  · intro collision hcollision
    exact Grammar.collides_of_checkNames hcollision
  · intro sources hfiles
    exact nodup_declaredNames haccepts (checkNames_of_files hfiles)

/-! What builds lists of declarations is named as what would build a base of declaration lists.  A
concrete kind of that name has no such protocol. -/

/-- A grammar with declarations and one more kind. -/
def declListDeclarations (kind : NodeKind) : Declarations where
  tokens := []
  kinds := [Builtin.root, Builtin.declBase, kind]
  expressibleAs := []

/-- The grammar with its conformances. -/
def declListGrammar (kind : NodeKind) : Grammar where
  toCatalog := (declListDeclarations kind).toCatalog
  conformanceTable := [("Syntax", []), ("Decl", []), ("DeclList", [])]

/-- Declaration lists as a base. -/
def declListBase : NodeKind := Builtin.base "DeclList" rootName

/-- Declaration lists as a concrete kind. -/
def declListNode : NodeKind := Builtin.node "DeclList" rootName []

theorem names_distinct_declList :
    (∃ kind other, kind.name = "DeclList" ∧ other.name = "Decl"
        ∧ (declListGrammar declListBase).Collides kind other "DeclListBuildable")
      ∧ (declaredNames (generatedDecls (declListGrammar declListNode))).Nodup := by
  have hbase : Grammar.ofDeclarations (declListDeclarations declListBase)
      = .ok (declListGrammar declListBase) := by decide
  have hnode : Grammar.ofDeclarations (declListDeclarations declListNode)
      = .ok (declListGrammar declListNode) := by decide
  have hcollision : (declListGrammar declListBase).checkNames
      = .error ⟨"DeclListBuildable", "DeclList", "Decl"⟩ := by decide
  have hplain : (declListGrammar declListNode).HasPlainNames :=
    ⟨by decide, by decide, by decide⟩
  obtain ⟨sources, hfiles⟩ := exists_files_of_hasPlainNames
    (Grammar.accepts_of_ofDeclarations hnode) hplain (by decide)
  exact ⟨(names_distinct hbase).2.1 _ hcollision, (names_distinct hnode).2.2 sources hfiles⟩

end Generate

end SyntaxForge
