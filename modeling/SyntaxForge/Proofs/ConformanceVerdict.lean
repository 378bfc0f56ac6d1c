import SyntaxForge.Grammar.Builtin
import SyntaxForge.Proofs.ConformanceGraph

/-!
# The verdict on paths of conformances

Once the references of a grammar resolve and its direct conformances are computed, two things can
still be wrong with it: a kind may convert to itself, or to something in two ways.
**`ofDeclarations_verdict`** says that the outcome depends on nothing else, and which kind is to
blame: the first in declaration order that lies on a cycle, or else the first that reaches a target
ambiguously.

The paths are those of `Declarations.Conforms`, which is read off the declarations kind by kind and
knows nothing of the searches; `Grammar.Tabulates.conforms_eq` ties the two together.
-/

namespace SyntaxForge

open Relation

namespace Declarations

/-- A declared kind conforms to a target directly. -/
def Conforms (declarations : Declarations) (source target : String) : Prop :=
  ∃ kind ∈ declarations.kinds, kind.name = source
    ∧ ∃ direct, declarations.directConformances declarations.expressibleAs kind = .ok direct
      ∧ target ∈ direct.map Conformance.target

/-- A kind converts to itself through one or more conformances. -/
def OnCycle (declarations : Declarations) (kind : NodeKind) : Prop :=
  TransGen declarations.Conforms kind.name kind.name

/-- A kind reaches some target, to which it does not conform directly, through two of its direct
conformances. -/
def IsAmbiguous (declarations : Declarations) (kind : NodeKind) : Prop :=
  ∃ target, ReachesTwice declarations.Conforms kind.name target

end Declarations

/-- The first kind in declaration order with a property. -/
def IsFirst (property : NodeKind → Prop) (kinds : List NodeKind) (kind : NodeKind) : Prop :=
  property kind
    ∧ ∃ before after, kinds = before ++ kind :: after ∧ ∀ other ∈ before, ¬ property other

lemma IsFirst.mem {property : NodeKind → Prop} {kinds : List NodeKind} {kind : NodeKind}
    (h : IsFirst property kinds kind) : kind ∈ kinds := by
  obtain ⟨_, before, after, rfl, _⟩ := h
  simp

namespace Grammar

variable {declarations : Declarations} {grammar : Grammar}

lemma Tabulates.kinds_eq (h : Tabulates declarations grammar) :
    grammar.kinds = declarations.kinds := by
  rw [h.catalog_eq]

lemma Tabulates.directConformances_declared (h : Tabulates declarations grammar) {kind : NodeKind}
    (hkind : kind ∈ declarations.kinds) :
    declarations.directConformances declarations.expressibleAs kind
      = .ok (grammar.conformances kind.name) := by
  rw [← h.kinds_eq] at hkind
  rw [← h.catalog_eq]
  exact h.directConformances_eq hkind

/-- The table of a grammar holds the conformances of its declarations. -/
lemma Tabulates.conforms_eq (h : Tabulates declarations grammar) :
    grammar.Conforms = declarations.Conforms := by
  ext source target
  constructor
  · intro hedge
    obtain ⟨kind, hkind, rfl⟩ := h.exists_kind_of_conforms hedge
    rw [h.kinds_eq] at hkind
    exact ⟨kind, hkind, rfl, _, h.directConformances_declared hkind, hedge⟩
  · rintro ⟨kind, hkind, rfl, direct, hok, htarget⟩
    rw [h.directConformances_declared hkind, Except.ok.injEq] at hok
    rw [Conforms, Step, targets, hok]
    exact htarget

/-- The first check names the first kind on a cycle. -/
lemma Tabulates.checkCycles_cases (h : Tabulates declarations grammar) :
    (∃ kind, IsFirst declarations.OnCycle declarations.kinds kind
        ∧ grammar.checkCycles = .error (.conformanceCycle kind.name))
      ∨ ((∀ kind ∈ declarations.kinds, ¬ declarations.OnCycle kind)
        ∧ grammar.checkCycles = .ok ()) := by
  have hcycle : ∀ kind, grammar.isOnCycle kind = true ↔ declarations.OnCycle kind := by
    intro kind
    rw [h.isOnCycle_iff, h.conforms_eq, Declarations.OnCycle]
  rw [checkCycles, h.kinds_eq]
  cases hfind : declarations.kinds.find? grammar.isOnCycle with
  | some kind =>
      obtain ⟨hkind, before, after, hkinds, hbefore⟩ := List.find?_eq_some_iff_append.mp hfind
      refine Or.inl ⟨kind, ⟨(hcycle kind).mp hkind, before, after, hkinds, ?_⟩, rfl⟩
      intro other hother
      simpa [← hcycle] using hbefore other hother
  | none =>
      refine Or.inr ⟨?_, rfl⟩
      intro kind hkind
      simpa [← hcycle] using List.find?_eq_none.mp hfind kind hkind

lemma Tabulates.checkCycles_eq_ok (h : Tabulates declarations grammar)
    (hacyclic : ∀ kind ∈ declarations.kinds, ¬ declarations.OnCycle kind) :
    grammar.checkCycles = .ok () := by
  rcases h.checkCycles_cases with ⟨kind, hfirst, _⟩ | ⟨_, hok⟩
  · exact absurd hfirst.1 (hacyclic kind hfirst.mem)
  · exact hok

/-- The second check names the first ambiguous kind, and a target that it reaches twice. -/
lemma Tabulates.checkAmbiguity_cases (h : Tabulates declarations grammar) :
    (∃ kind target, IsFirst declarations.IsAmbiguous declarations.kinds kind
        ∧ ReachesTwice declarations.Conforms kind.name target
        ∧ grammar.checkAmbiguity = .error (.ambiguousConformance kind.name target))
      ∨ ((∀ kind ∈ declarations.kinds, ¬ declarations.IsAmbiguous kind)
        ∧ grammar.checkAmbiguity = .ok ()) := by
  have hnone : ∀ kind, (grammar.ambiguousTarget? kind).map (kind.name, ·) = none →
      ¬ declarations.IsAmbiguous kind := by
    rintro kind hkind ⟨target, htwice⟩
    rw [← h.conforms_eq] at htwice
    exact h.not_reachesTwice_of_ambiguousTarget? (Option.map_eq_none_iff.mp hkind) target htwice
  rw [checkAmbiguity, h.kinds_eq]
  cases hfind : declarations.kinds.findSome? fun kind =>
      (grammar.ambiguousTarget? kind).map (kind.name, ·) with
  | some found =>
      obtain ⟨before, kind, after, hkinds, hkind, hbefore⟩ :=
        List.findSome?_eq_some_iff.mp hfind
      obtain ⟨target, htarget, rfl⟩ := Option.map_eq_some_iff.mp hkind
      have htwice := h.reachesTwice_of_ambiguousTarget? htarget
      rw [h.conforms_eq] at htwice
      refine Or.inl ⟨kind, target, ⟨⟨target, htwice⟩, before, after, hkinds, ?_⟩, htwice, rfl⟩
      intro other hother
      exact hnone other (hbefore other hother)
  | none =>
      refine Or.inr ⟨?_, rfl⟩
      intro kind hkind
      exact hnone kind (List.findSome?_eq_none_iff.mp hfind kind hkind)

/-- Declarations whose references resolve are judged by the two checks of their table. -/
lemma exists_tabulates (hcheck : declarations.check = .ok ())
    (hlisted : ∀ entry ∈ declarations.expressibleAs, declarations.checkListed entry.1 = .ok ())
    (hdirect : ∀ kind ∈ declarations.kinds,
      ∃ direct, declarations.directConformances declarations.expressibleAs kind = .ok direct) :
    ∃ grammar, Tabulates declarations grammar ∧ ofDeclarations declarations = do
      checkCycles grammar
      checkAmbiguity grammar
      return grammar := by
  have hlisted := forM_eq_ok_iff.mpr hlisted
  obtain ⟨table, htable⟩ := exists_mapM_eq_ok_iff (f := fun kind => do
    return (kind.name, ← declarations.directConformances declarations.expressibleAs kind)) |>.mpr <| by
      intro kind hkind
      obtain ⟨direct, hok⟩ := hdirect kind hkind
      exact ⟨(kind.name, direct), by rw [hok]; rfl⟩
  refine ⟨_, tabulates_of_checks hcheck hlisted htable, ?_⟩
  rw [ofDeclarations, hcheck, hlisted, htable]
  rfl

/-- **The verdict on declarations whose references resolve and whose direct conformances exist.**
Every conformance is to a declared kind, so that no search meets a name it cannot look up.  If
some kind lies on a cycle, the first such kind is reported; else, if some kind is ambiguous, the
first such kind is reported with a target that it reaches twice; else the declarations are accepted,
with the direct conformances of every kind. -/
theorem ofDeclarations_verdict (hcheck : declarations.check = .ok ())
    (hlisted : ∀ entry ∈ declarations.expressibleAs, declarations.checkListed entry.1 = .ok ())
    (hdirect : ∀ kind ∈ declarations.kinds,
      ∃ direct, declarations.directConformances declarations.expressibleAs kind = .ok direct) :
    (∀ source target, declarations.Conforms source target →
        ∃ kind, declarations.kind? target = some kind)
      ∧ ((∃ kind ∈ declarations.kinds, declarations.OnCycle kind) →
        ∃ kind, IsFirst declarations.OnCycle declarations.kinds kind
          ∧ ofDeclarations declarations = .error (.conformanceCycle kind.name))
      ∧ ((∀ kind ∈ declarations.kinds, ¬ declarations.OnCycle kind) →
        (∃ kind ∈ declarations.kinds, declarations.IsAmbiguous kind) →
        ∃ kind target, IsFirst declarations.IsAmbiguous declarations.kinds kind
          ∧ ReachesTwice declarations.Conforms kind.name target
          ∧ ofDeclarations declarations = .error (.ambiguousConformance kind.name target))
      ∧ ((∀ kind ∈ declarations.kinds, ¬ declarations.OnCycle kind) →
        (∀ kind ∈ declarations.kinds, ¬ declarations.IsAmbiguous kind) →
        ∃ grammar, ofDeclarations declarations = .ok grammar
          ∧ grammar.toCatalog = declarations.toCatalog
          ∧ ∀ kind ∈ declarations.kinds,
            declarations.directConformances declarations.expressibleAs kind
              = .ok (grammar.conformances kind.name)) := by
  obtain ⟨grammar, h, hverdict⟩ := exists_tabulates hcheck hlisted hdirect
  refine ⟨?_, ?_, ?_, ?_⟩
  · intro source target hedge
    rw [← h.conforms_eq] at hedge
    obtain ⟨kind, hkind, rfl⟩ := List.mem_map.mp (h.targets_subset source target hedge)
    rw [h.kinds_eq] at hkind
    exact Catalog.exists_kind?_of_mem hkind
  · rintro ⟨kind, hkind, hcycle⟩
    rcases h.checkCycles_cases with ⟨first, hfirst, herror⟩ | ⟨hnone, _⟩
    · exact ⟨first, hfirst, by rw [hverdict, herror]; rfl⟩
    · exact absurd hcycle (hnone kind hkind)
  · rintro hacyclic ⟨kind, hkind, hambiguous⟩
    rcases h.checkAmbiguity_cases with ⟨first, target, hfirst, htwice, herror⟩ | ⟨hnone, _⟩
    · refine ⟨first, target, hfirst, htwice, ?_⟩
      rw [hverdict, h.checkCycles_eq_ok hacyclic, herror]
      rfl
    · exact absurd hambiguous (hnone kind hkind)
  · intro hacyclic hunambiguous
    rcases h.checkAmbiguity_cases with ⟨first, _, hfirst, _, _⟩ | ⟨_, hok⟩
    · exact absurd hfirst.1 (hunambiguous first hfirst.mem)
    · refine ⟨grammar, ?_, h.catalog_eq, fun kind => h.directConformances_declared⟩
      rw [hverdict, h.checkCycles_eq_ok hacyclic, hok]
      rfl

/-- An item passes for the box around it and a box for the crate around it, but a crate is an item
again.  A parcel leads to this cycle without lying on it. -/
def packaging : Declarations where
  tokens := []
  kinds :=
    [Builtin.root, Builtin.node "Parcel" "Item" [], Builtin.base "Item" rootName,
     Builtin.node "Box" rootName [Builtin.child "Content" "Item"],
     Builtin.node "Crate" "Item" [Builtin.child "Box" "Box"]]
  expressibleAs := [("Box", ["Crate"])]

theorem ofDeclarations_verdict_packaging :
    packaging.check = .ok ()
      ∧ (∃ kind, IsFirst packaging.OnCycle packaging.kinds kind
        ∧ ofDeclarations packaging = .error (.conformanceCycle kind.name))
      ∧ ofDeclarations packaging = .error (.conformanceCycle "Item") := by
  have hcheck : packaging.check = .ok () := by decide +kernel
  have hlisted : ∀ entry ∈ packaging.expressibleAs, packaging.checkListed entry.1 = .ok () := by
    decide +kernel
  have hok : ∀ kind ∈ packaging.kinds,
      (packaging.directConformances packaging.expressibleAs kind).toOption.isSome = true := by
    decide +kernel
  have hdirect : ∀ kind ∈ packaging.kinds,
      ∃ direct, packaging.directConformances packaging.expressibleAs kind = .ok direct := by
    intro kind hkind
    have hkind := hok kind hkind
    cases hcase : packaging.directConformances packaging.expressibleAs kind with
    | ok direct => exact ⟨direct, rfl⟩
    | error reason => simp [hcase, Except.toOption] at hkind
  have hedge : ∀ source ∈ packaging.kinds, ∀ target, target ∈
      ((packaging.directConformances packaging.expressibleAs source).toOption.getD []).map
        Conformance.target → packaging.Conforms source.name target := by
    intro source hsource target htarget
    obtain ⟨direct, hdirect⟩ := hdirect source hsource
    exact ⟨source, hsource, rfl, direct, hdirect, by simpa [hdirect, Except.toOption] using htarget⟩
  have hcycle : ∃ kind ∈ packaging.kinds, packaging.OnCycle kind := by
    have hitem : packaging.Conforms "Item" "Box" :=
      hedge (Builtin.base "Item" rootName) (by decide +kernel) "Box" (by decide +kernel)
    have hbox : packaging.Conforms "Box" "Crate" :=
      hedge (Builtin.node "Box" rootName [Builtin.child "Content" "Item"]) (by decide +kernel)
        "Crate" (by decide +kernel)
    have hcrate : packaging.Conforms "Crate" "Item" :=
      hedge (Builtin.node "Crate" "Item" [Builtin.child "Box" "Box"]) (by decide +kernel) "Item"
        (by decide +kernel)
    exact ⟨Builtin.base "Item" rootName, by decide +kernel,
      .head hitem (.head hbox (.single hcrate))⟩
  exact ⟨hcheck, (ofDeclarations_verdict hcheck hlisted hdirect).2.1 hcycle, by decide +kernel⟩

end Grammar

end SyntaxForge
