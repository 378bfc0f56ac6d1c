import SyntaxForge.Proofs.ConformanceVerdict
import Mathlib.Data.Finset.Card
import Mathlib.Data.Fintype.EquivFin
import Mathlib.Data.PFun

/-!
# Chains of bases that never end

Following the bases of a kind leads to the root or goes on for ever.  The check of a catalog cuts
every chain off behind as many kinds as there are, and takes a chain that is longer for a circle.

* **`hasCircularBases_iff`**: this is exact.  A chain that is longer than the list of kinds meets
  some kind twice, and goes round from there on.
* **`climb_dom_iff`**, **`climb_eq_isSubkind`**: the climb from base to base that looks for a name
  goes on for ever on an endless chain without the name.  Where chains end, so does the climb, and
  it finds what `isSubkind` says.
* **`check_chains`**: the verdict on catalogs whose references are valid, and what an accepted one
  can rely on.
-/

namespace SyntaxForge

open Relation

namespace Catalog

variable {catalog : Catalog} {kind : NodeKind}

/-! ## Following bases -/

/-- The base of a kind. -/
def baseKind? (catalog : Catalog) (kind : NodeKind) : Option NodeKind :=
  kind.base.bind catalog.kind?

/-- What is found some bases above a kind. -/
def baseAt? (catalog : Catalog) : (steps : Nat) → NodeKind → Option NodeKind
  | 0, kind => some kind
  | steps + 1, kind => (catalog.baseKind? kind).bind (catalog.baseAt? steps)

/-- The chain of bases never ends: however many are followed, there is another one. -/
def IsEndless (catalog : Catalog) (kind : NodeKind) : Prop :=
  ∀ steps, (catalog.baseAt? steps kind).isSome = true

/-- One round of the climb from base to base: an answer, as a kind of the name is met or there is no
base, or else the base to go on from. -/
def climbRound (catalog : Catalog) (ancestor : String) :
    Option NodeKind → Bool ⊕ Option NodeKind
  | none => .inl false
  | some kind => if kind.name = ancestor then .inl true else .inr (catalog.baseKind? kind)

/-- Climbs, round after round, until there is an answer.  Nothing bounds the number of rounds. -/
def climb (catalog : Catalog) (ancestor : String) : Option NodeKind →. Bool :=
  PFun.fix fun current => Part.some (catalog.climbRound ancestor current)

/-- The chain of bases ends at the root. -/
def EndsAtRoot (catalog : Catalog) (kind : NodeKind) : Prop :=
  ∃ steps root, catalog.baseAt? steps kind = some root ∧ root.name = rootName ∧ root.base = none

/-- A kind of one name is declared to derive from another. -/
def DerivesFrom (catalog : Catalog) (name base : String) : Prop :=
  ∃ kind ∈ catalog.kinds, kind.name = name ∧ kind.base = some base

instance : Decidable catalog.DistinctNames :=
  inferInstanceAs (Decidable (List.Nodup _))

/-- Names are distinct, the root is a base without a base, every other kind derives from a declared
base, and the types that kinds refer to are declared. -/
structure HasValidReferences (catalog : Catalog) : Prop where
  distinct : catalog.DistinctNames
  root : ∃ root ∈ catalog.kinds, root.name = rootName ∧ root.base = none ∧ root.isBase = true
  base : ∀ kind ∈ catalog.kinds, kind.name ≠ rootName →
    ∃ base ∈ catalog.kinds, kind.base = some base.name ∧ base.isBase = true
  references : ∀ kind ∈ catalog.kinds, ∀ type ∈ kind.references, catalog.resolves type = true

lemma baseAt?_succ {base : NodeKind} (h : catalog.baseKind? kind = some base) (steps : Nat) :
    catalog.baseAt? (steps + 1) kind = catalog.baseAt? steps base := by
  rw [baseAt?, h, Option.bind_some]

lemma baseAt?_add (first second : Nat) : ∀ kind, catalog.baseAt? (first + second) kind
    = (catalog.baseAt? first kind).bind (catalog.baseAt? second) := by
  induction first with
  | zero => intro kind; rw [Nat.zero_add]; rfl
  | succ first ih =>
      intro kind
      rw [Nat.succ_add, baseAt?, baseAt?, Option.bind_assoc]
      exact congrArg _ (funext ih)

/-- In front of a base there are all the ones below. -/
lemma isSome_baseAt?_of_le {fewer steps : Nat} (hle : fewer ≤ steps)
    (h : (catalog.baseAt? steps kind).isSome = true) :
    (catalog.baseAt? fewer kind).isSome = true := by
  obtain ⟨more, rfl⟩ := Nat.exists_eq_add_of_le hle
  rw [baseAt?_add] at h
  cases hfewer : catalog.baseAt? fewer kind with
  | none => simp [hfewer] at h
  | some base => rfl

lemma mem_of_baseKind? {base : NodeKind} (h : catalog.baseKind? kind = some base) :
    base ∈ catalog.kinds := by
  obtain ⟨name, -, hfound⟩ := Option.bind_eq_some_iff.mp h
  exact (mem_and_name_of_kind? hfound).1

lemma mem_of_baseAt? (hkind : kind ∈ catalog.kinds) {steps : Nat} {found : NodeKind}
    (h : catalog.baseAt? steps kind = some found) : found ∈ catalog.kinds := by
  induction steps generalizing kind with
  | zero => exact Option.some.inj h ▸ hkind
  | succ steps ih =>
      obtain ⟨base, hbase, hfound⟩ := Option.bind_eq_some_iff.mp h
      exact ih (mem_of_baseKind? hbase) hfound

/-! ## Chains that are too long -/

/-- The kinds of a chain are the ones that are found above its first kind. -/
lemma getElem?_chainWithin (bound : Nat) : ∀ (kind : NodeKind) (steps : Nat),
    (catalog.chainWithin bound kind)[steps]?
      = if steps < bound then catalog.baseAt? steps kind else none := by
  induction bound with
  | zero => intro kind steps; simp [chainWithin]
  | succ bound ih =>
      intro kind steps
      rw [chainWithin, ← baseKind?]
      cases steps with
      | zero => simp [baseAt?]
      | succ steps =>
          rw [List.getElem?_cons_succ, baseAt?]
          cases catalog.baseKind? kind with
          | none => simp
          | some base => simp [ih]

lemma mem_chainWithin_iff {bound : Nat} {found : NodeKind} :
    found ∈ catalog.chainWithin bound kind
      ↔ ∃ steps < bound, catalog.baseAt? steps kind = some found := by
  rw [List.mem_iff_getElem?]
  simp only [getElem?_chainWithin, Option.ite_none_right_eq_some]

lemma hasCircularBases_iff_isSome : catalog.hasCircularBases kind = true
    ↔ (catalog.baseAt? catalog.kinds.length kind).isSome = true := by
  have hchain : (catalog.chainWithin (catalog.kinds.length + 1) kind)[catalog.kinds.length]?
      = catalog.baseAt? catalog.kinds.length kind := by
    rw [getElem?_chainWithin, if_pos (Nat.lt_succ_self _)]
  rw [← hchain]
  simp [hasCircularBases]

/-- A long chain meets some kind twice. -/
lemma exists_repeated_base (hkind : kind ∈ catalog.kinds)
    (h : (catalog.baseAt? catalog.kinds.length kind).isSome = true) :
    ∃ first period, 0 < period ∧ first + period ≤ catalog.kinds.length
      ∧ catalog.baseAt? (first + period) kind = catalog.baseAt? first kind := by
  have hsome : ∀ steps ≤ catalog.kinds.length,
      catalog.baseAt? steps kind = some ((catalog.baseAt? steps kind).getD kind) := by
    intro steps hsteps
    obtain ⟨base, hbase⟩ := Option.isSome_iff_exists.mp (isSome_baseAt?_of_le hsteps h)
    rw [hbase, Option.getD_some]
  have hcard : catalog.kinds.toFinset.card < (Finset.range (catalog.kinds.length + 1)).card := by
    rw [Finset.card_range]
    exact Nat.lt_succ_of_le (List.toFinset_card_le _)
  have hmaps : Set.MapsTo (fun steps => (catalog.baseAt? steps kind).getD kind)
      (Finset.range (catalog.kinds.length + 1)) catalog.kinds.toFinset := by
    intro steps hsteps
    have hle := Nat.le_of_lt_succ (Finset.mem_range.mp hsteps)
    exact List.mem_toFinset.mpr (mem_of_baseAt? hkind (hsome steps hle))
  obtain ⟨a, ha, b, hb, hne, hsame⟩ := Finset.exists_ne_map_eq_of_card_lt_of_maps_to hcard hmaps
  have ha := Nat.le_of_lt_succ (Finset.mem_range.mp ha)
  have hb := Nat.le_of_lt_succ (Finset.mem_range.mp hb)
  have hbase : catalog.baseAt? a kind = catalog.baseAt? b kind := by
    rw [hsome a ha, hsome b hb]
    exact congrArg some hsame
  rcases Nat.lt_or_gt_of_ne hne with hlt | hlt
  · exact ⟨a, b - a, by omega, by omega, by rw [Nat.add_sub_cancel' (Nat.le_of_lt hlt), hbase]⟩
  · exact ⟨b, a - b, by omega, by omega, by rw [Nat.add_sub_cancel' (Nat.le_of_lt hlt), hbase]⟩

/-- **A chain that is longer than the list of kinds never ends.** -/
theorem hasCircularBases_iff (hkind : kind ∈ catalog.kinds) :
    catalog.hasCircularBases kind = true ↔ catalog.IsEndless kind := by
  rw [hasCircularBases_iff_isSome]
  refine ⟨?_, fun h => h _⟩
  intro hlong steps
  obtain ⟨first, period, hperiod, hle, hsame⟩ := exists_repeated_base hkind hlong
  induction steps using Nat.strong_induction_on with
  | _ steps ih =>
      by_cases hsteps : steps ≤ catalog.kinds.length
      · exact isSome_baseAt?_of_le hsteps hlong
      · -- one round less leads to the same kind
        obtain ⟨more, rfl⟩ := Nat.exists_eq_add_of_le (show first + period ≤ steps by omega)
        rw [baseAt?_add, hsame, ← baseAt?_add]
        exact ih (first + more) (by omega)

/-! ## Chains that end -/

/-- A chain that ends has a last kind, which has no base that is declared. -/
lemma exists_last {bound : Nat} (h : catalog.baseAt? bound kind = none) :
    ∃ steps last, catalog.baseAt? steps kind = some last ∧ catalog.baseKind? last = none := by
  induction bound generalizing kind with
  | zero => exact absurd h (Option.some_ne_none kind)
  | succ bound ih =>
      cases hbase : catalog.baseKind? kind with
      | none => exact ⟨0, kind, rfl, hbase⟩
      | some base =>
          rw [baseAt?_succ hbase] at h
          obtain ⟨steps, last, hlast, hend⟩ := ih h
          exact ⟨steps + 1, last, (baseAt?_succ hbase steps).trans hlast, hend⟩

lemma climb_none (ancestor : String) : catalog.climb ancestor none = Part.some false :=
  Part.eq_some_iff.mpr (PFun.fix_stop (Part.mem_some _))

lemma climb_of_name_eq {ancestor : String} (h : kind.name = ancestor) :
    catalog.climb ancestor (some kind) = Part.some true :=
  Part.eq_some_iff.mpr (PFun.fix_stop (by simp [climbRound, h]))

lemma climb_of_name_ne {ancestor : String} (h : kind.name ≠ ancestor) :
    catalog.climb ancestor (some kind) = catalog.climb ancestor (catalog.baseKind? kind) :=
  PFun.fix_fwd_eq (by simp [climbRound, h])

/-- Where the chain ends, the climb finds what a search of the chain does. -/
lemma climb_eq_any {ancestor : String} {bound : Nat} (h : catalog.baseAt? bound kind = none) :
    catalog.climb ancestor (some kind)
      = Part.some ((catalog.chainWithin bound kind).any (·.name = ancestor)) := by
  induction bound generalizing kind with
  | zero => exact absurd h (Option.some_ne_none kind)
  | succ bound ih =>
      rw [chainWithin, List.any_cons, ← baseKind?]
      by_cases hname : kind.name = ancestor
      · simp [climb_of_name_eq hname, hname]
      · rw [climb_of_name_ne hname]
        cases hbase : catalog.baseKind? kind with
        | none => simp [climb_none, hname]
        | some base =>
            rw [baseAt?_succ hbase] at h
            simp [ih h, hname]

/-- A kind that is met stops the climb. -/
lemma climb_dom_of_met {ancestor : String} {steps : Nat} {found : NodeKind}
    (hfound : catalog.baseAt? steps kind = some found) (hname : found.name = ancestor) :
    (catalog.climb ancestor (some kind)).Dom := by
  induction steps generalizing kind with
  | zero =>
      obtain rfl : kind = found := Option.some.inj hfound
      simp [climb_of_name_eq hname]
  | succ steps ih =>
      obtain ⟨base, hbase, hfound⟩ := Option.bind_eq_some_iff.mp hfound
      by_cases hkind : kind.name = ancestor
      · simp [climb_of_name_eq hkind]
      · rw [climb_of_name_ne hkind, hbase]
        exact ih hfound

/-- On an endless chain the climb has an answer only if it meets the name. -/
lemma exists_met_of_mem_climb {ancestor : String} {answer : Bool}
    (hanswer : answer ∈ catalog.climb ancestor (some kind)) (hendless : catalog.IsEndless kind) :
    ∃ steps found, catalog.baseAt? steps kind = some found ∧ found.name = ancestor := by
  -- an answer comes out of finitely many rounds
  refine PFun.fixInduction (C := fun current => ∀ kind, current = some kind →
    catalog.IsEndless kind →
      ∃ steps found, catalog.baseAt? steps kind = some found ∧ found.name = ancestor)
    hanswer ?_ kind rfl hendless
  rintro current _ ih kind rfl hendless
  by_cases hname : kind.name = ancestor
  · exact ⟨0, kind, rfl, hname⟩
  · obtain ⟨base, hbase⟩ := Option.isSome_iff_exists.mp (hendless 1)
    have hbase : catalog.baseKind? kind = some base := by simpa [baseAt?] using hbase
    have habove : catalog.IsEndless base := by
      intro steps
      rw [← baseAt?_succ hbase]
      exact hendless (steps + 1)
    obtain ⟨steps, found, hfound, hmet⟩ :=
      ih (some base) (by simp [climbRound, hname, hbase]) base rfl habove
    exact ⟨steps + 1, found, (baseAt?_succ hbase steps).trans hfound, hmet⟩

/-- **The climb ends exactly if the chain does or a kind of the name is met.** -/
theorem climb_dom_iff {ancestor : String} :
    (catalog.climb ancestor (some kind)).Dom ↔ ¬ catalog.IsEndless kind
      ∨ ∃ steps found, catalog.baseAt? steps kind = some found ∧ found.name = ancestor := by
  constructor
  · intro hdom
    by_cases hendless : catalog.IsEndless kind
    · exact Or.inr (exists_met_of_mem_climb (Part.get_mem hdom) hendless)
    · exact Or.inl hendless
  · rintro (hend | ⟨steps, found, hfound, hname⟩)
    · obtain ⟨bound, hbound⟩ := not_forall.mp hend
      rw [climb_eq_any (Option.not_isSome_iff_eq_none.mp hbound)]
      trivial
    · exact climb_dom_of_met hfound hname

/-! ## Valid references -/

/-- Distinct names have no repetition. -/
lemma firstRepeated_eq_none : ∀ {seen names : List String}, names.Nodup →
    (∀ name ∈ names, name ∉ seen) → firstRepeated seen names = none
  | _, [], _, _ => rfl
  | seen, name :: rest, hnodup, hseen => by
      obtain ⟨hname, hnodup⟩ := List.nodup_cons.mp hnodup
      rw [firstRepeated, if_neg (hseen name List.mem_cons_self)]
      refine firstRepeated_eq_none hnodup ?_
      intro other hother hmem
      rcases List.mem_cons.mp hmem with rfl | hmem
      · exact hname hother
      · exact hseen other (List.mem_cons_of_mem _ hother) hmem

/-- Following bases is deriving from them. -/
lemma reflTransGen_of_baseAt? (hkind : kind ∈ catalog.kinds)
    {steps : Nat} {found : NodeKind} (hfound : catalog.baseAt? steps kind = some found) :
    ReflTransGen catalog.DerivesFrom kind.name found.name := by
  induction steps generalizing kind with
  | zero => exact Option.some.inj hfound ▸ .refl
  | succ steps ih =>
      obtain ⟨base, hbase, hfound⟩ := Option.bind_eq_some_iff.mp hfound
      obtain ⟨name, hname, hlookup⟩ := Option.bind_eq_some_iff.mp hbase
      obtain ⟨hmem, rfl⟩ := mem_and_name_of_kind? hlookup
      exact .head ⟨kind, hkind, rfl, hname⟩ (ih hmem hfound)

namespace HasValidReferences

lemma base_eq_none_of_name_eq (h : catalog.HasValidReferences) (hkind : kind ∈ catalog.kinds)
    (hname : kind.name = rootName) : kind.base = none := by
  obtain ⟨root, hroot, hrootName, hbase, -⟩ := h.root
  rw [h.distinct.eq_of_name_eq hkind hroot (hname.trans hrootName.symm), hbase]

/-- A declared base is found, and it is a base. -/
lemma exists_baseKind? (h : catalog.HasValidReferences) (hkind : kind ∈ catalog.kinds)
    {name : String} (hname : kind.base = some name) :
    ∃ base, catalog.kind? name = some base ∧ catalog.baseKind? kind = some base
      ∧ base.isBase = true := by
  have hroot : kind.name ≠ rootName := by
    intro hroot
    rw [h.base_eq_none_of_name_eq hkind hroot] at hname
    exact absurd hname.symm (Option.some_ne_none name)
  obtain ⟨base, hbase, hof, hisBase⟩ := h.base kind hkind hroot
  obtain rfl : base.name = name := Option.some.inj (hof.symm.trans hname)
  have hfound := h.distinct.kind?_eq_some hbase
  exact ⟨base, hfound, by rw [baseKind?, hname]; exact hfound, hisBase⟩

lemma checkKind_eq_ok (h : catalog.HasValidReferences) (hkind : kind ∈ catalog.kinds) :
    catalog.checkKind kind = .ok () := by
  have hbase : catalog.checkBase kind = .ok () := by
    rw [checkBase]
    cases hname : kind.base with
    | none =>
        by_contra hroot
        have hroot : kind.name ≠ rootName := by simpa using hroot
        obtain ⟨base, -, hof, -⟩ := h.base kind hkind hroot
        exact absurd (hof.symm.trans hname) (Option.some_ne_none _)
    | some name =>
        obtain ⟨base, hfound, -, hisBase⟩ := h.exists_baseKind? hkind hname
        simp [hfound, hisBase]
  have hreferences : (kind.references.find? fun type => !catalog.resolves type) = none := by
    rw [List.find?_eq_none]
    intro type htype
    simp [h.references kind hkind type htype]
  rw [checkKind, hbase, hreferences]
  rfl

/-- Only the chains of bases are left to check. -/
lemma check_eq_checkChains (h : catalog.HasValidReferences) :
    catalog.check = catalog.checkChains := by
  have hdistinct : catalog.checkDistinct = .ok () := by
    rw [checkDistinct, firstRepeated_eq_none h.distinct (by simp)]
  have hroot : catalog.checkRoot = .ok () := by
    obtain ⟨root, hroot, hname, hbase, hisBase⟩ := h.root
    have hfound := h.distinct.kind?_eq_some hroot
    rw [hname] at hfound
    simp [checkRoot, hfound, NodeKind.isRoot, hbase, hisBase]
  have hkinds := forM_eq_ok_iff.mpr fun kind hkind => h.checkKind_eq_ok hkind
  rw [check, hdistinct, hroot, hkinds]
  rfl

lemma exists_baseAt?_of_reflTransGen (h : catalog.HasValidReferences) {name ancestor : String}
    (hderives : ReflTransGen catalog.DerivesFrom name ancestor) :
    ∀ {kind : NodeKind}, kind ∈ catalog.kinds → kind.name = name →
      ∃ steps found, catalog.baseAt? steps kind = some found ∧ found.name = ancestor := by
  induction hderives using ReflTransGen.head_induction_on with
  | refl =>
      intro kind _ hname
      exact ⟨0, kind, rfl, hname⟩
  | head hbase _ ih =>
      intro kind hkind hname
      obtain ⟨other, hother, hsame, hof⟩ := hbase
      obtain rfl := h.distinct.eq_of_name_eq hkind hother (hname.trans hsame.symm)
      obtain ⟨base, hlookup, hbase, -⟩ := h.exists_baseKind? hkind hof
      obtain ⟨hmem, hname⟩ := mem_and_name_of_kind? hlookup
      obtain ⟨steps, found, hfound, hancestor⟩ := ih hmem hname
      exact ⟨steps + 1, found, (baseAt?_succ hbase steps).trans hfound, hancestor⟩

/-- Only the root has no base to go on to. -/
lemma endsAtRoot (h : catalog.HasValidReferences) (hkind : kind ∈ catalog.kinds)
    (hend : ¬ catalog.IsEndless kind) : catalog.EndsAtRoot kind := by
  obtain ⟨bound, hbound⟩ := not_forall.mp hend
  obtain ⟨steps, last, hlast, hnone⟩ := exists_last (Option.not_isSome_iff_eq_none.mp hbound)
  have hmem := mem_of_baseAt? hkind hlast
  have hbase : last.base = none := by
    by_contra hsome
    obtain ⟨name, hname⟩ := Option.ne_none_iff_exists'.mp hsome
    obtain ⟨base, -, hbase, -⟩ := h.exists_baseKind? hmem hname
    exact absurd (hbase.symm.trans hnone) (Option.some_ne_none base)
  refine ⟨steps, last, hlast, ?_, hbase⟩
  by_contra hroot
  obtain ⟨base, -, hof, -⟩ := h.base last hmem hroot
  exact absurd (hof.symm.trans hbase) (Option.some_ne_none _)

end HasValidReferences

/-! ## The verdict -/

/-- The chain is not longer than the list of kinds if it ends at all. -/
lemma baseAt?_length_eq_none (hkind : kind ∈ catalog.kinds) (hend : ¬ catalog.IsEndless kind) :
    catalog.baseAt? catalog.kinds.length kind = none := by
  rw [← hasCircularBases_iff hkind, hasCircularBases_iff_isSome] at hend
  exact Option.not_isSome_iff_eq_none.mp hend

/-- **Where chains end, the climb does and finds what `isSubkind` says.** -/
theorem climb_eq_isSubkind (hends : ∀ kind ∈ catalog.kinds, ¬ catalog.IsEndless kind)
    (name ancestor : String) : catalog.climb ancestor (catalog.kind? name)
      = Part.some (catalog.isSubkind name ancestor) := by
  rw [isSubkind]
  cases hfound : catalog.kind? name with
  | none => exact climb_none ancestor
  | some kind =>
      have hkind := (mem_and_name_of_kind? hfound).1
      exact climb_eq_any (baseAt?_length_eq_none hkind (hends kind hkind))

lemma isSubkind_iff (h : catalog.HasValidReferences)
    (hends : ∀ kind ∈ catalog.kinds, ¬ catalog.IsEndless kind) (name ancestor : String) :
    catalog.isSubkind name ancestor = true ↔ (∃ kind ∈ catalog.kinds, kind.name = name)
      ∧ ReflTransGen catalog.DerivesFrom name ancestor := by
  constructor
  · intro hsubkind
    rw [isSubkind] at hsubkind
    split at hsubkind
    · next kind hlookup =>
        obtain ⟨hkind, rfl⟩ := mem_and_name_of_kind? hlookup
        obtain ⟨found, hmem, hname⟩ := List.any_eq_true.mp hsubkind
        obtain rfl : found.name = ancestor := by simpa using hname
        obtain ⟨steps, -, hfound⟩ := mem_chainWithin_iff.mp hmem
        exact ⟨⟨kind, hkind, rfl⟩, reflTransGen_of_baseAt? hkind hfound⟩
    · exact absurd hsubkind Bool.false_ne_true
  · rintro ⟨⟨kind, hkind, rfl⟩, hderives⟩
    obtain ⟨steps, found, hfound, hname⟩ := h.exists_baseAt?_of_reflTransGen hderives hkind rfl
    have hlt : steps < catalog.kinds.length := by
      by_contra hge
      have hsome := isSome_baseAt?_of_le (Nat.le_of_not_lt hge) (by rw [hfound]; rfl)
      rw [baseAt?_length_eq_none hkind (hends kind hkind)] at hsome
      exact absurd hsome Bool.false_ne_true
    rw [isSubkind, h.distinct.kind?_eq_some hkind]
    exact List.any_eq_true.mpr
      ⟨found, mem_chainWithin_iff.mpr ⟨steps, hlt, hfound⟩, by simpa using hname⟩

/-- The first chain that never ends is the one to blame. -/
lemma find?_hasCircularBases_iff :
    catalog.kinds.find? catalog.hasCircularBases = some kind
      ↔ IsFirst catalog.IsEndless catalog.kinds kind := by
  rw [List.find?_eq_some_iff_append, IsFirst]
  constructor
  · rintro ⟨hkind, before, after, hkinds, hbefore⟩
    refine ⟨(hasCircularBases_iff (by simp [hkinds])).mp hkind, before, after, hkinds, ?_⟩
    intro other hother
    rw [← hasCircularBases_iff (by simp [hkinds, hother])]
    simpa using hbefore other hother
  · rintro ⟨hkind, before, after, hkinds, hbefore⟩
    refine ⟨(hasCircularBases_iff (by simp [hkinds])).mpr hkind, before, after, hkinds, ?_⟩
    intro other hother
    have hother' := hbefore other hother
    rw [← hasCircularBases_iff (by simp [hkinds, hother])] at hother'
    simpa using hother'

lemma checkChains_eq_error_iff {name : String} : catalog.checkChains = .error (.baseCycle name)
    ↔ ∃ kind, IsFirst catalog.IsEndless catalog.kinds kind ∧ kind.name = name := by
  simp only [← find?_hasCircularBases_iff, checkChains]
  cases catalog.kinds.find? catalog.hasCircularBases with
  | none => simp
  | some kind => simp

lemma checkChains_eq_ok_iff : catalog.checkChains = .ok ()
    ↔ ∀ kind ∈ catalog.kinds, ¬ catalog.IsEndless kind := by
  have hnone : catalog.kinds.find? catalog.hasCircularBases = none
      ↔ ∀ kind ∈ catalog.kinds, ¬ catalog.IsEndless kind := by
    rw [List.find?_eq_none]
    exact forall₂_congr fun kind hkind => by rw [hasCircularBases_iff hkind]
  rw [← hnone, checkChains]
  cases catalog.kinds.find? catalog.hasCircularBases with
  | none => simp
  | some kind => simp

/-- **The check of a catalog with valid references blames the first kind whose bases go on for ever,
and nothing else.**  Without one every chain ends at the root, and the climb from any name to any
other has an answer: whether the first is declared, and the second is the same or one of its bases,
however far up. -/
theorem check_chains (h : catalog.HasValidReferences) :
    ((∃ name, catalog.check = .error (.baseCycle name))
        ↔ ∃ kind ∈ catalog.kinds, catalog.IsEndless kind)
      ∧ (∀ name, catalog.check = .error (.baseCycle name)
        ↔ ∃ kind, IsFirst catalog.IsEndless catalog.kinds kind ∧ kind.name = name)
      ∧ ((∀ name, catalog.check ≠ .error (.baseCycle name)) →
        catalog.check = .ok ()
          ∧ (∀ kind ∈ catalog.kinds, catalog.EndsAtRoot kind)
          ∧ ∀ name ancestor,
            catalog.climb ancestor (catalog.kind? name)
                = Part.some (catalog.isSubkind name ancestor)
              ∧ (catalog.isSubkind name ancestor = true
                ↔ (∃ kind ∈ catalog.kinds, kind.name = name)
                  ∧ ReflTransGen catalog.DerivesFrom name ancestor)) := by
  rw [h.check_eq_checkChains]
  have hcases : (∃ name, catalog.checkChains = .error (.baseCycle name))
      ∨ catalog.checkChains = .ok () := by
    rw [checkChains]
    split
    · next kind _ => exact Or.inl ⟨kind.name, rfl⟩
    · exact Or.inr rfl
  refine ⟨⟨?_, ?_⟩, fun name => checkChains_eq_error_iff, ?_⟩
  · rintro ⟨name, hname⟩
    obtain ⟨kind, hfirst, -⟩ := checkChains_eq_error_iff.mp hname
    exact ⟨kind, hfirst.mem, hfirst.1⟩
  · rintro ⟨kind, hkind, hendless⟩
    refine hcases.resolve_right ?_
    intro hok
    exact checkChains_eq_ok_iff.mp hok kind hkind hendless
  · intro hnone
    have hok := hcases.resolve_left (not_exists.mpr hnone)
    have hends := checkChains_eq_ok_iff.mp hok
    refine ⟨hok, fun kind hkind => h.endsAtRoot hkind (hends kind hkind), ?_⟩
    intro name ancestor
    exact ⟨climb_eq_isSubkind hends name ancestor, isSubkind_iff h hends name ancestor⟩

/-- Two bases that derive from each other, next to a root and a kind that refers to it. -/
def circle : Catalog where
  tokens := []
  kinds := [⟨"Syntax", none, "", .base⟩,
    ⟨"Callable", some "Invocable", "", .base⟩,
    ⟨"Invocable", some "Callable", "", .base⟩,
    ⟨"Holder", some "Syntax", "", .concrete [{ name := "Item", type := .node "Syntax" }]⟩]

/-- A single chain of bases, which has all the kinds there are. -/
def ladder : Catalog where
  tokens := []
  kinds := [⟨"TupleExpr", some "Expr", "", .collection (.node "Expr") false⟩,
    ⟨"Expr", some "Syntax", "", .base⟩,
    ⟨"Syntax", none, "", .base⟩]

/-- The circle is found and its first kind named, and the longest chain there can be is none. -/
theorem check_circle_and_ladder :
    circle.HasValidReferences
      ∧ (∃ kind, IsFirst circle.IsEndless circle.kinds kind ∧ kind.name = "Callable")
      ∧ ladder.HasValidReferences
      ∧ (∀ kind ∈ ladder.kinds, ladder.EndsAtRoot kind)
      ∧ ReflTransGen ladder.DerivesFrom "TupleExpr" "Syntax"
      ∧ ladder.climb "Syntax" (ladder.kind? "TupleExpr") = Part.some true := by
  have hcircle : circle.HasValidReferences := by constructor <;> decide
  have hladder : ladder.HasValidReferences := by constructor <;> decide
  have hsubkind : ladder.isSubkind "TupleExpr" "Syntax" = true := by decide
  have hok : ladder.check = .ok () := by decide
  obtain ⟨-, hroot, hclimb⟩ := (check_chains hladder).2.2 (by simp [hok])
  obtain ⟨hsome, hderives⟩ := hclimb "TupleExpr" "Syntax"
  exact ⟨hcircle, ((check_chains hcircle).2.1 "Callable").mp (by decide), hladder, hroot,
    (hderives.mp hsubkind).2, by rw [hsome, hsubkind]⟩

end Catalog

end SyntaxForge
