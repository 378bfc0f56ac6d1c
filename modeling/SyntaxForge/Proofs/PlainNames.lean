import SyntaxForge.Proofs.GeneratedFiles

/-!
# Plain identifiers

An identifier without backticks stays one if another is written behind it.  Names of generated types
come about this way, from the name of a kind and from words of the generated code.

* `Identifier.IsPlain.append`, `Identifier.IsPlain.lowerCamel`: **what names are put together by**.
* `NameUse.checkAll_append_iff` and its like: names are checked part by part.
* `SwiftType.isPlain_buildable` and its like: a type with a plain name has plain names only; the
  question mark of an optional type is no part of them.
-/

namespace SyntaxForge

/-! ## Plain identifiers -/

namespace Identifier

/-- The text is an identifier without backticks. -/
def IsPlain (text : String) : Prop := isPlain text.toList = true

instance : DecidablePred IsPlain := fun text =>
  inferInstanceAs (Decidable (isPlain text.toList = true))

lemma isPlain_iff {text : String} :
    IsPlain text ↔ ∃ first rest, text.toList = first :: rest ∧ isStart first = true
      ∧ rest.all isPart = true := by
  rw [IsPlain]
  cases text.toList with
  | nil => simp [isPlain]
  | cons first rest => simp [isPlain]

lemma IsPlain.append {front back : String} (hfront : IsPlain front) (hback : IsPlain back) :
    IsPlain (front ++ back) := by
  obtain ⟨first, rest, hfirst, hstart, hrest⟩ := isPlain_iff.mp hfront
  obtain ⟨next, others, hnext, hnextStart, hothers⟩ := isPlain_iff.mp hback
  refine isPlain_iff.mpr ⟨first, rest ++ next :: others, ?_, hstart, ?_⟩
  · rw [String.toList_append, hfirst, hnext, List.cons_append]
  · rw [List.all_append, List.all_cons, hrest, isPart_of_isStart hnextStart, hothers]
    rfl

/-- The only letters that change are those from `A` to `Z`. -/
lemma isStart_toLower {c : Char} (h : isStart c = true) : isStart c.toLower = true := by
  have hletters : ∀ n ∈ List.range' 65 26, isStart (Char.ofNat n).toLower = true := by
    decide
  cases hupper : c.isUpper with
  | false => rwa [Text.toLower_eq_self hupper]
  | true =>
      have hbounds := Text.isUpper_iff.mp hupper
      have hstart := hletters c.toNat (by rw [List.mem_range'_1]; omega)
      rwa [Char.ofNat_toNat] at hstart

lemma IsPlain.lowerCamel {name : String} (h : IsPlain name) : IsPlain (Text.lowerCamel name) := by
  obtain ⟨first, rest, hname, hstart, hrest⟩ := isPlain_iff.mp h
  refine isPlain_iff.mpr ⟨first.toLower, rest, ?_, isStart_toLower hstart, hrest⟩
  rw [Text.lowerCamel, hname, String.toList_ofList]
  rfl

lemma IsPlain.isIdentifier {text : String} (h : IsPlain text) :
    isIdentifier text.toList = true := by
  obtain ⟨first, rest, htext, hstart, _⟩ := isPlain_iff.mp h
  rw [Identifier.isIdentifier]
  split
  · next inner hinner =>
      obtain ⟨tail, htail, _⟩ := Option.bind_eq_some_iff.mp hinner
      have hquote := Text.stripStart?_eq_some_iff.mp htail
      rw [htext, List.singleton_append, List.cons.injEq] at hquote
      have hnot : isStart '\x60' = false := by decide
      rw [hquote.1, hnot] at hstart
      exact absurd hstart Bool.false_ne_true
  · exact h

end Identifier

open Identifier

/-! ## Checked names -/

namespace Code

namespace NameUse

variable {use : NameUse} {uses others : List NameUse} {text : String}

/-- The name may stand where it does. -/
def IsValid (use : NameUse) : Prop := ∃ token, use.token = .ok token

lemma checkAll_iff : checkAll uses = .ok () ↔ ∀ use ∈ uses, use.IsValid := by
  simp only [checkAll, forM_eq_ok_iff, bind_eq_ok_iff, pure_eq_ok_iff, IsValid, and_true]

@[simp] lemma checkAll_nil : checkAll [] = .ok () := rfl

@[simp] lemma checkAll_cons_iff :
    checkAll (use :: uses) = .ok () ↔ use.IsValid ∧ checkAll uses = .ok () := by
  rw [checkAll_iff, checkAll_iff, List.forall_mem_cons]

@[simp] lemma checkAll_append_iff :
    checkAll (uses ++ others) = .ok () ↔ checkAll uses = .ok () ∧ checkAll others = .ok () := by
  rw [checkAll_iff, checkAll_iff, checkAll_iff, List.forall_mem_append]

lemma checkAll_flatMap_iff {α : Type} {list : List α} {f : α → List NameUse} :
    checkAll (list.flatMap f) = .ok () ↔ ∀ a ∈ list, checkAll (f a) = .ok () := by
  simp only [checkAll_iff, List.mem_flatMap]
  exact ⟨fun h a ha use huse => h use ⟨a, ha, huse⟩, fun h use ⟨a, ha, huse⟩ => h a ha use huse⟩

lemma isValid_declared (h : IsPlain text) : (declared text).IsValid := by
  rw [IsValid, token, Token.identifier, if_pos h.isIdentifier]
  exact ⟨_, rfl⟩

/-- A plain identifier does not start with a dollar sign. -/
lemma isValid_operand (h : IsPlain text) : (operand text).IsValid := by
  obtain ⟨first, rest, htext, hstart, _⟩ := isPlain_iff.mp h
  have hdollar : text.toList.head? ≠ some '$' := by
    intro hhead
    rw [htext, List.head?_cons, Option.some.injEq] at hhead
    have hnot : isStart '$' = false := by decide
    rw [hhead, hnot] at hstart
    exact Bool.false_ne_true hstart
  rw [IsValid, token, Shorthand.exprName, if_neg hdollar]
  exact isValid_declared h

end NameUse

lemma checkAll_ofText_append {text : String} (h : IsPlain text) (isOptional : Bool) :
    NameUse.checkAll (TypeExpr.ofText (text ++ if isOptional then "?" else "")).names = .ok () := by
  have hmark : '?' ∉ text.toList := by
    intro hmem
    have hpart := isPart_of_mem (by decide) h.isIdentifier hmem
    revert hpart
    decide
  rw [TypeExpr.names_ofText_append, TypeExpr.names_ofText hmark]
  simpa using NameUse.isValid_declared h

lemma checkAll_ofText {text : String} (h : IsPlain text) :
    NameUse.checkAll (TypeExpr.ofText text).names = .ok () := by
  simpa using checkAll_ofText_append h false

end Code

open Code

/-! ## Names of types -/

/-- The words of generated code, and those that names of generated types are put together from. -/
abbrev Generate.words : List String :=
  ["self", "format", "leadingTrivia", "elements", "result", "Trivia", "withLeadingTrivia",
   "addingSpacingAfterNewlinesIfNeeded", "combinedLeadingTrivia", "SyntaxFactory", "Format", "map",
   "flatMap", "lists", "newline", "_makeIndent", "_indented", "space", "token", "combining",
   "arrayLiteral", "init", "Array", "Element", "ExpressibleByArrayLiteral", "TokenSyntax", "Token",
   "IdentifierToken", "Syntax", "Buildable", "ListBuildable", "ExpressibleAs", "List", "Keyword",
   "create", "build", "make"]

lemma Generate.isPlain_of_mem_words : ∀ {word : String}, word ∈ words → IsPlain word := by
  decide +kernel

namespace SwiftType

open Generate

variable {type : SwiftType}

/-! A type has a plain name if it is a token, or if its kind has one. -/

section Names

variable (h : IsPlain type.baseName)

include h

lemma isPlain_buildableBaseName : IsPlain type.buildableBaseName := by
  have hbuildable : IsPlain "Buildable" := isPlain_of_mem_words (by simp)
  have htoken : IsPlain "TokenSyntax" := isPlain_of_mem_words (by simp)
  rw [baseName] at h
  rw [buildableBaseName]
  cases hflavor : type.flavor with
  | root =>
      rw [hflavor] at h
      exact h.append hbuildable
  | base =>
      rw [hflavor] at h
      exact h.append hbuildable
  | node =>
      rw [hflavor] at h
      exact h
  | token isIdentifier => exact htoken

lemma isPlain_treeName (hmark : type.isOptional = false) : IsPlain type.treeName := by
  have hsyntax : IsPlain "Syntax" := isPlain_of_mem_words (by simp)
  have htoken : IsPlain "TokenSyntax" := isPlain_of_mem_words (by simp)
  have hempty : type.mark = "" := by rw [mark, hmark]; rfl
  rw [baseName] at h
  rw [treeName, hempty]
  cases hflavor : type.flavor with
  | root => exact hsyntax
  | base =>
      rw [hflavor] at h
      simpa using h.append hsyntax
  | node =>
      rw [hflavor] at h
      simpa using h.append hsyntax
  | token isIdentifier => exact htoken

lemma isPlain_listBuildable : IsPlain type.listBuildable :=
  h.append (isPlain_of_mem_words (by simp))

lemma isPlain_createMethod : IsPlain type.createMethod :=
  (isPlain_of_mem_words (by simp)).append (isPlain_buildableBaseName h)

lemma isPlain_buildMethod : IsPlain type.buildMethod :=
  (isPlain_of_mem_words (by simp)).append h

lemma isPlain_buildable (hmark : type.isOptional = false) : IsPlain type.buildable := by
  rw [buildable, mark, hmark]
  simpa using isPlain_buildableBaseName h

lemma isPlain_expressibleAs (hmark : type.isOptional = false) : IsPlain type.expressibleAs := by
  rw [expressibleAs]
  split
  · exact isPlain_buildable h hmark
  · rw [mark, hmark]
    simpa using (isPlain_of_mem_words (by simp : "ExpressibleAs" ∈ words)).append
      (isPlain_buildableBaseName h)

lemma checkAll_buildable : NameUse.checkAll (TypeExpr.ofText type.buildable).names = .ok () :=
  checkAll_ofText_append (isPlain_buildableBaseName h) type.isOptional

lemma checkAll_expressibleAs :
    NameUse.checkAll (TypeExpr.ofText type.expressibleAs).names = .ok () := by
  rw [expressibleAs]
  split
  · exact checkAll_buildable h
  · exact checkAll_ofText_append
      ((isPlain_of_mem_words (by simp)).append (isPlain_buildableBaseName h)) type.isOptional

lemma checkAll_parameterName :
    NameUse.checkAll (TypeExpr.ofText type.parameterName).names = .ok () := by
  rw [parameterName]
  split
  · exact checkAll_ofText_append (isPlain_of_mem_words (by simp)) type.isOptional
  all_goals exact checkAll_expressibleAs h

end Names

end SwiftType

end SyntaxForge
