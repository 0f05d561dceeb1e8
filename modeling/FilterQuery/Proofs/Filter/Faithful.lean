import FilterQuery.Filter.Clause
import Mathlib.Data.List.Forall2

/-!
# Compiled queries told apart by their backend queries

JSON values are the same if they differ in the order of object members alone. Two compiled queries
whose backend queries are the same are equal: an open end of a range is told from an inclusive bound
by its null, the two kinds of boolean nodes by the members they have, and nothing else is left out.
-/

namespace FilterQuery

namespace Json

/-- The same JSON value: arrays agree item by item, and objects have the same value under every
name, in whatever order their members are listed. -/
inductive Same : Json → Json → Prop
  | null : Same .null .null
  | bool (value : Bool) : Same (.bool value) (.bool value)
  | num (value : Nat) : Same (.num value) (.num value)
  | str (value : String) : Same (.str value) (.str value)
  | arr {items others : List Json} (hitems : List.Forall₂ Same items others) :
      Same (.arr items) (.arr others)
  | obj {fields others : List (String × Json)}
      (hvalues : ∀ name, Option.Rel Same (fields.lookup name) (others.lookup name)) :
      Same (.obj fields) (.obj others)

mutual

theorem Same.refl (value : Json) : value.Same value := by
  match value with
  | .null => exact .null
  | .bool value => exact .bool value
  | .num value => exact .num value
  | .str value => exact .str value
  | .arr items => exact .arr (forall₂_same_refl items)
  | .obj fields => exact .obj (rel_same_refl fields)

theorem forall₂_same_refl (items : List Json) : List.Forall₂ Same items items := by
  match items with
  | [] => exact .nil
  | item :: rest => exact .cons (Same.refl item) (forall₂_same_refl rest)

theorem rel_same_refl (fields : List (String × Json)) (name : String) :
    Option.Rel Same (fields.lookup name) (fields.lookup name) := by
  match fields with
  | [] => exact .none
  | (other, value) :: rest =>
    rw [List.lookup_cons]
    split
    · exact .some (Same.refl value)
    · exact rel_same_refl rest name

end

variable {name other : String} {value found : Json} {fields others : List (String × Json)}

/-- What two same objects have under a name is the same. -/
theorem Same.at (hsame : Same (.obj fields) (.obj others)) (name : String)
    (hvalue : fields.lookup name = some value) (hfound : others.lookup name = some found) :
    value.Same found := by
  cases hsame with
  | obj hvalues =>
    have hmember := hvalues name
    rw [hvalue, hfound] at hmember
    cases hmember with
    | some hsame => exact hsame

theorem Same.lookup_ne_none (hsame : Same (.obj fields) (.obj others)) (name : String)
    (hvalue : fields.lookup name = some value) : others.lookup name ≠ none := by
  cases hsame with
  | obj hvalues =>
    intro hnone
    have hmember := hvalues name
    rw [hvalue, hnone] at hmember
    cases hmember

/-- Same objects with one member each have it under the same name. -/
theorem Same.single (hsame : Same (.obj [(name, value)]) (.obj [(other, found)])) :
    name = other ∧ value.Same found := by
  by_cases hname : name = other
  · subst hname
    exact ⟨rfl, hsame.at name List.lookup_cons_self List.lookup_cons_self⟩
  · have hmissing : [(other, found)].lookup name = none := by
      simp [List.lookup_eq_none_iff, hname]
    exact absurd hmissing (hsame.lookup_ne_none name List.lookup_cons_self)

theorem Same.items {items others : List Json} (hsame : Same (.arr items) (.arr others)) :
    List.Forall₂ Same items others := by
  cases hsame with
  | arr hitems => exact hitems

end Json

open Json (Same)

/-! ## Filters -/

namespace Filter

/-- A bound and an open end differ in their values, two bounds in their values or flags. -/
theorem bound_eq_of_same {left right : Option Bound}
    (hvalue : (boundValue left).Same (boundValue right))
    (hinclusive : (boundInclusive left).Same (boundInclusive right)) : left = right := by
  cases left with
  | none =>
    cases right with
    | none => rfl
    | some bound => cases hvalue
  | some bound =>
    cases right with
    | none => cases hvalue
    | some other =>
      obtain ⟨value, inclusive⟩ := bound
      obtain ⟨otherValue, otherInclusive⟩ := other
      cases hvalue
      cases hinclusive
      rfl

theorem eq_of_same {left right : Filter} (hsame : left.toJson.Same right.toJson) :
    left = right := by
  cases left with
  | range field lower upper =>
    cases right with
    | range otherField otherLower otherUpper =>
      obtain ⟨rfl, hbody⟩ := hsame.single.2.single
      have hlower : lower = otherLower :=
        bound_eq_of_same (hbody.at "from" rfl rfl) (hbody.at "include_lower" rfl rfl)
      have hupper : upper = otherUpper :=
        bound_eq_of_same (hbody.at "to" rfl rfl) (hbody.at "include_upper" rfl rfl)
      rw [hlower, hupper]
    | term otherField value => exact absurd hsame.single.1 (by decide)
  | term field value =>
    cases right with
    | range otherField lower upper => exact absurd hsame.single.1 (by decide)
    | term otherField otherValue =>
      obtain ⟨rfl, hvalue⟩ := hsame.single.2.single
      cases hvalue
      rfl

theorem exists_toJson_eq (filter : Filter) :
    ∃ kind body, filter.toJson = .obj [(kind, body)] ∧ kind ≠ "bool" := by
  cases filter with
  | range field lower upper => exact ⟨"range", _, rfl, by decide⟩
  | term field value => exact ⟨"term", _, rfl, by decide⟩

end Filter

/-! ## Clauses -/

namespace Clause

theorem not_same_bool (predicate : Filter) (members : Json) :
    ¬ (filter predicate).toJson.Same (.obj [("bool", members)]) ∧
      ¬ (Json.obj [("bool", members)]).Same (filter predicate).toJson := by
  obtain ⟨kind, body, hjson, hkind⟩ := predicate.exists_toJson_eq
  rw [toJson, hjson]
  exact ⟨fun hsame => hkind hsame.single.1, fun hsame => hkind hsame.single.1.symm⟩

mutual

/-- The kind of a clause is told by the members of its backend query, the rest by induction. -/
theorem eq_of_same (left right : Clause) (hsame : left.toJson.Same right.toJson) :
    left = right := by
  match left, right with
  | .filter predicate, .filter other => rw [Filter.eq_of_same hsame]
  | .filter predicate, .all _ => exact absurd hsame (not_same_bool predicate _).1
  | .filter predicate, .any _ _ => exact absurd hsame (not_same_bool predicate _).1
  | .all _, .filter other => exact absurd hsame (not_same_bool other _).2
  | .any _ _, .filter other => exact absurd hsame (not_same_bool other _).2
  | .all _, .any _ _ => exact absurd rfl (hsame.single.2.lookup_ne_none "filter" rfl)
  | .any _ _, .all _ => exact absurd rfl (hsame.single.2.lookup_ne_none "should" rfl)
  | .all clauses, .all others =>
    have hitems := hsame.single.2.at "filter" rfl rfl
    rw [eq_of_forall₂_same clauses others hitems.items]
  | .any minimum clauses, .any other others =>
    have hminimum := hsame.single.2.at "minimum_should_match" rfl rfl
    have hitems := hsame.single.2.at "should" rfl rfl
    rw [eq_of_forall₂_same clauses others hitems.items]
    cases hminimum
    rfl

theorem eq_of_forall₂_same (left right : List Clause)
    (hsame : List.Forall₂ Same (jsonItems left) (jsonItems right)) : left = right := by
  match left, right with
  | [], [] => rfl
  | [], _ :: _ => cases hsame
  | _ :: _, [] => cases hsame
  | clause :: rest, other :: others =>
    obtain ⟨hclause, hrest⟩ := List.forall₂_cons.1 hsame
    rw [eq_of_same clause other hclause, eq_of_forall₂_same rest others hrest]

end

/-- Different compiled queries have different backend queries, even if the order of object members
does not count. -/
theorem toJson_same_iff (left right : Clause) :
    (left.toJson = right.toJson ↔ left = right) ∧
      (left.toJson.Same right.toJson ↔ left = right) := by
  have hsame : left.toJson.Same right.toJson ↔ left = right := by
    constructor
    · exact eq_of_same left right
    · rintro rfl
      exact .refl left.toJson
  refine ⟨⟨fun hjson => hsame.1 ?_, congrArg toJson⟩, hsame⟩
  rw [hjson]
  exact .refl right.toJson

end Clause

end FilterQuery
