import Indentation.Builtin

/-!
# Looking up languages

Registering a language hides the one with the same id and leaves the others alone, so of several
languages with one id the last one registered is found.

## Main results

* `Registry.get?_register` — what is found after registering a language
* `Registry.get?_ofList` — what is found among several languages
* `Registry.get?_builtin` — what is found among the built-in languages
* `Registry.ext_get?` — a registry is what is found in it
-/

namespace Indentation.Registry

/-- A language that is registered hides the one with the same id. -/
theorem get?_register (registry : Registry) (language : Language) (id : String) :
    (registry.register language).get? id =
      if language.id = id then some language else registry.get? id := by
  rw [get?, register, Std.ExtTreeMap.getElem?_insert, get?]
  simp only [Std.compare_eq_iff_eq]

theorem get?_foldl_register (registry : Registry) (languages : List Language) (id : String) :
    (languages.foldl register registry).get? id =
      (languages.reverse.find? fun language => language.id = id).or (registry.get? id) := by
  induction languages generalizing registry with
  | nil => rfl
  | cons language languages ih =>
    rw [List.foldl_cons, ih, get?_register, List.reverse_cons, List.find?_append, Option.or_assoc]
    congr 1
    by_cases hid : language.id = id <;> simp [hid]

/-- Of several languages with one id, the last one is found. -/
theorem get?_ofList (languages : List Language) (id : String) :
    (ofList languages).get? id = languages.reverse.find? fun language => language.id = id := by
  have hempty : empty.get? id = none := Std.ExtTreeMap.getElem?_empty
  rw [ofList, get?_foldl_register, hempty, Option.or_none]

theorem get?_builtin (id : String) :
    builtin.get? id = Builtin.languages.reverse.find? fun language => language.id = id :=
  get?_ofList Builtin.languages id

theorem mem_languages_of_get? {id : String} {language : Language}
    (h : builtin.get? id = some language) : language ∈ Builtin.languages ∧ language.id = id := by
  rw [get?_builtin] at h
  have hmem := List.mem_of_find?_eq_some h
  have hid := List.find?_some h
  exact ⟨List.mem_reverse.mp hmem, of_decide_eq_true hid⟩

/-- A registry is what is found in it. -/
theorem ext_get? {registry registry' : Registry}
    (h : ∀ id, registry.get? id = registry'.get? id) : registry = registry' := by
  obtain ⟨languages⟩ := registry
  obtain ⟨languages'⟩ := registry'
  exact congrArg Registry.mk (Std.ExtTreeMap.ext_getElem? h)

theorem grammar_of_get? {registry : Registry} {id : String} {language : Language}
    (h : registry.get? id = some language) : registry.grammar id = language.grammar := by
  rw [grammar, h]
  rfl

theorem get?_builtin_javascript : builtin.get? "javascript" = some Builtin.javascript := by
  rw [get?_builtin]
  rfl

theorem get?_builtin_css : builtin.get? "css" = some Builtin.css := by
  rw [get?_builtin]
  rfl

theorem get?_builtin_html : builtin.get? "html" = some Builtin.html := by
  rw [get?_builtin]
  rfl

end Indentation.Registry
