import CrudPlan.Issue
import CrudPlan.Template.Basic

/-!
# Checked templates

A template of a descriptor may use the identity fields of its resource only.
`Template.checked` is a template or an import format that compiles and does so, or the issues with
it: one if it does not compile, else one for each token that is no identity field.
-/

namespace CrudPlan.Template

/-- The issues with the tokens of a template that are not among `known`. -/
def tokenIssues (resolver field : String) (known : List String) (t : Template) : List Issue :=
  (t.unknownTokens known).map fun token =>
    ⟨.unknownIdentityToken, resolver, field,
      "token '" ++ token ++ "' in '" ++ t.source ++ "' is not an identity field"⟩

/-- What was compiled, if its template uses no other tokens than `known`; its field is named in the
issues. -/
def checked {α : Type} (resolver field : String) (known : List String) (template : α → Template)
    (compiled : Except TemplateError α) : Resolved α :=
  match compiled with
  | .error e => .error [⟨.malformedTemplate, resolver, field, e.message⟩]
  | .ok a =>
    match tokenIssues resolver field known (template a) with
    | [] => .ok a
    | issues => .error issues

end CrudPlan.Template
