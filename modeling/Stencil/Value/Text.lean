import Stencil.Value.Json

/-!
# Rendered texts of values

What a value contributes to the output of a template.  Scalars show their
plain text, sequences the texts of their items one after the other, mappings
their JSON text.
-/

namespace Stencil

namespace Value

mutual

/-- The text of a value in the output of a template. -/
def render : Value → String
  | .nil => ""
  | .bool true => "true"
  | .bool false => "false"
  | .number numeral => String.ofList (numeral.write .plain)
  | .string text => text
  | .sequence items => renderItems items
  | .mapping entries => String.ofList (json (.mapping entries))
  | .object host => host.text

def renderItems : List Value → String
  | [] => ""
  | item :: items => render item ++ renderItems items

end

/-- The characters of the text of a value. -/
def text (value : Value) : List Char :=
  value.render.toList

@[simp]
theorem text_ofText (text : List Char) : (ofText text).text = text :=
  String.toList_ofList

theorem ofText_inj {first second : List Char} : ofText first = ofText second ↔ first = second := by
  rw [ofText, ofText, string.injEq, String.ofList_inj]

theorem ofText_text (value : Value) : ofText value.text = .string value.render :=
  congrArg string String.ofList_toList

end Value

end Stencil
