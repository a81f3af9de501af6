import Mathlib.Data.List.Infix

/-! Values written one after another, each after its mark. A mark starts with a bar and has no
other, but the values are arbitrary: when can they be read off the text again? -/
namespace Marked
open List

section
variable {α : Type*} {bar : α} {mark mark' left left' rest rest' : List α}

end

section
variable {α : Type*} {bar : α}
variable {front : List α} {marks values values' : List (List α)}

end

end Marked
