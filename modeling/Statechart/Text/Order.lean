/-!
# The order of texts

Texts are ordered by the code points of their characters.
-/

set_option autoImplicit false
set_option relaxedAutoImplicit false

namespace Statechart.Text

/-- Texts in order; of equal ones each is kept. -/
def sorted (texts : List String) : List String := texts.mergeSort fun a b ↦ a ≤ b

end Statechart.Text
