/-!
# Causeway.Text.Joined

Texts one after another with a separator between them.
-/

namespace Causeway

def joined (separator : String) : List String → String
  | [] => ""
  | [s] => s
  | s :: t :: rest => s ++ separator ++ joined separator (t :: rest)

end Causeway
