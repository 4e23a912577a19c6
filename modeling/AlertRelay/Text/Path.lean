/-!
# Paths as they are written

Joining adds one slash unless the left side is empty or ends in one, and a right side that
starts at the root stands alone. Nothing is normalised.
-/
namespace AlertRelay.Text

def joinPath (base tail : String) : String :=
  if tail.toList.head? = some '/' then tail
  else if base.toList = [] || base.toList.getLast? = some '/' then base ++ tail
  else base ++ "/" ++ tail

end AlertRelay.Text
