import Mathlib.Data.List.Forall2
import PermissionNames.Proofs.PermissionName

/-! A transformation gives every slot its name for itself, keeps all else, and is not done twice. -/

namespace PermissionNames

namespace Container

variable {container other : Container} {requested used otherUsed : String} {algorithm : Algorithm}

/-- A name that leads to an accepted algorithm is looked up as that algorithm, if names are obfuscated. -/
theorem Reaches.known (accepted : Algorithm.select requested = .ok algorithm)
    (reaches : container.Reaches requested used algorithm) :
    container.effectiveFlags.obfuscate → Algorithm.lookUp used = .ok algorithm := by
  -- The option counts exactly if the container grants it, and a normalized name is always found.
  intro needed
  rw [effectiveFlags_eq] at needed
  rcases reaches needed with normalized | found
  · rw [normalized, Algorithm.lookUp_of_select accepted]
  · exact found

end Container

end PermissionNames
