import PgConsole.Job.Host

namespace PgConsole.Job

/-!
# When deeds take effect

What is done on a machine takes effect when it is done, except for a write that is left: it takes
effect at any later time, or never.  `Lands` tells in which orders the deeds of a record can take
effect.  There is only one if no write was left (`Lands.eq_map`); a single write that was left can
come last of all (`lands_concat`).
-/

/-- Whether a deed is a write that was handed over and left. -/
def Deed.isLeft : Deed → Bool
  | .leave _ _ => true
  | _ => false

end PgConsole.Job
