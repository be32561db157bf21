/-!
# Commands

A program, its arguments and the variables set for it.
-/

namespace DataStaging

/-- What is started: a program with arguments and extra variables. -/
structure Command where
  program : String
  args : List String
  env : List (String × String)
deriving DecidableEq, Repr

namespace Command

def ofProgram (program : String) : Command := ⟨program, [], []⟩

def withArg (c : Command) (arg : String) : Command := { c with args := c.args ++ [arg] }

def withArgs (c : Command) (args : List String) : Command := { c with args := c.args ++ args }

def withEnv (c : Command) (key value : String) : Command :=
  { c with env := c.env ++ [(key, value)] }

/-- The program and its arguments, one blank apart. Variables may be secret and are left out. -/
def display (c : Command) : String := " ".intercalate (c.program :: c.args)

/-- Whether a text holds a NUL character. -/
def hasNul (s : String) : Bool := s.toList.any (fun c => c.toNat = 0)

/-- Whether some part of the command holds a NUL character, so that it cannot be started. -/
def isUnstartable (c : Command) : Bool :=
  hasNul c.program || c.args.any hasNul || c.env.any (fun p => hasNul p.1 || hasNul p.2)

end Command

end DataStaging
