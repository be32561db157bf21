import DataStaging.DomainName.Label

/-!
# Domain names in ASCII

A domain name may be written with letters of any script. It is used in ASCII: its characters are
mapped, spelled one way, and each label with other letters is then written in ASCII.
-/

namespace DataStaging.DomainName

/-- The signs that no domain name holds, beside blanks and control characters. -/
def refusedSigns : List Char :=
  ['%', '#', '/', ':', '<', '>', '?', '@', '[', '\\', ']', '^', '|']

/-- Whether a character may not stand in a domain name, though it stands for itself. -/
def isRefused (c : Char) : Bool := c.toNat ≤ 0x20 || c.toNat = 0x7F || refusedSigns.contains c

/-- The domain name in ASCII, if it is valid. -/
def toAscii? (name : List Char) : Option (List Char) := do
  let mapped ← Mapping.mapAll name
  let text := Composition.normal mapped
  if text.any isRefused then none
  else
    let labels := Parts.cutAt '.' text
    let read ← labels.mapM Label.letters
    if read.any (·.any Label.turns) && !read.all Label.runsOneWay then none
    else
      let written ← labels.mapM Label.write
      return Parts.join '.' written

end DataStaging.DomainName
