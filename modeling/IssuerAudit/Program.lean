/-!
What the program calls itself.
-/

namespace IssuerAudit.Program

/-- The name of the program, under which its files stand. -/
def name : String := "sigcheck"

def version : String := "0.1.0"

end IssuerAudit.Program
