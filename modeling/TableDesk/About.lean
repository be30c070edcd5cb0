/-!
The name and the version of the program.
-/

namespace TableDesk.About

/-- The name of the program, also of its folders and of its log. -/
def name : String := "ao-admin-tui"

def version : String := "0.1.0"

end TableDesk.About
