import PoolCheck.Script.Program.Making
import PoolCheck.Script.Program.Moving
import PoolCheck.Script.Program.Printing
import PoolCheck.Script.Program.Removing
import PoolCheck.Script.Program.Showing
import PoolCheck.Script.Program.Testing
import PoolCheck.Script.Program.Texts

/-!
# Programs by name
-/

set_option autoImplicit false

namespace PoolCheck.Script.Program

def all : List (String × Program) :=
  [("true", truth), ("false", falsehood), ("echo", echo), ("printf", printf), ("cat", cat),
    ("cp", cp), ("mv", mv), ("rm", rm), ("touch", touch), ("mkdir", mkdir), ("rmdir", rmdir),
    ("chmod", chmod), ("basename", basename), ("dirname", dirname), ("pwd", pwd),
    ("sleep", sleep), ("test", test), ("[", bracket)]

def named? (name : String) : Option Program := all.lookup name

def homes : List Location := [["bin"], ["usr", "bin"]]

def shells : List String := ["sh", "dash"]

end PoolCheck.Script.Program
