import RowFactory.Code.Printer
import RowFactory.Code.Validity
import RowFactory.Error

/-! # Texts of generated files -/

namespace RowFactory.Code

def generatedHeader : String := "// @generated by rowsmith. Do not edit by hand."

/-- The text of a file; a tree that does not read back has none. -/
def renderFile (unit : String) (items : List Item) : Except Error String :=
  if Item.allNamed items && Item.allRead items then
    .ok (generatedHeader ++ "\n\n" ++ Layout.layOut (Item.piecesOfAll items))
  else .error (.render unit "generated code does not parse")

end RowFactory.Code
