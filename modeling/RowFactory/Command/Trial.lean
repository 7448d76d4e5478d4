import RowFactory.Command.Run
import RowFactory.Disk.Tree

/-! # Commands on a model of a disk -/

namespace RowFactory.Command

/-- What a command answers and reports, and the disk it leaves. -/
def runOn (request : Request) (tree : Disk.Tree) : (Except Failure Bool × Report) × Disk.Tree :=
  let reporting : Reporting (StateM Disk.Tree) Bool := run {} request
  (reporting.run.run []).run tree

end RowFactory.Command
