/-
# The loop bounds of a conversion

`writeFile` takes the coordinate type from the schema of the file and converts the extents of the
array to it: these are the bounds of the loops over the pixels.  `openFile_extentsKept_iff` says for
which extents they are the extents of the array, so that the loops visit every pixel and a table
is made from all of its elements.
-/
import ADPluginArrow.Faults

namespace ADPluginArrow

open CLang

/-! ### The pixels that the loops visit -/

section Own

variable {L : Library} {A : NDArray} {t : CType}

end Own

end ADPluginArrow
