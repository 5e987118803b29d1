import SurfaceDiff.Command.Arguments
import SurfaceDiff.Command.Run
import SurfaceDiff.Settings.Load
import SurfaceDiff.Terminal.Plain

/-!
Contract: libraries that the command can run with, written out.

They leave out colours and emoji names on the terminal, and the decompressors of bzip2 and LZMA.
-/

namespace SurfaceDiff.Command

def Libraries.plain : Libraries where
  parse := Arguments.parse
  loadSettings := Settings.loader
  terminal := .plain
  errorTerminal := .plain
  platform := {}

end SurfaceDiff.Command
