/-
# Listing.Distribution -- files by extension and by directory
-/
import LineCensus.Listing.ListedFile
import LineCensus.Listing.Tally

set_option autoImplicit false

namespace LineCensus

/-- The key of files without an extension. -/
def noExtension : String := "no_extension"

namespace ListedFile

def extensionKey (file : ListedFile) : String :=
  if file.extension.isEmpty then noExtension else file.extension

end ListedFile

/-- Files by extension, in the order in which extensions are first seen. -/
def extensionCounts (files : List ListedFile) : Tally :=
  Tally.ofKeys (files.map ListedFile.extensionKey)

/-- Files by directory, the fullest first. -/
def directoryCounts (files : List ListedFile) : Tally :=
  (Tally.ofKeys (files.map (·.directory))).byCount

end LineCensus
