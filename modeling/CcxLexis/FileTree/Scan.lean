import CcxLexis.FileTree
import CcxLexis.Scanner.Stream

/-!
# Scanning a file

A file is opened, scanned to its end and closed.  A file that cannot be opened reports nothing.
A read that fails on the way is reported once the rest has been scanned, and then the tokens are
not handed out.
-/

namespace CcxLexis

/-- The tokens of a file, the report of its end last, given how files are opened. -/
def scanFile (openFile : String → Except Fault Reader) (settings : Settings) (path : String) :
    Logged (Except ScanFailure (List Token)) :=
  match openFile path with
  | .error fault => pure (.error (.openFailed path fault))
  | .ok reader => do
    let (tokens, scanner) ← Scanner.scan settings reader
    return do
      scanner.finishScan
      return tokens

/-- The tokens of a file of a tree. -/
def FileTree.scan (tree : FileTree) (settings : Settings) (path : String) :
    Logged (Except ScanFailure (List Token)) :=
  scanFile tree.openFile settings path

end CcxLexis
