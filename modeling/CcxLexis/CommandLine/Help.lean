import CcxLexis.Text.Plain

/-!
# Help and version texts of the command line
-/

namespace CcxLexis.CommandLine

def versionText : String := "ccx-lex 0.1.0\n"

/-- The space in front of what help says about an option, which is also in front of every further
line of it. -/
def helpIndent : String :=
  "".pushn ' ' 24

/-- The help text, styled for a terminal.  It shows what the environment says about verbosity. -/
def helpText (verboseVariable : Option String) : String :=
  String.join
    ["Dump the tokens of a CCX source file\n",
      "\n",
      Text.emphasised "Usage:", " ", Text.emphasised "ccx-lex", " [OPTIONS] <FILE>\n",
      "\n",
      Text.emphasised "Arguments:", "\n",
      "  <FILE>  Source file to scan\n",
      "\n",
      Text.emphasised "Options:", "\n",
      "  ", Text.emphasised "-v", ", ", Text.emphasised "--verbose",
      "         Enable debug logging [env: CCX_LEX_VERBOSE=",
      (verboseVariable.getD "").replace "\n" ("\n" ++ helpIndent), "]\n",
      "      ", Text.emphasised "--no-comments", "     Do not print comment tokens\n",
      "      ", Text.emphasised "--max-lexeme",
      " <N>  Truncate lexemes longer than this many bytes\n",
      "  ", Text.emphasised "-h", ", ", Text.emphasised "--help", "            Print help\n",
      "  ", Text.emphasised "-V", ", ", Text.emphasised "--version", "         Print version\n"]

end CcxLexis.CommandLine
