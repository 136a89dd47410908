import CcxLexis.Proofs.Agreement
import CcxLexis.Proofs.Schedule
import CcxLexis.Proofs.Switches

/-!
# A dump can be read back

A dump holds one line for each token, whatever characters the token holds, and the kinds and texts
of the tokens can be read off the lines.  So two dumps with the same output list the same kinds and
texts.  Leaving comments out takes away their lines, and nothing else changes: the closing records
still count them.

Reading back goes from left to right.  No name of a kind contains a tab, so the first tab of a line
ends the name (`Dump.tokenLine_append_inj`).  Behind it stands a quotation, which can be read
whatever follows it, and the line end behind that leads to the next line.
-/

namespace CcxLexis

/-- What a dump shows of a token. -/
def Token.shown (token : Token) : Kind × String :=
  (token.kind, token.value)

namespace CommandLine

namespace Dump

/-! ## Lines and tokens -/

theorem oneLine_tokenLine (token : Token) : Text.OneLine (tokenLine token) := by
  have htab : Text.OneLine "\t" := by decide
  exact (token.kind.oneLine_name.append htab).append (Text.oneLine_quoted token.value)

/-- A listing has one line for each token, and the empty line behind the last line end. -/
theorem lines_listing (tokens : List Token) :
    Text.lines (listing tokens) = tokens.map tokenLine ++ [""] := by
  induction tokens with
  | nil => exact Text.lines_of_oneLine (by decide)
  | cons token tokens ih =>
    rw [listing_cons, Text.lines_append_of_oneLine (oneLine_tokenLine token), ih]
    rfl

/-- What a line shows, and what stands behind the line, can be read off a text that begins with
it. -/
theorem tokenLine_append_inj {token other : Token} {rest rest' : String}
    (h : tokenLine token ++ "\n" ++ rest = tokenLine other ++ "\n" ++ rest') :
    token.shown = other.shown ∧ rest = rest' := by
  have hchars : ∀ (token : Token) (rest : String),
      (tokenLine token ++ "\n" ++ rest).toList =
        token.kind.name.toList ++
          '\t' :: ((Text.quoted token.value).toList ++ '\n' :: rest.toList) := by
    intro token rest
    simp [tokenLine]
  have hlines := congrArg String.toList h
  rw [hchars, hchars] at hlines
  have hcut := congrArg (List.splitOn '\t') hlines
  rw [List.splitOn_append_cons_self_of_not_mem token.kind.tab_not_mem_name,
    List.splitOn_append_cons_self_of_not_mem other.kind.tab_not_mem_name] at hcut
  have hname := (List.cons.inj hcut).1
  rw [hname] at hlines
  have hbehind := (List.cons.inj (List.append_cancel_left hlines)).2
  obtain ⟨hvalue, hrest⟩ := Text.quoted_append_inj hbehind
  have hkind : token.kind = other.kind := Kind.name_injective (String.toList_inj.mp hname)
  exact ⟨Prod.ext hkind hvalue, String.toList_inj.mp (List.cons.inj hrest).2⟩

/-- The kinds and texts of the tokens can be read off a listing. -/
theorem listing_inj {tokens others : List Token} (h : listing tokens = listing others) :
    tokens.map Token.shown = others.map Token.shown := by
  have hlength : tokens.length = others.length := by
    simpa [lines_listing] using congrArg (fun text => (Text.lines text).length) h
  induction tokens generalizing others with
  | nil =>
    cases others with
    | nil => rfl
    | cons other others => cases hlength
  | cons token tokens ih =>
    cases others with
    | nil => cases hlength
    | cons other others =>
      rw [listing_cons, listing_cons] at h
      obtain ⟨hshown, hrest⟩ := tokenLine_append_inj h
      rw [List.map_cons, List.map_cons, hshown, ih hrest (Nat.succ.inj hlength)]

end Dump

/-! ## Runs on files that can be read to the end -/

/-- A run of the program that asks for a dump of a file, and the file can be read to its end.  The
output goes to a device that accepts everything. -/
structure CompleteRun where
  environment : Environment := {}
  arguments : List String
  openFile : String → Except Fault Reader
  elapsed : String
  options : Options
  reader : Reader
  parse_eq : parse environment.verbose arguments = .ok (.dump options)
  openFile_eq : openFile options.file = .ok reader
  stopFault?_eq : ReadResult.stopFault? reader.results = none

namespace CompleteRun

/-- Every content of a file can be read to its end. -/
def ofContent (content : List Byte) (arguments : List String) (options : Options)
    (h : parse none arguments = .ok (.dump options)) (elapsed : String) : CompleteRun where
  arguments
  openFile _ := .ok (Reader.ofBytes content)
  elapsed
  options
  reader := Reader.ofBytes content
  parse_eq := h
  openFile_eq := rfl
  stopFault?_eq := by cases content <;> rfl

def outcome (run : CompleteRun) : Outcome :=
  CommandLine.run run.environment run.arguments run.openFile .accepting run.elapsed

def settings (run : CompleteRun) : Settings :=
  { maxLexeme := run.options.maxLexeme }

/-- The tokens of the file, without the report of its end. -/
def tokens (run : CompleteRun) : List Token :=
  tokensIn run.settings run.reader.remaining

/-- What the run logs if it takes the given time: the events of the scan and the closing records. -/
def log (run : CompleteRun) (elapsed : String) : List String :=
  (run.environment.filter run.options.verbose).linesOf
    ((Scanner.scan run.settings run.reader).events.map Event.record ++
      Dump.closingRecords run.options.file run.tokens elapsed)

variable (run : CompleteRun)

theorem finishScan_eq :
    (Scanner.scan run.settings run.reader).value.2.finishScan = .ok () := by
  have hfailure : (Scanner.scan run.settings run.reader).value.2.failure? = none :=
    (Scanner.failure?_scan run.settings run.reader).trans run.stopFault?_eq
  rw [Scanner.finishScan, hfailure]

theorem scanFile_eq :
    (scanFile run.openFile run.settings run.options.file).value =
      .ok (run.tokens ++ [Token.endOfInput]) := by
  rw [scanFile_of_open run.openFile_eq, run.finishScan_eq]
  rfl

theorem outcome_eq :
    run.outcome =
      { exitCode := 0
        output := Dump.listing
          (run.tokens.filter fun token => !(run.options.hideComments && token.isComment))
        diagnostics := run.log run.elapsed } := by
  have hrun := run_of_open run.parse_eq run.openFile_eq run.elapsed
  have hfinish := run.finishScan_eq
  rw [settings] at hfinish
  dsimp only at hrun
  rw [hfinish] at hrun
  exact hrun

theorem output_eq (h : run.options.hideComments = false) :
    run.outcome.output = Dump.listing run.tokens := by
  rw [run.outcome_eq]
  exact congrArg Dump.listing (filter_shown h run.tokens)

end CompleteRun

/-- **A dump can be read back.**  Consider a run on a file that can be read to its end, for any
limit, with the comments listed.

Its output has one line for each token of the file.  Every other such run with the same output has
tokens of the same kinds and texts, in the same order, whatever it was asked for and whatever its
file holds.  A run that differs in hiding the comments has the same tokens, leaves out the lines of
the comments and nothing else, and ends and logs the same, with the same counts.  It is asked for by
the same arguments behind `--no-comments`. -/
theorem CompleteRun.dump_unambiguous (run : CompleteRun)
    (hcomments : run.options.hideComments = false) :
    (scanFile run.openFile run.settings run.options.file).value =
        .ok (run.tokens ++ [Token.endOfInput]) ∧
      (∀ token ∈ run.tokens, token.isEndOfInput = false) ∧
      Text.lines run.outcome.output = run.tokens.map Dump.tokenLine ++ [""] ∧
      (∀ other : CompleteRun, other.options.hideComments = false →
        other.outcome.output = run.outcome.output →
          other.tokens.map Token.shown = run.tokens.map Token.shown) ∧
      parse run.environment.verbose ("--no-comments" :: run.arguments) =
        .ok (.dump { run.options with hideComments := true }) ∧
      ∀ filtered : CompleteRun, filtered.environment = run.environment →
        filtered.openFile = run.openFile →
        filtered.options = { run.options with hideComments := true } →
          Text.lines filtered.outcome.output =
              (run.tokens.filter fun token => !token.isComment).map Dump.tokenLine ++ [""] ∧
            filtered.outcome.exitCode = run.outcome.exitCode ∧
            run.outcome.diagnostics = run.log run.elapsed ∧
            filtered.outcome.diagnostics = run.log filtered.elapsed := by
  have houtput := run.output_eq hcomments
  refine ⟨run.scanFile_eq, fun token => isEndOfInput_of_mem_tokensIn, ?_, ?_,
    parse_noComments run.parse_eq hcomments, ?_⟩
  · rw [houtput, Dump.lines_listing]
  · intro other hother hsame
    rw [houtput, other.output_eq hother] at hsame
    exact Dump.listing_inj hsame
  · intro filtered henvironment hopen hoptions
    have hreader : filtered.reader = run.reader := by
      have hopened := filtered.openFile_eq
      rw [hopen, hoptions] at hopened
      exact Except.ok.inj (hopened.symm.trans run.openFile_eq)
    have hsettings : filtered.settings = run.settings := by
      rw [settings, settings, hoptions]
    have htokens : filtered.tokens = run.tokens := by
      rw [tokens, tokens, hreader, hsettings]
    have hlog : ∀ elapsed, filtered.log elapsed = run.log elapsed := by
      intro elapsed
      rw [log, log, henvironment, hoptions, hreader, hsettings, htokens]
    rw [filtered.outcome_eq, run.outcome_eq, hoptions, htokens, hlog, Dump.lines_listing]
    exact ⟨rfl, rfl, rfl, rfl⟩

/-- A name and a comment, listed and with the comment left out. -/
theorem CompleteRun.dump_unambiguous_nameAndComment :
    ∃ run filtered : CompleteRun,
      run.options.hideComments = false ∧
        filtered.environment = run.environment ∧ filtered.openFile = run.openFile ∧
        filtered.options = { run.options with hideComments := true } ∧
        Text.lines run.outcome.output = ["Identifier\t\"a\"", "Comment\t\"b\"", ""] ∧
        Text.lines filtered.outcome.output = ["Identifier\t\"a\"", ""] := by
  have hparse : parse none ["a.ccx"] = .ok (.dump { file := "a.ccx" }) := rfl
  have hparse' : parse none ["--no-comments", "a.ccx"] =
      .ok (.dump { file := "a.ccx", hideComments := true }) := rfl
  let content : List Byte := [0x61, 0x2f, 0x2f, 0x62]
  let run := ofContent content ["a.ccx"] { file := "a.ccx" } hparse "1ms"
  let filtered := ofContent content ["--no-comments", "a.ccx"]
    { file := "a.ccx", hideComments := true } hparse' "2ms"
  have htokens : run.tokens = [⟨.identifier, "a", none⟩, ⟨.lineComment, "b", some "b"⟩] := by
    cbv
  obtain ⟨-, -, hlines, -, -, hfiltered⟩ := run.dump_unambiguous rfl
  refine ⟨run, filtered, rfl, rfl, rfl, rfl, ?_, ?_⟩
  · rw [hlines, htokens]
    decide +kernel
  · rw [(hfiltered filtered rfl rfl rfl).1, htokens]
    decide +kernel

end CommandLine

end CcxLexis
