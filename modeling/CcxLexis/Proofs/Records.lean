import CcxLexis.Proofs.Listing
import Std.Data.String.ToNat

/-!
# What a log tells

The lines of a log are all that a user learns of a scan besides its tokens.  A line begins with the
level of its record, and the message and every field of the record stand in it.  The record of an
event in turn tells which event it was and all that the event holds, except that of a failed read it
has the text only (`Event.eq_of_record_eq`).  Whatever bytes a source holds, an event takes one line,
so no source can put lines of its own into a log (`Event.oneLine_line`).

The closing records of a dump carry the numbers of its tokens and of its unknown tokens
(`Dump.mem_closingRecords_iff`), and none of them is ever the record of an event.
-/

namespace CcxLexis

/-! ## Names and numbers -/

namespace Kind

theorem ofName?_name (kind : Kind) : ofName? kind.name = some kind := by
  cases kind <;> decide

theorem name_injective : Function.Injective name := by
  intro kind other h
  have hread : ofName? kind.name = ofName? other.name := congrArg ofName? h
  rw [ofName?_name, ofName?_name] at hread
  exact Option.some.inj hread

theorem tab_not_mem_name (kind : Kind) : '\t' ∉ kind.name.toList := by
  cases kind <;> decide

theorem oneLine_name (kind : Kind) : Text.OneLine kind.name := by
  cases kind <;> decide

end Kind

/-- The five columns in which a line shows a level. -/
def Level.column (level : Level) : String :=
  "".pushn ' ' (5 - level.name.length) ++ level.name

theorem Level.length_column (level : Level) : level.column.toList.length = 5 := by
  cases level <;> decide

theorem Level.column_injective : Function.Injective column := by
  intro level other h
  cases level <;> cases other <;> first | rfl | exact absurd h (by decide)

namespace Text

theorem oneLine_repr (n : Nat) : OneLine n.repr := by
  have hdigits : n.repr.toList = Nat.toDigits 10 n := String.toList_ofList
  intro h
  rw [hdigits] at h
  exact absurd (Nat.isDigit_of_mem_toDigits (by decide) (by decide) h) (by decide)

theorem lineFeed_not_mem_guardedChar {c : Char} (h : c ≠ '\n') : '\n' ∉ guardedChar c := by
  unfold guardedChar
  split_ifs
  · decide
  · decide
  · decide
  · decide
  · decide
  · have hdigits : '\n' ∉ Nat.toDigits 16 c.toNat := by
      intro hmem
      obtain ⟨digit, hdigit⟩ := exists_digitChar_of_mem_toDigits hmem
      exact Nat.digitChar_ne '\n' (by decide) hdigit.symm
    simpa using hdigits
  · simpa using h.symm

theorem OneLine.guarded {text : String} (h : OneLine text) : OneLine (guarded text) := by
  intro hmem
  rw [Text.guarded, String.toList_ofList] at hmem
  obtain ⟨c, hc, hguarded⟩ := List.mem_flatMap.mp hmem
  have hne : c ≠ '\n' := by
    rintro rfl
    exact h hc
  exact lineFeed_not_mem_guardedChar hne hguarded

end Text

/-! ## Lines -/

namespace Record

variable {record other : Record}

/-- A field as a line shows it. -/
def fieldText (field : String × String) : String :=
  " " ++ field.1 ++ "=" ++ field.2

theorem line_eq (record : Record) :
    record.line = record.level.column ++
      (" " ++ Text.guarded record.message ++ String.join (record.fields.map fieldText)) := by
  have hfields : record.fields.map fieldText =
      record.fields.map fun field => " " ++ field.1 ++ "=" ++ field.2 := rfl
  rw [hfields]
  simp only [line, Level.column, String.append_assoc]

theorem column_prefix_line (record : Record) :
    record.level.column.toList <+: record.line.toList := by
  rw [line_eq, String.toList_append]
  exact List.prefix_append _ _

/-- The level of a record can be read off its line. -/
theorem level_eq_of_line_eq (h : record.line = other.line) : record.level = other.level := by
  have hother := other.column_prefix_line
  rw [← h] at hother
  have hlength : record.level.column.toList.length = other.level.column.toList.length := by
    rw [Level.length_column, Level.length_column]
  have hcolumn := List.prefix_of_prefix_length_le record.column_prefix_line hother
    (Nat.le_of_eq hlength)
  exact Level.column_injective (String.toList_inj.mp (hcolumn.eq_of_length hlength))

theorem message_infix_line (record : Record) :
    (Text.guarded record.message).toList <:+: record.line.toList := by
  refine ⟨record.level.column.toList ++ [' '],
    (String.join (record.fields.map fieldText)).toList, ?_⟩
  simp [line_eq]

theorem field_infix_line {field : String × String} (h : field ∈ record.fields) :
    (fieldText field).toList <:+: record.line.toList := by
  obtain ⟨front, back, hfields⟩ := List.append_of_mem h
  refine ⟨(record.level.column ++ " " ++ Text.guarded record.message ++
      String.join (front.map fieldText)).toList, (String.join (back.map fieldText)).toList, ?_⟩
  simp [line_eq, hfields]

theorem oneLine_line (hmessage : Text.OneLine record.message)
    (hfields : ∀ field ∈ record.fields, Text.OneLine field.1 ∧ Text.OneLine field.2) :
    Text.OneLine record.line := by
  have hcolumn : Text.OneLine record.level.column := by cases record.level <;> decide
  have hblank : Text.OneLine " " := by decide
  have hsign : Text.OneLine "=" := by decide
  rw [line_eq]
  refine hcolumn.append ((hblank.append hmessage.guarded).append fun hmem => ?_)
  rw [String.toList_join, List.flatMap_map] at hmem
  obtain ⟨field, hfield, hmem⟩ := List.mem_flatMap.mp hmem
  obtain ⟨hname, hvalue⟩ := hfields field hfield
  exact (((hblank.append hname).append hsign).append hvalue) hmem

end Record

/-! ## Events -/

namespace Event

theorem value_eq_of_singleton {label value value' : String}
    (h : [(label, value)] = [(label, value')]) : value = value' :=
  congrArg Prod.snd (List.singleton_inj.mp h)

/-- The kind and the text that two fields show can be read off the fields. -/
theorem eq_of_kindAndText {kind kind' : Kind} {label text text' : String}
    (h : [("kind", kind.name), (label, Text.quoted text)] =
      [("kind", kind'.name), (label, Text.quoted text')]) : kind = kind' ∧ text = text' := by
  obtain ⟨hkind, htext⟩ := List.cons.inj h
  exact ⟨Kind.name_injective (congrArg Prod.snd hkind),
    Text.quoted_injective (value_eq_of_singleton htext)⟩

/-- The record of an event tells the event, and of a failed read the text of the failure. -/
theorem eq_of_record_eq {event other : Event} (h : event.record = other.record) :
    event = other ∨
      ∃ fault fault', event = .readFailed fault ∧ other = .readFailed fault' ∧
        fault.text = fault'.text := by
  have hmessage : event.message = other.message := congrArg Record.message h
  have hfields : event.fields = other.fields := congrArg Record.fields h
  -- Events of different kinds have different messages, so six pairs are left.
  cases event with
  | scanned kind value =>
    cases other with
    | scanned kind' value' =>
      obtain ⟨rfl, rfl⟩ := eq_of_kindAndText hfields
      exact .inl rfl
    | _ => simp [message] at hmessage
  | unrecognisedByte byte =>
    cases other with
    | unrecognisedByte byte' =>
      obtain rfl := UInt8.toNat_inj.mp (Nat.repr_inj.mp (value_eq_of_singleton hfields))
      exact .inl rfl
    | _ => simp [message] at hmessage
  | unterminatedComment text =>
    cases other with
    | unterminatedComment text' =>
      obtain rfl := Text.quoted_injective (value_eq_of_singleton hfields)
      exact .inl rfl
    | _ => simp [message] at hmessage
  | unterminatedLiteral kind text =>
    cases other with
    | unterminatedLiteral kind' text' =>
      obtain ⟨rfl, rfl⟩ := eq_of_kindAndText hfields
      exact .inl rfl
    | _ => simp [message] at hmessage
  | lexemeTruncated limit =>
    cases other with
    | lexemeTruncated limit' =>
      obtain ⟨bytes, hbytes⟩ := limit
      obtain ⟨bytes', hbytes'⟩ := limit'
      obtain rfl := Nat.repr_inj.mp (value_eq_of_singleton hfields)
      exact .inl rfl
    | _ => simp [message] at hmessage
  | readFailed fault =>
    cases other with
    | readFailed fault' => exact .inr ⟨fault, fault', rfl, rfl, value_eq_of_singleton hfields⟩
    | _ => simp [message] at hmessage

/-- An event takes one line of a log, whatever text it shows, unless the text of a failure has a line
end of its own. -/
theorem oneLine_line (event : Event)
    (h : ∀ fault, event = .readFailed fault → Text.OneLine fault.text) :
    Text.OneLine event.record.line := by
  have hlabel : ∀ label ∈ ["kind", "value", "byte", "partial", "limit", "error"],
      Text.OneLine label := by decide
  refine Record.oneLine_line ?_ ?_
  · cases event <;> simp [record, message, Text.OneLine]
  · cases event with
    | scanned kind value =>
      simp [record, fields, Kind.oneLine_name, Text.oneLine_quoted, hlabel]
    | unrecognisedByte byte => simp [record, fields, hlabel, Text.oneLine_repr]
    | unterminatedComment text => simp [record, fields, hlabel, Text.oneLine_quoted]
    | unterminatedLiteral kind text =>
      simp [record, fields, hlabel, Kind.oneLine_name, Text.oneLine_quoted]
    | lexemeTruncated limit => simp [record, fields, hlabel, Text.oneLine_repr]
    | readFailed fault => simp [record, fields, hlabel, h fault rfl]

end Event

/-! ## Filters up to a level -/

namespace LogFilter

theorem shows_upTo (level : Level) (record : Record) :
    (upTo level).shows record = decide (record.level.verbosity ≤ level.verbosity) := by
  simp [shows, ruleFor?, upTo, LogRule.appliesTo]

theorem linesOf_append (filter : LogFilter) (records more : List Record) :
    filter.linesOf (records ++ more) = filter.linesOf records ++ filter.linesOf more := by
  rw [linesOf, List.filter_append, List.map_append, List.flatMap_append]
  rfl

end LogFilter

/-! ## Closing records -/

namespace CommandLine.Dump

variable {file : String} {tokens : List Token} {elapsed : String} {record : Record}

/-- The closing records, with their levels, their messages and what they count. -/
theorem mem_closingRecords_iff :
    record ∈ closingRecords file tokens elapsed ↔
      ((∃ token ∈ tokens, token.kind = .unknown) ∧
          record =
            { target := "ccx_lex", level := .warn, message := "source contains unrecognised input"
              fields :=
                [("unknown", toString (tokens.countP fun token => token.kind = .unknown))] }) ∨
        record =
          { target := "ccx_lex", level := .info, message := "scanned " ++ file
            fields := [("tokens", toString tokens.length), ("elapsed", elapsed)] } := by
  rw [closingRecords_eq, List.mem_append, List.mem_singleton]
  refine or_congr ?_ Iff.rfl
  by_cases hunknown : ∃ token ∈ tokens, token.kind = .unknown
  · rw [if_pos hunknown, List.mem_singleton]
    exact (and_iff_right hunknown).symm
  · rw [if_neg hunknown]
    exact iff_of_false List.not_mem_nil fun h => hunknown h.1

/-- What a scanner reports is never taken for what closes a dump. -/
theorem record_not_mem_closingRecords (event : Event) (file : String) (tokens : List Token)
    (elapsed : String) : event.record ∉ closingRecords file tokens elapsed := by
  have hother : Event.target ≠ "ccx_lex" := by decide
  rw [mem_closingRecords_iff]
  rintro (⟨-, h⟩ | h)
  · exact hother (congrArg Record.target h)
  · exact hother (congrArg Record.target h)

theorem eq_of_unknownRecord {unknown unknown' : Nat}
    (h : (if unknown = 0 then [] else [unknownRecord unknown]) =
      if unknown' = 0 then [] else [unknownRecord unknown']) : unknown = unknown' := by
  split_ifs at h with hzero hzero' hzero'
  · rw [hzero, hzero']
  · simp only [unknownRecord, List.cons.injEq, Record.mk.injEq, Prod.mk.injEq, true_and,
      and_true] at h
    exact Nat.repr_inj.mp h

/-- Closing records that are the same count the same. -/
theorem closingRecords_inj {file' : String} {tokens' : List Token} {elapsed' : String}
    (h : closingRecords file tokens elapsed = closingRecords file' tokens' elapsed') :
    file = file' ∧ tokens.length = tokens'.length ∧
      tokens.countP (fun token => token.kind = .unknown) =
        tokens'.countP (fun token => token.kind = .unknown) ∧ elapsed = elapsed' := by
  obtain ⟨hunknown, htotal⟩ := List.append_inj' h rfl
  simp only [totalRecord, List.cons.injEq, Record.mk.injEq, Prod.mk.injEq, true_and, and_true,
    String.append_right_inj] at htotal
  obtain ⟨hfile, htokens, helapsed⟩ := htotal
  exact ⟨hfile, Nat.repr_inj.mp htokens, eq_of_unknownRecord hunknown, helapsed⟩

/-! ### Their lines -/

theorem line_unknownRecord (unknown : Nat) :
    (unknownRecord unknown).line =
      " WARN source contains unrecognised input unknown=" ++ toString unknown := by
  have hfront : Level.warn.column ++
      (" " ++ (Text.guarded "source contains unrecognised input" ++ " unknown=")) =
        " WARN source contains unrecognised input unknown=" := by decide
  rw [Record.line_eq, ← hfront]
  simp [unknownRecord, Record.fieldText, String.append_assoc]

theorem line_totalRecord (file : String) (total : Nat) (elapsed : String) :
    (totalRecord file total elapsed).line =
      " INFO " ++ Text.guarded ("scanned " ++ file) ++ " tokens=" ++ toString total ++
        " elapsed=" ++ elapsed := by
  have hfront : Level.info.column ++ " " = " INFO " := by decide
  rw [Record.line_eq, ← hfront]
  simp [totalRecord, Record.fieldText, String.append_assoc]

/-- The lines that close a log without a filter of its own. -/
theorem linesOf_closingRecords {level : Level} (h : Level.info.verbosity ≤ level.verbosity)
    (file : String) (tokens : List Token) (elapsed : String) :
    (LogFilter.upTo level).linesOf (closingRecords file tokens elapsed) =
      (if ∃ token ∈ tokens, token.kind = .unknown then
          [" WARN source contains unrecognised input unknown=" ++
            toString (tokens.countP fun token => token.kind = .unknown)]
        else []) ++
        Text.lines
          (" INFO " ++ Text.guarded ("scanned " ++ file) ++ " tokens=" ++ toString tokens.length ++
            " elapsed=" ++ elapsed) := by
  have hshows : ∀ record ∈ closingRecords file tokens elapsed,
      (LogFilter.upTo level).shows record = true := by
    intro record hrecord
    rw [LogFilter.shows_upTo, decide_eq_true_iff]
    rcases mem_closingRecords_iff.mp hrecord with ⟨-, rfl⟩ | rfl
    · have hwarn : Level.warn.verbosity ≤ Level.info.verbosity := by decide
      exact Nat.le_trans hwarn h
    · exact h
  rw [LogFilter.linesOf, List.filter_eq_self.mpr hshows, closingRecords_eq, List.map_append,
    List.flatMap_append, List.map_singleton, List.flatMap_singleton, line_totalRecord]
  congr 1
  split
  · rw [List.map_singleton, List.flatMap_singleton, line_unknownRecord]
    have hfront : Text.OneLine " WARN source contains unrecognised input unknown=" := by decide
    exact Text.lines_of_oneLine (hfront.append (Text.oneLine_repr _))
  · rfl

end CommandLine.Dump

end CcxLexis
