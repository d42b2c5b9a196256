import CTokens.Lexed
import CTokens.Proofs.Drawing
import CTokens.Proofs.LineNumbers
import CTokens.Proofs.LineTable

/-! # Labels on tokens

A token knows its line from the newlines that were counted on the way to it, and a reporter finds
lines in the table of a file.  The two agree: an unknown token is found on the line that its
diagnostic points to (`diagnose_complaint`).
-/

namespace CTokens

open Utf8

/-! ## The characters at a token -/

/-- A token that is no literal stands in the source as its text. -/
theorem exists_around {text : String} {place : Nat} {token : Token}
    (member : (place, token) ∈ placedTokens text) (plain : token.kind ≠ .string) :
    ∃ before rest, text.toList = before ++ (token.text.toList ++ rest) ∧
      (ofChars before).length = place ∧ Admits token.kind token.text.toList := by
  obtain ⟨segment, inside, made, rfl⟩ := exists_segment member
  obtain ⟨own, rest, spans⟩ := exists_spans_of_token? inside made
  have ahead := spans.ahead
  rw [encode_eq_ofChars] at ahead
  have le : segment.start ≤ (ofChars text.toList).length := by
    apply Nat.le_of_not_lt
    intro beyond
    rw [List.drop_of_length_le (Nat.le_of_lt beyond)] at ahead
    have empty : [] = own ++ rest := ofChars_inj ahead
    exact spans.reads.own_ne_nil (List.append_eq_nil_iff.1 empty.symm).1
  -- Characters begin at the place, so that it is a cut between two of them.
  have boundary := isBoundary_ofChars (own ++ rest)
  rw [← ahead] at boundary
  obtain ⟨before, after, whole, length⟩ := exists_of_isBoundary le boundary
  rw [whole, ofChars_append, ← length, List.drop_left] at ahead
  have written : own = token.text.toList := by
    rcases spans.reads.own_cases with ⟨equal, -⟩ | ⟨string, -, -⟩
    · rw [equal, written, if_neg plain]
    · contradiction
  exact ⟨before, rest, by rw [whole, ofChars_inj ahead, written], length, spans.reads.admits⟩

/-! ## The label of a complaint -/

theorem Text.exists_lines_cons (c : Char) (chars : List Char) :
    ∃ line others, Text.lines (c :: chars) = (c :: line) :: others := by
  rw [Text.lines_cons]
  by_cases newline : c = '\n'
  · subst newline
    exact ⟨[], Text.lines chars, rfl⟩
  · obtain ⟨line, others, equal⟩ := List.exists_cons_of_ne_nil (Text.lines_ne_nil chars)
    exact ⟨line, others, by rw [equal, Text.consLine_cons newline]⟩

namespace Report.Reporter

theorem lineRange?_addFile (reporter : Reporter) (name text : String) (index : Nat) :
    (reporter.addFile name text).2.lineRange? (reporter.addFile name text).1 index =
      (SourceFile.ofText name text).lineRange? index := by
  rw [lineRange?, getElem?_addFile, Option.bind_some]

theorem diagnose_onLine {reporter : Reporter} {file start stop : Nat} {line : UInt32}
    (range : reporter.lineRange? file (line.toNat - 1) = some (start, stop)) (severity : Severity)
    (message : String) :
    reporter.diagnose severity file (.onLine message line) =
      { severity := severity
        title := "Lexer error"
        label := some { file := file, start := start, stop := stop, message := message }
        notes := [] } := by
  rw [diagnose]
  simp only [range]

end Report.Reporter

theorem exists_lineRange? (name : String) {text : String}
    (few : (encode text).count Cursor.newline < UInt32.size - 1) {place : Nat} {token : Token}
    (member : (place, token) ∈ placedTokens text) (unknown : token.isUnknown = true) :
    ∃ stop, (Report.SourceFile.ofText name text).lineRange? (token.line.toNat - 1) =
        some (lineStart (encode text) place, stop) ∧
      place + (encode token.text).length ≤ stop := by
  have kind : token.kind = .unknown := by simpa [Token.isUnknown] using unknown
  obtain ⟨before, rest, whole, length, admits⟩ := exists_around member (by simp [kind])
  -- There are few newlines, so that none of those before the token is lost in its line.
  have counted : token.line.toNat - 1 = before.count '\n' := by
    have passed : (encode text).take place = ofChars before := by
      rw [encode_eq_ofChars, whole, ofChars_append, ← length, List.take_left]
    rw [toNat_line_of_mem few member, lineAt, passed, Cursor.newline, count_ofChars (by decide),
      Nat.add_sub_cancel_left]
  generalize spelled : token.text.toList = own at admits whole
  rw [kind] at admits
  cases admits with
  | @unknown c stray =>
    obtain ⟨line, others, lines⟩ := Text.exists_lines_cons c rest
    have range := Report.SourceFile.lineRange?_ofText name whole lines
    rw [length, ← counted] at range
    refine ⟨_, range, ?_⟩
    rw [encode_eq_ofChars, spelled, ofChars_cons, ofChars_cons, List.length_append,
      List.length_append]
    exact Nat.add_le_add_left (Nat.add_le_add_left (Nat.zero_le _) _) place

theorem filter_isUnknown_tokenize (text : String) :
    (tokenize text).filter Token.isUnknown =
      ((placedTokens text).filter fun placed => placed.2.isUnknown).map Prod.snd := by
  rw [tokenize_eq_placedTokens, List.filter_append, List.filter_map]
  exact List.append_nil _

/-- Whatever a reporter knows already, an unknown token of a source that is added to it lies under
    the label of its diagnostic, and this label begins where the line of the token does. -/
theorem diagnose_complaint (reporter : Report.Reporter) (severity : Report.Severity)
    (name text : String) (few : (encode text).count Cursor.newline < UInt32.size - 1) :
    (lex text).unknown = ((tokenize text).filter Token.isUnknown).map Token.complaint ∧
    (tokenize text).filter Token.isUnknown =
      ((placedTokens text).filter fun placed => placed.2.isUnknown).map Prod.snd ∧
    ∀ place token, (place, token) ∈ placedTokens text → token.isUnknown = true →
      encode token.text <+: (encode text).drop place ∧
      ∃ stop message,
        (reporter.addFile name text).2.diagnose severity (reporter.addFile name text).1
            token.complaint =
          { severity := severity
            title := "Lexer error"
            label := some
              { file := (reporter.addFile name text).1
                start := lineStart (encode text) place
                stop := stop
                message := message }
            notes := [] } ∧
        lineStart (encode text) place ≤ place ∧ place + (encode token.text).length ≤ stop := by
  refine ⟨rfl, filter_isUnknown_tokenize text, ?_⟩
  intro place token member unknown
  have kind : token.kind = .unknown := by simpa [Token.isUnknown] using unknown
  have front := opening_of_mem_placedTokens member
  rw [Token.opening, if_neg (by simp [kind])] at front
  obtain ⟨stop, range, within⟩ := exists_lineRange? name few member unknown
  rw [← reporter.lineRange?_addFile] at range
  exact ⟨front, stop, _, Report.Reporter.diagnose_onLine range severity _, Nat.sub_le .., within⟩

/-- Behind a literal that goes over two lines, the label begins on the second of them. -/
theorem diagnose_complaint_behind_a_string :
    (encode "\"a\nb\" @").count Cursor.newline < UInt32.size - 1 ∧
    (6, { kind := .unknown, text := "@", line := 2 }) ∈ placedTokens "\"a\nb\" @" ∧
    ∃ stop message,
      ((Report.Reporter.new false).addFile "s.c" "\"a\nb\" @").2.diagnose .warning 0
          (Token.complaint { kind := .unknown, text := "@", line := 2 }) =
        { severity := .warning
          title := "Lexer error"
          label := some { file := 0, start := 3, stop := stop, message := message }
          notes := [] } ∧
      3 ≤ 6 ∧ 7 ≤ stop := by
  have few : (encode "\"a\nb\" @").count Cursor.newline < UInt32.size - 1 := by decide
  have steps : (Cursor.ofText "\"a\nb\" @").Steps
      [{ start := 0, stop := 5, piece := .lexeme { kind := .string, text := "a\nb", line := 1 } },
       { start := 5, stop := 6, piece := .blank },
       { start := 6, stop := 7, piece := .lexeme { kind := .unknown, text := "@", line := 2 } }]
      ((Cursor.ofText "\"a\nb\" @").skip 7) := .step rfl (.step rfl (.step rfl .refl))
  have member : (6, { kind := .unknown, text := "@", line := 2 }) ∈ placedTokens "\"a\nb\" @" := by
    rw [placedTokens, (scan_of_steps steps rfl).1]
    decide
  exact ⟨few, member,
    ((diagnose_complaint (.new false) .warning "s.c" _ few).2.2 6 _ member rfl).2⟩

end CTokens
