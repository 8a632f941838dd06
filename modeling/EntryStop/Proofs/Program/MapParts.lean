import EntryStop.Proofs.Machine.Results
import EntryStop.Proofs.Program.MapLines

/-!
# Memory maps in parts

A memory map is read line by line.  A map that begins with whole lines gives the mappings of
those lines and then the mappings of the rest, and the first line that is no mapping decides
the error of the whole.
-/

namespace EntryStop

/-!
## Maps
-/

namespace MemoryMap

section

variable {first line : List UInt8} {maps : List Mapping} {e : Error}

theorem parse_append_of_error (hfirst : Lines.EndsLine 10 first) (h : parse first = .error e)
    (rest : List UInt8) : parse (first ++ rest) = .error e := by
  rw [parse, Lines.ofBytes, Lines.split_append_of_endsLine hfirst]
  exact mapM_append_of_error h _

theorem parse_append_of_ok (hfirst : Lines.EndsLine 10 first) (h : parse first = .ok maps)
    (rest : List UInt8) : parse (first ++ rest) = (parse rest).map (maps ++ ·) := by
  rw [parse, Lines.ofBytes, Lines.split_append_of_endsLine hfirst]
  exact mapM_append_of_ok h _

theorem parse_line_append_of_error (hline : 10 ∉ line)
    (h : readLine (Lines.dropReturn 13 line) = .error e) (rest : List UInt8) :
    parse (line ++ 10 :: rest) = .error e := by
  rw [parse, Lines.ofBytes, Lines.split_line_append hline]
  exact mapM_cons_of_error h _

/-- A map that begins with whole lines has the mappings of those lines, and then the mappings
of the rest; if one of the two parts fails, so does the whole, and the first part is looked at
first.  A map has one mapping for each line, in their order.  It has none at all if some line
is no mapping, and the first such line decides the error, wherever it stands. -/
theorem parse_in_parts {first : List UInt8} (hfirst : Lines.EndsLine 10 first)
    (rest : List UInt8) :
    (forall e, parse first = .error e -> parse (first ++ rest) = .error e) ∧
    (forall maps e, parse first = .ok maps -> parse rest = .error e ->
      parse (first ++ rest) = .error e) ∧
    (forall maps more, parse first = .ok maps -> parse rest = .ok more ->
      parse (first ++ rest) = .ok (maps ++ more)) ∧
    (forall maps line e, parse first = .ok maps -> 10 ∉ line ->
      readLine (Lines.dropReturn 13 line) = .error e ->
        parse (first ++ (line ++ 10 :: rest)) = .error e) ∧
    (forall bytes maps, parse bytes = .ok maps ↔
      (Lines.ofBytes bytes).map readLine = maps.map .ok) ∧
    (forall bytes e, parse bytes = .error e ↔
      exists before line after, Lines.ofBytes bytes = before ++ line :: after ∧
        (forall earlier, earlier ∈ before -> exists m, readLine earlier = .ok m) ∧
        readLine line = .error e) := by
  refine ⟨?_, ?_, ?_, ?_, ?_, ?_⟩
  · intro e h
    exact parse_append_of_error hfirst h rest
  · intro maps e h hrest
    rw [parse_append_of_ok hfirst h, hrest]
    rfl
  · intro maps more h hrest
    rw [parse_append_of_ok hfirst h, hrest]
    rfl
  · intro maps line e h hline hread
    rw [parse_append_of_ok hfirst h, parse_line_append_of_error hline hread]
    rfl
  · intro bytes maps
    exact mapM_eq_ok_iff
  · intro bytes e
    exact mapM_eq_error_iff

end

/-!
## Four lines
-/

def codeLine : List UInt8 := Utf8.encode "1000-2000 r-xp 0 fd:01 7 /a\n".toList

def dataLine : List UInt8 := Utf8.encode "2000-3000 rw-p 0 00:00 0\r\n".toList

def wordLine : List UInt8 := Utf8.encode "word\r\n".toList

theorem parse_codeLine :
    parse codeLine = .ok [⟨0x1000, 0x2000, true, false, true, 0, "/a"⟩] := by
  rw [codeLine, parse_encode]
  rfl

theorem parse_dataLine :
    parse dataLine = .ok [⟨0x2000, 0x3000, true, true, false, 0, ""⟩] := by
  rw [dataLine, parse_encode]
  rfl

theorem parse_wordLine : parse wordLine = .error (.line "word" .fewFields) := by
  rw [wordLine, parse_encode]
  rfl

theorem readLine_word : readLine (Lines.dropReturn 13 (Utf8.encode "range\r".toList)) =
    .error (.line "range" .fewFields) := by
  have hdrop : Lines.dropReturn 13 (Utf8.encode "range\r".toList) =
      Utf8.encode "range".toList := by decide
  rw [hdrop, readLine_encode]
  rfl

theorem parse_in_parts_codeThenWord :
    Lines.EndsLine 10 codeLine ∧ Lines.EndsLine 10 wordLine ∧
      parse (codeLine ++ dataLine) =
        .ok [⟨0x1000, 0x2000, true, false, true, 0, "/a"⟩,
          ⟨0x2000, 0x3000, true, true, false, 0, ""⟩] ∧
      parse (codeLine ++ wordLine) = .error (.line "word" .fewFields) ∧
      parse (wordLine ++ codeLine) = .error (.line "word" .fewFields) ∧
      parse (codeLine ++ (Utf8.encode "range\r".toList ++ 10 :: wordLine)) =
        .error (.line "range" .fewFields) := by
  have hcode : Lines.EndsLine 10 codeLine := by decide
  have hword : Lines.EndsLine 10 wordLine := by decide
  refine ⟨hcode, hword, ?_, ?_, ?_, ?_⟩
  · exact (parse_in_parts hcode dataLine).right.right.left _ _ parse_codeLine parse_dataLine
  · exact (parse_in_parts hcode wordLine).right.left _ _ parse_codeLine parse_wordLine
  · exact (parse_in_parts hword codeLine).left _ parse_wordLine
  · exact (parse_in_parts hcode wordLine).right.right.right.left _ _ _ parse_codeLine
      (by decide) readLine_word

end MemoryMap
end EntryStop
