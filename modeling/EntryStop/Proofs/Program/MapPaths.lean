import EntryStop.Proofs.Program.MapParts

/-!
# Paths in memory maps

The padding in front of a path does not belong to it, and the blanks at its end do.  Reading a
line drops both, so a path that ends in a blank is lost and another one may stand in its place.
All other paths are kept.  A path that is no text is an error of its map.
-/

namespace EntryStop
namespace MemoryMap

/-!
## Paths of files
-/

def Row.NamesFile (r : Row) : Prop :=
  r.mapping.pathname.toList.head? = some '/'

instance (r : Row) : Decidable r.NamesFile :=
  inferInstanceAs (Decidable (_ = _))

section

variable {r s : Row}

theorem toList_trimmed (h : r.NamesFile) :
    r.trimmed.pathname.toList = Text.trimRight r.mapping.pathname.toList := by
  have hhead : forall c, r.mapping.pathname.toList.head? = some c ->
      Text.isBlank c = false := by
    intro c hc
    cases hc.symm.trans h
    decide
  rw [Row.trimmed, String.toList_ofList, Text.trim_of_head hhead]

theorem pathname_trimmed_eq_iff (h : r.NamesFile) :
    r.trimmed.pathname = r.mapping.pathname ↔
      forall c, r.mapping.pathname.toList.getLast? = some c -> Text.isBlank c = false := by
  rw [← String.toList_inj, toList_trimmed h]
  exact Text.trimRight_eq_self_iff

theorem pathname_trimmed_eq_trimmed_iff (hr : r.NamesFile) (hs : s.NamesFile) :
    r.trimmed.pathname = s.trimmed.pathname ↔
      Text.SameButBlanks r.mapping.pathname.toList s.mapping.pathname.toList := by
  rw [← String.toList_inj, toList_trimmed hr, toList_trimmed hs]
  exact Text.trimRight_eq_iff

end

/-!
## Paths that are no text
-/

theorem newline_mem_encode_iff (text : List Char) : 10 ∈ Utf8.encode text ↔ '\n' ∈ text := by
  rw [Utf8.encode, List.mem_flatMap]
  constructor
  · intro h
    rcases h with ⟨c, hc, hbyte⟩
    exact (Utf8.mem_utf8EncodeChar_iff '\n' (by decide) c).mp hbyte ▸ hc
  · intro h
    exact ⟨'\n', h, List.mem_singleton_self _⟩

theorem readLine_of_no_text {line : List UInt8} (h : Utf8.decode? line = none) :
    readLine line = .error .notText := by
  rw [readLine, h]

theorem readLine_dropReturn_of_no_text {line : List UInt8} (h : Utf8.decode? line = none) :
    readLine (Lines.dropReturn 13 line) = .error .notText := by
  apply readLine_of_no_text
  rcases Lines.dropReturn_cases 13 line with hsame | hdropped
  · rw [hsame, h]
  · cases htext : Utf8.decode? (Lines.dropReturn 13 line) with
    | none => rfl
    | some text =>
        have hreturn : Utf8.encode (text ++ ['\r']) = line := by
          rw [Utf8.encode_append, ← Utf8.eq_encode_of_decode? htext]
          exact hdropped.symm
        rw [← hreturn, Utf8.decode?_encode] at h
        cases h

theorem parse_path_of_no_text {opening : List Char} {path : List UInt8}
    (hopening : '\n' ∉ opening) (hnewline : 10 ∉ path) (hpath : Utf8.decode? path = none)
    (rest : List UInt8) :
    parse (Utf8.encode opening ++ path ++ 10 :: rest) = .error .notText := by
  have hline : 10 ∉ Utf8.encode opening ++ path := by
    intro hmem
    rcases List.mem_append.mp hmem with hfront | hback
    · exact hopening ((newline_mem_encode_iff opening).mp hfront)
    · exact hnewline hback
  apply parse_line_append_of_error hline
  apply readLine_dropReturn_of_no_text
  rw [Utf8.decode?_encode_append, hpath]
  rfl

/-!
## Whole maps
-/

/-- A map that was written gives its mappings back without the blanks at the ends of their
paths.  The path of a file is kept exactly if it does not end in a blank, and two files have
the same path in the end exactly if their paths differ in the blanks at their ends only.  A
line with a path that is no text gives no mapping. -/
theorem paths_kept_up_to_blanks {rows : List Row} (hrows : forall r, r ∈ rows -> r.Printed) :
    parse (Utf8.encode (print rows)) = .ok (rows.map Row.trimmed) ∧
    (forall r, r ∈ rows -> r.NamesFile ->
      (r.trimmed.pathname = r.mapping.pathname ↔
        forall c, r.mapping.pathname.toList.getLast? = some c -> Text.isBlank c = false)) ∧
    (forall r s, r ∈ rows -> s ∈ rows -> r.NamesFile -> s.NamesFile ->
      (r.trimmed.pathname = s.trimmed.pathname ↔
        Text.SameButBlanks r.mapping.pathname.toList s.mapping.pathname.toList)) ∧
    (forall first maps opening path rest, Lines.EndsLine 10 first -> parse first = .ok maps ->
      '\n' ∉ opening -> 10 ∉ path -> Utf8.decode? path = none ->
        parse (first ++ (Utf8.encode opening ++ path ++ 10 :: rest)) = .error .notText) := by
  refine ⟨parse_encode_printed hrows, ?_, ?_, ?_⟩
  · intro r _ hfile
    exact pathname_trimmed_eq_iff hfile
  · intro r s _ _ hr hs
    exact pathname_trimmed_eq_trimmed_iff hr hs
  · intro first maps opening path rest hfirst hmaps hopening hnewline hpath
    rw [parse_append_of_ok hfirst hmaps, parse_path_of_no_text hopening hnewline hpath]
    rfl

/-!
## Two files
-/

def spaced : Row where
  mapping := ⟨0x1000, 0x2000, true, false, true, 0, "/bin/a "⟩
  startStyle := ⟨false, 0⟩
  stopStyle := ⟨false, 0⟩
  offsetStyle := ⟨false, 7⟩
  shared := false
  device := "fd:01".toList
  inode := "1311".toList
  padding := 2

def plain : Row where
  mapping := ⟨0x2000, 0x3000, true, false, true, 0, "/bin/a"⟩
  startStyle := ⟨false, 0⟩
  stopStyle := ⟨false, 0⟩
  offsetStyle := ⟨false, 7⟩
  shared := false
  device := "fd:01".toList
  inode := "1312".toList
  padding := 2

theorem printed_spaced : spaced.Printed where
  device_blank := by decide
  device_newline := by decide
  inode_blank := by decide
  inode_newline := by decide
  path_newline := by decide
  padded := fun _ => by decide

theorem printed_plain : plain.Printed where
  device_blank := by decide
  device_newline := by decide
  inode_blank := by decide
  inode_newline := by decide
  path_newline := by decide
  padded := fun _ => by decide

theorem printed_spaced_plain : forall r, r ∈ [spaced, plain] -> r.Printed := by
  intro r hr
  cases hr with
  | head => exact printed_spaced
  | tail _ hr =>
      cases List.mem_singleton.mp hr
      exact printed_plain

theorem paths_kept_up_to_blanks_spaced :
    (forall r, r ∈ [spaced, plain] -> r.Printed) ∧
      parse (Utf8.encode (print [spaced, plain])) = .ok [spaced.trimmed, plain.trimmed] ∧
      plain.trimmed.pathname = plain.mapping.pathname ∧
      spaced.trimmed.pathname ≠ spaced.mapping.pathname ∧
      spaced.trimmed.pathname = plain.trimmed.pathname ∧
      parse (codeLine ++ (Utf8.encode spaced.front ++ [32, 47, 255] ++ 10 :: [])) =
        .error .notText := by
  rcases paths_kept_up_to_blanks printed_spaced_plain with ⟨hmaps, hkept, hsame, hno⟩
  have hspaced : spaced ∈ [spaced, plain] := List.mem_cons_self
  have hplain : plain ∈ [spaced, plain] := List.mem_cons_of_mem _ List.mem_cons_self
  refine ⟨printed_spaced_plain, hmaps, ?_, ?_, ?_, ?_⟩
  · apply (hkept plain hplain (by decide)).mpr
    intro c hc
    cases hc
    decide
  · intro heq
    have hlast := (hkept spaced hspaced (by decide)).mp heq ' ' rfl
    cases hlast
  · apply (hsame spaced plain hspaced hplain (by decide) (by decide)).mpr
    exact ⟨"/bin/a".toList, [' '], [], by decide, by decide,
      List.forall_mem_singleton.mpr rfl, nofun⟩
  · exact hno _ _ _ _ _ (by decide) parse_codeLine (by decide) (by decide) rfl

theorem path_lost_of_spaced :
    spaced.Printed ∧ spaced.NamesFile ∧ plain.Printed ∧ plain.NamesFile ∧
      spaced.mapping.pathname ≠ plain.mapping.pathname ∧
      print [spaced, plain] =
        ("1000-2000 r-xp 00000000 fd:01 1311  /bin/a \n" ++
          "2000-3000 r-xp 00000000 fd:01 1312  /bin/a\n").toList ∧
      parse (Utf8.encode (print [spaced, plain])) =
        .ok [⟨0x1000, 0x2000, true, false, true, 0, "/bin/a"⟩,
          ⟨0x2000, 0x3000, true, false, true, 0, "/bin/a"⟩] := by
  refine ⟨printed_spaced, by decide, printed_plain, by decide, by decide, by decide, ?_⟩
  rw [parse_encode]
  rfl

end MemoryMap
end EntryStop
