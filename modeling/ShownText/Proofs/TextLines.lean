import ShownText.Proofs.EntryPoints
import ShownText.Proofs.JsonLines

namespace ShownText.Command

def lineEnds (s : String) : ℕ := s.toList.count '\n'

def linesIn (s : String) : List (List Char) := s.toList.splitOn '\n'

/-- Each text is a line of the output, and there are no other lines. -/
structure LineEach (texts : List String) (output : String) : Prop where
  count : lineEnds output = texts.length
  lines : linesIn output = texts.map String.toList ++ [[]]

/-- The lines of the texts are the lines of the output. -/
structure LinesOfAll (texts : List String) (output : String) : Prop where
  count : lineEnds output = texts.length + lineEnds (String.join texts)
  lines : linesIn output = texts.flatMap linesIn ++ [[]]
  each_iff : LineEach texts output ↔ ∀ text ∈ texts, '\n' ∉ text.toList

variable {texts : List String}

theorem lineEnds_append (s t : String) : lineEnds (s ++ t) = lineEnds s + lineEnds t := by
  rw [lineEnds, String.toList_append, List.count_append]
  rfl

theorem lineEnds_join_eq_zero_iff :
    lineEnds (String.join texts) = 0 ↔ ∀ text ∈ texts, '\n' ∉ text.toList := by
  rw [lineEnds, List.count_eq_zero, String.toList_join, List.mem_flatMap]
  push Not
  rfl

theorem linesOf_cons (text : String) (texts : List String) :
    linesOf (text :: texts) = text ++ "\n" ++ linesOf texts :=
  String.join_cons

theorem lineEnds_linesOf (texts : List String) :
    lineEnds (linesOf texts) = texts.length + lineEnds (String.join texts) := by
  induction texts with
  | nil => rfl
  | cons text texts ih =>
    have hone : lineEnds "\n" = 1 := by decide
    rw [linesOf_cons, lineEnds_append, lineEnds_append, ih, hone, String.join_cons,
      lineEnds_append, List.length_cons]
    omega

theorem linesIn_linesOf (texts : List String) :
    linesIn (linesOf texts) = texts.flatMap linesIn ++ [[]] := by
  induction texts with
  | nil => rfl
  | cons text texts ih =>
    have hend : (text ++ "\n" ++ linesOf texts).toList =
        text.toList ++ '\n' :: (linesOf texts).toList := by
      rw [String.toList_append, String.toList_append, List.append_assoc]
      rfl
    rw [linesOf_cons, linesIn, hend, List.splitOn_append_cons_self, ← linesIn, ← linesIn, ih,
      List.flatMap_cons, List.append_assoc]

theorem flatMap_linesIn (h : ∀ text ∈ texts, '\n' ∉ text.toList) :
    texts.flatMap linesIn = texts.map String.toList := by
  rw [List.map_eq_flatMap]
  apply List.flatMap_congr
  intro text htext
  exact List.splitOn_eq_singleton (h text htext)

theorem linesOfAll (texts : List String) : LinesOfAll texts (linesOf texts) where
  count := lineEnds_linesOf texts
  lines := linesIn_linesOf texts
  each_iff := by
    constructor
    · intro heach
      -- The line ends behind the texts are as many as the texts, so that the texts hold none.
      have hcount := heach.count
      rw [lineEnds_linesOf, Nat.add_eq_left] at hcount
      exact lineEnds_join_eq_zero_iff.mp hcount
    · intro hnone
      constructor
      · rw [lineEnds_linesOf, lineEnds_join_eq_zero_iff.mpr hnone, Nat.add_zero]
      · rw [linesIn_linesOf, flatMap_linesIn hnone]

theorem mem_intercalate_iff {strings : List String} :
    '\n' ∈ (" ".intercalate strings).toList ↔ ∃ s ∈ strings, '\n' ∈ s.toList := by
  induction strings with
  | nil => simp
  | cons s strings ih =>
    have hspace : '\n' ∉ " ".toList := by decide
    cases strings with
    | nil => simp
    | cons t strings =>
      rw [String.intercalate_cons_cons, String.toList_append, String.toList_append,
        List.mem_append, List.mem_append, ih, List.exists_mem_cons_iff _ s]
      simp only [hspace, or_false]

section Shown

variable [Charset.LegacyDecoders]

/-- A text that is found in a file is that of its shown strings. -/
theorem exists_source_of_shown {codec text : String} {path : SystemText}
    {contents : Except FileError (List UInt8)} (h : verdictOf codec path contents = .shown text) :
    ∃ bytes source, contents = .ok bytes ∧ (decodeText codec bytes).outcome = .ok source ∧
      text = " ".intercalate (PostScript.shownStrings source) := by
  cases contents with
  | error error => cases h
  | ok bytes =>
    rw [verdictOf, (Document.agree ⟨codec⟩ bytes).text] at h
    cases hanswer : PostScriptExtractor.answer ⟨codec⟩ bytes with
    | error fault =>
      rw [hanswer, Verdict.ofResult] at h
      split at h <;> cases h
    | ok found =>
      rw [hanswer] at h
      obtain rfl := Verdict.shown.inj h
      obtain ⟨source, hsource, htext, -⟩ :=
        (PostScriptExtractor.isTextOf_of_answer hanswer).exists_source
      exact ⟨bytes, source, rfl, hsource, htext⟩

/-- The output of a run in text mode has the lines of the texts that were found, in the order of
the files. There is one line for each text unless one of them holds a line end, which it does if
and only if its document shows a string that holds one. -/
theorem text_lines (machine : Machine) (arguments : List SystemText) (options : Options)
    (hread : readArguments arguments = .ok options) (hdebug : options.debug = false)
    (htext : options.format = .text) (hserves : machine.Serves options.threads)
    (htakes : machine.Takes options.outfile (machine.report options)) :
    (∀ files : List (SystemText × Verdict),
      LinesOfAll (files.filterMap (·.2.text?)) (outputOn .text files)) ∧
    Holds options.outfile
      (outputOn .text (reported options.keepGoing (judged machine.files options)))
      (runOn machine arguments) ∧
    ∀ path text, verdictOf options.codec path (machine.files.read path) = .shown text →
      ∃ bytes source, machine.files.read path = .ok bytes ∧
        (decodeText options.codec bytes).outcome = .ok source ∧
        ('\n' ∈ text.toList ↔ ∃ s ∈ PostScript.shownStrings source, '\n' ∈ s.toList) := by
  refine ⟨?_, ?_, ?_⟩
  · intro files
    rw [outputOn_text]
    exact linesOfAll _
  · rw [← htext, runOn_of_options machine hread]
    exact (runOptions_reports machine options hdebug hserves htakes).output
  · intro path text hshown
    obtain ⟨bytes, source, hbytes, hsource, rfl⟩ := exists_source_of_shown hshown
    exact ⟨bytes, source, hbytes, hsource, mem_intercalate_iff⟩

end Shown

open scoped Charset.LegacyDecoders.AsciiOnly

def lineEndsShown : Machine := machineWith "a.ps" "(\\n)show(\\012)show<0A>show"

theorem text_lines_of_spellings :
    readArguments ["a.ps", "a.ps"] =
      .ok ⟨["a.ps", "a.ps"], "-", "utf-8", .text, none, false, false⟩ ∧
    (runOn lineEndsShown ["a.ps", "a.ps"]).stdout = "\n \n \n\n\n \n \n\n".toUTF8.toList ∧
    LinesOfAll ["\n \n \n", "\n \n \n"] "\n \n \n\n\n \n \n\n" := by
  have hread : readArguments ["a.ps", "a.ps"] =
      .ok ⟨["a.ps", "a.ps"], "-", "utf-8", .text, none, false, false⟩ := by decide +kernel
  obtain ⟨hlines, hholds, -⟩ := text_lines lineEndsShown _ _ hread rfl rfl
    (serves_of_le rfl (by decide)) ⟨_, _, _, rfl, rfl⟩
  have hreported : reported false (judged lineEndsShown.files
      ⟨["a.ps", "a.ps"], "-", "utf-8", .text, none, false, false⟩) =
      [(("a.ps" : SystemText), .shown "\n \n \n"), ("a.ps", .shown "\n \n \n")] := by
    decide +kernel
  have houtput : outputOn .text [(("a.ps" : SystemText), .shown "\n \n \n"),
      ("a.ps", .shown "\n \n \n")] = "\n \n \n\n\n \n \n\n" := by
    decide +kernel
  rw [hreported, houtput] at hholds
  have hlines' := hlines [(("a.ps" : SystemText), .shown "\n \n \n"),
    ("a.ps", .shown "\n \n \n")]
  rw [houtput] at hlines'
  exact ⟨hread, hholds, hlines'⟩

def textOfTwoLines : Machine := machineWith "a.ps" "(a\\nb) show"

/-- One text was found, but two lines are printed. -/
theorem not_lineEach_of_two_lines :
    readArguments ["a.ps"] = .ok ⟨["a.ps"], "-", "utf-8", .text, none, false, false⟩ ∧
    judged textOfTwoLines.files ⟨["a.ps"], "-", "utf-8", .text, none, false, false⟩ =
      [(("a.ps" : SystemText), .shown "a\nb")] ∧
    (runOn textOfTwoLines ["a.ps"]).stdout = "a\nb\n".toUTF8.toList ∧
    ¬LineEach ["a\nb"] "a\nb\n" := by
  refine ⟨by decide +kernel, by decide +kernel, by decide +kernel, ?_⟩
  intro heach
  exact absurd heach.count (by decide)

end ShownText.Command
