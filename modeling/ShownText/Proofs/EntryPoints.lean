import ShownText.Proofs.Extraction

namespace ShownText

/-- The content of a record that holds an answer is this answer, so the empty text never stands in
for a missing content. -/
theorem Traced.outcome_content {x : Traced Record} {answer : Except Fault String}
    (h : x.outcome = answer.map .ofContent) :
    (x >>= fun r ↦ pure (r.content.getD "")).outcome = answer := by
  cases answer with
  | error fault => exact outcome_bind_of_error h _
  | ok text =>
    rw [outcome_bind h]
    rfl

section EntryPoints

variable [Charset.LegacyDecoders] {e : PostScriptExtractor} {bytes : List UInt8}

namespace PostScriptExtractor

/-- The text of a document, or why there is none. -/
def answer (e : PostScriptExtractor) (bytes : List UInt8) : Except Fault String := do
  let source ← (decodeText e.encoding bytes).outcome.mapError (.failed failure)
  if PostScript.shownText source = "" then throw nothingShown
  return PostScript.shownText source

theorem answer_of_charset {charset : Charset} (h : charsetOf e.encoding = .ok charset) :
    e.answer bytes =
      if PostScript.shownText (charset.decode bytes).text = "" then .error nothingShown
      else .ok (PostScript.shownText (charset.decode bytes).text) := by
  rw [answer, outcome_decodeText h]
  rfl

theorem answer_of_unknown {fault : Fault} (h : charsetOf e.encoding = .error fault) :
    e.answer bytes = .error (.failed failure fault) := by
  rw [answer, decodeText, h]
  rfl

theorem outcome_extract_eq (params : Option Params) :
    (e.extract bytes params).outcome = (e.answer bytes).map .ofContent := by
  cases h : charsetOf e.encoding with
  | error fault =>
    have hdecoded : ((decodeText e.encoding bytes).mapFault (.failed failure)).outcome =
        .error (.failed failure fault) := by
      rw [decodeText, h]
      rfl
    rw [answer_of_unknown h, extract, Traced.outcome_bind_of_error hdecoded]
    rfl
  | ok charset =>
    rw [outcome_extract h, answer_of_charset h, apply_ite (Except.map Record.ofContent)]
    rfl

/-- What it takes for a text to be the text of a document. -/
structure IsTextOf (e : PostScriptExtractor) (bytes : List UInt8) (text : String) : Prop where
  ne_empty : text ≠ ""
  exists_source : ∃ source, (decodeText e.encoding bytes).outcome = .ok source ∧
    text = PostScript.shownText source ∧ text = e.extractText source ∧
    text = (PostScript.Showing.start.acceptAll (PostScript.tokens source)).text

theorem isTextOf_of_answer {text : String} (h : e.answer bytes = .ok text) :
    e.IsTextOf bytes text := by
  cases hcharset : charsetOf e.encoding with
  | error fault =>
    rw [answer_of_unknown hcharset] at h
    cases h
  | ok charset =>
    rw [answer_of_charset hcharset] at h
    split at h
    · cases h
    · next hne =>
      obtain rfl := Except.ok.inj h
      exact ⟨hne, _, outcome_decodeText hcharset bytes, rfl, rfl, rfl⟩

end PostScriptExtractor

namespace Document

open PostScriptExtractor

theorem outcome_textOfFile {fs : FileSystem} {path : SystemText} (h : fs.map path = .ok bytes) :
    (textOfFile e fs path).outcome = e.answer bytes := by
  rw [textOfFile, h]
  exact Traced.outcome_content (outcome_extract_eq _)

/-- Whichever way the text of one document is asked for, the answer is the same. -/
structure Agree (e : PostScriptExtractor) (bytes : List UInt8) (answer : Except Fault String) :
    Prop where
  extract (params : Option Params) : (e.extract bytes params).outcome = answer.map .ofContent
  record (params : Option Params) : (record e bytes params).outcome = answer.map .ofContent
  text : (text e bytes).outcome = answer
  textOfFile (fs : FileSystem) (path : SystemText) :
    fs.map path = .ok bytes → (textOfFile e fs path).outcome = answer

theorem agree (e : PostScriptExtractor) (bytes : List UInt8) : Agree e bytes (e.answer bytes) where
  extract params := outcome_extract_eq params
  record params := outcome_extract_eq params
  text := Traced.outcome_content (outcome_extract_eq none)
  textOfFile _ _ hmap := outcome_textOfFile hmap

theorem textsOn_of_ok {pools : ThreadPools} {threads : Option ℕ} {collect : Collect}
    (h : pools.build (threadCount pools.offered threads) = .ok collect)
    (documents : List (List UInt8)) :
    textsOn pools e threads documents = .ok (documents.map (text e)) := by
  rw [textsOn, h]
  exact congrArg Except.ok (pools.inOrder h _ documents)

theorem textsOn_of_error {pools : ThreadPools} {threads : Option ℕ} {refusal : Refusal}
    (h : pools.build (threadCount pools.offered threads) = .error refusal)
    (documents : List (List UInt8)) :
    textsOn pools e threads documents = .error (poolFailure refusal) := by
  rw [textsOn, h]

/-- All entry points agree on a document, also where it is one of many and there are threads to
share them. What they answer is the shown text of the document, which is never empty. -/
theorem entry_points_agree (pools : ThreadPools) (e : PostScriptExtractor) :
    (∀ bytes, Agree e bytes (e.answer bytes)) ∧
    (∀ (threads : Option ℕ) (documents : List (List UInt8)),
      match pools.build (threadCount pools.offered threads) with
      | .ok _ => ∃ results, textsOn pools e threads documents = .ok results ∧
          results.map Traced.outcome = documents.map e.answer
      | .error refusal => textsOn pools e threads documents = .error (poolFailure refusal)) ∧
    ∀ bytes text, e.answer bytes = .ok text → e.IsTextOf bytes text := by
  refine ⟨agree e, fun threads documents ↦ ?_, fun _ _ ↦ isTextOf_of_answer⟩
  split
  · next hbuild =>
    refine ⟨_, textsOn_of_ok hbuild documents, ?_⟩
    rw [List.map_map]
    apply List.map_congr_left
    intro bytes _
    exact (agree e bytes).text
  · next hbuild => exact textsOn_of_error hbuild documents

end Document

end EntryPoints

namespace Document

open scoped Charset.LegacyDecoders.AsciiOnly

/-- Up to eight threads, of which one takes the second half of the documents. -/
def halves : ThreadPools where
  offered := some 4
  build n :=
    if n ≤ 8 then .ok fun f documents ↦
      (documents.take (documents.length / 2)).map f ++ (documents.drop (documents.length / 2)).map f
    else .error ⟨"Resource temporarily unavailable (os error 11)", []⟩
  inOrder := by
    intro n collect hbuild f documents
    split at hbuild
    · obtain rfl := Except.ok.inj hbuild
      dsimp only
      rw [← List.map_append, List.take_append_drop]
    · cases hbuild

theorem entry_points_agree_of_halves :
    (∃ results, textsOn halves {} (some 0) ["(a)show <62>show".toUTF8.toList, [], [0x28, 0xFF]] =
      .ok results ∧ results.map Traced.outcome =
        [.ok "a b", .error PostScriptExtractor.nothingShown,
          .error PostScriptExtractor.nothingShown]) ∧
    textsOn halves {} (some 9) [[]] =
      .error (poolFailure ⟨"Resource temporarily unavailable (os error 11)", []⟩) := by
  obtain ⟨-, htexts, -⟩ := entry_points_agree halves {}
  obtain ⟨results, hresults, houtcomes⟩ :=
    htexts (some 0) ["(a)show <62>show".toUTF8.toList, [], [0x28, 0xFF]]
  refine ⟨⟨results, hresults, houtcomes.trans ?_⟩, htexts (some 9) [[]]⟩
  decide +kernel

end Document

end ShownText
