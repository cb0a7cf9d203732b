import ShownText.Proofs.Reporting

namespace ShownText.Command

open FileSystem

section Opened

variable {machine : Machine} {outfile text : String} {sink : Sink ℕ} {w : World}

end Opened

section OutputFile

variable [Charset.LegacyDecoders] {machine : Machine} {options : Options}

/-- A run leaves the files as they were, or as sending a text to its output leaves them. -/
theorem EndsAs.files {run : Run} (h : EndsAs machine options run) : run.files = machine.files ∨
    ∃ sink w text, machine.openOutput options.outfile = .ok (sink, w) ∧
      run.files = (w.send sink text).2.files := by
  cases h with
  | noThreads hbuild => exact .inl rfl
  | notOpened hclosed => exact .inl rfl
  | broken hopen hsend hdone => exact .inr ⟨_, _, _, hopen, by rw [hsend]; rfl⟩
  | reported hopen hsend => exact .inr ⟨_, _, _, hopen, by rw [hsend]; rfl⟩

end OutputFile

open scoped Charset.LegacyDecoders.AsciiOnly

end ShownText.Command
