import ShownText.Command.Machine
import ShownText.Proofs.Files
import ShownText.Proofs.Utf8

namespace ShownText.Command

def Verdict.output (format : OutputFormat) (path : SystemText) (v : Verdict) : String :=
  match format, v with
  | .text, .shown text => text ++ "\n"
  | .text, _ => ""
  | .json, _ => (v.toFileRecord path.shown).toJson.render ++ "\n"

theorem Verdict.join_pieces (writer : JsonWriter) (format : OutputFormat) (path : SystemText)
    (v : Verdict) : String.join (v.pieces writer format path) = v.output format path := by
  cases format with
  | text => cases v <;> simp [pieces, output]
  | json =>
    have hpieces : v.pieces writer .json path =
        writer.pieces (v.toFileRecord path.shown).toJson ++ ["\n"] := by
      cases v <;> rfl
    rw [hpieces, String.join_append, writer.join_pieces]
    cases v <;> simp [output]

structure Report where
  output : String
  complaints : String
  failed : Bool
  deriving DecidableEq, Repr

namespace Report

def start : Report := ⟨"", "", false⟩

def add (format : OutputFormat) (r : Report) (path : SystemText) (v : Verdict) : Report where
  output := r.output ++ v.output format path
  complaints := r.complaints ++ v.complaint path
  failed := r.failed || v.isFailure

def addAll (options : Options) (r : Report) : List (SystemText × Verdict) → Report
  | [] => r
  | (path, v) :: files =>
    let r := r.add options.format path v
    if v.isFailure && !options.keepGoing then r else r.addAll options files

def exit (r : Report) : Exit := ⟨if r.failed then 1 else 0, r.complaints⟩

theorem addAll_cons (options : Options) (r : Report) (path : SystemText) (v : Verdict)
    (files : List (SystemText × Verdict)) :
    r.addAll options ((path, v) :: files) = (r.add options.format path v).addAll options
      (if v.isFailure && !options.keepGoing then [] else files) := by
  rw [addAll]
  split <;> rfl

theorem exists_output_addAll (options : Options) (r : Report)
    (files : List (SystemText × Verdict)) :
    ∃ more, (r.addAll options files).output = r.output ++ more := by
  induction files generalizing r with
  | nil => exact ⟨"", String.append_empty.symm⟩
  | cons f files ih =>
    obtain ⟨path, v⟩ := f
    rw [addAll_cons]
    split
    · exact ⟨_, rfl⟩
    · obtain ⟨more, hmore⟩ := ih (r.add options.format path v)
      exact ⟨v.output options.format path ++ more, hmore.trans String.append_assoc⟩

end Report

namespace World

variable {sink : Sink ℕ} {w w' : World} {error : FileError} {text : String}

@[simp] theorem send_empty (sink : Sink ℕ) (w : World) : w.send sink "" = (none, w) := by
  have hempty : "".toUTF8.toList = [] := by
    rw [Text.toList_eq_data]
    rfl
  cases sink with
  | stdout => rw [send, hempty, Stream.append_nil]
  | file id => rw [send, hempty, FileSystem.append_nil]

theorem send_append (sink : Sink ℕ) (s t : String) (w : World) :
    w.send sink (s ++ t) =
      match w.send sink s with
      | (none, w') => w'.send sink t
      | (some error, w') => (some error, w') := by
  cases sink with
  | stdout =>
    simp only [send, Text.toUTF8_append, Stream.append_append]
    cases w.stdout.append s.toUTF8.toList with
    | mk error stdout => cases error <;> rfl
  | file id =>
    simp only [send, Text.toUTF8_append, FileSystem.append_append]
    cases w.files.append id s.toUTF8.toList with
    | mk error files => cases error <;> rfl

theorem send_append_of_none (h : w.send sink text = (none, w')) (more : String) :
    w.send sink (text ++ more) = w'.send sink more := by
  rw [send_append, h]

theorem send_append_of_some (h : w.send sink text = (some error, w')) (more : String) :
    w.send sink (text ++ more) = (some error, w') := by
  rw [send_append, h]

end World

theorem run_bind_of {α β : Type} {x : StateM World α} {w w' : World} {a : α}
    (h : x.run w = (a, w')) (f : α → StateM World β) : (x >>= f).run w = (f a).run w' := by
  rw [StateT.run_bind, h]
  rfl

abbrev Writing (α : Type) := ExceptT String (StateM World) α

theorem run_bind_of_ok {α β : Type} {x : Writing α} {w w' : World} {a : α}
    (h : x.run.run w = (.ok a, w')) (f : α → Writing β) :
    (x >>= f).run.run w = (f a).run.run w' := by
  rw [ExceptT.run_bind, run_bind_of h]

theorem run_bind_of_error {α β : Type} {x : Writing α} {w w' : World} {reason : String}
    (h : x.run.run w = (.error reason, w')) (f : α → Writing β) :
    (x >>= f).run.run w = (.error reason, w') := by
  rw [ExceptT.run_bind, run_bind_of h]
  rfl

variable {sink : Sink ℕ} {start w w' : World} {output buffer : String}

theorem put_run (sink : Sink ℕ) (text : String) (w : World) :
    (put worldAccess sink text).run.run w = w.put sink text := by
  cases sink <;> rfl

theorem put_run_of_none {text : String} (h : w.send sink text = (none, w')) :
    (put worldAccess sink text).run.run w = (.ok (), w') := by
  rw [put_run, World.put, h]

theorem put_run_of_some {text : String} {error : FileError}
    (h : w.send sink text = (some error, w')) :
    (put worldAccess sink text).run.run w = (.error error.message, w') := by
  rw [put_run, World.put, h]

/-- What has gone out since the start and what is in the buffer make up the output. -/
def Pending (sink : Sink ℕ) (start : World) (output buffer : String) (w : World) : Prop :=
  ∃ sent, output = sent ++ buffer ∧ start.send sink sent = (none, w)

def Delivers (sink : Sink ℕ) (start : World) (output : String) :
    Except String String × World → Prop
  | (.ok buffer, w) => Pending sink start output buffer w
  | (.error reason, w) => ∃ error, reason = FileError.message error ∧
      start.send sink output = (some error, w)

theorem Pending.send (h : Pending sink start output buffer w) :
    w.send sink buffer = start.send sink output := by
  obtain ⟨sent, rfl, hsent⟩ := h
  rw [World.send_append_of_none hsent]

theorem pending_of_send (h : start.send sink output = (none, w)) : Pending sink start output "" w :=
  ⟨output, String.append_empty.symm, h⟩

theorem Pending.push (h : Pending sink start output buffer w) (piece : String) :
    Pending sink start (output ++ piece) (buffer ++ piece) w := by
  obtain ⟨sent, rfl, hsent⟩ := h
  exact ⟨sent, String.append_assoc, hsent⟩

theorem delivers_bind {x : Writing String} {f : String → Writing String} {more : String}
    (hx : Delivers sink start output (x.run.run w))
    (hf : ∀ buffer w', x.run.run w = (.ok buffer, w') → Pending sink start output buffer w' →
      Delivers sink start (output ++ more) ((f buffer).run.run w')) :
    Delivers sink start (output ++ more) ((x >>= f).run.run w) := by
  cases hrun : x.run.run w with
  | mk answer w' =>
    rw [hrun] at hx
    cases answer with
    | ok buffer =>
      rw [run_bind_of_ok hrun]
      exact hf buffer w' hrun hx
    | error reason =>
      obtain ⟨error, rfl, hsend⟩ := hx
      rw [run_bind_of_error hrun]
      exact ⟨error, rfl, World.send_append_of_some hsend more⟩

theorem delivers_put {text : String} (h : w.send sink text = start.send sink output) :
    Delivers sink start output
      ((put worldAccess sink text >>= fun _ ↦ (return "" : Writing String)).run.run w) := by
  cases hsend : w.send sink text with
  | mk answer w' =>
    rw [hsend] at h
    cases answer with
    | none =>
      rw [run_bind_of_ok (put_run_of_none hsend)]
      exact pending_of_send h.symm
    | some error =>
      rw [run_bind_of_error (put_run_of_some hsend)]
      exact ⟨error, rfl, h.symm⟩

/-- If a piece fills the buffer by itself, making room for it leaves the buffer empty. -/
theorem delivers_makeRoom (h : Pending sink start output buffer w) (piece : String) :
    Delivers sink start output ((makeRoom worldAccess sink piece buffer).run.run w) ∧
      ∀ buffer' w', (makeRoom worldAccess sink piece buffer).run.run w = (.ok buffer', w') →
        bufferSize ≤ piece.utf8ByteSize → buffer' = "" := by
  rw [makeRoom]
  split
  · refine ⟨delivers_put h.send, fun buffer' w' hrun _ ↦ ?_⟩
    cases hsend : w.send sink buffer with
    | mk answer w'' =>
      cases answer with
      | none =>
        rw [run_bind_of_ok (put_run_of_none hsend)] at hrun
        cases hrun
        rfl
      | some error =>
        rw [run_bind_of_error (put_run_of_some hsend)] at hrun
        cases hrun
  · next hfits =>
    refine ⟨h, fun buffer' w' hrun hlarge ↦ ?_⟩
    cases hrun
    apply String.utf8ByteSize_eq_zero_iff.mp
    omega

theorem delivers_write (h : Pending sink start output buffer w) (piece : String) :
    Delivers sink start (output ++ piece) ((write worldAccess sink buffer piece).run.run w) := by
  obtain ⟨hroom, hempty⟩ := delivers_makeRoom h piece
  refine delivers_bind hroom fun buffer' w' hrun hpending ↦ ?_
  split
  · next hlarge =>
    obtain rfl := hempty buffer' w' hrun hlarge
    obtain ⟨sent, hsent, hsend⟩ := hpending
    rw [String.append_empty] at hsent
    refine delivers_put ?_
    rw [hsent, World.send_append_of_none hsend]
  · exact hpending.push piece

theorem delivers_pieces (h : Pending sink start output buffer w) (pieces : List String) :
    Delivers sink start (output ++ String.join pieces)
      ((pieces.foldlM (write worldAccess sink) buffer).run.run w) := by
  induction pieces generalizing output buffer w with
  | nil =>
    rw [String.join_nil, String.append_empty]
    exact h
  | cons piece pieces ih =>
    rw [List.foldlM_cons, String.join_cons, ← String.append_assoc]
    exact delivers_bind (delivers_write h piece) fun buffer' w' _ hpending ↦ ih hpending

structure Reached (sink : Sink ℕ) (start : World) (r : Report) (p : Progress) (w : World) :
    Prop where
  output : Pending sink start r.output p.buffer w
  complaints : p.stderr = r.complaints
  failed : p.failed = r.failed

/-- How a run ends that reports on the files. If not all of the report can be written, the run ends
somewhere on the way. -/
def Ends (sink : Sink ℕ) (start : World) (options : Options) (r : Report)
    (files : List (SystemText × Verdict)) (result : Exit × World) : Prop :=
  match start.send sink (r.addAll options files).output with
  | (none, w) => result = ((r.addAll options files).exit, w)
  | (some error, w) => ∃ done, done <+: files ∧
      result = (⟨1, (r.addAll options done).complaints ++ failureText error.message []⟩, w)

variable {r : Report} {p : Progress}

theorem Reached.ends_finish (h : Reached sink start r p w) (options : Options) :
    Ends sink start options r [] ((finish worldAccess sink p).run w) := by
  rw [Ends, Report.addAll, ← h.output.send, finish]
  cases hsend : w.send sink p.buffer with
  | mk answer w' =>
    cases answer with
    | none =>
      rw [run_bind_of (put_run_of_none hsend), Report.exit, ← h.complaints, ← h.failed]
      rfl
    | some error =>
      refine ⟨[], List.prefix_rfl, ?_⟩
      rw [run_bind_of (put_run_of_some hsend), Report.addAll, ← h.complaints]
      rfl

/-- A run that ends with the files left after the first one ends with all of them. -/
theorem Ends.cons {options : Options} {path : SystemText} {v : Verdict}
    {files : List (SystemText × Verdict)} {result : Exit × World}
    (h : Ends sink start options (r.add options.format path v)
      (if v.isFailure && !options.keepGoing then [] else files) result) :
    Ends sink start options r ((path, v) :: files) result := by
  rw [Ends, ← Report.addAll_cons] at h
  rw [Ends]
  split
  · next hsend =>
    rw [hsend] at h
    exact h
  · next hsend =>
    rw [hsend] at h
    obtain ⟨done, hdone, hresult⟩ := h
    refine ⟨(path, v) :: done, List.cons_prefix_cons.mpr ⟨rfl, ?_⟩, ?_⟩
    · split at hdone
      · exact hdone.trans List.nil_prefix
      · exact hdone
    · rw [hresult, Report.addAll_cons]
      split
      · next hstop =>
        rw [if_pos hstop, List.prefix_nil] at hdone
        rw [hdone]
      · rfl

/-- However the output was cut into pieces and by the buffer, a run delivers the report on its
files, as far as it can be written. -/
theorem Reached.ends (writer : JsonWriter) (options : Options) (h : Reached sink start r p w)
    (files : List (SystemText × Verdict)) :
    Ends sink start options r files
      ((reportAll worldAccess sink writer options p files).run w) := by
  induction files generalizing r p w with
  | nil => exact h.ends_finish options
  | cons f files ih =>
    obtain ⟨path, v⟩ := f
    have hdelivers := delivers_pieces h.output (v.pieces writer options.format path)
    rw [Verdict.join_pieces] at hdelivers
    rw [reportAll]
    cases hrun : ((v.pieces writer options.format path).foldlM (write worldAccess sink)
        p.buffer).run.run w with
    | mk answer w' =>
      rw [hrun] at hdelivers
      rw [run_bind_of hrun]
      cases answer with
      | error reason =>
        obtain ⟨error, rfl, hsend⟩ := hdelivers
        obtain ⟨more, hmore⟩ := Report.exists_output_addAll options (r.add options.format path v)
          (if v.isFailure && !options.keepGoing then [] else files)
        have hbroken : start.send sink ((r.add options.format path v).output ++ more) =
            (some error, w') := World.send_append_of_some hsend more
        rw [Ends, Report.addAll_cons, hmore, hbroken]
        refine ⟨[], List.nil_prefix, ?_⟩
        rw [Report.addAll, ← h.complaints]
        rfl
      | ok buffer =>
        have hreached : Reached sink start (r.add options.format path v) (p.add path v buffer) w' :=
          ⟨hdelivers, congrArg (· ++ v.complaint path) h.complaints,
            congrArg (· || v.isFailure) h.failed⟩
        apply Ends.cons
        cases hstop : v.isFailure && !options.keepGoing with
        | true => exact hreached.ends_finish options
        | false => exact ih hreached

end ShownText.Command
