import ShownText.Proofs.Buffering
import ShownText.Proofs.EntryPoints

namespace ShownText.Command

def upToFailure (files : List (SystemText × Verdict)) : List (SystemText × Verdict) :=
  files.takeWhile (!·.2.isFailure) ++ (files.find? (·.2.isFailure)).toList

def reported (keepGoing : Bool) (files : List (SystemText × Verdict)) :
    List (SystemText × Verdict) :=
  if keepGoing then files else upToFailure files

def outputOn (format : OutputFormat) (files : List (SystemText × Verdict)) : String :=
  String.join (files.map fun f ↦ f.2.output format f.1)

def complaintsOn (files : List (SystemText × Verdict)) : String :=
  String.join (files.map fun f ↦ f.2.complaint f.1)

theorem reported_cons (keepGoing : Bool) (f : SystemText × Verdict)
    (files : List (SystemText × Verdict)) :
    reported keepGoing (f :: files) =
      f :: if f.2.isFailure && !keepGoing then [] else reported keepGoing files := by
  cases keepGoing with
  | true => simp [reported]
  | false => cases hf : f.2.isFailure <;> simp [reported, upToFailure, hf]

/-- Reporting on the first files only is reporting on the first of those that are reported on. -/
theorem reported_isPrefix_of_isPrefix (keepGoing : Bool) {done files : List (SystemText × Verdict)}
    (h : done <+: files) : reported keepGoing done <+: reported keepGoing files := by
  induction done generalizing files with
  | nil => cases keepGoing <;> exact List.nil_prefix
  | cons f done ih =>
    obtain ⟨others, rfl⟩ := h
    rw [List.cons_append, reported_cons, reported_cons]
    refine List.cons_prefix_cons.mpr ⟨rfl, ?_⟩
    split
    · exact List.prefix_rfl
    · exact ih (List.prefix_append done others)

theorem Report.addAll_eq (options : Options) (r : Report) (files : List (SystemText × Verdict)) :
    r.addAll options files =
      ⟨r.output ++ outputOn options.format (reported options.keepGoing files),
        r.complaints ++ complaintsOn (reported options.keepGoing files),
        r.failed || files.any (·.2.isFailure)⟩ := by
  induction files generalizing r with
  | nil => cases options.keepGoing <;> simp [addAll, reported, upToFailure, outputOn, complaintsOn]
  | cons f files ih =>
    obtain ⟨path, v⟩ := f
    rw [addAll, reported_cons]
    dsimp only
    split
    · next hstop =>
      -- The failure is the last that is written about, whatever the others are.
      have hv : v.isFailure = true := (Bool.and_eq_true_iff.mp hstop).1
      simp [add, outputOn, complaintsOn, hv]
    · rw [ih]
      simp [add, outputOn, complaintsOn, String.append_assoc, Bool.or_assoc]

def answer (fs : FileSystem) (path : SystemText) : Except String (List UInt8) :=
  (fs.read path).mapError FileError.message

def inputs (fs : FileSystem) (paths : List SystemText) : Inputs :=
  paths.foldr (fun path ↦ .cons path (answer fs path)) .empty

theorem readInputs_run (w : World) (paths : List SystemText) :
    (readInputs worldAccess paths).run w = (inputs w.files paths, w) := by
  induction paths with
  | nil => rfl
  | cons path paths ih =>
    have hcons : (readInputs worldAccess (path :: paths)).run w =
        (Inputs.cons path (answer w.files path) ((readInputs worldAccess paths).run w).1,
          ((readInputs worldAccess paths).run w).2) := rfl
    rw [hcons, ih]
    rfl

/-- The output that is opened under a name, and what opening it makes of the machine. -/
def Machine.openOutput (machine : Machine) (outfile : String) :
    Except FileError (Sink ℕ × World) :=
  if outfile = "-" then .ok (.stdout, machine.world)
  else (machine.files.create outfile).map fun (id, files) ↦
    (.file id, { machine.world with files })

section Opening

variable {machine : Machine} {outfile : String}

theorem create_run_of_ok {w : World} {path : SystemText} {id : ℕ} {files : FileSystem}
    (h : w.files.create path = .ok (id, files)) :
    (worldAccess.create path).run.run w = (.ok id, { w with files }) := by
  change w.create path = _
  rw [World.create, h]

theorem create_run_of_error {w : World} {path : SystemText} {error : FileError}
    (h : w.files.create path = .error error) :
    (worldAccess.create path).run.run w = (.error error.message, w) := by
  change w.create path = _
  rw [World.create, h]

/-- Opening either changes nothing or creates a file. -/
theorem openOutput_eq_ok {sink : Sink ℕ} {w : World}
    (h : machine.openOutput outfile = .ok (sink, w)) :
    (outfile = "-" ∧ sink = .stdout ∧ w = machine.world) ∨
      ∃ id files, outfile ≠ "-" ∧ machine.files.create outfile = .ok (id, files) ∧
        sink = .file id ∧ w = { machine.world with files } := by
  rw [Machine.openOutput] at h
  split at h
  · next hdash =>
    cases h
    exact .inl ⟨hdash, rfl, rfl⟩
  · next hfile =>
    cases hcreate : machine.files.create outfile with
    | error error =>
      rw [hcreate] at h
      cases h
    | ok created =>
      rw [hcreate] at h
      cases h
      exact .inr ⟨_, _, hfile, rfl, rfl, rfl⟩

theorem openSink_run_of_ok {sink : Sink ℕ} {w : World}
    (h : machine.openOutput outfile = .ok (sink, w)) :
    (openSink worldAccess outfile).run.run machine.world = (.ok sink, w) := by
  rw [openSink]
  obtain ⟨rfl, rfl, rfl⟩ | ⟨id, files, hfile, hcreate, rfl, rfl⟩ := openOutput_eq_ok h
  · rfl
  · rw [if_neg hfile]
    exact run_bind_of_ok (create_run_of_ok hcreate) _

theorem openSink_run_of_error {error : FileError}
    (h : machine.openOutput outfile = .error error) :
    (openSink worldAccess outfile).run.run machine.world =
      (.error error.message, machine.world) := by
  rw [Machine.openOutput] at h
  rw [openSink]
  split at h
  · cases h
  · next hdash =>
    rw [if_neg hdash]
    cases hcreate : machine.files.create outfile with
    | error error =>
      rw [hcreate] at h
      cases h
      exact run_bind_of_error (create_run_of_error hcreate) _
    | ok created =>
      rw [hcreate] at h
      cases h

def Machine.Serves (machine : Machine) (threads : Option ℕ) : Prop :=
  ∃ collect,
    machine.pools.build (Document.threadCount machine.pools.offered threads) = .ok collect

def Machine.Opens (machine : Machine) (outfile : String) : Prop :=
  ∃ opened, machine.openOutput outfile = .ok opened

theorem not_serves_of_error {threads : Option ℕ} {refusal : Refusal}
    (h : machine.pools.build (Document.threadCount machine.pools.offered threads) =
      .error refusal) : ¬machine.Serves threads := by
  rintro ⟨collect, hcollect⟩
  rw [h] at hcollect
  cases hcollect

theorem not_opens_of_error {error : FileError} (h : machine.openOutput outfile = .error error) :
    ¬machine.Opens outfile := by
  rintro ⟨opened, hopened⟩
  rw [h] at hopened
  cases hopened

def Machine.Takes (machine : Machine) (outfile text : String) : Prop :=
  ∃ sink w w', machine.openOutput outfile = .ok (sink, w) ∧ w.send sink text = (none, w')

theorem takes_iff {text : String} : machine.Takes outfile text ↔
    (machine.openOutput outfile).toOption.any
      (fun opened ↦ (opened.2.send opened.1 text).1.isNone) = true := by
  rw [Option.any_eq_true]
  constructor
  · rintro ⟨sink, w, w', hopen, hsend⟩
    exact ⟨(sink, w), by rw [hopen]; rfl, by rw [hsend]; rfl⟩
  · rintro ⟨⟨sink, w⟩, hopen, hsend⟩
    refine ⟨sink, w, (w.send sink text).2, ?_, Prod.ext (Option.isNone_iff_eq_none.mp hsend) rfl⟩
    cases hopened : machine.openOutput outfile with
    | error error =>
      rw [hopened] at hopen
      cases hopen
    | ok opened =>
      rw [hopened] at hopen
      rw [Option.some.inj hopen]

instance decidableTakes (text : String) : Decidable (machine.Takes outfile text) :=
  decidable_of_iff' _ takes_iff

/-- The text, and nothing else, is where the output goes. -/
def Holds (outfile text : String) (run : Run) : Prop :=
  if outfile = "-" then run.stdout = text.toUTF8.toList
  else run.stdout = [] ∧ run.files.Keeps outfile text.toUTF8.toList

theorem holds_of_send {text : String} {sink : Sink ℕ} {w w' : World}
    (hopen : machine.openOutput outfile = .ok (sink, w)) (hsend : w.send sink text = (none, w'))
    (exit : Exit) : Holds outfile text (.ofExit exit w') := by
  obtain ⟨hnone, rfl⟩ := Prod.mk.inj hsend
  rw [Holds]
  obtain ⟨rfl, rfl, rfl⟩ | ⟨id, files, hfile, hcreate, rfl, rfl⟩ := openOutput_eq_ok hopen
  · rw [if_pos rfl]
    exact (Stream.bytes_of_append (Prod.ext hnone rfl)).trans (List.nil_append _)
  · rw [if_neg hfile]
    exact ⟨rfl, FileSystem.keeps_append hcreate (Prod.ext hnone rfl)⟩

end Opening

theorem reached_start (sink : Sink ℕ) (w : World) : Reached sink w .start {} w :=
  ⟨⟨"", rfl, World.send_empty sink w⟩, rfl, rfl⟩

section Reporting

variable [Charset.LegacyDecoders]

/-- What becomes of a file by itself, given what reading it answers. -/
def verdictOf (codec : String) (path : SystemText) : Except FileError (List UInt8) → Verdict
  | .error error => .failed (path.shown ++ ": " ++ error.message)
  | .ok bytes => .ofResult (Document.text ⟨codec⟩ bytes).outcome

def judged (fs : FileSystem) (options : Options) : List (SystemText × Verdict) :=
  options.files.map fun path ↦ (path, verdictOf options.codec path (fs.read path))

theorem verdicts_inputs (fs : FileSystem) (codec : String) (paths : List SystemText) :
    verdicts ((inputs fs paths).contents.map (Document.text ⟨codec⟩)) (inputs fs paths).failures =
      paths.map fun path ↦ verdictOf codec path (fs.read path) := by
  induction paths with
  | nil => rfl
  | cons path paths ih =>
    rw [List.map_cons, ← ih, inputs, List.foldr_cons, ← inputs, answer]
    cases fs.read path with
    | error error => rfl
    | ok bytes => rfl

theorem zip_verdicts (fs : FileSystem) (options : Options) :
    options.files.zip (verdicts
      ((inputs fs options.files).contents.map (Document.text ⟨options.codec⟩))
      (inputs fs options.files).failures) = judged fs options := by
  rw [verdicts_inputs, judged, List.map_prod_left_eq_zip]

def Machine.report (machine : Machine) (options : Options) : String :=
  outputOn options.format (reported options.keepGoing (judged machine.files options))

def openFailure (outfile : String) (error : FileError) : String :=
  failureText ("Failed to create output file " ++ outfile) [error.message]

/-- The ways in which a run can end. -/
inductive EndsAs (machine : Machine) (options : Options) : Run → Prop
  | noThreads {refusal : Refusal}
      (hbuild : machine.pools.build (Document.threadCount machine.pools.offered options.threads) =
        .error refusal) :
      EndsAs machine options ⟨1, [], failureText (Document.poolFailure refusal).message
        (Document.poolFailure refusal).causes, machine.files⟩
  | notOpened {error : FileError} (hopen : machine.openOutput options.outfile = .error error) :
      EndsAs machine options ⟨1, [], openFailure options.outfile error, machine.files⟩
  | broken {sink : Sink ℕ} {w w' : World} {error : FileError}
      {done : List (SystemText × Verdict)}
      (hopen : machine.openOutput options.outfile = .ok (sink, w))
      (hsend : w.send sink (machine.report options) = (some error, w'))
      (hdone : done <+: reported options.keepGoing (judged machine.files options)) :
      EndsAs machine options
        (.ofExit ⟨1, complaintsOn done ++ failureText error.message []⟩ w')
  | reported {sink : Sink ℕ} {w w' : World}
      (hopen : machine.openOutput options.outfile = .ok (sink, w))
      (hsend : w.send sink (machine.report options) = (none, w')) :
      EndsAs machine options
        (.ofExit ⟨if (judged machine.files options).any (·.2.isFailure) then 1 else 0,
          complaintsOn (Command.reported options.keepGoing (judged machine.files options))⟩ w')

variable {machine : Machine} {arguments : List SystemText} {options : Options}

theorem endsAs_of_ends {sink : Sink ℕ} {w : World} {result : Exit × World}
    (hopen : machine.openOutput options.outfile = .ok (sink, w))
    (h : Ends sink w options .start (judged machine.files options) result) :
    EndsAs machine options (.ofExit result.1 result.2) := by
  simp only [Ends, Report.addAll_eq, Report.start, String.empty_append, Bool.false_or] at h
  split at h
  · next hsend =>
    subst h
    exact .reported hopen hsend
  · next hsend =>
    obtain ⟨done, hdone, rfl⟩ := h
    exact .broken hopen hsend (reported_isPrefix_of_isPrefix options.keepGoing hdone)

theorem endsAs_runOptions (machine : Machine) (hdebug : options.debug = false) :
    EndsAs machine options (runOptions machine options) := by
  rw [runOptions, runWith, run_bind_of (readInputs_run machine.world options.files)]
  cases hbuild : machine.pools.build
      (Document.threadCount machine.pools.offered options.threads) with
  | error refusal =>
    rw [Document.textsOn_of_error hbuild]
    exact .noThreads hbuild
  | ok collect =>
    rw [Document.textsOn_of_ok hbuild]
    -- Without debugging there is no log before the complaints.
    simp only [hdebug, Bool.false_eq_true, if_false, String.empty_append]
    cases hopen : machine.openOutput options.outfile with
    | error error =>
      rw [run_bind_of (openSink_run_of_error hopen)]
      exact .notOpened hopen
    | ok opened =>
      obtain ⟨sink, w⟩ := opened
      rw [run_bind_of (openSink_run_of_ok hopen)]
      have hends := (reached_start sink w).ends machine.writer options
        (judged machine.files options)
      rw [← zip_verdicts] at hends
      exact endsAs_of_ends hopen ((zip_verdicts machine.files options) ▸ hends)

theorem runOn_of_options (machine : Machine) (hread : readArguments arguments = .ok options) :
    runOn machine arguments = runOptions machine options := by
  rw [runOn, run, hread]
  rfl

/-- A run whose report can all be written. -/
theorem runOptions_of_takes (machine : Machine) (options : Options)
    (hdebug : options.debug = false) (hserves : machine.Serves options.threads)
    {sink : Sink ℕ} {w w' : World} (hopen : machine.openOutput options.outfile = .ok (sink, w))
    (hsend : w.send sink (machine.report options) = (none, w')) :
    runOptions machine options =
      .ofExit ⟨if (judged machine.files options).any (·.2.isFailure) then 1 else 0,
        complaintsOn (reported options.keepGoing (judged machine.files options))⟩ w' := by
  have hends := endsAs_runOptions machine hdebug
  generalize runOptions machine options = result at hends
  cases hends with
  | noThreads hbuild => exact absurd hserves (not_serves_of_error hbuild)
  | notOpened hclosed => exact absurd ⟨_, hopen⟩ (not_opens_of_error hclosed)
  | broken hopen' hbroken =>
    rw [hopen] at hopen'
    cases hopen'
    rw [hsend] at hbroken
    cases hbroken
  | reported hopen' hsend' =>
    rw [hopen] at hopen'
    cases hopen'
    rw [hsend] at hsend'
    cases hsend'
    rfl

structure Reports (options : Options) (files : List (SystemText × Verdict)) (run : Run) :
    Prop where
  code : run.code = if files.any (·.2.isFailure) then 1 else 0
  complaints : run.stderr = complaintsOn (reported options.keepGoing files)
  output : Holds options.outfile (outputOn options.format (reported options.keepGoing files)) run

theorem runOptions_reports (machine : Machine) (options : Options) (hdebug : options.debug = false)
    (hserves : machine.Serves options.threads)
    (htakes : machine.Takes options.outfile (machine.report options)) :
    Reports options (judged machine.files options) (runOptions machine options) := by
  obtain ⟨sink, w, w', hopen, hsend⟩ := htakes
  rw [runOptions_of_takes machine options hdebug hserves hopen hsend]
  exact ⟨rfl, rfl, holds_of_send hopen hsend _⟩

end Reporting

open scoped Charset.LegacyDecoders.AsciiOnly

def someTools : Tools where
  pools := Document.halves
  writer := ⟨fun value ↦ [value.render], fun value ↦ by simp⟩
  manual := ⟨fun _ ↦ "", fun _ ↦ ""⟩

def machineWith (name : SystemText) (document : String) : Machine where
  toTools := someTools
  files :=
    ((FileSystem.fresh ["work"]).placeFile ["work", name]
      (.ofBytes document.toUTF8.toList)).placeFile ["dev", "full"]
      { stream.limit := some ⟨0, .noSpace⟩, device := some [] }

theorem serves_of_le {machine : Machine} {threads : Option ℕ}
    (hpools : machine.pools = Document.halves)
    (hthreads : Document.threadCount (some 4) threads ≤ 8) : machine.Serves threads := by
  rw [Machine.Serves, hpools]
  exact ⟨_, if_pos hthreads⟩

end ShownText.Command
