import Playground.Proofs.Execution.FirstFailure

set_option autoImplicit false

/-! # Failures in words

Whoever gets a failure gets a text to read. Most texts begin with words of ours, so they are not
blank whatever follows. The one that does not is that of a program that failed, which is its own
diagnostics; and these are never blank, because they fall back from what was written as an error to
what was written at all, and from there to the status.

`Explains` ties such a text to what the host was asked and replied: behind the failure of a compiler
or a program stands one process that was watched to its end, and the text is what it left. -/

namespace Playground

open Plan (Event Runs)

/-! ## Texts that are not blank -/

/-- A text is not blank if its beginning is not. -/
theorem Text.allBlank_append {a b : String} (h : allBlank a.toList = false) :
    allBlank (a ++ b).toList = false := by
  rw [allBlank] at h
  rw [String.toList_append, allBlank, List.all_append, h, Bool.false_and]

open Text (allBlank allBlank_append)

namespace ProcessOutput

/-- What explains the failure of a process that left this. -/
structure Diagnoses (o : ProcessOutput) : Prop where
  not_blank : allBlank o.diagnostics.toList = false
  of_stderr : allBlank o.stderr.toList = false → o.diagnostics = o.stderr
  of_stdout : allBlank o.stderr.toList = true → allBlank o.stdout.toList = false →
    o.diagnostics = o.stdout
  of_status : allBlank o.stderr.toList = true → allBlank o.stdout.toList = true →
    o.diagnostics = statusLine o.status

theorem allBlank_statusLine (status : WaitStatus) :
    allBlank (statusLine status).toList = false :=
  allBlank_append (by decide)

/-- The first of the three that has something to say. -/
theorem diagnoses (o : ProcessOutput) : o.Diagnoses := by
  cases herr : allBlank o.stderr.toList with
  | false =>
      have h : o.diagnostics = o.stderr := if_pos herr
      exact ⟨by rw [h, herr], fun _ => h, by simp [herr], by simp [herr]⟩
  | true =>
      have hnot : ¬allBlank o.stderr.toList = false := by simp [herr]
      cases hout : allBlank o.stdout.toList with
      | false =>
          have h : o.diagnostics = o.stdout := (if_neg hnot).trans (if_pos hout)
          exact ⟨by rw [h, hout], by simp [herr], fun _ _ => h, by simp [hout]⟩
      | true =>
          have hnot' : ¬allBlank o.stdout.toList = false := by simp [hout]
          have h : o.diagnostics = statusLine o.status := (if_neg hnot).trans (if_neg hnot')
          refine ⟨?_, by simp [herr], by simp [hout], fun _ _ => h⟩
          rw [h]
          exact allBlank_statusLine o.status

end ProcessOutput

/-! ## Explanations -/

namespace Execution

/-- A command was run in a directory, and its process ended with this output and no success. -/
structure Fails (command : Command) (directory : String) (input : Option String) (limit : Duration)
    (events : List Event) (output : ProcessOutput) : Prop where
  unsuccessful : output.status.isSuccess = false
  watched : ∃ found path session,
    Workspace.Resolves command.program found path ∧ found ⊆ events ∧
      ⟨.watch ⟨path, command.arguments, directory, input⟩ limit, .ok session⟩ ∈ events ∧
      session.result limit = .finished output

/-- What the text of a failure tells of what the host was asked for a request and replied. -/
structure Explains (s : Settings) (r : Request) (events : List Event) (error : String)
    (kind : Kind) : Prop where
  not_blank : allBlank error.toList = false
  /-- Of a source that does not compile, the diagnostics of the compiler under a heading. -/
  of_compiler : kind = .compileFailure → ∃ l directory command output,
    Service.languageOf r = .found l ∧
      (Toolchain.ofSettings s l).compileCommand? directory = some command ∧
      Fails command directory none s.compileLimit events output ∧
      error = "Compilation error:\n" ++ output.diagnostics
  /-- Of a program that failed, its diagnostics and nothing else. -/
  of_program : kind = .runtimeFailure → ∃ l directory output,
    Service.languageOf r = .found l ∧
      Fails ((Toolchain.ofSettings s l).runCommand directory r.code) directory r.input s.runLimit
        events output ∧
      error = output.diagnostics

/-- If an outcome is a failure, it explains itself. -/
def IsExplained (s : Settings) (r : Request) (events : List Event) (outcome : Outcome) : Prop :=
  ∀ error kind, outcome = .failure error kind → Explains s r events error kind

variable {s : Settings} {r : Request} {w : Workspace} {events : List Event} {error : String}
  {kind : Kind}

/-- A failure behind which stands no process. -/
theorem isExplained_of_ne (hblank : allBlank error.toList = false)
    (hcompile : kind ≠ .compileFailure) (hrun : kind ≠ .runtimeFailure) :
    IsExplained s r events (.failure error kind) := by
  rintro _ _ ⟨⟩
  exact ⟨hblank, fun h => absurd h hcompile, fun h => absurd h hrun⟩

theorem isExplained_internal (hblank : allBlank error.toList = false) :
    IsExplained s r events (.failure error .internalFault) :=
  isExplained_of_ne hblank (by decide) (by decide)

theorem IsExplained.mono {more : List Event} {outcome : Outcome}
    (h : IsExplained s r events outcome) (hmore : events ⊆ more) :
    IsExplained s r more outcome := by
  have hfails {command : Command} {directory : String} {input : Option String} {limit : Duration}
      {output : ProcessOutput} (hf : Fails command directory input limit events output) :
      Fails command directory input limit more output := by
    obtain ⟨found, path, session, hpath, hfound, hwatch, hsession⟩ := hf.watched
    exact ⟨hf.unsuccessful, found, path, session, hpath, fun _ he => hmore (hfound he),
      hmore hwatch, hsession⟩
  intro error kind houtcome
  obtain ⟨hblank, hcompiler, hprogram⟩ := h error kind houtcome
  refine ⟨hblank, fun hk => ?_, fun hk => ?_⟩
  · obtain ⟨l, directory, command, output, hl, hcommand, hf, herror⟩ := hcompiler hk
    exact ⟨l, directory, command, output, hl, hcommand, hfails hf, herror⟩
  · obtain ⟨l, directory, output, hl, hf, herror⟩ := hprogram hk
    exact ⟨l, directory, output, hl, hfails hf, herror⟩

/-! ## From step to step -/

/-- A command whose process did not come to its end. -/
theorem isExplained_of_stopped {command : Command} {input : Option String} {limit : Duration}
    {stage : Stage} {watched : List Event} {outcome : Outcome}
    (h : w.Watches command input limit stage watched (.error outcome)) :
    IsExplained s r events outcome := by
  cases h with
  | notFound => exact isExplained_internal (allBlank_append (by decide))
  | notStarted =>
      exact isExplained_internal (allBlank_append (allBlank_append (allBlank_append (by decide))))
  | faulted => exact isExplained_internal (allBlank_append (by decide))
  | overrun =>
      exact isExplained_of_ne (allBlank_append (by cases stage <;> decide)) (by decide) (by decide)

/-- A command whose process came to its end. -/
theorem fails_of_watches {command : Command} {input : Option String} {limit : Duration}
    {stage : Stage} {output : ProcessOutput} (h : w.Watches command input limit stage events (.ok output))
    (hs : output.status.isSuccess = false) : Fails command w.path input limit events output := by
  cases h with
  | @finished found path session _ hpath hsession =>
      exact ⟨hs, found, path, session, hpath, List.subset_append_left _ _, by simp, hsession⟩

theorem Step.Ends.isExplained {l : Language} {step : Step} {outcome : Outcome}
    (hl : Service.languageOf r = .found l)
    (h : step.Ends s (Toolchain.ofSettings s l) r w events (some outcome)) :
    IsExplained s r events outcome := by
  cases h with
  | toolsMissing => exact isExplained_internal (allBlank_append (by decide))
  | rootRefused =>
      exact isExplained_internal (allBlank_append (allBlank_append (allBlank_append (by decide))))
  | directoryRefused => exact isExplained_internal (allBlank_append (by decide))
  | sourceRefused =>
      exact isExplained_internal (allBlank_append (allBlank_append (allBlank_append (by decide))))
  | compilerStopped _ hw => exact isExplained_of_stopped hw
  | programStopped hw => exact isExplained_of_stopped hw
  | ran =>
      rintro _ _ ⟨⟩
  | @sourceFaulty command _ output hc hw hs =>
      rintro _ _ ⟨⟩
      exact ⟨allBlank_append (by decide),
        fun _ => ⟨l, w.path, command, output, hl, hc, fails_of_watches hw hs, rfl⟩, by simp⟩
  | @programFailed _ output hw hs =>
      rintro _ _ ⟨⟩
      exact ⟨output.diagnoses.not_blank, by simp,
        fun _ => ⟨l, w.path, output, hl, fails_of_watches hw hs, rfl⟩⟩

/-- Whatever the host replies, an execution that fails explains itself. -/
theorem isExplained_of_runs {l : Language} {outcome : Outcome}
    (hl : Service.languageOf r = .found l)
    (h : Runs (Service.execution s l r) events outcome) : IsExplained s r events outcome := by
  obtain ⟨w, log, hproceeds, rfl⟩ := proceeds_of_runs h
  obtain ⟨earlier, last, rfl, -, hlast⟩ := hproceeds.decided_by_last
  have hends := hproceeds.ends last (by simp)
  rw [hlast] at hends
  exact (hends.isExplained hl).mono fun e he => by simp [he]

end Execution

end Playground
