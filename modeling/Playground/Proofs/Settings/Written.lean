import Playground.Proofs.Settings.Fields
import Playground.Proofs.Toml.Written

set_option autoImplicit false

/-! # Settings that are written and read back

A settings file that is written has a line for each of the nine fields, with a number or a text that
is read as it was. So nothing is lost of a field but where its line says less than the field: limits
are kept to the nanosecond and written in whole seconds, rounded down.

What is read is checked again. A limit below a second is in order, but it is written as zero, and
that is not. -/

namespace Playground

namespace Settings

open Toml

namespace Field

/-- The fields, in the order of their lines. -/
def all : List Field :=
  [.runLimit, .compileLimit, .maxConcurrent, .workspaceRoot, .pythonInterpreter, .javaCompiler,
    .javaRuntime, .cppCompiler, .cppStandard]

theorem mem_all (f : Field) : f ∈ all := by
  cases f <;> decide

theorem isBareKey_key (f : Field) : ∀ c ∈ f.key.toList, isBareKey c = true :=
  List.all_eq_true.1 (by cases f <;> decide)

theorem key_ne_nil (f : Field) : f.key.toList ≠ [] := by
  cases f <;> decide

/-- The line of a field that holds a datum. -/
def line (f : Field) : Datum → Line
  | .number n => ⟨f.key, Nat.toDigits 10 n, .integer n⟩
  | .duration d => ⟨f.key, Nat.toDigits 10 d.seconds, .integer d.seconds⟩
  | .text s => ⟨f.key, writeText s, .text s⟩

@[simp]
theorem line_key (f : Field) (d : Datum) : (f.line d).key = f.key := by
  cases d <;> rfl

end Field

/-- The lines of a settings file. -/
def lines (s : Settings) : List Line := Field.all.map fun f => f.line (s.get f)

/-- Settings whose numbers, as they are written, have a sign and no more than 63 other bits. -/
structure Fits (s : Settings) : Prop where
  runLimit : s.runLimit.seconds < 1 <<< 63
  compileLimit : s.compileLimit.seconds < 1 <<< 63
  maxConcurrent : s.maxConcurrent < 1 <<< 63

/-- The settings with limits that have been rounded down to whole seconds. -/
def inWholeSeconds (s : Settings) : Settings :=
  { s with
    runLimit := s.runLimit.inWholeSeconds
    compileLimit := s.compileLimit.inWholeSeconds }

variable {s : Settings} {text : String}

/-! ## Writing -/

theorem writeNumber?_eq_some_iff {n : Nat} {value : List Char} :
    writeNumber? n = some value ↔ n < 1 <<< 63 ∧ value = Nat.toDigits 10 n := by
  unfold writeNumber?
  generalize (1 <<< 63 : Nat) = bound
  split
  · next h => simp [h, eq_comm]
  · next h => simp [h]

/-- A settings file is its lines, and there is one exactly if the numbers fit. -/
theorem toToml?_eq_some_iff :
    s.toToml? = some text ↔ s.Fits ∧ text = String.ofList (s.lines.flatMap Line.text) := by
  have hlines : s.lines.flatMap Line.text =
      writeLine "run_timeout" (Nat.toDigits 10 s.runLimit.seconds) ++
        writeLine "compile_timeout" (Nat.toDigits 10 s.compileLimit.seconds) ++
        writeLine "max_concurrent_executions" (Nat.toDigits 10 s.maxConcurrent) ++
        writeLine "workspace_root" (writeText s.workspaceRoot) ++
        writeLine "python_interpreter" (writeText s.pythonInterpreter) ++
        writeLine "java_compiler" (writeText s.javaCompiler) ++
        writeLine "java_runtime" (writeText s.javaRuntime) ++
        writeLine "cpp_compiler" (writeText s.cppCompiler) ++
        writeLine "cpp_std" (writeText s.cppStandard) := by
    simp [lines, Field.all, Field.line, get, Line.text, Field.key]
  rw [hlines]
  simp only [toToml?, Option.bind_eq_bind, Option.bind_eq_some_iff, writeNumber?_eq_some_iff,
    Option.pure_def, Option.some.injEq]
  constructor
  · rintro ⟨run, ⟨hrun, rfl⟩, compile, ⟨hcompile, rfl⟩, most, ⟨hmost, rfl⟩, rfl⟩
    exact ⟨⟨hrun, hcompile, hmost⟩, rfl⟩
  · rintro ⟨⟨hrun, hcompile, hmost⟩, rfl⟩
    exact ⟨_, ⟨hrun, rfl⟩, _, ⟨hcompile, rfl⟩, _, ⟨hmost, rfl⟩, rfl⟩

/-! ## Reading back -/

theorem Fits.number_lt (h : s.Fits) {f : Field} {n : Nat} (hn : s.get f = .number n) :
    n < 1 <<< 63 := by
  cases f with
  | maxConcurrent =>
      cases hn
      exact h.maxConcurrent
  | _ => cases hn

theorem Fits.seconds_lt (h : s.Fits) {f : Field} {d : Duration} (hd : s.get f = .duration d) :
    d.seconds < 1 <<< 63 := by
  cases f with
  | runLimit =>
      cases hd
      exact h.runLimit
  | compileLimit =>
      cases hd
      exact h.compileLimit
  | _ => cases hd

theorem Fits.isReadable (h : s.Fits) : ∀ l ∈ s.lines, l.IsReadable := by
  intro l hl
  obtain ⟨f, -, rfl⟩ := List.mem_map.1 hl
  cases hd : s.get f with
  | number n => exact Line.isReadable_number f.key_ne_nil f.isBareKey_key (h.number_lt hd)
  | duration d => exact Line.isReadable_number f.key_ne_nil f.isBareKey_key (h.seconds_lt hd)
  | text t => exact Line.isReadable_text f.key_ne_nil f.isBareKey_key t

theorem nodup_keys (s : Settings) : (s.lines.map Line.key).Nodup := by
  have hkeys : s.lines.map Line.key = Field.all.map Field.key := by
    simp [lines, Function.comp_def]
  rw [hkeys]
  decide

/-- A node that is written means what the field held, but for the part of a second. -/
theorem takes_line (s : Settings) (f : Field) :
    f.Takes (f.line (s.get f)).node (s.inWholeSeconds.get f) := by
  cases f with
  | runLimit => exact .duration rfl _
  | compileLimit => exact .duration rfl _
  | maxConcurrent => exact .number rfl _
  | _ => exact .text rfl _

/-- What is read of a file that was written is what was written, if it is in order. -/
theorem ofToml_written (temporary : String) (h : s.toToml? = some text) :
    ofToml temporary text = s.inWholeSeconds.validate := by
  obtain ⟨hfits, rfl⟩ := toToml?_eq_some_iff.1 h
  have hmembers : ofMembers? temporary (Line.members s.lines) = some s.inWholeSeconds := by
    refine ofMembers?_eq_some_iff.2 fun f => ?_
    have hnode := get?_members s.nodup_keys (List.mem_map_of_mem (f.mem_all))
    rw [Field.line_key] at hnode
    exact .present hnode (takes_line s f)
  rw [ofToml, read?_lines hfits.isReadable s.nodup_keys, Option.bind_some, hmembers]

theorem inWholeSeconds_eq_iff :
    s.inWholeSeconds = s ↔ s.runLimit.nanos = 0 ∧ s.compileLimit.nanos = 0 := by
  rw [← Duration.inWholeSeconds_eq_iff, ← Duration.inWholeSeconds_eq_iff]
  constructor
  · intro h
    exact ⟨congrArg runLimit h, congrArg compileLimit h⟩
  · rintro ⟨hrun, hcompile⟩
    unfold inWholeSeconds
    rw [hrun, hcompile]

/-- Rounding down breaks settings only by leaving no time at all. -/
theorem validate_inWholeSeconds (h : s.validate = .ok s) :
    s.inWholeSeconds.validate =
      if s.runLimit.seconds = 0 ∨ s.compileLimit.seconds = 0 then
        .error (.system "timeouts must be non-zero")
      else .ok s.inWholeSeconds := by
  obtain ⟨-, hmost, -, -⟩ := (validate_eq_ok_iff s s).1 h
  show (if s.maxConcurrent = 0 then _ else
    if (s.runLimit.inWholeSeconds.isZero || s.compileLimit.inWholeSeconds.isZero) = true then _
      else _) = _
  simp only [hmost, if_false, Bool.or_eq_true, Duration.isZero_inWholeSeconds]

end Settings

open Settings

/-- Settings that are in order and fit can be written, and what is read of them are the same
    settings with limits rounded down to whole seconds; if less than a second was left of one of
    them, they are refused. So they come back as they were if their limits are whole seconds, and
    only then: one nanosecond more does not come back. -/
theorem settings_read_back (s : Settings) (temporary : String) (hvalid : s.validate = .ok s)
    (hfits : s.Fits) :
    ∃ text, s.toToml? = some text ∧
      (ofToml temporary text =
        if s.runLimit.seconds = 0 ∨ s.compileLimit.seconds = 0 then
          .error (.system "timeouts must be non-zero")
        else .ok s.inWholeSeconds) ∧
      (ofToml temporary text = .ok s ↔ s.runLimit.nanos = 0 ∧ s.compileLimit.nanos = 0) := by
  have htext := toToml?_eq_some_iff.2 ⟨hfits, rfl⟩
  refine ⟨_, htext, ?_, ?_⟩
  · rw [ofToml_written temporary htext, validate_inWholeSeconds hvalid]
  · rw [ofToml_written temporary htext, ← inWholeSeconds_eq_iff]
    constructor
    · intro h
      exact ((validate_eq_ok_iff _ _).1 h).1.symm
    · intro h
      rw [h, hvalid]

/-- Settings whose texts need every form that a text can be written in. -/
def Settings.quoted : Settings :=
  { Settings.default with
    runLimit := .ofSeconds 7
    workspaceRoot := "/tmp/\"a\"\n/'''b"
    pythonInterpreter := "C:\\py"
    javaCompiler := "it's \"javac\""
    javaRuntime := ""
    cppCompiler := "a\n\\b"
    cppStandard := "\u007f\t" }

theorem quoted_read_back :
    ∃ text, Settings.quoted.toToml? = some text ∧
      ofToml usualTemporary text = .ok Settings.quoted := by
  obtain ⟨text, htext, -, hback⟩ := settings_read_back Settings.quoted usualTemporary rfl
    ⟨by decide, by decide, by decide⟩
  exact ⟨text, htext, hback.2 ⟨rfl, rfl⟩⟩

/-- Half a second is enough to run, but not enough to be written down. -/
theorem half_second_lost :
    ∃ s : Settings, s = { Settings.default with runLimit := ⟨0, 500000000, by decide⟩ } ∧
      s.validate = .ok s ∧ s.Fits ∧
      ∃ text, s.toToml? = some text ∧
        ofToml usualTemporary text = .error (.system "timeouts must be non-zero") ∧
        ofToml usualTemporary text ≠ .ok s := by
  have hfits : Fits { Settings.default with runLimit := ⟨0, 500000000, by decide⟩ } :=
    ⟨by decide, by decide, by decide⟩
  have htext := toToml?_eq_some_iff.2 ⟨hfits, rfl⟩
  have hback := ofToml_written usualTemporary htext
  rw [validate_inWholeSeconds rfl] at hback
  refine ⟨_, rfl, rfl, hfits, _, htext, hback, ?_⟩
  rw [hback]
  nofun

end Playground
