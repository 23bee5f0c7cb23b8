import Playground.Settings

set_option autoImplicit false

/-! # The fields of the settings

Settings are nine fields, each with a key of its own in a file. What a node of a file means for a
field is said here once for all of them (`Field.Takes`): a duration is given in whole seconds, a
number must not be negative, all else is text.

Reading a file is reading each field by itself (`ofMembers?_eq_some_iff`), and checking settings
looks at three of them (`validate_eq_ok_iff_isValid`). -/

namespace Playground.Settings

open Toml

inductive Field where
  | runLimit
  | compileLimit
  | maxConcurrent
  | workspaceRoot
  | pythonInterpreter
  | javaCompiler
  | javaRuntime
  | cppCompiler
  | cppStandard
  deriving DecidableEq, Repr

/-- What a field holds. -/
inductive Datum where
  | number (n : Nat)
  | duration (d : Duration)
  | text (s : String)
  deriving DecidableEq, Repr

inductive Kind where
  | number
  | duration
  | text
  deriving DecidableEq, Repr

def Datum.kind : Datum → Kind
  | .number _ => .number
  | .duration _ => .duration
  | .text _ => .text

variable {s t : Settings} {f : Field} {file : Members} {d : Datum} {temporary : String}

/-- What settings say of a field. -/
def get (s : Settings) : Field → Datum
  | .runLimit => .duration s.runLimit
  | .compileLimit => .duration s.compileLimit
  | .maxConcurrent => .number s.maxConcurrent
  | .workspaceRoot => .text s.workspaceRoot
  | .pythonInterpreter => .text s.pythonInterpreter
  | .javaCompiler => .text s.javaCompiler
  | .javaRuntime => .text s.javaRuntime
  | .cppCompiler => .text s.cppCompiler
  | .cppStandard => .text s.cppStandard

theorem Datum.exists_number (h : d.kind = .number) : ∃ n, d = .number n := by
  cases d with
  | number n => exact ⟨n, rfl⟩
  | _ => cases h

theorem Datum.exists_duration (h : d.kind = .duration) : ∃ e, d = .duration e := by
  cases d with
  | duration e => exact ⟨e, rfl⟩
  | _ => cases h

theorem Datum.exists_text (h : d.kind = .text) : ∃ s, d = .text s := by
  cases d with
  | text s => exact ⟨s, rfl⟩
  | _ => cases h

/-- Settings are no more than their fields. -/
theorem eq_of_get_eq (h : s.get = t.get) : s = t := by
  have hrun : s.runLimit = t.runLimit := Datum.duration.inj (congrFun h .runLimit)
  have hcompile : s.compileLimit = t.compileLimit := Datum.duration.inj (congrFun h .compileLimit)
  have hmost : s.maxConcurrent = t.maxConcurrent := Datum.number.inj (congrFun h .maxConcurrent)
  have htext {f : Field} {a b : String} (hs : s.get f = .text a) (ht : t.get f = .text b) :
      a = b := Datum.text.inj (hs.symm.trans ((congrFun h f).trans ht))
  have hroot := htext (f := .workspaceRoot) rfl rfl
  have hpython := htext (f := .pythonInterpreter) rfl rfl
  have hjavac := htext (f := .javaCompiler) rfl rfl
  have hjava := htext (f := .javaRuntime) rfl rfl
  have hcpp := htext (f := .cppCompiler) rfl rfl
  have hstandard := htext (f := .cppStandard) rfl rfl
  cases s
  cases t
  simp only at hrun hcompile hmost hroot hpython hjavac hjava hcpp hstandard
  subst hrun hcompile hmost hroot hpython hjavac hjava hcpp hstandard
  rfl

namespace Field

/-- The key of a field in a file. -/
def key : Field → String
  | .runLimit => "run_timeout"
  | .compileLimit => "compile_timeout"
  | .maxConcurrent => "max_concurrent_executions"
  | .workspaceRoot => "workspace_root"
  | .pythonInterpreter => "python_interpreter"
  | .javaCompiler => "java_compiler"
  | .javaRuntime => "java_runtime"
  | .cppCompiler => "cpp_compiler"
  | .cppStandard => "cpp_std"

def kind : Field → Kind
  | .runLimit => .duration
  | .compileLimit => .duration
  | .maxConcurrent => .number
  | _ => .text

/-- What a node of a file means for a field. Nodes of other kinds mean nothing to it. -/
inductive Takes : Field → Node → Datum → Prop where
  | number {f : Field} (hf : f.kind = .number) (n : Nat) : Takes f (.integer n) (.number n)
  | duration {f : Field} (hf : f.kind = .duration) (seconds : Nat) :
      Takes f (.integer seconds) (.duration (.ofSeconds seconds))
  | text {f : Field} (hf : f.kind = .text) (s : String) : Takes f (.text s) (.text s)

/-- What a file says of a field: what the node at its key means, and the default if there is none. -/
inductive IsRead (temporary : String) (file : Members) (f : Field) : Datum → Prop where
  | absent (h : file.get? f.key = none) : IsRead temporary file f ((defaultIn temporary).get f)
  | present {n : Node} {d : Datum} (h : file.get? f.key = some n) (hd : f.Takes n d) :
      IsRead temporary file f d

end Field

/-- Values of the right kind are those of some settings. -/
theorem exists_get_eq {v : Field → Datum} (h : ∀ f, (v f).kind = f.kind) :
    ∃ s : Settings, s.get = v := by
  obtain ⟨run, hrun⟩ := Datum.exists_duration (h .runLimit)
  obtain ⟨compile, hcompile⟩ := Datum.exists_duration (h .compileLimit)
  obtain ⟨most, hmost⟩ := Datum.exists_number (h .maxConcurrent)
  obtain ⟨root, hroot⟩ := Datum.exists_text (h .workspaceRoot)
  obtain ⟨python, hpython⟩ := Datum.exists_text (h .pythonInterpreter)
  obtain ⟨javac, hjavac⟩ := Datum.exists_text (h .javaCompiler)
  obtain ⟨java, hjava⟩ := Datum.exists_text (h .javaRuntime)
  obtain ⟨cpp, hcpp⟩ := Datum.exists_text (h .cppCompiler)
  obtain ⟨standard, hstandard⟩ := Datum.exists_text (h .cppStandard)
  refine ⟨⟨run, compile, most, root, python, javac, java, cpp, standard⟩, funext fun f => ?_⟩
  cases f <;> simp only [get, *]

/-! ## Reading a file -/

theorem isRead_of_absent (h : file.get? f.key = none) :
    f.IsRead temporary file d ↔ d = (defaultIn temporary).get f := by
  constructor
  · rintro (_ | ⟨hn, -⟩)
    · rfl
    · rw [h] at hn
      cases hn
  · rintro rfl
    exact .absent h

theorem isRead_of_present {n : Node} (h : file.get? f.key = some n) :
    f.IsRead temporary file d ↔ f.Takes n d := by
  constructor
  · rintro (hn | ⟨hn, hd⟩)
    · rw [h] at hn
      cases hn
    · rw [h] at hn
      cases hn
      exact hd
  · exact .present h

theorem Field.Takes.kind_eq {n : Node} (h : f.Takes n d) : d.kind = f.kind := by
  cases h with
  | number hf => exact hf.symm
  | duration hf => exact hf.symm
  | text hf => exact hf.symm

theorem Field.Takes.unique {n : Node} {d' : Datum} (h : f.Takes n d) (h' : f.Takes n d') :
    d = d' := by
  have hkind : d.kind = d'.kind := h.kind_eq.trans h'.kind_eq.symm
  generalize hn : n = n' at h'
  cases h with
  | number _ n =>
      cases h' with
      | number _ n' => rw [Int.ofNat.inj (Node.integer.inj hn)]
      | _ => cases hkind
  | duration _ n =>
      cases h' with
      | duration _ n' => rw [Int.ofNat.inj (Node.integer.inj hn)]
      | _ => cases hkind
  | text _ s =>
      cases h' with
      | text _ s' => rw [Node.text.inj hn]
      | _ => cases hkind

theorem Field.IsRead.kind_eq (h : f.IsRead temporary file d) : d.kind = f.kind := by
  cases h with
  | absent => cases f <;> rfl
  | present _ hd => exact hd.kind_eq

theorem textField_eq_some_iff {text fallback : String} (hf : f.kind = .text)
    (hdefault : (defaultIn temporary).get f = .text fallback) :
    textField file f.key fallback = some text ↔ f.IsRead temporary file (.text text) := by
  unfold textField
  cases h : file.get? f.key with
  | none =>
      rw [isRead_of_absent h, hdefault]
      simp [eq_comm]
  | some n =>
      rw [isRead_of_present h]
      constructor
      · intro htext
        cases n <;> cases htext
        exact .text hf _
      · rintro (_ | _ | _)
        rfl

theorem numberField_eq_some_iff {n fallback : Nat} (hf : f.kind = .number)
    (hdefault : (defaultIn temporary).get f = .number fallback) :
    numberField file f.key fallback = some n ↔ f.IsRead temporary file (.number n) := by
  unfold numberField
  cases h : file.get? f.key with
  | none =>
      rw [isRead_of_absent h, hdefault]
      simp [eq_comm]
  | some node =>
      rw [isRead_of_present h]
      constructor
      · intro hn
        cases node with
        | integer i =>
            obtain ⟨hi, rfl⟩ : 0 ≤ i ∧ i.toNat = n := by simpa using hn
            have htakes := Field.Takes.number hf i.toNat
            rwa [Int.toNat_of_nonneg hi] at htakes
        | _ => cases hn
      · rintro (_ | _ | _)
        simp

theorem limitField_eq_some_iff {limit fallback : Duration} (hf : f.kind = .duration)
    (hdefault : (defaultIn temporary).get f = .duration fallback) :
    limitField file f.key fallback = some limit ↔ f.IsRead temporary file (.duration limit) := by
  unfold limitField
  cases h : file.get? f.key with
  | none =>
      rw [isRead_of_absent h, hdefault]
      simp [eq_comm]
  | some node =>
      rw [isRead_of_present h]
      constructor
      · intro hlimit
        cases node with
        | integer i =>
            obtain ⟨hi, rfl⟩ : 0 ≤ i ∧ .ofSeconds i.toNat = limit := by simpa using hlimit
            have htakes := Field.Takes.duration hf i.toNat
            rwa [Int.toNat_of_nonneg hi] at htakes
        | _ => cases hlimit
      · rintro (_ | _ | _)
        simp

/-- A file is read field by field: it gives settings if each of its nine keys, where it is there,
    has a node that means something for the field. -/
theorem ofMembers?_eq_some_iff :
    ofMembers? temporary file = some s ↔ ∀ f : Field, f.IsRead temporary file (s.get f) := by
  constructor
  · intro h
    simp only [ofMembers?, Option.bind_eq_bind, Option.bind_eq_some_iff, Option.pure_def,
      Option.some.injEq] at h
    obtain ⟨run, hrun, compile, hcompile, most, hmost, root, hroot, python, hpython, javac, hjavac,
      java, hjava, cpp, hcpp, standard, hstandard, rfl⟩ := h
    intro f
    cases f with
    | runLimit => exact (limitField_eq_some_iff (f := .runLimit) rfl rfl).1 hrun
    | compileLimit => exact (limitField_eq_some_iff (f := .compileLimit) rfl rfl).1 hcompile
    | maxConcurrent => exact (numberField_eq_some_iff (f := .maxConcurrent) rfl rfl).1 hmost
    | workspaceRoot => exact (textField_eq_some_iff (f := .workspaceRoot) rfl rfl).1 hroot
    | pythonInterpreter => exact (textField_eq_some_iff (f := .pythonInterpreter) rfl rfl).1 hpython
    | javaCompiler => exact (textField_eq_some_iff (f := .javaCompiler) rfl rfl).1 hjavac
    | javaRuntime => exact (textField_eq_some_iff (f := .javaRuntime) rfl rfl).1 hjava
    | cppCompiler => exact (textField_eq_some_iff (f := .cppCompiler) rfl rfl).1 hcpp
    | cppStandard => exact (textField_eq_some_iff (f := .cppStandard) rfl rfl).1 hstandard
  · intro h
    have hlimit (f : Field) (hf : f.kind = .duration) {limit fallback : Duration}
        (hd : s.get f = .duration limit)
        (hdefault : (defaultIn temporary).get f = .duration fallback) :
        limitField file f.key fallback = some limit :=
      (limitField_eq_some_iff hf hdefault).2 (hd ▸ h f)
    have htext (f : Field) (hf : f.kind = .text) {text fallback : String}
        (hd : s.get f = .text text) (hdefault : (defaultIn temporary).get f = .text fallback) :
        textField file f.key fallback = some text :=
      (textField_eq_some_iff hf hdefault).2 (hd ▸ h f)
    have hmost : numberField file Field.maxConcurrent.key (defaultIn temporary).maxConcurrent =
        some s.maxConcurrent :=
      (numberField_eq_some_iff rfl rfl).2 (h .maxConcurrent)
    have hrun := hlimit .runLimit rfl rfl rfl
    have hcompile := hlimit .compileLimit rfl rfl rfl
    have hroot := htext .workspaceRoot rfl rfl rfl
    have hpython := htext .pythonInterpreter rfl rfl rfl
    have hjavac := htext .javaCompiler rfl rfl rfl
    have hjava := htext .javaRuntime rfl rfl rfl
    have hcpp := htext .cppCompiler rfl rfl rfl
    have hstandard := htext .cppStandard rfl rfl rfl
    simp only [Field.key] at hmost hrun hcompile hroot hpython hjavac hjava hcpp hstandard
    simp [ofMembers?, hmost, hrun, hcompile, hroot, hpython, hjavac, hjava, hcpp, hstandard]

/-! ## Checking -/

/-- Values of the fields that settings may have: something can run, and has time to. -/
def IsValid (v : Field → Datum) : Prop :=
  v .maxConcurrent ≠ .number 0 ∧ v .runLimit ≠ .duration (.ofSeconds 0) ∧
    v .compileLimit ≠ .duration (.ofSeconds 0)

instance (v : Field → Datum) : Decidable (IsValid v) := inferInstanceAs (Decidable (_ ∧ _ ∧ _))

/-- The defaults pass the check. -/
theorem isValid_defaultIn (temporary : String) : IsValid (defaultIn temporary).get := by
  simp [IsValid, get, defaultIn, Duration.ofSeconds]

theorem validate_eq_ok_iff_isValid : s.validate = .ok t ↔ t = s ∧ IsValid s.get := by
  rw [validate_eq_ok_iff]
  simp [IsValid, get, Duration.isZero_eq_false_iff]

end Playground.Settings
