import Playground.CommandLine
import Playground.Http.Application

set_option autoImplicit false

/-! # Starting

The check of the settings decides whether a service starts, and with it the application, up to one
thing that it does not look at: how many slots can be counted. Settings that pass the check and ask
for more than `Service.maxSlots` are not refused; starting with them aborts.

Settings from a file and from flags have passed the check before (`validate_of_layered`), so starting
refuses none of them. -/

namespace Playground

variable {s t : Settings} {f : Failure} {temporary : String}

/-! ## Checked settings -/

namespace Settings

/-- Settings that cannot be used are not the fault of those who send programs. -/
theorem kind_of_validate (h : s.validate = .error f) : f.kind = .internalFault := by
  unfold validate at h
  split at h
  · cases h
    rfl
  · split at h
    · cases h
      rfl
    · cases h

theorem validate_of_validate (h : s.validate = .ok t) : t.validate = .ok t := by
  obtain ⟨rfl, -⟩ := (validate_eq_ok_iff s t).1 h
  exact h

/-- The settings of a file are checked on their own first, but what counts is the check of what the
    flags have made of them. -/
theorem validate_of_layered {file : Option (Except Failure Settings)} {o : Overrides}
    (h : layered temporary file o = .ok s) : s.validate = .ok s := by
  unfold layered at h
  cases hbase : file.getD (.ok (defaultIn temporary)) with
  | error e =>
      rw [hbase] at h
      cases h
  | ok base =>
      rw [hbase] at h
      exact validate_of_validate h

/-- Settings that pass the check come out of it as they are. -/
theorem validate_cases (s : Settings) :
    s.validate = .ok s ∨ ∃ f, s.validate = .error f ∧ f.kind = .internalFault := by
  cases h : s.validate with
  | ok t => exact .inl (by rw [((validate_eq_ok_iff s t).1 h).1])
  | error f => exact .inr ⟨f, rfl, kind_of_validate h⟩

end Settings

/-! ## Starting -/

open Http (Application)

namespace Service

theorem start_of_error (h : s.validate = .error f) : start s = .refused f := by
  rw [start, h]

theorem start_of_le (h : s.validate = .ok s) (hslots : s.maxConcurrent ≤ maxSlots) :
    start s = .ready ⟨s, s.maxConcurrent, []⟩ := by
  rw [start, h]
  exact if_pos hslots

theorem start_of_lt (h : s.validate = .ok s) (hslots : maxSlots < s.maxConcurrent) :
    start s = .aborted := by
  rw [start, h]
  exact if_neg (Nat.not_le_of_lt hslots)

end Service

/-- What comes of the check of the settings decides how a service starts, and how the application
    does: refused with an internal fault if it is one, else ready with all slots free, as long as
    the host can count them. -/
inductive StartsAsChecked (s : Settings) : Prop where
  | refused {f : Failure} (hcheck : s.validate = .error f) (hkind : f.kind = .internalFault)
      (hservice : Service.start s = .refused f)
      (happlication : Application.start s = .refused (.failed f))
  | ready (hcheck : s.validate = .ok s) (hslots : s.maxConcurrent ≤ Service.maxSlots)
      (hservice : Service.start s = .ready ⟨s, s.maxConcurrent, []⟩)
      (happlication : Application.start s = .ready ⟨⟨s, s.maxConcurrent, []⟩⟩)
  | aborted (hcheck : s.validate = .ok s) (hslots : Service.maxSlots < s.maxConcurrent)
      (hservice : Service.start s = .aborted) (happlication : Application.start s = .aborted)

theorem startsAsChecked (s : Settings) : StartsAsChecked s := by
  obtain hcheck | ⟨f, hcheck, hkind⟩ := s.validate_cases
  · obtain hslots | hslots := Nat.lt_or_ge Service.maxSlots s.maxConcurrent
    · have hservice := Service.start_of_lt hcheck hslots
      exact .aborted hcheck hslots hservice (by rw [Application.start, hservice])
    · have hservice := Service.start_of_le hcheck hslots
      exact .ready hcheck hslots hservice (by rw [Application.start, hservice])
  · have hservice := Service.start_of_error hcheck
    exact .refused hcheck hkind hservice (by rw [Application.start, hservice])

/-- A number of slots that fits into 64 bits and passes the check, and that no service starts
    with. -/
theorem aborted_of_flag :
    let arguments : CommandLine.Arguments := ⟨none, none, some 2305843009213693952, none, none⟩
    let s : Settings := { Settings.default with maxConcurrent := 2305843009213693952 }
    2305843009213693952 < UInt64.size ∧
      arguments.settings Settings.usualTemporary (fun _ => .error .notFound) = .ok s ∧
      s.validate = .ok s ∧ Service.start s = .aborted ∧ Application.start s = .aborted := by
  intro arguments s
  exact ⟨by decide, rfl, rfl, rfl, rfl⟩

/-- Whatever a file and the flags say, settings that were read from them are not refused when the
    application starts. -/
theorem start_of_settings {arguments : CommandLine.Arguments}
    {readFile : String → Except HostError String}
    (h : arguments.settings temporary readFile = .ok s) :
    Application.start s = .ready ⟨⟨s, s.maxConcurrent, []⟩⟩ ∨
      Application.start s = .aborted ∧ Service.maxSlots < s.maxConcurrent := by
  have hvalid : s.validate = .ok s := Settings.validate_of_layered h
  obtain hslots | hslots := Nat.lt_or_ge Service.maxSlots s.maxConcurrent
  · exact .inr ⟨by rw [Application.start, Service.start_of_lt hvalid hslots], hslots⟩
  · exact .inl (by rw [Application.start, Service.start_of_le hvalid hslots])

end Playground
