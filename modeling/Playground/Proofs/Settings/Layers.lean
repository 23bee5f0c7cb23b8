import Playground.CommandLine
import Playground.Proofs.Service.Start
import Playground.Proofs.Settings.Fields

set_option autoImplicit false

/-! # Layers of settings

The settings that the program runs with are three layers: what flags set lies over what the file
sets, and that over the defaults. A `Layer` says of each field what is set there, if anything; so
the layers of a field are its own, and what is done to one field cannot show in another.

The file has to be in order by itself, even where flags cover what is wrong with it, and so has the
result. If one of them is not, there are no settings at all. -/

namespace Playground

namespace Settings

open Toml

/-- What is set, for each field. -/
abbrev Layer := Field → Option Datum

/-- A layer over values that show where it sets nothing. -/
def Layer.over (top : Layer) (below : Field → Datum) : Field → Datum :=
  fun f => (top f).getD (below f)

/-- What flags set. -/
def Overrides.layer (o : Overrides) : Layer
  | .maxConcurrent => o.maxConcurrent.map .number
  | .runLimit => o.runSeconds.map fun seconds => .duration (.ofSeconds seconds)
  | .compileLimit => o.compileSeconds.map fun seconds => .duration (.ofSeconds seconds)
  | _ => none

/-- The layer is what the table of a file sets: each field whose key is there, and no other. So
    there is none if some node means nothing for its field. -/
structure Layer.IsOf (layer : Layer) (file : Members) : Prop where
  absent : ∀ f : Field, file.get? f.key = none → layer f = none
  present : ∀ (f : Field) (n : Node), file.get? f.key = some n → ∃ d, f.Takes n d ∧ layer f = some d

/-- The layer is what the file at a path sets, which can be read, and as a table; or no file is
    named, and nothing is set. -/
inductive IsFileLayer (readFile : String → Except HostError String) : Option String → Layer → Prop
    where
  | unnamed : IsFileLayer readFile none fun _ => none
  | named {path text : String} {file : Members} {layer : Layer} (htext : readFile path = .ok text)
      (hfile : Toml.read? text = some file) (hlayer : layer.IsOf file) :
      IsFileLayer readFile (some path) layer

variable {s t : Settings} {f : Field} {file : Members} {layer : Layer} {o : Overrides}
  {readFile : String → Except HostError String} {path? : Option String} {temporary : String}

/-! ## One layer over another -/

theorem get_override (s : Settings) (o : Overrides) : (s.override o).get = o.layer.over s.get := by
  obtain ⟨most, run, compile⟩ := o
  funext f
  cases f with
  | runLimit => cases run <;> rfl
  | compileLimit => cases compile <;> rfl
  | maxConcurrent => cases most <;> rfl
  | _ => rfl

/-- A table that can be read has a layer. -/
theorem exists_layer (h : ofMembers? temporary file = some s) :
    ∃ layer : Layer, layer.IsOf file ∧ s.get = layer.over (defaultIn temporary).get := by
  rw [ofMembers?_eq_some_iff] at h
  refine ⟨fun f => if (file.get? f.key).isSome then some (s.get f) else none,
    ⟨fun f hnone => by simp [hnone], fun f n hn => ?_⟩, ?_⟩
  · exact ⟨s.get f, (isRead_of_present hn).1 (h f), by simp [hn]⟩
  · funext f
    cases hn : file.get? f.key with
    | none => simp [Layer.over, hn, (isRead_of_absent hn).1 (h f)]
    | some n => simp [Layer.over, hn]

theorem Layer.IsOf.isRead (h : layer.IsOf file) (f : Field) :
    f.IsRead temporary file (layer.over (defaultIn temporary).get f) := by
  cases hn : file.get? f.key with
  | none => exact (isRead_of_absent hn).2 (by simp [Layer.over, h.absent f hn])
  | some n =>
      obtain ⟨d, hd, hlayer⟩ := h.present f n hn
      exact (isRead_of_present hn).2 (by simpa [Layer.over, hlayer] using hd)

theorem Layer.IsOf.ofMembers?_eq (h : layer.IsOf file)
    (hs : s.get = layer.over (defaultIn temporary).get) :
    ofMembers? temporary file = some s :=
  ofMembers?_eq_some_iff.2 fun f => by rw [hs]; exact h.isRead f

/-- What a file says of all fields together, settings say too. -/
theorem IsFileLayer.exists_settings (h : IsFileLayer readFile path? layer) :
    ∃ s : Settings, s.get = layer.over (defaultIn temporary).get := by
  cases h with
  | unnamed => exact ⟨defaultIn temporary, rfl⟩
  | named _ _ hlayer => exact exists_get_eq fun f => (hlayer.isRead f).kind_eq

/-! ## The settings of a file -/

theorem ofToml_eq_ok_iff {text : String} :
    ofToml temporary text = .ok s ↔ ∃ file, Toml.read? text = some file ∧
      ofMembers? temporary file = some s ∧ IsValid s.get := by
  unfold ofToml
  cases hbase : (Toml.read? text).bind (ofMembers? temporary) with
  | none =>
      refine iff_of_false nofun ?_
      rintro ⟨file, hfile, hs, -⟩
      rw [hfile, Option.bind_some, hs] at hbase
      cases hbase
  | some base =>
      obtain ⟨file, hfile, hbase⟩ := Option.bind_eq_some_iff.1 hbase
      rw [validate_eq_ok_iff_isValid]
      constructor
      · rintro ⟨rfl, hvalid⟩
        exact ⟨file, hfile, hbase, hvalid⟩
      · rintro ⟨file', hfile', hs, hvalid⟩
        obtain rfl : file = file' := Option.some.inj (hfile.symm.trans hfile')
        obtain rfl : base = s := Option.some.inj (hbase.symm.trans hs)
        exact ⟨rfl, hvalid⟩

/-- The settings that a file gives, or the defaults if no file is named, are those of its layer,
    and they are valid by themselves. -/
theorem base_eq_ok_iff :
    (path?.map fun path => ofFile temporary path (readFile path)).getD
        (.ok (defaultIn temporary)) = .ok s ↔
      ∃ layer, IsFileLayer readFile path? layer ∧ IsValid (layer.over (defaultIn temporary).get) ∧
        s.get = layer.over (defaultIn temporary).get := by
  cases path? with
  | none =>
      constructor
      · rintro ⟨⟩
        exact ⟨_, .unnamed, isValid_defaultIn temporary, rfl⟩
      · rintro ⟨layer, ⟨⟩, -, hs⟩
        rw [eq_of_get_eq hs]
        rfl
  | some path =>
      simp only [Option.map_some, Option.getD_some]
      constructor
      · intro h
        unfold ofFile at h
        cases htext : readFile path with
        | error e =>
            rw [htext] at h
            cases h
        | ok text =>
            rw [htext] at h
            obtain ⟨file, hfile, hs, hvalid⟩ := ofToml_eq_ok_iff.1 h
            obtain ⟨layer, hlayer, hget⟩ := exists_layer hs
            exact ⟨layer, .named htext hfile hlayer, hget ▸ hvalid, hget⟩
      · rintro ⟨layer, hlayer, hvalid, hs⟩
        cases hlayer with
        | named htext hfile hlayer =>
        unfold ofFile
        rw [htext]
        exact ofToml_eq_ok_iff.2 ⟨_, hfile, hlayer.ofMembers?_eq hs, hs ▸ hvalid⟩

/-! ## The settings of the program -/

theorem layered_eq_ok_iff {base : Option (Except Failure Settings)} :
    layered temporary base o = .ok s ↔ ∃ t, base.getD (.ok (defaultIn temporary)) = .ok t ∧
      IsValid (o.layer.over t.get) ∧ s.get = o.layer.over t.get := by
  unfold layered
  cases base.getD (.ok (defaultIn temporary)) with
  | error e => exact iff_of_false nofun (by simp)
  | ok t =>
      show (t.override o).validate = .ok s ↔ _
      rw [validate_eq_ok_iff_isValid, get_override]
      constructor
      · rintro ⟨rfl, hvalid⟩
        exact ⟨t, rfl, hvalid, get_override t o⟩
      · rintro ⟨t', ⟨⟩, hvalid, hs⟩
        exact ⟨eq_of_get_eq (hs.trans (get_override t o).symm), hvalid⟩

theorem Layer.IsOf.unique {layer' : Layer} (h : layer.IsOf file) (h' : layer'.IsOf file) :
    layer = layer' := by
  funext f
  cases hn : file.get? f.key with
  | none => rw [h.absent f hn, h'.absent f hn]
  | some n =>
      obtain ⟨d, hd, hlayer⟩ := h.present f n hn
      obtain ⟨d', hd', hlayer'⟩ := h'.present f n hn
      rw [hlayer, hlayer', hd.unique hd']

/-- There is one layer at most for a file. -/
theorem IsFileLayer.unique {layer' : Layer} (h : IsFileLayer readFile path? layer)
    (h' : IsFileLayer readFile path? layer') : layer = layer' := by
  cases h with
  | unnamed =>
      cases h'
      rfl
  | named htext hfile hlayer =>
      cases h' with
      | named htext' hfile' hlayer' =>
          obtain rfl := Except.ok.inj (htext.symm.trans htext')
          obtain rfl := Option.some.inj (hfile.symm.trans hfile')
          exact hlayer.unique hlayer'

/-- There are settings if the layers are there and in order, and they are what the layers say. -/
theorem settings_eq_ok_iff (a : CommandLine.Arguments) (temporary : String)
    (readFile : String → Except HostError String) (s : Settings) :
    a.settings temporary readFile = .ok s ↔
      ∃ file, IsFileLayer readFile a.config file ∧ IsValid (file.over (defaultIn temporary).get) ∧
        IsValid (a.overrides.layer.over (file.over (defaultIn temporary).get)) ∧
        s.get = a.overrides.layer.over (file.over (defaultIn temporary).get) := by
  rw [CommandLine.Arguments.settings, layered_eq_ok_iff]
  constructor
  · rintro ⟨base, hbase, hvalid, hs⟩
    obtain ⟨file, hfile, hok, hget⟩ := base_eq_ok_iff.1 hbase
    rw [hget] at hvalid hs
    exact ⟨file, hfile, hok, hvalid, hs⟩
  · rintro ⟨file, hfile, hok, hvalid, hs⟩
    obtain ⟨base, hbase⟩ := hfile.exists_settings
    refine ⟨base, base_eq_ok_iff.2 ⟨file, hfile, hok, hbase⟩, ?_⟩
    rw [hbase]
    exact ⟨hvalid, hs⟩

theorem kind_of_ofFile {path : String} {text : Except HostError String} {e : Failure}
    (h : ofFile temporary path text = .error e) : e.kind = .internalFault := by
  unfold ofFile at h
  cases text with
  | error _ =>
      cases h
      rfl
  | ok text =>
      simp only [ofToml] at h
      split at h
      · exact kind_of_validate h
      · cases h
        rfl

/-- Settings that there are not are nobody's fault who sends programs. -/
theorem kind_of_layered {e : Failure}
    (h : layered temporary (path?.map fun path => ofFile temporary path (readFile path)) o =
      .error e) :
    e.kind = .internalFault := by
  unfold layered at h
  cases path? with
  | none => exact kind_of_validate h
  | some path =>
      simp only [Option.map_some, Option.getD_some] at h
      cases hbase : ofFile temporary path (readFile path) with
      | error e' =>
          rw [hbase] at h
          cases h
          exact kind_of_ofFile hbase
      | ok s =>
          rw [hbase] at h
          exact kind_of_validate h

end Settings

open Settings CommandLine

/-- The settings of the program are layers. There are settings exactly if the file that is named can
    be read, is a settings file and is in order by itself, and so is what the flags make of it; and
    then each field is what its flag says, else what the file says, else the default. Otherwise
    there is a fault and nothing else. A field depends on its own flag and its own key alone. -/
theorem settings_are_layered (a : Arguments) (temporary : String)
    (readFile : String → Except HostError String) :
    (∀ s, a.settings temporary readFile = .ok s ↔
      ∃ file, IsFileLayer readFile a.config file ∧ IsValid (file.over (defaultIn temporary).get) ∧
        IsValid (a.overrides.layer.over (file.over (defaultIn temporary).get)) ∧
        s.get = a.overrides.layer.over (file.over (defaultIn temporary).get)) ∧
    (∀ s, a.settings temporary readFile = .ok s →
      1 ≤ s.maxConcurrent ∧ 0 < s.runLimit.nanoseconds ∧ 0 < s.compileLimit.nanoseconds) ∧
    (∀ e, a.settings temporary readFile = .error e → e.kind = .internalFault) ∧
    ∀ (b : Arguments) (readOther : String → Except HostError String) (s t : Settings)
      (f : Field) (file other : Layer),
      a.settings temporary readFile = .ok s → b.settings temporary readOther = .ok t →
      IsFileLayer readFile a.config file → IsFileLayer readOther b.config other →
      a.overrides.layer f = b.overrides.layer f → file f = other f → s.get f = t.get f := by
  refine ⟨settings_eq_ok_iff a temporary readFile, fun s hs => ?_, fun e => kind_of_layered, ?_⟩
  · obtain ⟨-, hmost, hrun, hcompile⟩ := (validate_eq_ok_iff s s).1 (validate_of_layered hs)
    exact ⟨Nat.one_le_iff_ne_zero.2 hmost, Duration.nanoseconds_pos_iff.2 hrun,
      Duration.nanoseconds_pos_iff.2 hcompile⟩
  · intro b readOther s t f file other hs ht hfile hother hflags heq
    obtain ⟨file', hfile', -, -, hget⟩ := (settings_eq_ok_iff a temporary readFile s).1 hs
    obtain ⟨other', hother', -, -, hget'⟩ := (settings_eq_ok_iff b temporary readOther t).1 ht
    rw [hget, hget', ← hfile.unique hfile', ← hother.unique hother']
    simp only [Layer.over, hflags, heq]

end Playground
