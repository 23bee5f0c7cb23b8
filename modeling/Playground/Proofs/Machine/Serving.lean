import Mathlib.Logic.Relation
import Playground.Proofs.Machine.Making
import Playground.Proofs.Machine.Place
import Playground.Proofs.Plan

set_option autoImplicit false

/-! # Hosts

What a host does to its files when it is asked for something, and what it may reply (`Serves`). It
does what `FileSystem.perform` says, or it refuses for a reason that cannot be seen in the files;
then it has stopped anywhere on the way. Of what it does not do to files nothing is assumed, but
that the identifiers it draws are names.

Processes that have been started write only below the directories they were started in, at any time,
as long as these are there; they may also remove them (`Stirs`). -/

namespace Playground.Machine

open FileSystem

inductive Serves (here : Location) :
    (action : Action) → action.Reply → FileSystem → FileSystem → Prop where
  | located (program : String) (path : Option String) (fs : FileSystem) :
      Serves here (.locate program) path fs fs
  | drew (id : String) (fs : FileSystem) (h : '/' ∉ id.toList) : Serves here .drawId id fs fs
  | performed {action : Action} {reply : action.Reply} {fs fs' : FileSystem}
      (h : fs.perform here action = some (reply, fs')) : Serves here action reply fs fs'
  | treeRefused (path : String) (e : HostError) (fs : FileSystem) (paths : List String)
      (h : paths <:+ ancestors path) :
      Serves here (.createTree path) (.error e) fs (fs.makeTree here 0o755 paths).2
  | directoryRefused (path : String) (e : HostError) (fs : FileSystem) :
      Serves here (.createPrivate path) (.error e) fs fs
  | writeRefused (path contents : String) (e : HostError) (fs : FileSystem) :
      Serves here (.write path contents) (.error e) fs fs
  | writeStopped (path contents : String) (e : HostError) {octets : List UInt8}
      {fs fs' : FileSystem} (h : fs.write here path octets 0o644 = .ok fs') :
      Serves here (.write path contents) (.error e) fs fs'
  | watched (launch : Launch) (limit : Duration) (reply : Except HostError Session)
      (fs : FileSystem) :
      Serves here (.watch launch limit) reply fs fs
  | killedGroup (group : Nat) (fs : FileSystem) : Serves here (.killGroup group) () fs fs
  | killedProcess (process : Nat) (fs : FileSystem) :
      Serves here (.killProcess process) () fs fs

/-! ## Processes -/

/-- What the files become when processes that may write in some places do so. -/
def Stirs (reach : List Location) : FileSystem → FileSystem → Prop :=
  Relation.ReflTransGen fun fs fs' => ∃ l ∈ reach, fs.directoryFault l = none ∧ Spares fs l fs'

/-- The files, and the places in which processes have been started. -/
structure Scene where
  files : FileSystem
  reach : List Location

/-- The places in which processes have been started after an action. -/
def Scene.reachAfter (here : Location) (s : Scene) : Action → List Location
  | .watch launch _ =>
      match s.files.locate here launch.directory true with
      | .ok l => l :: s.reach
      | .error _ => s.reach
  | _ => s.reach

/-- What the files become while some things are asked and replied. -/
inductive Passes (here : Location) : Scene → List Plan.Event → Scene → Prop where
  | nil (s : Scene) : Passes here s [] s
  | cons {s s' : Scene} {event : Plan.Event} {events : List Plan.Event} {fs fs' : FileSystem}
      (served : Serves here event.action event.reply s.files fs)
      (stirred : Stirs (s.reachAfter here event.action) fs fs')
      (rest : Passes here ⟨fs', s.reachAfter here event.action⟩ events s') :
      Passes here s (event :: events) s'

variable {here l : Location} {fs fs' : FileSystem} {reach : List Location} {path id : String}

/-- Where there is no directory left, nothing is written. -/
theorem Stirs.eq_of_gone (h : Stirs reach fs fs')
    (hgone : ∀ l ∈ reach, fs.directoryFault l ≠ none) : fs' = fs := by
  induction h with
  | refl => rfl
  | tail _ hstep ih =>
      subst ih
      obtain ⟨l, hl, hdir, -⟩ := hstep
      exact absurd hdir (hgone l hl)

/-- Processes in one place leave everything else alone. -/
theorem Stirs.spares {fs₁ : FileSystem} (h : Stirs reach fs fs') (hreach : ∀ k ∈ reach, k = l)
    (hs : Spares fs₁ l fs) : Spares fs₁ l fs' := by
  induction h with
  | refl => exact hs
  | tail _ hstep ih =>
      obtain ⟨k, hk, -, hspares⟩ := hstep
      rw [hreach k hk] at hspares
      exact ih.trans hspares

theorem Passes.of_append {s s' : Scene} {before after : List Plan.Event}
    (h : Passes here s (before ++ after) s') :
    ∃ mid, Passes here s before mid ∧ Passes here mid after s' := by
  induction before generalizing s with
  | nil => exact ⟨s, .nil s, h⟩
  | cons event before ih =>
      cases h with
      | cons served stirred rest =>
          obtain ⟨mid, hbefore, hafter⟩ := ih rest
          exact ⟨mid, .cons served stirred hbefore, hafter⟩

theorem Passes.append {s mid s' : Scene} {before after : List Plan.Event}
    (h : Passes here s before mid) (h' : Passes here mid after s') :
    Passes here s (before ++ after) s' := by
  induction h with
  | nil => exact h'
  | cons served stirred _ ih => exact .cons served stirred (ih h')

/-- A host can always do something and reply. -/
theorem exists_serves (here : Location) (action : Action) (fs : FileSystem) :
    ∃ reply fs', Serves here action reply fs fs' := by
  cases action with
  | locate program => exact ⟨none, fs, .located program none fs⟩
  | drawId => exact ⟨"", fs, .drew "" fs (by decide)⟩
  | watch launch limit => exact ⟨.error .notFound, fs, .watched launch limit _ fs⟩
  | killGroup group => exact ⟨(), fs, .killedGroup group fs⟩
  | killProcess process => exact ⟨(), fs, .killedProcess process fs⟩
  | _ => exact ⟨_, _, .performed rfl⟩

/-- Every plan can be followed to its end on a host, from all files. -/
theorem exists_passes {α : Type} (here : Location) (p : Plan α) (s : Scene) :
    ∃ events a s', p.Runs events a ∧ Passes here s events s' := by
  induction p generalizing s with
  | done a => exact ⟨[], a, s, .done a, .nil s⟩
  | ask action next ih =>
      obtain ⟨reply, fs', hserves⟩ := exists_serves here action s.files
      obtain ⟨events, a, s', hruns, hpasses⟩ := ih reply ⟨fs', s.reachAfter here action⟩
      exact ⟨⟨action, reply⟩ :: events, a, s', .ask reply hruns, .cons hserves .refl hpasses⟩

theorem guarded_eq (result : Except HostError Unit × FileSystem) (hnul : hasNul path = false) :
    fs.guarded path result = result := by
  rw [guarded, hnul]
  rfl

theorem serves_createTree {reply : Except HostError Unit} (hnul : hasNul path = false)
    (h : fs.createTree here path 0o755 = (reply, fs')) :
    Serves here (.createTree path) reply fs fs' :=
  .performed (congrArg some ((guarded_eq _ hnul).trans h))

theorem serves_createPrivate (hnul : hasNul path = false)
    (h : fs.makeDirectory here path 0o700 = .ok fs') :
    Serves here (.createPrivate path) (.ok ()) fs fs' :=
  .performed (congrArg some ((guarded_eq _ hnul).trans (congrArg fs.settle h)))

theorem serves_write {contents : String} (hnul : hasNul path = false)
    (h : fs.write here path (Text.Utf8.encode contents.toList) 0o644 = .ok fs') :
    Serves here (.write path contents) (.ok ()) fs fs' :=
  .performed (congrArg some ((guarded_eq _ hnul).trans (congrArg fs.settle h)))

/-! ## What comes of an action -/

theorem eq_of_locate {program : String} {reply : Option String}
    (h : Serves here (.locate program) reply fs fs') : fs' = fs := by
  cases h with
  | located => rfl
  | performed h => cases h

theorem cases_of_drawId {reply : String} (h : Serves here .drawId reply fs fs') :
    '/' ∉ reply.toList ∧ fs' = fs := by
  cases h with
  | drew _ _ h => exact ⟨h, rfl⟩
  | performed h => cases h

theorem guarded_cases (fs : FileSystem) (path : String)
    (result : Except HostError Unit × FileSystem) :
    fs.guarded path result = (.error .nulInPath, fs) ∨ fs.guarded path result = result := by
  unfold guarded
  split
  · exact .inl rfl
  · exact .inr rfl

theorem settle_eq_iff {result : Except HostError FileSystem} {reply : Except HostError Unit} :
    fs.settle result = (reply, fs') ↔
      (result = .ok fs' ∧ reply = .ok ()) ∨
        ∃ e, result = .error e ∧ reply = .error e ∧ fs' = fs := by
  cases result with
  | ok fs'' => simp [settle, eq_comm, and_comm]
  | error e => simp [settle, eq_comm]

/-- What is asked of the files is done, or it is refused and nothing is done. -/
theorem cases_of_guarded {result : Except HostError FileSystem} {reply : Except HostError Unit}
    (h : fs.guarded path (fs.settle result) = (reply, fs')) :
    (reply = .ok () ∧ result = .ok fs') ∨ ∃ e, reply = .error e ∧ fs' = fs := by
  rcases guarded_cases fs path (fs.settle result) with hg | hg
  · rw [hg] at h
    cases h
    exact .inr ⟨_, rfl, rfl⟩
  · rw [hg] at h
    rcases settle_eq_iff.1 h with ⟨hresult, rfl⟩ | ⟨e, -, rfl, rfl⟩
    · exact .inl ⟨rfl, hresult⟩
    · exact .inr ⟨e, rfl, rfl⟩

/-- What has been made on the way to a path, whatever the reply. -/
theorem exists_of_createTree {reply : Except HostError Unit}
    (h : Serves here (.createTree path) reply fs fs') :
    ∃ paths, paths <:+ ancestors path ∧ fs' = (fs.makeTree here 0o755 paths).2 := by
  cases h with
  | performed h =>
      have h := Option.some.inj h
      rcases guarded_cases fs path (fs.createTree here path 0o755) with hg | hg
      · rw [hg] at h
        cases h
        exact ⟨[], List.nil_suffix, rfl⟩
      · rw [hg] at h
        exact ⟨ancestors path, List.suffix_refl _, by rw [← createTree, h]⟩
  | treeRefused _ _ _ paths hs => exact ⟨paths, hs, rfl⟩

/-- A directory of one's own is made where nothing was, or nothing is made. -/
theorem cases_of_createPrivate {reply : Except HostError Unit}
    (h : Serves here (.createPrivate path) reply fs fs') :
    (reply = .ok () ∧ fs.makeDirectory here path 0o700 = .ok fs') ∨
      ∃ e, reply = .error e ∧ fs' = fs := by
  cases h with
  | performed h => exact cases_of_guarded (Option.some.inj h)
  | directoryRefused _ e => exact .inr ⟨e, rfl, rfl⟩

/-- A file is written, or nothing has changed. -/
theorem cases_of_write {contents : String} {reply : Except HostError Unit}
    (h : Serves here (.write path contents) reply fs fs') :
    fs' = fs ∨ ∃ l, fs.locateNew here path true = .ok l ∧ Written fs l fs' := by
  cases h with
  | performed h =>
      rcases cases_of_guarded (Option.some.inj h) with ⟨-, hwrite⟩ | ⟨e, -, hsame⟩
      · exact .inr (written_of_write hwrite)
      · exact .inl hsame
  | writeRefused => exact .inl rfl
  | writeStopped _ _ _ h => exact .inr (written_of_write h)

/-- What is said to be written is written. -/
theorem write_of_serves {contents : String}
    (h : Serves here (.write path contents) (.ok ()) fs fs') :
    fs.write here path (Text.Utf8.encode contents.toList) 0o644 = .ok fs' := by
  cases h with
  | performed h =>
      rcases cases_of_guarded (Option.some.inj h) with ⟨-, hwrite⟩ | ⟨e, he, -⟩
      · exact hwrite
      · cases he

theorem eq_of_watch {launch : Launch} {limit : Duration} {reply : Except HostError Session}
    (h : Serves here (.watch launch limit) reply fs fs') : fs' = fs := by
  cases h with
  | performed h => cases h
  | watched => rfl

theorem eq_of_killGroup {group : Nat} {reply : Unit}
    (h : Serves here (.killGroup group) reply fs fs') : fs' = fs := by
  cases h with
  | performed h => cases h
  | killedGroup => rfl

theorem eq_of_killProcess {process : Nat} {reply : Unit}
    (h : Serves here (.killProcess process) reply fs fs') : fs' = fs := by
  cases h with
  | performed h => cases h
  | killedProcess => rfl

theorem eq_of_remove {reply : Unit} (h : Serves here (.remove path) reply fs fs') :
    fs' = fs.without here path := by
  cases h with
  | performed h => exact (Prod.mk.inj (Option.some.inj h)).2.symm

end Playground.Machine
