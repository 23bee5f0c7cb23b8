import Playground.Proofs.Plan
import Playground.Service

set_option autoImplicit false

/-! # What an execution owns

At any time an execution has made at most one directory that it has not removed, whatever the host
replies, and when it has come to its end it has none left (`owns_execution`). The directory is made
in one place and removed in one place, so nearly all parts of an execution only have to leave alone
what is owned (`LeavesAlone`). -/

namespace Playground.Execution

open Plan
open Service (ownedAfter)

variable {α β ε : Type}

/-- The plan never owns more than one directory if it starts with these, and ends as `post` says. -/
abbrev Owns (post : α → List String → Prop) (owned : List String) (p : Plan α) : Prop :=
  p.Keeps ownedAfter (fun owned => owned.length ≤ 1) post owned

/-- The plan neither makes nor removes a directory that can be owned. -/
def LeavesAlone (p : Plan α) : Prop :=
  ∀ owned, owned.length ≤ 1 → Owns (fun _ left => left = owned) owned p

/-! ## Leaving alone what is owned -/

namespace LeavesAlone

theorem done (a : α) : LeavesAlone (.done a) := fun _ h => ⟨h, rfl⟩

theorem ask {action : Action} {next : action.Reply → Plan α}
    (ha : ∀ owned reply, ownedAfter owned action reply = owned)
    (h : ∀ reply, LeavesAlone (next reply)) : LeavesAlone (.ask action next) := by
  intro owned ho
  refine ⟨ho, fun reply => ?_⟩
  rw [ha]
  exact h reply owned ho

theorem bind {p : Plan α} {f : α → Plan β} (hp : LeavesAlone p) (hf : ∀ a, LeavesAlone (f a)) :
    LeavesAlone (p >>= f) := by
  intro owned ho
  refine Keeps.bind ((hp owned ho).mono ?_)
  rintro a _ - rfl
  exact hf a _ ho

theorem onSuccess {p : Plan (Except ε α)} {f : α → Plan (Except ε β)} (hp : LeavesAlone p)
    (hf : ∀ a, LeavesAlone (f a)) : LeavesAlone (p.onSuccess f) := by
  refine hp.bind fun r => ?_
  cases r with
  | ok a => exact hf a
  | error e => exact done _

end LeavesAlone

theorem leavesAlone_missingTools (tools : List String) : LeavesAlone (missingTools tools) := by
  induction tools with
  | nil => exact .done _
  | cons tool tools ih =>
      exact .ask (fun _ _ => rfl) fun found => ih.bind fun missing => .done _

theorem leavesAlone_checkTools (t : Toolchain) : LeavesAlone (checkTools t) := by
  refine (leavesAlone_missingTools _).bind fun missing => ?_
  cases missing <;> exact .done _

theorem leavesAlone_resolve (program : String) : LeavesAlone (Workspace.resolve program) := by
  unfold Workspace.resolve
  split
  · exact .done _
  · refine .ask (fun _ _ => rfl) fun reply => ?_
    cases reply <;> exact .done _

theorem leavesAlone_settle (session : Session) (stage : Stage) (limit : Duration) :
    LeavesAlone (Workspace.settle session stage limit) := by
  refine .ask (fun _ _ => rfl) fun _ => ?_
  cases session.result limit with
  | finished output => exact .done _
  | faulted e => exact .ask (fun _ _ => rfl) fun _ => .done _
  | overrun => exact .ask (fun _ _ => rfl) fun _ => .done _

theorem leavesAlone_watched (w : Workspace) (command : Command) (input : Option String)
    (limit : Duration) (stage : Stage) : LeavesAlone (w.run command input limit stage) := by
  refine (leavesAlone_resolve _).onSuccess fun program => ?_
  refine .ask (fun _ _ => rfl) fun reply => ?_
  cases reply with
  | error e => exact .done _
  | ok session => exact leavesAlone_settle session stage limit

theorem leavesAlone_writeSource (w : Workspace) (t : Toolchain) (code : String) :
    LeavesAlone (w.writeSource t code) := by
  unfold Workspace.writeSource
  split
  · exact .done _
  · refine .bind (.ask (fun _ _ => rfl) fun reply => ?_) fun written => ?_
    · cases reply <;> exact .done _
    · cases written <;> exact .done _

theorem leavesAlone_compile (s : Settings) (t : Toolchain) (w : Workspace) :
    LeavesAlone (compile s t w) := by
  unfold compile
  split
  · exact .done _
  · exact (leavesAlone_watched w _ _ _ _).onSuccess fun _ => .done _

theorem leavesAlone_inWorkspace (s : Settings) (t : Toolchain) (code : String)
    (input : Option String) (w : Workspace) : LeavesAlone (inWorkspace s t code input w) :=
  (leavesAlone_writeSource w t code).onSuccess fun _ =>
    (leavesAlone_compile s t w).onSuccess fun _ =>
      (leavesAlone_watched w _ _ _ _).onSuccess fun _ => .done _

/-! ## Owning a workspace -/

theorem owns_create (root : String) :
    Owns (fun result left =>
        match result with
        | .ok w => left = [w.path]
        | .error _ => left = []) [] (Workspace.create root) := by
  refine ⟨by simp, fun id => ⟨by simp [ownedAfter], fun tree => ?_⟩⟩
  cases tree with
  | error e => exact ⟨by simp [ownedAfter], rfl⟩
  | ok =>
      refine ⟨by simp [ownedAfter], fun directory => ?_⟩
      cases directory with
      | error e => exact ⟨by simp [ownedAfter], rfl⟩
      | ok => exact ⟨by simp [ownedAfter], rfl⟩

theorem owns_within {root : String} {use : Workspace → Plan (Except Failure α)}
    (h : ∀ w, LeavesAlone (use w)) :
    Owns (fun _ left => left = []) [] (Workspace.within root use) := by
  refine Keeps.bind ((owns_create root).mono ?_)
  intro result left hlen hleft
  cases result with
  | error f => exact ⟨hlen, hleft⟩
  | ok w =>
      obtain rfl : left = [w.path] := hleft
      refine Keeps.bind ((h w _ hlen).mono ?_)
      rintro result _ - rfl
      exact ⟨hlen, fun _ => ⟨by simp [ownedAfter], by simp [ownedAfter]⟩⟩

/-- An execution ends with nothing left. -/
theorem owns_execution (s : Settings) (l : Language) (r : Request) :
    Owns (fun _ left => left = []) [] (Service.execution s l r) := by
  refine Keeps.bind (Keeps.mono (Keeps.onSuccess ((leavesAlone_checkTools _ [] (by simp)).mono ?_))
    fun _ _ hlen hleft => ⟨hlen, hleft⟩)
  rintro result _ - rfl
  cases result with
  | error f => rfl
  | ok => exact owns_within (leavesAlone_inWorkspace s _ r.code r.input)

/-- Neither does what is done when an execution breaks down. -/
theorem owns_cleanUp (reason : String) {owned : List String} (h : owned.length ≤ 1) :
    Owns (fun _ left => left = []) owned (Service.cleanUp reason owned) := by
  match owned, h with
  | [], h => exact ⟨h, rfl⟩
  | [path], h => exact ⟨h, fun _ => ⟨by simp [ownedAfter], by simp [ownedAfter]⟩⟩

end Playground.Execution
