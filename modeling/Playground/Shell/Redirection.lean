import Playground.Shell.Expansion

set_option autoImplicit false

/-! # Redirection

Before a command is executed, its descriptors are made to refer to other things. What the shell does
for its own commands it takes back afterwards, so the descriptors that were there before are kept
under high numbers meanwhile. -/

namespace Playground.Shell

open Machine (Bytes Access Script)

namespace Redirection

/-- A redirection whose words have been expanded. -/
inductive Prepared where
  | file (descriptor : Nat) (access : Access) (isForced : Bool) (name : Bytes)
  | duplicate (descriptor : Nat) (source : Bytes)
  | text (descriptor : Nat) (contents : Bytes)

/-- A descriptor and the number under which what it referred to has been kept, if it was open. -/
structure Kept where
  descriptor : Nat
  copy : Option Nat

/-- The lowest number under which the shell keeps descriptors. -/
def firstKept : Nat := 10

/-- Texts up to this size are written before anybody reads them. -/
def smallText : Nat := 4096

def prepare (substitute : Command → Run Bytes) (r : Redirect) : Run Prepared := do
  match r with
  | .file descriptor access isForced name =>
      return .file descriptor access isForced (← Expansion.text substitute name)
  | .duplicate descriptor source =>
      return .duplicate descriptor (← Expansion.text substitute source)
  | .document descriptor number =>
      let word := ((← get).documents.lookup number).getD []
      return .text descriptor (← Expansion.text substitute word)

/-- Keeps what a descriptor refers to. -/
def keep (descriptor : Nat) : Run Kept := do
  match ← ask (.save descriptor firstKept) with
  | .ok copy => return ⟨descriptor, some copy⟩
  | .error _ => return ⟨descriptor, none⟩

/-- Makes a descriptor refer to what another one does, which is given up. -/
def move (source descriptor : Nat) : Run Unit := do
  if source = descriptor then pure ()
  else
    let _ ← ask (.duplicate source descriptor)
    let _ ← ask (.close source)

/-- What is said about a file that cannot be opened. -/
def faultOf (access : Access) (name : Bytes) (e : HostError) : Bytes :=
  let isRead := access == .read
  let what :=
    match e with
    | .notFound => if isRead then "No such file" else "Directory nonexistent"
    | .notADirectory => if isRead then "No such file" else "Directory nonexistent"
    | e => e.description
  (if isRead then "cannot open " else "cannot create ").toList ++ name ++ ": ".toList ++ what.toList

/-- How a file is opened that must not lose its contents. -/
def carefulAccess (access : Access) (isForced : Bool) (name : Bytes) : Run Access := do
  if access = .overwrite ∧ isForced = false ∧ (← hasOption 'C') then
    match ← ask (.status (Bytes.toText name) true) with
    | .ok ⟨_, ⟨.file _, _⟩⟩ => return .create
    | _ => return access
  else return access

/-- Carries a redirection out. `later` does something in a copy of the shell. -/
def apply (later : Run Unit → Run Unit) (keeps : Bool) (r : Prepared) : Run (List Kept) := do
  match r with
  | .file descriptor access isForced name =>
      let access ← carefulAccess access isForced name
      match ← ask (.openAt (Bytes.toText name) access 0o666) with
      | .error e => fail (faultOf access name e)
      | .ok opened =>
          if opened = descriptor then return if keeps then [⟨descriptor, none⟩] else []
          else
            let kept ← if keeps then do pure [← keep descriptor] else pure []
            move opened descriptor
            return kept
  | .duplicate descriptor ['-'] =>
      let kept ← if keeps then do pure [← keep descriptor] else pure []
      let _ ← ask (.close descriptor)
      return kept
  | .duplicate descriptor source =>
      match if source.length = 1 then Bytes.toNat? source else none with
      | none => fail "Syntax error: Bad fd number".toList
      | some n =>
          let kept ← if keeps then do pure [← keep descriptor] else pure []
          match ← ask (.duplicate n descriptor) with
          | .ok () => return kept
          | .error e => fail (source ++ ": ".toList ++ Script.errorText e)
  | .text descriptor contents =>
      let kept ← if keeps then do pure [← keep descriptor] else pure []
      let (reads, writes) : Nat × Nat ← ask .makePipe
      if contents.length ≤ smallText then lift (Script.put writes contents)
      else later (lift (Script.put writes contents))
      let _ ← ask (.close writes)
      move reads descriptor
      return kept

/-- Carries redirections out without keeping anything. -/
def applyAll (later : Run Unit → Run Unit) : List Prepared → Run Unit
  | [] => pure ()
  | r :: rest => do
      let _ ← apply later false r
      applyAll later rest

/-- Makes a descriptor refer again to what it did. -/
def restore (k : Kept) : Run Unit := do
  match k.copy with
  | some copy => move copy k.descriptor
  | none =>
      let _ ← ask (.close k.descriptor)

/-- Carries redirections out, and keeps what was there, the last first. What could be done before
    one fails is taken back. -/
def applyKeeping (later : Run Unit → Run Unit) (kept : List Kept) :
    List Prepared → Run (List Kept)
  | [] => return kept
  | r :: rest => do
      match ← attempt (apply later true r) with
      | .ok more => applyKeeping later (more ++ kept) rest
      | .error j =>
          for k in kept do
            restore k
          leaveWith j

/-- Does something, after which descriptors refer to what they did. A copy of the shell that has
    nothing left to do does not care. -/
def restoring (kept : List Kept) (body : Run Unit) : Run Unit := do
  match ← attempt body with
  | .error (.halt code) => leaveWith (.halt code)
  | result =>
      for k in kept do
        restore k
      match result with
      | .ok () => pure ()
      | .error j => leaveWith j

/-- Does something with redirections, or something else if they fail. -/
def around (later : Run Unit → Run Unit) (redirects : List Prepared) (onFailure body : Run Unit) :
    Run Unit := do
  match ← attempt (applyKeeping later [] redirects) with
  | .ok kept => restoring kept body
  | .error .failure => onFailure
  | .error j => leaveWith j

end Redirection

end Playground.Shell
