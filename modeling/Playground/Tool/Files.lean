import Playground.Tool.Condition
import Playground.Tool.Mode
import Playground.Machine.Options
import Playground.Tool.Stream

set_option autoImplicit false

/-! # Programs for files

Programs that make, copy, move and remove files and directories. -/

namespace Playground.Tool

open Machine (Bytes Options Program Script Start Status Access Grammar withOptions seeHelp)
open Condition (status? isDirectory isLink)

namespace Files

/-- A complaint about what could not be done with a file. -/
def failed (s : Start) (action : String) (name : Bytes) (e : HostError) : Script Unit :=
  let start := if action = "" then [] else action.toList ++ [' ']
  Script.complain s (start ++ Script.quoted name ++ ": ".toList ++ Script.errorText e)

def missingOperand (s : Start) : Script Nat := do
  Script.complain s ("missing operand".toList ++ seeHelp s)
  return 1

def extraOperand (s : Start) (name : Bytes) : Script Nat := do
  Script.complain s ("extra operand ".toList ++ Script.quoted name ++ seeHelp s)
  return 1

/-- Does something with each name. Fails if that failed for one of them. -/
def forAll (names : List Bytes) (body : Bytes → Script Bool) : Script Nat := do
  let mut code := 0
  for name in names do
    if ← body name then pure () else code := 1
  return code

/-- Reports what has been done to a file. -/
def report (s : Start) (action : String) (name : Bytes) (result : Except HostError Unit) :
    Script Bool := do
  match result with
  | .ok () => return true
  | .error e =>
      failed s action name e
      return false

def isDirectoryAt (name : Bytes) (follow : Bool) : Script Bool := do
  return match ← status? name follow with
    | some st => isDirectory st.node
    | none => false

/-- The path of a name in a directory. -/
def within (directory name : Bytes) : Bytes :=
  if directory.getLast? == some '/' then directory ++ name else directory ++ '/' :: name

/-! ## Names -/

/-- A path without the slashes at its end. -/
def withoutSlashes (path : Bytes) : Bytes :=
  let short := (path.reverse.dropWhile (· == '/')).reverse
  if short.isEmpty && !path.isEmpty then ['/'] else short

def lastName (path : Bytes) : Bytes :=
  let path := withoutSlashes path
  if path = ['/'] then path else (path.reverse.takeWhile (· != '/')).reverse

def parent (path : Bytes) : Bytes :=
  let path := withoutSlashes path
  let rest := path.take (path.length - (lastName path).length)
  if path = ['/'] then path else if rest.isEmpty then ['.'] else withoutSlashes rest

/-- A line, or a text that ends with a NUL if options ask for that. -/
def printItem (options : Options) (b : Bytes) : Script Unit :=
  Script.print (b ++ [if options.has 'z' then Char.ofNat 0 else '\n'])

def basenameGrammar : Grammar where
  flags := "az"
  valued := "s"
  names := [("multiple", 'a'), ("suffix", 's'), ("zero", 'z')]
  endsEarly := true

def basename : Program := fun s => withOptions s basenameGrammar 1 fun options names => do
  let strip (ending name : Bytes) : Bytes :=
    if ending ≠ name ∧ Bytes.endsWith name ending then name.take (name.length - ending.length)
    else name
  let printAll (ending : Bytes) (names : List Bytes) : Script Nat := do
    for name in names do
      printItem options (strip ending (lastName name))
    return 0
  match options.value? 's', names with
  | _, [] => missingOperand s
  | some ending, names => printAll ending names
  | none, name :: rest =>
      if options.has 'a' then printAll [] (name :: rest)
      else
        match rest with
        | [] => printAll [] [name]
        | [ending] => printAll ending [name]
        | _ :: extra :: _ => extraOperand s extra

def dirname : Program := fun s =>
  withOptions s { flags := "z", names := [("zero", 'z')] } 1 fun options names => do
    match names with
    | [] => missingOperand s
    | names =>
        for name in names do
          printItem options (parent name)
        return 0

/-! ## Directories -/

/-- The directories that lead to a path, and the path, outermost first. -/
def ancestors (path : Bytes) : List Bytes :=
  let names := (Bytes.splitOn '/' path).filter fun name => !name.isEmpty
  let start : Bytes := if path.head? == some '/' then ['/'] else []
  (List.range names.length).map fun (n : Nat) =>
    start ++ Bytes.joinWith ['/'] (names.take (n + 1))

/-- Makes a directory, and says so if options ask for that. -/
def makeOne (s : Start) (options : Options) (path : Bytes) :
    Script (Except HostError Unit) := do
  match ← Script.ask (.makeDirectory (Bytes.toText path) 0o777) with
  | .ok () =>
      if options.has 'v' then
        Script.printLine (s.name ++ ": created directory ".toList ++ Script.quoted path)
      else pure ()
      return .ok ()
  | .error e => return .error e

/-- Makes a directory with all that lead to it. -/
def makeTree (s : Start) (options : Options) : List Bytes → Script Bool
  | [] => return true
  | path :: rest => do
      match ← makeOne s options path with
      | .ok () => makeTree s options rest
      | .error e =>
          if ← isDirectoryAt path true then makeTree s options rest
          else
            let e := if e = .alreadyExists ∧ rest ≠ [] then .notADirectory else e
            report s "cannot create directory" path (.error e)

def mkdirGrammar : Grammar where
  flags := "pvZ"
  valued := "m"
  names := [("mode", 'm'), ("parents", 'p'), ("verbose", 'v'), ("context", 'Z')]

def mkdir : Program := fun s => withOptions s mkdirGrammar 1 fun options names => do
  let mask ← Script.ask (.mask none)
  let mode := (options.value? 'm').map fun text =>
    (text, Mode.changed true mask 0o777 text)
  match names, mode with
  | [], _ => missingOperand s
  | _, some (text, none) =>
      Script.complain s ("invalid mode ".toList ++ Script.quoted text)
      return 1
  | names, mode =>
      forAll names fun name => do
        let isMade ←
          if options.has 'p' then makeTree s options (ancestors name)
          else do report s "cannot create directory" name (← makeOne s options name)
        match mode, isMade with
        | some (_, some mode), true =>
            report s "cannot set mode of" name
              (← Script.ask (.setMode (Bytes.toText name) mode))
        | _, isMade => return isMade

def rmdirGrammar : Grammar where
  flags := "pv"
  names := [("parents", 'p'), ("verbose", 'v'), ("ignore-fail-on-non-empty", 'i')]

def rmdir : Program := fun s => withOptions s rmdirGrammar 1 fun options names => do
  let remove (what : String) (path : Bytes) : Script Bool := do
    if options.has 'v' then
      Script.printLine (s.name ++ ": removing directory, ".toList ++ Script.quoted path)
    else pure ()
    match ← Script.ask (.removeDirectory (Bytes.toText path)) with
    | .error .notEmpty =>
        if options.has 'i' then return true
        else report s what path (.error .notEmpty)
    | result => report s what path result
  if names.isEmpty then missingOperand s
  else
    forAll names fun name => do
      let mut isDone ← remove "failed to remove" name
      if options.has 'p' then
        for path in ((ancestors name).reverse).drop 1 do
          if isDone then isDone := ← remove "failed to remove directory" path else pure ()
      else pure ()
      return isDone

/-! ## Removing -/

/-- Reports what has been removed, aloud if options ask for that. -/
def reportRemoved (s : Start) (options : Options) (what : String) (path : Bytes)
    (result : Except HostError Unit) : Script Bool := do
  let isDone ← report s "cannot remove" path result
  if isDone && options.has 'v' then
    Script.printLine (what.toList ++ Script.quoted path)
  else pure ()
  return isDone

/-- Removes a file, or a directory with all that is in it. -/
def removeTree (s : Start) (options : Options) (steps : Nat) (path : Bytes) : Script Bool :=
  match steps with
  | 0 => return false
  | steps + 1 => do
      match ← isDirectoryAt path false with
      | false =>
          reportRemoved s options "removed " path (← Script.ask (.unlink (Bytes.toText path)))
      | true =>
          match ← Script.ask (.list (Bytes.toText path)) with
          | .error e => report s "cannot remove" path (.error e)
          | .ok names =>
              let mut isDone := true
              for name in names do
                if ← removeTree s options steps (within path (Bytes.ofString name)) then pure ()
                else isDone := false
              if isDone then
                reportRemoved s options "removed directory " path
                  (← Script.ask (.removeDirectory (Bytes.toText path)))
              else return false

def isDots (path : Bytes) : Bool := ["..".toList, ".".toList].contains (lastName path)

def rmGrammar : Grammar where
  flags := "dfirvIRPx"
  names := [("force", 'f'), ("recursive", 'r'), ("dir", 'd'), ("verbose", 'v'),
    ("interactive", 'i'), ("one-file-system", 'x'), ("no-preserve-root", 'P'),
    ("preserve-root", 'P')]
  relaxed := "iP"

def rm : Program := fun s => withOptions s rmGrammar 1 fun options names => do
  let has (letter : Char) : Bool := options.has letter
  if names.isEmpty then if has 'f' then return 0 else missingOperand s
  else
    forAll names fun name => do
      match ← Script.ask (.status (Bytes.toText name) false) with
      | .error e =>
          if has 'f' && (e == .notFound || e == .notADirectory) then return true
          else report s "cannot remove" name (.error e)
      | .ok st =>
          if isDirectory st.node then
            if has 'r' || has 'R' then
              if isDots name then
                Script.complain s ("refusing to remove '.' or '..' directory: skipping ".toList ++
                  Script.quoted name)
                return false
              else removeTree s options Script.endless name
            else if has 'd' then
              reportRemoved s options "removed directory " name
                (← Script.ask (.removeDirectory (Bytes.toText name)))
            else report s "cannot remove" name (.error .isADirectory)
          else
            reportRemoved s options "removed " name (← Script.ask (.unlink (Bytes.toText name)))

/-! ## Copying -/

/-- Copies the contents of a file. -/
def copyContents (s : Start) (source target : Bytes) (mode : Nat) : Script Bool := do
  match ← Script.readFile source with
  | .error e =>
      Script.complain s ("cannot open ".toList ++ Script.quoted source ++
        " for reading: ".toList ++ Script.errorText e)
      return false
  | .ok b =>
      match ← Script.ask (.openAt (Bytes.toText target) .overwrite mode) with
      | .error e =>
          let e := if e = .isADirectory && target.getLast? == some '/' then .notADirectory else e
          report s "cannot create regular file" target (.error e)
      | .ok descriptor =>
          let result ← Script.writeAll descriptor b
          let _ ← Script.ask (.close descriptor)
          report s "error writing" target result

/-- Copies a file, or a directory with all that is in it. -/
def copyTree (s : Start) (isRecursive keepsMode : Bool) (steps : Nat) (source target : Bytes) :
    Script Bool :=
  match steps with
  | 0 => return false
  | steps + 1 => do
      match ← Script.ask (.status (Bytes.toText source) !isRecursive) with
      | .error e => report s "cannot stat" source (.error e)
      | .ok st =>
          match st.node.entry with
          | .directory =>
              if isRecursive then
                match ← Script.ask (.makeDirectory (Bytes.toText target) st.node.mode) with
                | .error .alreadyExists => copyMembers steps
                | .error e => report s "cannot create directory" target (.error e)
                | .ok () => copyMembers steps
              else
                Script.complain s ("-r not specified; omitting directory ".toList ++
                  Script.quoted source)
                return false
          | .link other =>
              report s "cannot create symbolic link" target
                (← Script.ask (.makeLink other (Bytes.toText target)))
          | _ =>
              match ← status? target true with
              | some other =>
                  if other.location = st.location then
                    Script.complain s (Script.quoted source ++ " and ".toList ++
                      Script.quoted target ++ " are the same file".toList)
                    return false
                  else copyFile st.node.mode
              | none => copyFile st.node.mode
where
  copyFile (mode : Nat) : Script Bool := do
    if ← copyContents s source target mode then
      if keepsMode then
        report s "cannot set mode of" target
          (← Script.ask (.setMode (Bytes.toText target) mode))
      else return true
    else return false
  copyMembers (steps : Nat) : Script Bool := do
    match ← Script.ask (.list (Bytes.toText source)) with
    | .error e => report s "cannot access" source (.error e)
    | .ok names =>
        let mut isDone := true
        for name in names do
          let name := Bytes.ofString name
          if ← copyTree s isRecursive keepsMode steps (within source name) (within target name)
          then pure ()
          else isDone := false
        return isDone

/-- What is done with several sources and one target, which is a directory if there are more sources
    than one. -/
def toTarget (s : Start) (options : Options) (operands : List Bytes)
    (body : Bytes → Bytes → Script Bool) : Script Nat := do
  let notDirectory (what : String) (target : Bytes) : Script Nat := do
    let e : HostError := if (← status? target true).isSome then .notADirectory else .notFound
    failed s what target e
    return 1
  let into (directory : Bytes) (sources : List Bytes) : Script Nat :=
    forAll sources fun source => body source (within directory (lastName source))
  match options.value? 't', operands with
  | _, [] =>
      Script.complain s ("missing file operand".toList ++ seeHelp s)
      return 1
  | some directory, operands =>
      if ← isDirectoryAt directory true then into directory operands
      else notDirectory "target directory" directory
  | none, [name] =>
      Script.complain s ("missing destination file operand after ".toList ++ Script.quoted name ++
        seeHelp s)
      return 1
  | none, operands =>
      let target := operands.getLastD []
      let sources := operands.dropLast
      if (← isDirectoryAt target true) && !options.has 'T' then into target sources
      else
        match sources, options.has 'T' with
        | [source], _ => return if ← body source target then 0 else 1
        | _, true => extraOperand s (operands.getD 2 [])
        | _, false => notDirectory "target" target

/-- What a file is made from, for those who ask. -/
def tellPair (options : Options) (first : Bytes) (arrow : String) (second : Bytes) :
    Script Unit :=
  if options.has 'v' then
    Script.printLine (Script.quoted first ++ arrow.toList ++ Script.quoted second)
  else pure ()

def cpGrammar : Grammar where
  flags := "abdfHilLnprsuvxPRTZ"
  valued := "tS"
  names := [("archive", 'a'), ("backup", 'b'), ("force", 'f'), ("interactive", 'i'), ("link", 'l'),
    ("dereference", 'L'), ("no-clobber", 'n'), ("no-dereference", 'P'), ("preserve", 'p'),
    ("recursive", 'r'), ("symbolic-link", 's'), ("suffix", 'S'), ("target-directory", 't'),
    ("no-target-directory", 'T'), ("update", 'u'), ("verbose", 'v'), ("one-file-system", 'x')]
  relaxed := "bpu"

def cp : Program := fun s => withOptions s cpGrammar 1 fun options operands => do
  let has (letter : Char) : Bool := options.has letter
  let isRecursive := has 'r' || has 'R' || has 'a'
  toTarget s options operands fun source target => do
    let isNew := (← status? target false).isNone
    if has 'n' && !isNew then return true
    else
      let result ← copyTree s isRecursive (has 'p' || has 'a') Script.endless source target
      if result then tellPair options source " -> " target else pure ()
      return result

def mvGrammar : Grammar where
  flags := "bfinuvTZ"
  valued := "tS"
  names := [("backup", 'b'), ("force", 'f'), ("interactive", 'i'), ("no-clobber", 'n'),
    ("suffix", 'S'), ("target-directory", 't'), ("no-target-directory", 'T'), ("update", 'u'),
    ("verbose", 'v')]
  relaxed := "bu"

def mv : Program := fun s => withOptions s mvGrammar 1 fun options operands => do
  toTarget s options operands fun source target => do
    match ← Script.ask (.status (Bytes.toText source) false) with
    | .error e => report s "cannot stat" source (.error e)
    | .ok st =>
        let isKept := options.has 'n' && (← status? target false).isSome
        if isKept then return true
        else
          match ← Script.ask (.rename (Bytes.toText source) (Bytes.toText target)) with
          | .ok () =>
              if options.has 'v' then Script.print "renamed ".toList else pure ()
              tellPair options source " -> " target
              return true
          | .error e =>
              let pair := Script.quoted source ++ " to ".toList
              let reason : Bytes :=
                match e, isDirectory st.node with
                | .invalidArgument, _ =>
                    "cannot move ".toList ++ pair ++ "a subdirectory of itself, ".toList ++
                      Script.quoted target
                | .notADirectory, true =>
                    "cannot overwrite non-directory ".toList ++ Script.quoted target ++
                      " with directory ".toList ++ Script.quoted source
                | .notEmpty, _ =>
                    "cannot overwrite ".toList ++ Script.quoted target ++ ": ".toList ++
                      Script.errorText e
                | e, _ =>
                    "cannot move ".toList ++ pair ++ Script.quoted target ++ ": ".toList ++
                      Script.errorText e
              Script.complain s reason
              return false

def lnGrammar : Grammar where
  flags := "bdfinrsvFLPT"
  valued := "tS"
  names := [("backup", 'b'), ("directory", 'd'), ("force", 'f'), ("interactive", 'i'),
    ("logical", 'L'), ("no-dereference", 'n'), ("physical", 'P'), ("relative", 'r'),
    ("symbolic", 's'), ("suffix", 'S'), ("target-directory", 't'), ("no-target-directory", 'T'),
    ("verbose", 'v')]
  relaxed := "b"

def ln : Program := fun s => withOptions s lnGrammar 1 fun options operands => do
  let has (letter : Char) : Bool := options.has letter
  let operands := if operands.length = 1 && !has 't' then operands ++ [['.']] else operands
  toTarget s options operands fun source target => do
    let finish (what arrow : String) (result : Except HostError Unit) : Script Bool := do
      let isDone ← report s what target result
      if isDone then tellPair options target arrow source else pure ()
      return isDone
    if has 's' then
      if has 'f' then
        let _ ← Script.ask (.unlink (Bytes.toText target))
      finish "failed to create symbolic link" " -> "
        (← Script.ask (.makeLink (Bytes.toText source) (Bytes.toText target)))
    else
      match ← Script.ask (.status (Bytes.toText source) false) with
      | .error e => report s "failed to access" source (.error e)
      | .ok st =>
          if isDirectory st.node then
            Script.complain s (source ++ ": hard link not allowed for directory".toList)
            return false
          else
            if has 'f' then
              let _ ← Script.ask (.unlink (Bytes.toText target))
            finish "failed to create hard link" " => "
              (← Script.ask (.copyLink (Bytes.toText source) (Bytes.toText target)))

def missingOperandAfter (s : Start) (name : Bytes) : Script Nat := do
  Script.complain s ("missing operand after ".toList ++ Script.quoted name ++ seeHelp s)
  return 1

/-- Gives a file one more name. -/
def link : Program := fun s => withOptions s { flags := "" } 1 fun _ names => do
  match names with
  | [] => missingOperand s
  | [name] => missingOperandAfter s name
  | _ :: _ :: extra :: _ => extraOperand s extra
  | [source, target] =>
      match ← Script.ask (.copyLink (Bytes.toText source) (Bytes.toText target)) with
      | .ok () => return 0
      | .error e =>
          Script.complain s ("cannot create link ".toList ++ Script.quoted target ++
            " to ".toList ++ Script.quoted source ++ ": ".toList ++ Script.errorText e)
          return 1

/-- Takes a name away from a file. -/
def unlink : Program := fun s => withOptions s { flags := "" } 1 fun _ names => do
  match names with
  | [] => missingOperand s
  | _ :: extra :: _ => extraOperand s extra
  | [name] =>
      if ← report s "cannot unlink" name (← Script.ask (.unlink (Bytes.toText name))) then return 0
      else return 1

/-! ## Modes -/

/-- A mode in digits and in letters. -/
def modeText (mode : Nat) : Bytes :=
  Mode.digits mode ++ " (".toList ++ Mode.letters mode ++ [')']

/-- Tells of a mode what has become of it, if options ask for that. -/
def tellMode (options : Options) (path : Bytes) (old new : Nat) (isDone : Bool) : Script Unit :=
  let hasChanged := old != new
  if options.has 'v' || (options.has 'c' && hasChanged && isDone) then
    let start := if isDone then "mode of ".toList else "failed to change mode of ".toList
    Script.printLine (start ++ Script.quoted path ++
      if isDone && !hasChanged then " retained as ".toList ++ modeText new
      else (if isDone then " changed from ".toList else " from ".toList) ++ modeText old ++
        " to ".toList ++ modeText new)
  else pure ()

/-- Changes the mode of a file, and of all that is in it if that is wanted. It is a failure if a
    permission stays that was expected to go. -/
def changeModes (s : Start) (options : Options) (change expected : Bool → Nat → Nat) (steps : Nat)
    (path : Bytes) : Script Bool :=
  match steps with
  | 0 => return false
  | steps + 1 => do
      let reportUnlessForced (action : String) (result : Except HostError Unit) : Script Bool :=
        match result with
        | .error _ => if options.has 'f' then return false else report s action path result
        | .ok () => return true
      match ← Script.ask (.status (Bytes.toText path) true) with
      | .error e => reportUnlessForced "cannot access" (.error e)
      | .ok st =>
          let isDirectory := isDirectory st.node
          let mode := change isDirectory st.node.mode
          let isDone ← reportUnlessForced "changing permissions of"
            (← Script.ask (.setMode (Bytes.toText path) mode))
          tellMode options path st.node.mode mode isDone
          let naive := expected isDirectory st.node.mode
          let isSurprising := isDone && mode &&& (0o7777 ^^^ naive) != 0
          if isSurprising then
            Script.complain s (path ++ ": new permissions are ".toList ++ Mode.letters mode ++
              ", not ".toList ++ Mode.letters naive)
          else pure ()
          let isDone := isDone && !isSurprising
          if options.has 'R' && isDirectory then
            match ← Script.ask (.list (Bytes.toText path)) with
            | .error e => reportUnlessForced "cannot read directory" (.error e)
            | .ok names =>
                let mut isWhole := isDone
                for name in names do
                  let inner := within path (Bytes.ofString name)
                  if ← changeModes s options change expected steps inner
                  then pure ()
                  else isWhole := false
                return isWhole
          else return isDone

def chmodGrammar : Grammar where
  flags := "Rcfv"
  valued := "="
  names := [("recursive", 'R'), ("changes", 'c'), ("quiet", 'f'), ("silent", 'f'),
    ("verbose", 'v'), ("reference", '=')]

/-- Changes modes. A mode that takes something away begins as an option does. -/
def chmod : Program := fun s =>
  let isMode (a : Bytes) : Bool :=
    match a with
    | '-' :: c :: _ => "rwxXst".toList.contains c
    | _ => false
  let before := s.arguments.takeWhile fun a => a != ['-', '-']
  let modes := before.filter isMode
  let arguments := before.filter (fun a => !isMode a) ++ s.arguments.drop before.length
  withOptions { s with arguments := arguments } chmodGrammar 1 fun options operands => do
    let go (change expected : Bool → Nat → Nat) (names : List Bytes) : Script Nat :=
      forAll names (changeModes s options change expected Script.endless)
    match options.value? '=', modes ++ operands with
    | some name, names =>
        match ← Script.ask (.status (Bytes.toText name) true) with
        | .ok st => go (fun _ _ => st.node.mode) (fun _ _ => st.node.mode) names
        | .error e =>
            failed s "failed to get attributes of" name e
            return 1
    | none, [] => missingOperand s
    | none, [text] =>
        Script.complain s ("missing operand after ".toList ++ Script.quoted text ++ seeHelp s)
        return 1
    | none, text :: names =>
        let mask ← Script.ask (.mask none)
        if (Mode.changed false mask 0 text).isNone then
          Script.complain s ("invalid mode: ".toList ++ Script.quoted text ++ seeHelp s)
          return 1
        else
          let change (mask : Nat) (isDirectory : Bool) (mode : Nat) : Nat :=
            (Mode.changed isDirectory mask mode text).getD mode
          go (change mask) (change (if modes.isEmpty then mask else 0)) names

/-! ## Others -/

def touchGrammar : Grammar where
  flags := "acfhm"
  valued := "drt"
  names := [("no-create", 'c'), ("date", 'd'), ("no-dereference", 'h'), ("reference", 'r'),
    ("time", 't')]

def touch : Program := fun s => withOptions s touchGrammar 1 fun options names => do
  if names.isEmpty then
    Script.complain s ("missing file operand".toList ++ seeHelp s)
    return 1
  else
    forAll names fun name => do
      match ← status? name true with
      | some _ => return true
      | none =>
          if options.has 'c' then return true
          else
            match ← Script.ask (.openAt (Bytes.toText name) .append 0o666) with
            | .ok descriptor =>
                let _ ← Script.ask (.close descriptor)
                return true
            | .error e => report s "cannot touch" name (.error e)

def pathOf (st : Status) : Bytes :=
  if st.location.isEmpty then ['/']
  else (st.location.map fun name => '/' :: Bytes.ofString name).flatten

/-- Which files of a path have to be there. -/
inductive Presence where
  | all
  | allButLast
  | any

/-- The path without links and steps back, if what has to be there is there. -/
def canonical (presence : Presence) (name : Bytes) : Script (Except HostError Bytes) := do
  match ← Script.ask (.status (Bytes.toText name) true) with
  | .ok st => return .ok (pathOf st)
  | .error e =>
      match presence with
      | .all => return .error e
      | .allButLast =>
          match e, ← status? (parent name) true with
          | .notFound, some st =>
              return .ok (within (pathOf st) (lastName name))
          | e, _ => return .error e
      | .any =>
          match ← Script.ask .directory with
          | .ok here =>
              let full := if name.head? == some '/' then name else within (Bytes.ofString here) name
              let names := ((Bytes.splitOn '/' full).filter fun n => !n.isEmpty && n != ['.']).foldl
                (fun (kept : List Bytes) n => if n = ['.', '.'] then kept.drop 1 else n :: kept) []
              return .ok ('/' :: Bytes.joinWith ['/'] names.reverse)
          | .error e => return .error e

/-- Which files have to be there for a program, as options say. -/
def presenceOf (options : Options) : Presence :=
  if options.has 'm' then .any else if options.has 'e' then .all else .allButLast

def realpathGrammar : Grammar where
  flags := "eLmPqsz"
  names := [("canonicalize-existing", 'e'), ("canonicalize-missing", 'm'), ("logical", 'L'),
    ("physical", 'P'), ("quiet", 'q'), ("strip", 's'), ("no-symlinks", 's'), ("zero", 'z')]

def realpath : Program := fun s => withOptions s realpathGrammar 1 fun options names => do
  if names.isEmpty then missingOperand s
  else
    forAll names fun name => do
      match ← canonical (presenceOf options) name with
      | .ok path =>
          printItem options path
          return true
      | .error e =>
          if options.has 'q' then pure () else Script.complainOf s "" name e
          return false

def readlinkGrammar : Grammar where
  flags := "efmnqsvz"
  names := [("canonicalize", 'f'), ("canonicalize-existing", 'e'), ("canonicalize-missing", 'm'),
    ("no-newline", 'n'), ("quiet", 'q'), ("silent", 's'), ("verbose", 'v'), ("zero", 'z')]

def readlink : Program := fun s => withOptions s readlinkGrammar 1 fun options names => do
  let isCanonical := ['f', 'e', 'm'].any options.has
  if names.isEmpty then missingOperand s
  else
    forAll names fun name => do
      let target ←
        if isCanonical then canonical (presenceOf options) name
        else do
          match ← Script.ask (.readLink (Bytes.toText name)) with
          | .ok target => pure (.ok (Bytes.ofString target))
          | .error e => pure (.error e)
      match target with
      | .ok target =>
          if options.has 'n' && names.length = 1 then Script.print target
          else printItem options target
          return true
      | .error e =>
          if options.has 'v' then Script.complainOf s "" name e else pure ()
          return false

def mktempGrammar : Grammar where
  flags := "dqtu"
  valued := "p="
  names := [("directory", 'd'), ("quiet", 'q'), ("dry-run", 'u'), ("suffix", '='), ("tmpdir", 'p')]

/-- Makes a file or a directory with a name that is not in use. -/
def mktemp : Program := fun s => withOptions s mktempGrammar 1 fun options names => do
  let template := names.headD "tmp.XXXXXXXXXX".toList
  let directory : Option Bytes :=
    if names.isEmpty || options.has 't' || options.has 'p' then
      some ((options.value? 'p').getD "/tmp".toList)
    else none
  let template :=
    match directory with
    | some directory => within directory template
    | none => template
  let identity ← Script.ask .identity
  let number := Bytes.ofNat identity.process
  let tail := (template.reverse.takeWhile (· != 'X')).reverse
  let marked := template.take (template.length - tail.length)
  let marks := (marked.reverse.takeWhile (· == 'X')).length
  let digits := (List.replicate (marks - number.length) 'a' ++ number).take marks
  let path := marked.take (marked.length - marks) ++ digits ++ tail ++
    (options.value? '=').getD []
  let isDirectory := options.has 'd'
  let make : Script (Except HostError Unit) := do
    if options.has 'u' then return .ok ()
    else if isDirectory then Script.ask (.makeDirectory (Bytes.toText path) 0o700)
    else
      match ← Script.ask (.openAt (Bytes.toText path) .create 0o600) with
      | .ok descriptor => Script.ask (.close descriptor)
      | .error e => return .error e
  let what := if isDirectory then "failed to create directory via template"
    else "failed to create file via template"
  if 1 < names.length then
    Script.complain s ("too many templates".toList ++ seeHelp s)
    return 1
  else if marks < 3 then
    Script.complain s ("too few X's in template ".toList ++ Script.quoted (names.headD []))
    return 1
  else
    match ← make with
    | .ok () =>
        Script.printLine path
        return 0
    | .error e =>
        if options.has 'q' then pure () else failed s what template e
        return 1

end Files

end Playground.Tool
